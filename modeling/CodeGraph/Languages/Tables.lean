import CodeGraph.Language
import CodeGraph.Languages.JavaScript.Grammar
import CodeGraph.Languages.JavaScript.Scanner
import CodeGraph.Languages.Python.Grammar
import CodeGraph.Languages.Python.Scanner
import CodeGraph.Languages.TypeScript.Grammar
import CodeGraph.Parsing.Finish

/-! # Parsing by dialect

The parse tables of each dialect, computed once when they are first needed, and with them the syntax
tree of a text. -/

namespace CodeGraph.Dialect

open CodeGraph.Parsing

/-- The grammar of a dialect. -/
def grammar : Dialect → CodeGraph.Grammar
  | javaScript => Languages.JavaScript.grammar
  | typeScript => Languages.TypeScript.grammar .plain
  | tsx => Languages.TypeScript.grammar .markup
  | python => Languages.Python.grammar

/-- The scanner of a dialect. -/
def scanner : Dialect → Scanner
  | javaScript => Languages.JavaScript.scan .javascript
  | typeScript | tsx => Languages.JavaScript.scan .typescript
  | python => Languages.Python.scan

/-- The parse tables of a dialect, to be computed. -/
def tablesThunk (d : Dialect) : Thunk Tables := .mk fun _ => Tables.ofGrammar d.grammar d.scanner

/-- The parse tables of JavaScript. -/
def javaScriptTables : Thunk Tables := tablesThunk .javaScript

/-- The parse tables of TypeScript. -/
def typeScriptTables : Thunk Tables := tablesThunk .typeScript

/-- The parse tables of TypeScript with markup. -/
def tsxTables : Thunk Tables := tablesThunk .tsx

/-- The parse tables of Python. -/
def pythonTables : Thunk Tables := tablesThunk .python

/-- The parse tables of a dialect. -/
def tables : Dialect → Tables
  | javaScript => javaScriptTables.get
  | typeScript => typeScriptTables.get
  | tsx => tsxTables.get
  | python => pythonTables.get

/-- The syntax tree of a text in a dialect. -/
def parse (d : Dialect) (text : String) : Tree := Parsing.parse d.tables text

end CodeGraph.Dialect
