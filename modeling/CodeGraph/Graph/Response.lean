import CodeGraph.Graph.Counts
import CodeGraph.Json.Reader

/-! # Answers of a database

The answer to a request: one result for each statement, each with its rows, or the errors that kept
the statements from being carried out. -/

namespace CodeGraph

/-- An error that a database reports. -/
structure DatabaseError where
  code : String
  problem : String
  deriving BEq, DecidableEq, Repr, Inhabited

/-- The rows of a result, each with its cells. -/
structure StatementResult where
  rows : List (List Json)
  deriving Repr, Inhabited

/-- The answer of a database. -/
structure DatabaseResponse where
  results : List StatementResult := []
  errors : List DatabaseError := []
  deriving Repr, Inhabited

namespace DatabaseResponse

/-- The items of a field that may be left out but not be repeated, each of them decoded. -/
def items? {α : Type} (j : Json) (name : String) (decode : Json → Option α) : Option (List α) :=
  match j with
  | .object fields => match fields.filter (·.1 == name) with
    | [] => some []
    | [(_, .array items)] => items.mapM decode
    | _ => none
  | _ => none

/-- The value of a field that must be there once. -/
def once? (j : Json) (name : String) : Option Json :=
  match j with
  | .object fields => match fields.filter (·.1 == name) with
    | [(_, v)] => some v
    | _ => none
  | _ => none

/-- A record whose fields may be left out, as an object: given as one, or by the list of its first
fields in order. -/
def leadingFields? (names : List String) : Json → Option Json
  | .object fields => some (.object fields)
  | .array items =>
    if items.length ≤ names.length then some (.object (names.zip items)) else none
  | _ => none

/-- A row. -/
def row? (j : Json) : Option (List Json) := do
  let j ← j.asRecord? ["row"]
  (← once? j "row").asArray?

/-- A result. -/
def result? (j : Json) : Option StatementResult := do
  let j ← leadingFields? ["data"] j
  return ⟨← items? j "data" row?⟩

/-- An error. -/
def error? (j : Json) : Option DatabaseError := do
  let j ← j.asRecord? ["code", "message"]
  return ⟨← (← once? j "code").asString?, ← (← once? j "message").asString?⟩

/-- The answer that a text gives. -/
def parse? (text : String) : Option DatabaseResponse := do
  let j ← leadingFields? ["results", "errors"] (← Json.parse? text)
  return ⟨← items? j "results" result?, ← items? j "errors" error?⟩

/-- The number in the first cell of the first row of a result, or zero if there is none. -/
def firstNumber (r : StatementResult) : Nat :=
  match r.rows with
  | (cell :: _) :: _ => cell.asNat?.getD 0
  | _ => 0

/-- The totals that the results give, in the order of the statements that ask for them. -/
def totals (results : List StatementResult) : GraphCounts :=
  let values := results.map firstNumber
  let c := (NodeLabel.all.zip values).foldl (fun c (label, n) => c.setNodes label n)
    ({} : GraphCounts)
  (Relation.all.zip (values.drop NodeLabel.all.length)).foldl
    (fun c (relation, n) => c.setLinks relation n) c

end DatabaseResponse

end CodeGraph
