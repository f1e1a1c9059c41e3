import CodeGraph.Ignore.Rules

/-! # Ignore rules of the user

The settings of version control in the user's home directory name a file of rules that hold
everywhere. Its patterns are read as if it were in the working directory. -/

namespace CodeGraph.UserIgnore

/-- The text after a word, the case of letters left aside. -/
def afterWord? (word cs : List Char) : Option (List Char) :=
  if word.isPrefixOf (cs.map Char.toLower) then some (cs.drop word.length) else none

/-- White space in settings. -/
def isSpace (c : Char) : Bool := c == ' ' || (9 ≤ c.toNat && c.toNat ≤ 13)

/-- The file that a line of the settings names. -/
def fileOfLine? (line : String) : Option String := do
  let cs ← afterWord? "excludesfile".toList (line.toList.dropWhile isSpace)
  let cs ← match cs.dropWhile isSpace with
    | '=' :: rest => some (rest.dropWhile isSpace)
    | _ => none
  let cs := match cs with
    | '"' :: rest => rest.dropWhile isSpace
    | _ => cs
  let cs := Text.dropEnd isSpace cs
  let cs := match cs.reverse with
    | '"' :: rest@(_ :: _) => Text.dropEnd isSpace rest.reverse
    | _ => cs
  if cs.isEmpty || cs.any isSpace then none else some (String.ofList cs)

/-- The file that settings name. -/
def fileOfSettings? (settings : String) : Option String :=
  (Text.splitAll '\n' settings).findSome? fileOfLine?

/-- The file that the settings at a path name; a tilde stands for the home directory. -/
def namedBy? (t : FileTree) (home path : String) : Option String := do
  let bytes ← (t.read path).toOption
  let name ← fileOfSettings? (← String.fromUTF8? bytes)
  return home.intercalate (Text.splitAll '~' name)

/-- The file of the user's rules. -/
def path (t : FileTree) (home : String) : String :=
  (namedBy? t home (home ++ "/.gitconfig")).getD
    ((namedBy? t home (home ++ "/.config/git/config")).getD (home ++ "/.config/git/ignore"))

/-- The user's rules, given the home directory. -/
def load (t : FileTree) (home : Option String) : Option IgnoreFile := do
  let bytes ← (t.read (path t (← home))).toOption
  return IgnoreFile.ofBytes t.workDir bytes

end CodeGraph.UserIgnore
