import CodeGraph.Toml.Reader

/-! # Settings files

What a settings file can say: where the sources are, and how the database is reached. Everything may
be left out, and nothing else may be said. -/

namespace CodeGraph

/-- What a settings file says of the sources. -/
structure SourceSettings where
  root : Option String := none
  extensions : Option (List String) := none
  /-- Whether ignore files count. -/
  ignoring : Option Bool := none
  tolerant : Option Bool := none
  deriving BEq, DecidableEq, Repr, Inhabited

/-- What a settings file says of the database. -/
structure StoreSettings where
  uri : Option String := none
  username : Option String := none
  password : Option String := none
  database : Option String := none
  maxRetries : Option Nat := none
  timeoutSeconds : Option Nat := none
  deriving BEq, DecidableEq, Repr, Inhabited

/-- What a settings file says. -/
structure FileSettings where
  source : SourceSettings := {}
  store : StoreSettings := {}
  deriving BEq, DecidableEq, Repr, Inhabited

/-- The settings of the sources that a value gives. -/
def SourceSettings.ofToml? (v : Toml) : Option SourceSettings := do
  let fields ← v.asRecord? ["root", "extensions", "respect_gitignore", "tolerate_syntax_errors"]
  return {
    root := ← Toml.optField? fields "root" Toml.asString?
    extensions := ← Toml.optField? fields "extensions" fun v =>
      v.asArray?.bind fun items => items.mapM Toml.asString?
    ignoring := ← Toml.optField? fields "respect_gitignore" Toml.asBool?
    tolerant := ← Toml.optField? fields "tolerate_syntax_errors" Toml.asBool? }

/-- The settings of the database that a value gives. -/
def StoreSettings.ofToml? (v : Toml) : Option StoreSettings := do
  let fields ← v.asRecord?
    ["uri", "username", "password", "database", "max_retries", "timeout_secs"]
  let text (name : String) := Toml.optField? fields name Toml.asString?
  return {
    uri := ← text "uri"
    username := ← text "username"
    password := ← text "password"
    database := ← text "database"
    maxRetries := ← Toml.optField? fields "max_retries" (Toml.asNatBelow? (Nat.pow 2 32))
    timeoutSeconds := ← Toml.optField? fields "timeout_secs" (Toml.asNatBelow? (Nat.pow 2 64)) }

namespace FileSettings

/-- The settings that a value gives. -/
def ofToml? (v : Toml) : Option FileSettings := do
  let fields ← v.asRecord? ["source", "store"]
  return {
    source := (← Toml.optField? fields "source" SourceSettings.ofToml?).getD {}
    store := (← Toml.optField? fields "store" StoreSettings.ofToml?).getD {} }

/-- The settings that a text gives, or `none` if it is not in order. -/
def parse? (text : String) : Option FileSettings := (Toml.parse? text).bind ofToml?

end FileSettings

end CodeGraph
