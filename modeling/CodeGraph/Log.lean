/-! # Log records

What a computation reports while it runs. A logged computation has a value and the records it
leaves, in order; the records never change the value, so that what holds of values can be read off
with the records left aside. -/

namespace CodeGraph

/-- How much a record matters. -/
inductive LogLevel where
  | debug
  | info
  | warn
  deriving BEq, DecidableEq, Repr, Inhabited

/-- The name of a level. -/
def LogLevel.name : LogLevel → String
  | debug => "DEBUG"
  | info => "INFO"
  | warn => "WARN"

/-- The part of the program that leaves a record. -/
inductive LogSource where
  /-- What works on sources and graphs. -/
  | library
  /-- What follows the command line. -/
  | command
  deriving BEq, DecidableEq, Repr, Inhabited

/-- One line of a log. -/
structure LogRecord where
  level : LogLevel
  message : String
  source : LogSource := .library
  deriving BEq, DecidableEq, Repr, Inhabited

/-- A value with the records left on the way to it. -/
structure Logged (α : Type) where
  value : α
  records : List LogRecord := []
  deriving Repr, Inhabited

namespace Logged

instance : Monad Logged where
  pure a := ⟨a, []⟩
  bind x f := let y := f x.value; ⟨y.value, x.records ++ y.records⟩

/-- Leaves one record. -/
def log (level : LogLevel) (message : String) (source : LogSource := .library) : Logged Unit :=
  ⟨(), [⟨level, message, source⟩]⟩

/-- Leaves a record that matters only when looking for a fault. -/
def debug (message : String) : Logged Unit := log .debug message

/-- Leaves a record of progress. -/
def info (message : String) : Logged Unit := log .info message

/-- Leaves a record of something that went wrong. -/
def warn (message : String) : Logged Unit := log .warn message

@[simp] theorem value_pure {α : Type} (a : α) : (pure a : Logged α).value = a := rfl

/-- The value of a sequence is that of its last step: the log has no part in it. -/
@[simp] theorem value_bind {α β : Type} (x : Logged α) (f : α → Logged β) :
    (x >>= f).value = (f x.value).value := rfl

@[simp] theorem value_map {α β : Type} (f : α → β) (x : Logged α) :
    (f <$> x).value = f x.value := rfl

end Logged

end CodeGraph
