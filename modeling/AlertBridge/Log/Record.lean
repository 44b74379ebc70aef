/-!
# Log records

What is written to the log: how severe it is, by which part of the program, what happened, and
the exception behind it, if any. `Logged` is a value together with the records written on the way
to it; records of a sequence stand in the order of its steps.
-/

namespace AlertBridge

/-- How severe a record is: a place on a scale on which some have names. -/
structure Level where
  severity : Int
  deriving DecidableEq, Inhabited

namespace Level

def unset : Level := ⟨0⟩

def debug : Level := ⟨10⟩

def info : Level := ⟨20⟩

def warning : Level := ⟨30⟩

def error : Level := ⟨40⟩

def critical : Level := ⟨50⟩

/-- The levels that have a name, with the name in settings and the word in records. -/
def named : List (Level × String × String) := [
  (unset, "NOTSET", "notset"), (debug, "DEBUG", "debug"), (info, "INFO", "info"),
  (warning, "WARNING", "warning"), (error, "ERROR", "error"), (critical, "CRITICAL", "critical")]

/-- The name of a level in settings. -/
def name (level : Level) : String :=
  match named.lookup level with
  | some (name, _) => name
  | none => "Level " ++ toString level.severity

/-- The word for a level in records. -/
def word (level : Level) : String :=
  match named.lookup level with
  | some (_, word) => word
  | none => "level " ++ toString level.severity

/-- The level of a name in settings; two levels have a second name. -/
def ofName? (text : String) : Option Level :=
  [("NOTSET", unset), ("DEBUG", debug), ("INFO", info), ("WARNING", warning), ("WARN", warning),
    ("ERROR", error), ("CRITICAL", critical), ("FATAL", critical)].lookup text

/-- The level of a word in records. -/
def ofWord? (text : String) : Option Level :=
  [("debug", debug), ("info", info), ("warning", warning), ("warn", warning), ("error", error),
    ("exception", error), ("critical", critical), ("fatal", critical)].lookup text

/-- Events are logged by methods, one for each level that has a name and is above zero. -/
def hasMethod (level : Level) : Bool :=
  [debug, info, warning, error, critical].contains level

/-- Records of a level are written where another one is the threshold; those whose place is not
above zero never are. -/
def passes (level threshold : Level) : Bool :=
  threshold.severity ≤ level.severity && 0 < level.severity

end Level

/-- One entry of the log. -/
structure LogRecord where
  level : Level
  logger : String
  event : String
  /-- The class of the exception behind the entry, with its text. -/
  exception : Option String
  deriving DecidableEq, Inhabited

/-- A value, and the records written on the way to it. -/
structure Logged (α : Type) where
  value : α
  log : List LogRecord

namespace Logged

variable {α β : Type}

/-- A value without records. -/
def silent (value : α) : Logged α := ⟨value, []⟩

/-- One step after another. -/
def andThen (first : Logged α) (next : α → Logged β) : Logged β :=
  let second := next first.value
  ⟨second.value, first.log ++ second.log⟩

instance : Monad Logged where
  pure := silent
  bind := andThen

@[simp] theorem value_pure (a : α) : (pure a : Logged α).value = a := rfl

@[simp] theorem log_pure (a : α) : (pure a : Logged α).log = [] := rfl

@[simp] theorem value_bind (x : Logged α) (f : α → Logged β) :
    (x >>= f).value = (f x.value).value := rfl

@[simp] theorem log_bind (x : Logged α) (f : α → Logged β) :
    (x >>= f).log = x.log ++ (f x.value).log := rfl

/-- The record by itself. -/
def write (record : LogRecord) : Logged Unit := ⟨(), [record]⟩

end Logged

end AlertBridge
