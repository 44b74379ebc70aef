import AlertBridge.Log.Line

/-!
# The root of the log

The root has handlers and a threshold. `LogRoot.configure` installs the one handler that writes
lines, in place of any earlier one, and leaves other handlers in their order. A record at or above
the threshold becomes one line on each handler that writes lines.

Main statements: after `configure`, exactly one handler writes lines, and the others are those
from before.
-/

namespace AlertBridge

/-- A receiver of records: one that writes lines without its secrets, or another one. -/
inductive LogHandler where
  | lines (secrets : List String)
  | other (name : String)
  deriving DecidableEq

/-- The handler writes lines. -/
def LogHandler.writesLines : LogHandler → Bool
  | lines _ => true
  | other _ => false

/-- The line of some fields, if the handler writes lines. It leaves out one that cannot be
written. -/
def LogHandler.line? (fields : List (String × LogValue)) : LogHandler → Option String
  | lines secrets => (logLine? secrets fields).toOption
  | other _ => none

/-- How a threshold is set: by the name of a level, or by its place. -/
inductive LevelSetting where
  | name (text : String)
  | severity (n : Int)

instance : Coe String LevelSetting := ⟨.name⟩

/-- The level that is set, unless the name is that of none. -/
def LevelSetting.level : LevelSetting → Except Fault Level
  | name text => match Level.ofName? text with
    | some level => .ok level
    | none => .error (.unknownLevel text)
  | severity n => .ok ⟨n⟩

/-- The handlers of the log, and the level from which on records are written. -/
structure LogRoot where
  handlers : List LogHandler
  threshold : Level
  deriving DecidableEq

namespace LogRoot

/-- The log before anything is installed. -/
def initial : LogRoot := ⟨[], .warning⟩

/-- The log with a handler that writes lines in place of those from before. -/
def install (root : LogRoot) (secrets : List String) (threshold : Level) : LogRoot :=
  ⟨root.handlers.filter (!·.writesLines) ++ [.lines secrets], threshold⟩

/-- The log with secrets to mask and a threshold. -/
def configure (root : LogRoot) (secrets : List String) (level : LevelSetting) :
    Except Fault LogRoot :=
  level.level.map (root.install secrets)

/-- The number of handlers that write lines. -/
def lineHandlers (root : LogRoot) : Nat := root.handlers.countP LogHandler.writesLines

/-- Installing leaves exactly one handler that writes lines. -/
@[simp] theorem lineHandlers_install (root : LogRoot) (secrets : List String)
    (threshold : Level) : (root.install secrets threshold).lineHandlers = 1 := by
  simp [lineHandlers, install, LogHandler.writesLines, List.countP_append, List.countP_filter]

/-- Installing keeps the other handlers in their order. -/
theorem filter_install (root : LogRoot) (secrets : List String) (threshold : Level) :
    (root.install secrets threshold).handlers.filter (!·.writesLines)
      = root.handlers.filter (!·.writesLines) := by
  simp [install, LogHandler.writesLines]

/-- The lines of an event of a level. -/
def lines (root : LogRoot) (level : Level) (fields : List (String × LogValue)) : List String :=
  if level.passes root.threshold then root.handlers.filterMap (·.line? fields) else []

end LogRoot

/-! ## Calls -/

/-- A call to the log. -/
inductive LogCall where
  /-- A message, maybe with the text of an exception and of the stack of calls. -/
  | standard (logger : String) (level : Level) (message : LogValue) (arguments : List LogValue)
      (exception stack : Option String := none)
  /-- An event with fields of its own, maybe with the text of an exception. -/
  | structured (logger : String) (level : Level) (event : LogValue) (arguments : List LogValue)
      (own : List (String × LogValue)) (exception : Option String := none)

namespace LogCall

/-- The level of a call and the fields of its line, unless its arguments do not fit. -/
def entry : LogCall → Except Fault (Level × List (String × LogValue))
  | standard logger level message arguments exception stack => do
    let text ← LogMessage.filled (← message.text) arguments
    let record : LogRecord := ⟨level, logger, text, exception⟩
    return (level, (record.fields stack).map fun (name, v) => (name, .value v))
  | structured logger level event arguments own exception =>
    if own.any fun (name, _) => parameterNames.contains name then .error .wrongArguments
    else if !level.hasMethod then .error (.missing (toString level.severity))
    else (filledEvent event arguments).map fun happened =>
      (level, withException (eventFields level logger happened own) exception)

/-- Arguments that do not fit are a fault of the call. Otherwise it is only that nothing is
written. -/
def raises : LogCall → Bool
  | standard .. => false
  | structured .. => true

end LogCall

/-! ## Steps -/

/-- Something done to the log. -/
inductive LogStep where
  /-- Secrets and a threshold are set. -/
  | configure (secrets : List String) (level : LevelSetting)
  | call (call : LogCall)

namespace LogStep

/-- A message with values of documents as its arguments. -/
@[reducible] def message (logger : String) (level : Level) (message : String)
    (arguments : List Json) (exception : Option String := none) : LogStep :=
  .call (.standard logger level (.value (.str message)) (arguments.map .value) exception)

/-- An event with values of documents as its arguments and fields. -/
@[reducible] def event (logger : String) (level : Level) (event : String) (arguments : List Json)
    (own : List (String × Json)) (exception : Option String := none) : LogStep :=
  .call (.structured logger level (.value (.str event)) (arguments.map .value)
    (own.map fun (name, v) => (name, .value v)) exception)

end LogStep

/-- The log after a step, and the lines that the step wrote. -/
def LogRoot.step (root : LogRoot) : LogStep → Except Fault (LogRoot × List String)
  | .configure secrets level => (root.configure secrets level).map fun next => (next, [])
  | .call call => match call.entry with
    | .ok (level, fields) => .ok (root, root.lines level fields)
    | .error fault => if call.raises then .error fault else .ok (root, [])

/-- The log after each step, with the lines that the step wrote. -/
def LogRoot.run (root : LogRoot) : List LogStep → Except Fault (List (LogRoot × List String))
  | [] => .ok []
  | step :: rest => do
    let (next, lines) ← root.step step
    return (next, lines) :: (← next.run rest)

end AlertBridge
