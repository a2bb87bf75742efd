/-
  Severity levels from 0 to 50, with a name for every ten, and the five coarser levels of log
  output.
-/
namespace AuditTrail

/-- The severity of a line of log output. -/
inductive Severity where
  | trace
  | debug
  | info
  | warn
  | error
  deriving DecidableEq, Repr

namespace Severity

/-- The name in capitals. -/
def name : Severity → String
  | .trace => "TRACE"
  | .debug => "DEBUG"
  | .info => "INFO"
  | .warn => "WARN"
  | .error => "ERROR"

/-- The name in small letters, as it stands in filters. -/
def directive : Severity → String
  | .trace => "trace"
  | .debug => "debug"
  | .info => "info"
  | .warn => "warn"
  | .error => "error"

def all : List Severity := [.trace, .debug, .info, .warn, .error]

/-- The severity with a name in capitals. -/
def ofName? (name : String) : Option Severity := all.find? (·.name == name)

/-- How severe: five for errors down to one for traces. -/
def rank : Severity → Nat
  | .trace => 1
  | .debug => 2
  | .info => 3
  | .warn => 4
  | .error => 5

end Severity

/-- A severity level from 0 to 50. -/
structure Level where
  value : Fin 51
  deriving DecidableEq, Repr

/-- Why something is no level. -/
inductive LevelError where
  | outside (n : Int)
  | unknownName (name : String)
  deriving DecidableEq, Repr

/-- The text shown for an error. -/
def LevelError.message : LevelError → String
  | .outside n => "loglevel " ++ toString n ++ " is outside 0..=50"
  | .unknownName name => "unknown loglevel '" ++ name ++ "'"

namespace Level

def notset : Level := ⟨0⟩
def debug : Level := ⟨10⟩
def info : Level := ⟨20⟩
def warning : Level := ⟨30⟩
def error : Level := ⟨40⟩
def critical : Level := ⟨50⟩

/-- The level of a number, if it is one. -/
def ofNat? (n : Nat) : Option Level :=
  if h : n < 51 then some ⟨⟨n, h⟩⟩ else none

/-- The level of an integer, if it is one. -/
def ofInt? (n : Int) : Option Level :=
  if n < 0 then none else ofNat? n.toNat

/-- The level with a name, which is compared without regard to ASCII case. -/
def ofName? (name : String) : Option Level :=
  match name.map Char.toLower with
  | "notset" => some notset
  | "debug" => some debug
  | "info" => some info
  | "warning" => some warning
  | "warn" => some warning
  | "error" => some error
  | "critical" => some critical
  | "fatal" => some critical
  | _ => none

/-- The name of the ten that a level lies in. -/
def name (l : Level) : String :=
  if l.value < 10 then "notset"
  else if l.value < 20 then "debug"
  else if l.value < 30 then "info"
  else if l.value < 40 then "warning"
  else if l.value < 50 then "error"
  else "critical"

/-- The severity of log lines of a level. -/
def severity (l : Level) : Severity :=
  if l.value < 10 then .trace
  else if l.value < 20 then .debug
  else if l.value < 30 then .info
  else if l.value < 40 then .warn
  else .error

/-- The level that log lines of a severity are taken for. -/
def ofSeverity : Severity → Level
  | .trace => notset
  | .debug => debug
  | .info => info
  | .warn => warning
  | .error => error

end Level

end AuditTrail
