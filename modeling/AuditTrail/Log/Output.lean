import AuditTrail.Config.Basic
import AuditTrail.Log.Filter
import AuditTrail.Text.Quoted

/-
  The log output of the process. It can be set up once. Its filter comes from the environment, or
  else from the configured level and the configured filter; a configured filter that cannot be read
  is reported and left out. Lines of the host are captured as records if that is configured and a
  receiver is offered.
-/
namespace AuditTrail

/-- The log output once it is set up. -/
structure LogOutput where
  config : LoggingConfig
  filter : LogFilter
  /-- Whether lines are handed to the receiver. -/
  capturing : Bool
  deriving DecidableEq, Repr

/-- Why the log output was not set up. -/
inductive LogOutputError where
  | alreadySetUp
  deriving DecidableEq, Repr

namespace LoggingConfig

/-- The text of the filter if the environment names none: quiet about the database unless something
else is configured. -/
def filterText (c : LoggingConfig) : String :=
  match c.filter with
  | none => c.level.directive ++ ",sqlx=warn"
  | some filter =>
    let text := c.level.directive ++ "," ++ filter
    if (LogFilter.parse text).isSome then text else c.level.directive

/-- What is reported about the configured filter. -/
def notices (c : LoggingConfig) (environment : Option String) : List String :=
  match environment, c.filter with
  | none, some filter =>
    if (LogFilter.parse (c.level.directive ++ "," ++ filter)).isSome then []
    else ["Ignoring invalid log filter " ++ Text.quote filter]
  | _, _ => []

/-- The filter of the log output. -/
def logFilter (c : LoggingConfig) (environment : Option String) : LogFilter :=
  match environment with
  | some text => (LogFilter.parse text).getD [⟨none, some c.level⟩]
  | none => (LogFilter.parse c.filterText).getD []

end LoggingConfig

namespace LogOutput

/-- Where the lines about the set-up itself come from. -/
def setUpTarget : String := "autolog::observability::tracing_init"

/-- Sets the log output up unless there is one. -/
def setUp (present : Option LogOutput) (c : LoggingConfig) (environment : Option String)
    (offered : Bool) : Except LogOutputError LogOutput :=
  match present with
  | some _ => .error .alreadySetUp
  | none => .ok ⟨c, c.logFilter environment, offered && c.captureEvents⟩

/-- The lines about the set-up: that it is done, and that a receiver was offered in vain. -/
def setUpLines (o : LogOutput) (offered : Bool) : List Emission :=
  { target := setUpTarget, severity := .debug, message := some "Tracing initialized" } ::
    if offered && !o.config.captureEvents then
      [{ target := setUpTarget, severity := .warn,
         message := some "Audit layer ignored: logging.capture_events is off" }]
    else []

/-- Whether a line is shown. -/
def shows (o : LogOutput) (e : Emission) : Bool := o.filter.shows e.target e.severity

/-- The record handed to the receiver for a line. -/
def captured? (o : LogOutput) (e : Emission) : Option LogRecord :=
  if o.capturing && o.shows e then e.record? else none

end LogOutput

end AuditTrail
