import AuditTrail.Request.Basic

/-
  Log lines of the host as they are emitted, and the log records made from them: the message with
  the fields after it. Lines of this library itself make no record, so that what it reports never
  comes back to it.
-/
namespace AuditTrail

/-- Whether a text begins with another one. -/
def startsWith (start text : String) : Bool := start.toList.isPrefixOf text.toList

/-- Whether a module is part of this library. -/
def isOwnModule (path : String) : Bool :=
  path == "autolog" || startsWith "autolog::" path || startsWith "autolog." path

/-- A log line as it is emitted, with the texts of its fields. -/
structure Emission where
  target : String
  severity : Severity
  message : Option String := none
  fields : List (String × String) := []
  file : Option String := none
  line : Option Nat := none
  deriving DecidableEq, Repr

namespace Emission

/-- The fields, as `name=text` with blanks between. -/
def fieldText (e : Emission) : String :=
  " ".intercalate (e.fields.map fun (name, text) => name ++ "=" ++ text)

/-- The message followed by the fields. -/
def text (e : Emission) : String :=
  let message := e.message.getD ""
  if e.fields.isEmpty then message
  else if message.isEmpty then e.fieldText
  else message ++ " " ++ e.fieldText

/-- The record of a line of the host. -/
def record? (e : Emission) : Option LogRecord :=
  if isOwnModule e.target then none
  else some {
    level := .ofSeverity e.severity
    message := e.text
    file := e.file
    line := e.line
    moduleName := some e.target }

end Emission

end AuditTrail
