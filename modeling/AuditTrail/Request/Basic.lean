import AuditTrail.Event.Basic
import AuditTrail.Json.Reader

/-
  Finished requests and log records as the host hands them over, and the capture of bodies: a body
  is kept if its side of the exchange and its content type are wanted and it is a readable value; of
  a record at its top, ignored keys are left out and the values of masked keys replaced.
-/
namespace AuditTrail

/-- A body of an exchange. -/
structure Body where
  content : ByteArray
  contentType : String

namespace Body

/-- A body of text. -/
def ofText (text contentType : String) : Body := ⟨text.toUTF8, contentType⟩

/-- A body that holds a structured value. -/
def ofJson (v : Json) : Body := ofText v.render ContentType.json.name

end Body

/-- A finished request. -/
structure RequestInfo where
  method : String
  uri : String
  status : Nat
  handler : Option String := none
  clientIp : Option String := none
  requestBody : Option Body := none
  responseBody : Option Body := none

namespace RequestInfo

/-- The application of the handler: the first part of its dotted path, if that is not empty. -/
def application (r : RequestInfo) : Option String :=
  match r.handler with
  | none => none
  | some h =>
    let first := String.ofList (h.toList.takeWhile (· ≠ '.'))
    if first = "" then none else some first

/-- The address without its query. -/
def path (r : RequestInfo) : String := String.ofList (r.uri.toList.takeWhile (· ≠ '?'))

end RequestInfo

/-- A log record of the host. -/
structure LogRecord where
  level : Level
  message : String
  file : Option String := none
  line : Option Nat := none
  moduleName : Option String := none
  deriving DecidableEq, Repr

/-- What stands in place of a masked value. -/
def maskedValue : Json := .string "<REDACTED>"

/-- Replaces the value under a key that is there. -/
def maskMember (key : String) (ms : List (String × Json)) : List (String × Json) :=
  ms.map fun m => if m.1 = key then (m.1, maskedValue) else m

/-- Leaves out ignored keys and replaces masked values at the top of a value. -/
def CaptureConfig.clean (c : CaptureConfig) : Json → Json
  | .object ms =>
    let kept := c.ignore.foldl (fun ms key => Json.eraseMember key ms) ms
    .object (c.mask.foldl (fun ms key => maskMember key ms) kept)
  | v => v

/-- The capture of a body on one side of an exchange. -/
def CaptureConfig.capture (c : CaptureConfig) (d : Direction) : Option Body → Option BodyCapture
  | none => none
  | some body =>
    if c.captures d && c.accepts body.contentType then
      (Json.parseBytes body.content).map fun v => ⟨(c.clean v).render, body.contentType⟩
    else none

end AuditTrail
