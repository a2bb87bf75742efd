import AuditTrail.Request.Basic
import AuditTrail.Event.Decode
import AuditTrail.Event.Encode

/-
  Requests and log records as structured values. The content of a body is a list of its bytes.
-/
namespace AuditTrail

def Body.toJson (b : Body) : Json := .record [
  ("content", .array (b.content.toList.map fun x => .nat x.toNat)),
  ("content_type", .string b.contentType)]

def RequestInfo.toJson (r : RequestInfo) : Json := .record [
  ("method", .string r.method),
  ("uri", .string r.uri),
  ("status", .nat r.status),
  ("handler", .text? r.handler),
  ("client_ip", .text? r.clientIp),
  ("request_body", .option Body.toJson r.requestBody),
  ("response_body", .option Body.toJson r.responseBody)]

namespace Decoder

/-- The bytes of a body. -/
def bytes : Decoder ByteArray := fun w v =>
  (list (below 256) w v).map fun ns => ⟨(ns.map Nat.toUInt8).toArray⟩

def body : Decoder Body :=
  record [
    required "content" bytes fun v b => { b with content := v },
    required "content_type" string fun v b => { b with contentType := v }] ⟨.empty, ""⟩

def requestInfo : Decoder RequestInfo :=
  record [
    required "method" string fun v r => { r with method := v },
    required "uri" string fun v r => { r with uri := v },
    required "status" (below 0x10000) fun v r => { r with status := v },
    nullable "handler" string fun v r => { r with handler := v },
    nullable "client_ip" string fun v r => { r with clientIp := v },
    nullable "request_body" body fun v r => { r with requestBody := v },
    nullable "response_body" body fun v r => { r with responseBody := v }]
    { method := "", uri := "", status := 0 }

def logRecord : Decoder LogRecord :=
  record [
    required "level" level fun v r => { r with level := v },
    required "message" string fun v r => { r with message := v },
    nullable "file" string fun v r => { r with file := v },
    nullable "line" (below 0x100000000) fun v r => { r with line := v },
    nullable "module" string fun v r => { r with moduleName := v }]
    { level := .notset, message := "" }

end Decoder

end AuditTrail
