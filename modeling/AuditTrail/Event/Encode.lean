import AuditTrail.Event.Basic
import AuditTrail.Config.Encode

/-
  Events as structured values. The category stands among an event's members.
-/
namespace AuditTrail

/-- An optional thing as a value, null if there is none. -/
def Json.option {α : Type} (f : α → Json) : Option α → Json
  | none => .null
  | some a => f a

def Uuid.toJson (u : Uuid) : Json := .string u.toText

def Timestamp.toJson (t : Timestamp) : Json := .string t.toText

def Operation.toJson (o : Operation) : Json := .string o.name

/-- A measured duration, in seconds and nanoseconds. -/
def Duration.toJson (d : Duration) : Json := .record [
  ("secs", .nat d.secs.toNat),
  ("nanos", .nat d.nanos.val)]

def Application.toJson (a : Application) : Json := .record [
  ("id", a.id.toJson),
  ("name", .text? a.name)]

def EntityMirror.toJson (m : EntityMirror) : Json := .record [
  ("id", m.id.toJson),
  ("name", .string m.name),
  ("application", m.application.toJson)]

def FieldMirror.toJson (f : FieldMirror) : Json := .record [
  ("id", f.id.toJson),
  ("name", .string f.name),
  ("mirror", f.mirror.toJson),
  ("type_label", .string f.typeLabel)]

def EntityEntry.toJson (e : EntityEntry) : Json := .record [
  ("id", e.id.toJson),
  ("mirror", e.mirror.toJson),
  ("primary_key", .string e.primaryKey),
  ("value", .string e.value)]

def ValueModification.toJson (m : ValueModification) : Json := .record [
  ("operation", m.operation.toJson),
  ("field", m.field.toJson),
  ("previous", .text? m.previous),
  ("current", .text? m.current)]

def RelationshipModification.toJson (m : RelationshipModification) : Json := .record [
  ("operation", m.operation.toJson),
  ("field", m.field.toJson),
  ("entry", m.entry.toJson)]

def BodyCapture.toJson (b : BodyCapture) : Json := .record [
  ("content", .string b.content),
  ("content_type", .string b.contentType)]

namespace EventRecord

/-- The members that every event has. -/
def commonMembers (e : EventRecord) : List (String × Json) := [
  ("category", .string e.category.name),
  ("id", e.id.toJson),
  ("created_at", e.createdAt.toJson)]

/-- The members of an event's own kind. -/
def ownMembers : EventRecord → List (String × Json)
  | .model e => [
    ("operation", e.operation.toJson),
    ("actor", .text? e.actor),
    ("entry", e.entry.toJson),
    ("snapshot", e.snapshot.getD .null),
    ("duration", .option Duration.toJson e.duration),
    ("modifications", .array (e.modifications.map (·.toJson))),
    ("relationships", .array (e.relationships.map (·.toJson)))]
  | .request e => [
    ("actor", .text? e.actor),
    ("uri", .string e.uri),
    ("status", .nat e.status),
    ("method", .string e.method),
    ("application", e.application.toJson),
    ("client_ip", .text? e.clientIp),
    ("request", .option BodyCapture.toJson e.request),
    ("response", .option BodyCapture.toJson e.response)]
  | .unspecified e => [
    ("message", .string e.message),
    ("level", .level e.level),
    ("line", .option Json.nat e.line),
    ("file", .text? e.file),
    ("application", e.application.toJson)]

/-- The event as a value. -/
def toJson (e : EventRecord) : Json := .record (e.commonMembers ++ e.ownMembers)

end EventRecord

end AuditTrail
