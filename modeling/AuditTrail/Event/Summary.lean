import AuditTrail.Event.Encode

/-
  A summary of an event for display. Of what it refers to only the names are shown; identifiers and
  times that the surroundings gave are left out, because they differ from run to run.
-/
namespace AuditTrail

def EntityEntry.summary (e : EntityEntry) : Json := .record [
  ("type", .string e.mirror.name),
  ("application", .text? e.mirror.application.name),
  ("pk", .string e.primaryKey),
  ("value", .string e.value)]

def ValueModification.summary (m : ValueModification) : Json := .record [
  ("operation", m.operation.toJson),
  ("field", .string m.field.name),
  ("label", .string m.field.typeLabel),
  ("previous", .text? m.previous),
  ("current", .text? m.current),
  ("short", .string m.short)]

def RelationshipModification.summary (m : RelationshipModification) : Json := .record [
  ("operation", m.operation.toJson),
  ("field", .string m.field.name),
  ("label", .string m.field.typeLabel),
  ("entry", m.entry.summary),
  ("short", .string m.short)]

namespace EventRecord

/-- The members of a summary that depend on the category. -/
def summaryMembers : EventRecord → List (String × Json)
  | .model e => [
    ("operation", e.operation.toJson),
    ("actor", .text? e.actor),
    ("entry", e.entry.summary),
    ("snapshot", .text? (e.snapshot.map Json.render)),
    ("timed", .bool e.duration.isSome),
    ("modifications", .array (e.modifications.map (·.summary))),
    ("relationships", .array (e.relationships.map (·.summary))),
    ("empty", .bool e.isEmptyModification)]
  | .request e => [
    ("actor", .text? e.actor),
    ("uri", .string e.uri),
    ("status", .nat e.status),
    ("method", .string e.method),
    ("application", .text? e.application.name),
    ("client_ip", .text? e.clientIp),
    ("request", .option BodyCapture.toJson e.request),
    ("response", .option BodyCapture.toJson e.response)]
  | .unspecified e => [
    ("message", .string e.message),
    ("level", .level e.level),
    ("line", .option Json.nat e.line),
    ("file", .text? e.file),
    ("application", .text? e.application.name)]

/-- The summary of an event. -/
def summary (w : Surroundings) (e : EventRecord) : Json :=
  let hidden := w.gave e.id
  .record ([
    ("category", Json.string e.category.name),
    ("id", if hidden then .null else e.id.toJson),
    ("created_at", if hidden then .null else e.createdAt.toJson)] ++ e.summaryMembers)

end EventRecord

end AuditTrail
