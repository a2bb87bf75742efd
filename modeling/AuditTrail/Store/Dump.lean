import AuditTrail.Event.Encode
import AuditTrail.Store.Tables

/-
  The tables as one value for display: the rows of every event with what belongs to it, and how many
  dependent rows there are. Identifiers and times that the surroundings gave are left out.
-/
namespace AuditTrail.Tables

/-- An identifier, unless the surroundings gave it. -/
def shownId (w : Surroundings) (id : Uuid) : Json := if w.gave id then .null else id.toJson

/-- The time of an event, unless the surroundings gave it. -/
def shownTime (w : Surroundings) (id : Uuid) (micros : Int) : Json :=
  if w.gave id then .null else .int micros

def fieldName (t : Tables) (id : Uuid) : Json :=
  .text? ((t.fields.find? (·.id == id)).map (·.name))

def entityName (t : Tables) (id : Uuid) : Json :=
  .text? ((t.entities.find? (·.id == id)).map (·.name))

def dumpEntry (t : Tables) (r : EntryRow) : Json := .array [
  t.entityName r.entity, .string r.primaryKey, .string r.value, .nat r.isSubject.toNat]

def dumpModification (t : Tables) (r : ModificationRow) : Json := .array [
  .nat r.position, r.operation.toJson, t.fieldName r.field, .text? r.previous, .text? r.current]

def dumpRelationship (t : Tables) (r : RelationshipRow) : Json := .array [
  .nat r.position, r.operation.toJson, t.fieldName r.field,
  .text? ((t.entries.find? (·.id == r.entry)).map (·.primaryKey))]

/-- A measured duration is shown as such, because it differs from run to run. -/
def dumpModel (w : Surroundings) (t : Tables) (r : ModelRow) : Json := .record [
  ("id", shownId w r.id),
  ("created_at", shownTime w r.id r.createdAt),
  ("operation", r.operation.toJson),
  ("actor", .text? r.actor),
  ("snapshot", .text? r.snapshot),
  ("duration_us", .option (fun n => if w.gave r.id then .string "measured" else .nat n)
    r.duration),
  ("entries", .array ((t.entries.filter (·.event == r.id)).map t.dumpEntry)),
  ("modifications", .array ((t.modifications.filter (·.event == r.id)).map t.dumpModification)),
  ("relationships", .array ((t.relationships.filter (·.event == r.id)).map t.dumpRelationship))]

def dumpBody (b : Option BodyCapture) : Json :=
  .array [.text? (b.map (·.content)), .text? (b.map (·.contentType))]

def dumpRequest (w : Surroundings) (r : RequestRow) : Json := .record [
  ("id", shownId w r.id),
  ("created_at", shownTime w r.id r.createdAt),
  ("actor", .text? r.actor),
  ("uri", .string r.uri),
  ("status", .nat r.status),
  ("method", .string r.method),
  ("application_id", r.application.toJson),
  ("client_ip", .text? r.clientIp),
  ("request", dumpBody r.request),
  ("response", dumpBody r.response)]

def dumpUnspecified (w : Surroundings) (r : UnspecifiedRow) : Json := .record [
  ("id", shownId w r.id),
  ("created_at", shownTime w r.id r.createdAt),
  ("message", .string r.message),
  ("level", .level r.level),
  ("line", .option Json.nat r.line),
  ("file", .text? r.file),
  ("application_id", r.application.toJson)]

/-- All tables. -/
def dump (w : Surroundings) (t : Tables) : Json := .record [
  ("applications", .array (t.applications.map fun r => .array [r.id.toJson, .text? r.name])),
  ("entity_mirrors", .array (t.entities.map fun r => .array [
    r.id.toJson, .string r.name, r.application.toJson])),
  ("field_mirrors", .array (t.fields.map fun r => .array [
    r.id.toJson, .string r.name, r.entity.toJson, .string r.typeLabel])),
  ("model_events", .array (t.models.map (t.dumpModel w))),
  ("request_events", .array (t.requests.map (dumpRequest w))),
  ("unspecified_events", .array (t.unspecified.map (dumpUnspecified w))),
  ("rows", .record [
    ("entity_entries", .nat t.entries.length),
    ("value_modifications", .nat t.modifications.length),
    ("relationship_modifications", .nat t.relationships.length)])]

end AuditTrail.Tables
