import AuditTrail.Entity.Basic
import AuditTrail.Event.Decode

/-
  Reading the description of a type of entities from a structured value.
-/
namespace AuditTrail.Decoder

def fieldDef : Decoder FieldDef :=
  record [
    required "name" string fun v f => { f with name := v },
    required "type_label" string fun v f => { f with typeLabel := v }] ⟨"", ""⟩

def ignore : Decoder Ignore :=
  record [
    field "complete" bool fun v i => { i with complete := v },
    field "operations" (list operation) fun v i => { i with operations := v },
    field "fields" (list string) fun v i => { i with fields := v }] {}

def entityType : Decoder EntityType :=
  record [
    required "name" string fun v e => { e with name := v },
    nullable "module" string fun v e => { e with moduleName := v },
    nullable "application" string fun v e => { e with application := v },
    required "fields" (list fieldDef) fun v e => { e with fields := v },
    field "ignore" ignore fun v e => { e with ignore := v }] ⟨"", none, none, [], {}⟩

end AuditTrail.Decoder
