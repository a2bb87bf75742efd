import AuditTrail.Proofs.Store.Lookup
import Mathlib.Data.Set.Function

/-
  Identifiers of reference data stand for names. The stores keep one record for each identifier, so
  things with one identifier are kept as one thing.

  An identifier is the hash of a text. No two things that are named differently have the same text:
  that of an application tells its name or the lack of one (`Application.key_injective`), those of a
  type and of a field hold the identifier of what they belong to, written at a fixed length, so that
  no colon in a name can be taken for the one behind it (`ownedKey_injective`), and the three kinds
  of texts begin with different letters (`key_ne_of_initial`). Two texts may well have the same
  hash, since there are more texts than hashes; but as long as those in use have not, the
  identifiers tell the names (`ids_tell_names`).
-/
namespace AuditTrail

/-! ## Texts of different kinds -/

theorem Application.initial_key (name : Option String) :
    (key name).toList.head? = some 'a' := by
  cases name with
  | none => rfl
  | some name => rw [key, String.toList_append]; rfl

theorem EntityMirror.initial_key (name : String) (a : Application) :
    (key name a).toList.head? = some 'e' := by
  rw [key, String.append_assoc, String.append_assoc, String.toList_append]
  rfl

theorem FieldMirror.initial_key (name : String) (m : EntityMirror) :
    (key name m).toList.head? = some 'f' := by
  rw [key, String.append_assoc, String.append_assoc, String.toList_append]
  rfl

theorem key_ne_of_initial {k k' : String} {c c' : Char} (hk : k.toList.head? = some c)
    (hk' : k'.toList.head? = some c') (hc : c ≠ c') : k ≠ k' := by
  rintro rfl
  exact hc (Option.some.inj (hk.symm.trans hk'))

/-! ## Fields by their names -/

/-- A field, by its name and those of its type and its application. -/
structure FieldPath where
  application : Option String
  entity : String
  field : String

namespace FieldPath

/-- The application that is named. -/
def applicationMirror (p : FieldPath) : Application := .named p.application

/-- The type of entities that is named. -/
def entityMirror (p : FieldPath) : EntityMirror := .named p.entity p.applicationMirror

/-- The field that is named, with some label of its type. -/
def fieldMirror (p : FieldPath) (label : String) : FieldMirror :=
  .named p.field p.entityMirror label

/-- The texts that the three identifiers are made from. -/
def texts (p : FieldPath) : List String :=
  [Application.key p.application, EntityMirror.key p.entity p.applicationMirror,
    FieldMirror.key p.field p.entityMirror]

section Identifiers

variable {texts : Set String} (hapart : texts.InjOn mirrorId) {p q : FieldPath}
include hapart

theorem application_id_eq_iff (hp : Application.key p.application ∈ texts)
    (hq : Application.key q.application ∈ texts) :
    p.applicationMirror.id = q.applicationMirror.id ↔ p.application = q.application := by
  constructor
  · intro hid
    exact Application.key_injective (hapart hp hq hid)
  · intro h
    rw [applicationMirror, applicationMirror, h]

theorem entity_id_eq_iff (hp : Application.key p.application ∈ texts)
    (hq : Application.key q.application ∈ texts)
    (hp' : EntityMirror.key p.entity p.applicationMirror ∈ texts)
    (hq' : EntityMirror.key q.entity q.applicationMirror ∈ texts) :
    p.entityMirror.id = q.entityMirror.id ↔
      p.entity = q.entity ∧ p.application = q.application := by
  constructor
  · intro hid
    obtain ⟨howner, hname⟩ := ownedKey_injective (hapart hp' hq' hid)
    exact ⟨hname, (application_id_eq_iff hapart hp hq).mp howner⟩
  · rintro ⟨hname, happlication⟩
    rw [entityMirror, entityMirror, applicationMirror, applicationMirror, hname, happlication]

theorem field_id_eq_iff (hp : ∀ k ∈ p.texts, k ∈ texts) (hq : ∀ k ∈ q.texts, k ∈ texts)
    (label label' : String) :
    (p.fieldMirror label).id = (q.fieldMirror label').id ↔
      p.field = q.field ∧ p.entity = q.entity ∧ p.application = q.application := by
  simp only [FieldPath.texts, List.forall_mem_cons] at hp hq
  obtain ⟨hpa, hpe, hpf, -⟩ := hp
  obtain ⟨hqa, hqe, hqf, -⟩ := hq
  constructor
  · intro hid
    obtain ⟨howner, hname⟩ := ownedKey_injective (hapart hpf hqf hid)
    exact ⟨hname, (entity_id_eq_iff hapart hpa hqa hpe hqe).mp howner⟩
  · rintro ⟨hname, howner⟩
    have hmirror : p.entityMirror = q.entityMirror := by
      rw [entityMirror, entityMirror, applicationMirror, applicationMirror, howner.1, howner.2]
    rw [fieldMirror, fieldMirror, hname, hmirror]
    rfl

/-- Identifiers of different kinds differ. -/
theorem ids_of_kinds_ne (hp : ∀ k ∈ p.texts, k ∈ texts) (hq : ∀ k ∈ q.texts, k ∈ texts)
    (label : String) :
    p.applicationMirror.id ≠ q.entityMirror.id ∧
      p.applicationMirror.id ≠ (q.fieldMirror label).id ∧
      p.entityMirror.id ≠ (q.fieldMirror label).id := by
  simp only [FieldPath.texts, List.forall_mem_cons] at hp hq
  obtain ⟨hpa, hpe, -⟩ := hp
  obtain ⟨-, hqe, hqf, -⟩ := hq
  have hinitial := Application.initial_key p.application
  have hinitial' := EntityMirror.initial_key p.entity p.applicationMirror
  refine ⟨fun hid => ?_, fun hid => ?_, fun hid => ?_⟩
  · exact key_ne_of_initial hinitial (EntityMirror.initial_key _ _) (by decide)
      (hapart hpa hqe hid)
  · exact key_ne_of_initial hinitial (FieldMirror.initial_key _ _) (by decide)
      (hapart hpa hqf hid)
  · exact key_ne_of_initial hinitial' (FieldMirror.initial_key _ _) (by decide)
      (hapart hpe hqf hid)

end Identifiers

/-- Where no two texts in use have the same hash, applications have the same identifier exactly if
they have the same name or both have none, types exactly if besides they have the same name
themselves, and fields exactly if besides they have the same name themselves, whatever the labels of
their types. Identifiers of different kinds are never the same. -/
theorem ids_tell_names {texts : Set String} (hapart : texts.InjOn mirrorId) {p q : FieldPath}
    (hp : ∀ k ∈ p.texts, k ∈ texts) (hq : ∀ k ∈ q.texts, k ∈ texts) (label label' : String) :
    (p.applicationMirror.id = q.applicationMirror.id ↔ p.application = q.application) ∧
      (p.entityMirror.id = q.entityMirror.id ↔
        p.entity = q.entity ∧ p.application = q.application) ∧
      ((p.fieldMirror label).id = (q.fieldMirror label').id ↔
        p.field = q.field ∧ p.entity = q.entity ∧ p.application = q.application) ∧
      p.applicationMirror.id ≠ q.entityMirror.id ∧
      p.applicationMirror.id ≠ (q.fieldMirror label').id ∧
      p.entityMirror.id ≠ (q.fieldMirror label').id := by
  have hfield := field_id_eq_iff hapart hp hq label label'
  have hkinds := ids_of_kinds_ne hapart hp hq label'
  simp only [FieldPath.texts, List.forall_mem_cons] at hp hq
  obtain ⟨hpa, hpe, -⟩ := hp
  obtain ⟨hqa, hqe, -⟩ := hq
  exact ⟨application_id_eq_iff hapart hpa hqa, entity_id_eq_iff hapart hpa hqa hpe hqe, hfield,
    hkinds⟩

/-- Two fields whose names would give the same text if they were put together with colons, one of no
application and one of an application with the empty name. -/
theorem ids_tell_names_colons :
    let p : FieldPath := ⟨none, "a", "b:c"⟩
    let q : FieldPath := ⟨some "", "a:b", "c"⟩
    let texts : Set String := {k | k ∈ p.texts ++ q.texts}
    texts.InjOn mirrorId ∧ (∀ k ∈ p.texts, k ∈ texts) ∧ (∀ k ∈ q.texts, k ∈ texts) ∧
      (p.applicationMirror.id = q.applicationMirror.id ↔ p.application = q.application) ∧
      (p.entityMirror.id = q.entityMirror.id ↔
        p.entity = q.entity ∧ p.application = q.application) ∧
      ((p.fieldMirror "TextField").id = (q.fieldMirror "IntegerField").id ↔
        p.field = q.field ∧ p.entity = q.entity ∧ p.application = q.application) ∧
      p.applicationMirror.id ≠ q.entityMirror.id ∧
      p.applicationMirror.id ≠ (q.fieldMirror "IntegerField").id ∧
      p.entityMirror.id ≠ (q.fieldMirror "IntegerField").id := by
  intro p q texts
  have hnodup : ((p.texts ++ q.texts).map mirrorId).Nodup := by decide +kernel
  have hapart : texts.InjOn mirrorId :=
    fun k hk k' hk' hid => List.inj_on_of_nodup_map hnodup hk hk' hid
  have hp : ∀ k ∈ p.texts, k ∈ texts := fun k hk => List.mem_append_left _ hk
  have hq : ∀ k ∈ q.texts, k ∈ texts := fun k hk => List.mem_append_right _ hk
  exact ⟨hapart, hp, hq, ids_tell_names hapart hp hq "TextField" "IntegerField"⟩

end FieldPath

end AuditTrail
