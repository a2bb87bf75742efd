import AuditTrail.Proofs.Identity.Uuid
import AuditTrail.Proofs.Store.AppendOnly
import Mathlib.Data.List.Nodup

/-
  Reference data found again under their identifiers. The identifier of what was made from names is
  the hash of a text, and the text tells the names (`Application.key_injective` and its like), so
  among things no two of whose texts have the same hash an identifier tells the thing
  (`Sourced.application_eq`, `entity_eq`, `field_eq`). Hence a table gives back the application, the
  type or the field that is looked for, the field with the label of its type that came last
  (`Sourced.field_found`).
-/
namespace AuditTrail

/-! ## Made from names -/

theorem Application.key_none_ne (name : String) : key none ≠ key (some name) := by
  intro h
  -- the texts differ behind "application:"
  have hletter : (key none).toList[12]? = ("application:name:" ++ name).toList[12]? :=
    congrArg (·.toList[12]?) h
  rw [String.toList_append, List.getElem?_append_left (by decide)] at hletter
  exact absurd hletter (by decide)

theorem Application.key_injective {a b : Option String} (h : key a = key b) : a = b := by
  cases a with
  | none =>
    cases b with
    | none => rfl
    | some b => exact absurd h (key_none_ne b)
  | some a =>
    cases b with
    | none => exact absurd h.symm (key_none_ne a)
    | some b =>
      have hchars : ("application:name:" ++ a).toList = ("application:name:" ++ b).toList :=
        congrArg String.toList h
      rw [String.toList_append, String.toList_append] at hchars
      exact congrArg some (String.toList_inj.mp (List.append_cancel_left hchars))

/-- A text made of an identifier and a name tells both. -/
theorem ownedKey_injective {kind a b : String} {u v : Uuid}
    (h : kind ++ u.toText ++ ":" ++ a = kind ++ v.toText ++ ":" ++ b) : u = v ∧ a = b := by
  have hchars := congrArg String.toList h
  simp only [String.toList_append, List.append_assoc, List.append_cancel_left_eq] at hchars
  have hlength : u.toText.toList.length = v.toText.toList.length := by
    rw [Uuid.length_toText, Uuid.length_toText]
  obtain ⟨htext, hrest⟩ := List.append_inj hchars hlength
  exact ⟨Uuid.toText_injective (String.toList_inj.mp htext),
    String.toList_inj.mp (List.append_cancel_left hrest)⟩

namespace EventRecord

/-- All that an event refers to was made from names. -/
structure Named (e : EventRecord) : Prop where
  applications : ∀ x ∈ e.applications, x = .named x.name
  entities : ∀ m ∈ e.entities, m = .named m.name m.application
  fields : ∀ f ∈ e.fields, f = .named f.name f.mirror f.typeLabel

instance (e : EventRecord) : Decidable e.Named :=
  decidable_of_iff ((∀ x ∈ e.applications, x = .named x.name) ∧
    (∀ m ∈ e.entities, m = .named m.name m.application) ∧
    ∀ f ∈ e.fields, f = .named f.name f.mirror f.typeLabel)
    ⟨fun h => ⟨h.1, h.2.1, h.2.2⟩, fun h => ⟨h.applications, h.entities, h.fields⟩⟩

/-- The texts that identifiers of what an event refers to are made from. -/
def keys (e : EventRecord) : List String :=
  e.applications.map (fun x => Application.key x.name) ++
    (e.entities.map (fun m => EntityMirror.key m.name m.application) ++
      e.fields.map fun f => FieldMirror.key f.name f.mirror)

theorem application_mem {e : EventRecord} {m : EntityMirror} (h : m ∈ e.entities) :
    m.application ∈ e.applications := by
  cases e with
  | model e => exact List.mem_map_of_mem h
  | request e => cases h
  | unspecified e => cases h

theorem mirror_mem {e : EventRecord} {f : FieldMirror} (h : f ∈ e.fields) :
    f.mirror ∈ e.entities := by
  cases e with
  | model e =>
    refine List.mem_cons_of_mem _ ?_
    rcases List.mem_append.mp h with h | h
    · obtain ⟨m, hm, rfl⟩ := List.mem_map.mp h
      exact List.mem_append_left _ (List.mem_map.mpr ⟨m, hm, rfl⟩)
    · obtain ⟨r, hr, rfl⟩ := List.mem_map.mp h
      exact List.mem_append_right _ (List.mem_flatMap.mpr ⟨r, hr, List.mem_cons_self⟩)
  | request e => cases h
  | unspecified e => cases h

end EventRecord

/-- No two of some texts give the same identifier. -/
def KeysApart (keys : List String) : Prop :=
  ∀ k ∈ keys, ∀ k' ∈ keys, mirrorId k = mirrorId k' → k = k'

theorem keysApart_of_nodup {keys keys' : List String} (h : (keys'.map mirrorId).Nodup)
    (hkeys : keys ⊆ keys') : KeysApart keys := fun _ hk _ hk' hid =>
  List.inj_on_of_nodup_map h (hkeys hk) (hkeys hk') hid

/-! ## Looking up -/

theorem find?_of_mem {α : Type} {id : α → Uuid} {rows : List α} {x : α} (hx : x ∈ rows)
    (h : ∀ y ∈ rows, id y = id x → y = x) : rows.find? (id · == id x) = some x := by
  cases hfind : rows.find? (id · == id x) with
  | none => exact absurd (beq_self_eq_true _) (List.find?_eq_none.mp hfind x hx)
  | some y =>
    have hid : (id y == id x) = true := List.find?_some (p := (id · == id x)) hfind
    exact congrArg some (h y (List.mem_of_find?_eq_some hfind) (beq_iff_eq.mp hid))

namespace Tables

/-- The application with an identifier. -/
def application? (t : Tables) (id : Uuid) : Option Application := t.applications.find? (·.id == id)

/-- The type of entities with an identifier, with its application. -/
def entity? (t : Tables) (id : Uuid) : Option EntityMirror := do
  let row ← t.entities.find? (·.id == id)
  let application ← t.application? row.application
  some ⟨row.id, row.name, application⟩

/-- The field with an identifier, with its type of entities. -/
def field? (t : Tables) (id : Uuid) : Option FieldMirror := do
  let row ← t.fields.find? (·.id == id)
  let mirror ← t.entity? row.entity
  some ⟨row.id, row.name, mirror, row.typeLabel⟩

/-- Tables whose reference data came with rows of some events, which refer to what was made from
names under identifiers that do not coincide. -/
structure Sourced (t : Tables) (rows : List Row) (events : List EventRecord) : Prop where
  linked : t.Linked
  reference : t.reference = (Archive.ofRows rows).reference
  rows : rows ⊆ events.flatMap Row.of
  named : ∀ e ∈ events, e.Named
  apart : KeysApart (events.flatMap EventRecord.keys)

namespace Sourced

variable {t : Tables} {rows : List Row} {events : List EventRecord}

theorem mem_of_row {β : Type} {g : Row → Option β} {ofEvent : EventRecord → List β}
    (hg : ∀ e, (Row.of e).filterMap g = ofEvent e) (h : rows ⊆ events.flatMap Row.of) {x : β}
    (hx : x ∈ rows.filterMap g) : x ∈ events.flatMap ofEvent := by
  obtain ⟨row, hrow, hgrow⟩ := List.mem_filterMap.mp hx
  obtain ⟨e, he, hrow⟩ := List.mem_flatMap.mp (h hrow)
  exact List.mem_flatMap.mpr ⟨e, he, hg e ▸ List.mem_filterMap.mpr ⟨row, hrow, hgrow⟩⟩

/-- Texts in use that give the same identifier are the same. -/
theorem key_eq (h : t.Sourced rows events) {e e' : EventRecord} (he : e ∈ events)
    (he' : e' ∈ events) {k k' : String} (hk : k ∈ e.keys) (hk' : k' ∈ e'.keys)
    (hid : mirrorId k = mirrorId k') : k = k' :=
  h.apart k (List.mem_flatMap.mpr ⟨e, he, hk⟩) k' (List.mem_flatMap.mpr ⟨e', he', hk'⟩) hid

theorem application_eq (h : t.Sourced rows events) {x y : Application}
    (hx : x ∈ events.flatMap EventRecord.applications)
    (hy : y ∈ events.flatMap EventRecord.applications) (hid : x.id = y.id) : x = y := by
  obtain ⟨e, he, hx⟩ := List.mem_flatMap.mp hx
  obtain ⟨e', he', hy⟩ := List.mem_flatMap.mp hy
  have hnamed := (h.named e he).applications x hx
  have hnamed' := (h.named e' he').applications y hy
  have hkey : Application.key x.name = Application.key y.name := by
    rw [hnamed, hnamed'] at hid
    refine h.key_eq he he' ?_ ?_ hid
    · exact List.mem_append_left _ (List.mem_map.mpr ⟨x, hx, rfl⟩)
    · exact List.mem_append_left _ (List.mem_map.mpr ⟨y, hy, rfl⟩)
  rw [hnamed, hnamed', Application.key_injective hkey]

theorem entity_eq (h : t.Sourced rows events) {m m' : EntityMirror}
    (hm : m ∈ events.flatMap EventRecord.entities)
    (hm' : m' ∈ events.flatMap EventRecord.entities) (hid : m.id = m'.id) : m = m' := by
  obtain ⟨e, he, hm⟩ := List.mem_flatMap.mp hm
  obtain ⟨e', he', hm'⟩ := List.mem_flatMap.mp hm'
  have hnamed := (h.named e he).entities m hm
  have hnamed' := (h.named e' he').entities m' hm'
  have hkey : EntityMirror.key m.name m.application = EntityMirror.key m'.name m'.application := by
    rw [hnamed, hnamed'] at hid
    refine h.key_eq he he' ?_ ?_ hid
    · exact List.mem_append_right _ (List.mem_append_left _ (List.mem_map.mpr ⟨m, hm, rfl⟩))
    · exact List.mem_append_right _ (List.mem_append_left _ (List.mem_map.mpr ⟨m', hm', rfl⟩))
  obtain ⟨happlication, hname⟩ := ownedKey_injective hkey
  have hsame : m.application = m'.application := h.application_eq
    (List.mem_flatMap.mpr ⟨e, he, EventRecord.application_mem hm⟩)
    (List.mem_flatMap.mpr ⟨e', he', EventRecord.application_mem hm'⟩) happlication
  rw [hnamed, hnamed', hname, hsame]

/-- An identifier tells a field, up to the label of its type. -/
theorem field_eq (h : t.Sourced rows events) {f f' : FieldMirror}
    (hf : f ∈ events.flatMap EventRecord.fields) (hf' : f' ∈ events.flatMap EventRecord.fields)
    (hid : f.id = f'.id) (label : String) : f.labelled label = f'.labelled label := by
  obtain ⟨e, he, hf⟩ := List.mem_flatMap.mp hf
  obtain ⟨e', he', hf'⟩ := List.mem_flatMap.mp hf'
  have hnamed := (h.named e he).fields f hf
  have hnamed' := (h.named e' he').fields f' hf'
  have hkey : FieldMirror.key f.name f.mirror = FieldMirror.key f'.name f'.mirror := by
    rw [hnamed, hnamed'] at hid
    refine h.key_eq he he' ?_ ?_ hid
    · exact List.mem_append_right _ (List.mem_append_right _ (List.mem_map.mpr ⟨f, hf, rfl⟩))
    · exact List.mem_append_right _ (List.mem_append_right _ (List.mem_map.mpr ⟨f', hf', rfl⟩))
  obtain ⟨hmirror, hname⟩ := ownedKey_injective hkey
  have hsame : f.mirror = f'.mirror := h.entity_eq
    (List.mem_flatMap.mpr ⟨e, he, EventRecord.mirror_mem hf⟩)
    (List.mem_flatMap.mpr ⟨e', he', EventRecord.mirror_mem hf'⟩) hmirror
  rw [hnamed, hnamed', hname, hsame]
  rfl

theorem application_found (h : t.Sourced rows events) {x : Application}
    (hx : x ∈ events.flatMap EventRecord.applications) (hhas : t.Has (.application x.id)) :
    t.application? x.id = some x := by
  have hrows : t.applications = firsts Application.id (rows.filterMap Row.application?) :=
    congrArg Reference.applications h.reference
  have hall : ∀ y ∈ t.applications, y.id = x.id → y = x := fun y hy hid =>
    h.application_eq (mem_of_row Row.applications_of h.rows (mem_of_mem_firsts (hrows ▸ hy))) hx hid
  obtain ⟨y, hy, hid⟩ := hhas
  exact find?_of_mem (hall y hy hid ▸ hy) hall

theorem entity_found (h : t.Sourced rows events) {m : EntityMirror}
    (hm : m ∈ events.flatMap EventRecord.entities) (hhas : t.Has (.entity m.id)) :
    t.entity? m.id = some m := by
  have hrows : t.entities = (firsts EntityMirror.id (rows.filterMap Row.entity?)).map .of :=
    congrArg Reference.entities h.reference
  have hall : ∀ r ∈ t.entities, r.id = (EntityRow.of m).id → r = .of m := fun r hr hid => by
    rw [hrows] at hr
    obtain ⟨y, hy, rfl⟩ := List.mem_map.mp hr
    rw [h.entity_eq (mem_of_row Row.entities_of h.rows (mem_of_mem_firsts hy)) hm hid]
  obtain ⟨r, hr, hid⟩ := hhas
  have hmem : EntityRow.of m ∈ t.entities := hall r hr hid ▸ hr
  obtain ⟨e, he, hm⟩ := List.mem_flatMap.mp hm
  have happlication := h.application_found
    (List.mem_flatMap.mpr ⟨e, he, EventRecord.application_mem hm⟩)
    (h.linked.joins.entities _ hmem)
  have hfind : t.entities.find? (·.id == m.id) = some (.of m) := find?_of_mem hmem hall
  rw [entity?, hfind]
  show (t.application? m.application.id).bind _ = _
  rw [happlication]
  rfl

/-- A field is found with the label of its type that was written last. -/
theorem field_found (h : t.Sourced rows events) {f : FieldMirror}
    (hf : f ∈ events.flatMap EventRecord.fields) (hhas : t.Has (.field f.id)) :
    t.field? f.id = some (f.labelled (lastLabel (rows.filterMap Row.field?) f.id)) := by
  obtain ⟨g, hg⟩ : ∃ g, g = f.labelled (lastLabel (rows.filterMap Row.field?) f.id) := ⟨_, rfl⟩
  have hrows : t.fields = (latest (rows.filterMap Row.field?)).map .of :=
    congrArg Reference.fields h.reference
  have hall : ∀ r ∈ t.fields, r.id = (FieldRow.of g).id → r = .of g := fun r hr hid => by
    rw [hrows] at hr
    obtain ⟨y, hy, rfl⟩ := List.mem_map.mp hr
    obtain ⟨z, hz, rfl⟩ := List.mem_map.mp hy
    have hsame : z.id = f.id := by
      rw [hg] at hid
      exact hid
    rw [hg, hsame, h.field_eq (mem_of_row Row.fields_of h.rows (mem_of_mem_firsts hz)) hf hsame]
  obtain ⟨r, hr, hid⟩ := hhas
  have hid' : r.id = (FieldRow.of g).id := by
    rw [hg]
    exact hid
  have hmem : FieldRow.of g ∈ t.fields := hall r hr hid' ▸ hr
  obtain ⟨e, he, hf⟩ := List.mem_flatMap.mp hf
  have hmirror : g.mirror ∈ e.entities := by
    rw [hg]
    exact (EventRecord.mirror_mem hf : f.mirror ∈ e.entities)
  have hentity := h.entity_found (List.mem_flatMap.mpr ⟨e, he, hmirror⟩)
    (h.linked.joins.fields _ hmem)
  have hfind : t.fields.find? (·.id == f.id) = some (.of g) := by
    have hsame : g.id = f.id := by rw [hg]; rfl
    rw [← hsame]
    exact find?_of_mem hmem hall
  rw [field?, hfind, ← hg]
  show (t.entity? g.mirror.id).bind _ = _
  rw [hentity]
  rfl

end Sourced

end Tables

end AuditTrail
