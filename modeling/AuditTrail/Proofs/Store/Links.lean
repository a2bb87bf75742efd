import AuditTrail.Proofs.Store.Insertion
import AuditTrail.Proofs.Store.Sessions

/-
  Foreign keys of the tables. Whatever a row refers to is there (`Tables.Linked`): the rows of an
  event come in such an order that each refers to rows before it (`Row.grounded_of`), a row that
  refers to what is there can be written (`Linked.put`), and a deletion takes with an event all that
  refers to it (`Linked.deleteBefore`). So the links hold after any calls, refused or not
  (`linked_of_calls`).
-/
namespace AuditTrail

/-- What a row can refer to, and the identifier it does so by; an entry is referred to within an
event. -/
inductive Link where
  | application (id : Uuid)
  | entity (id : Uuid)
  | field (id : Uuid)
  | model (id : Uuid)
  | entry (id event : Uuid)

/-- A link that leads to none of some events and of their entries. -/
def Link.Avoids (gone : List Uuid) : Link → Prop
  | .model id => id ∉ gone
  | .entry _ event => event ∉ gone
  | _ => True

namespace Tables

/-- What is referred to is there. -/
def Has (t : Tables) : Link → Prop
  | .application id => ∃ x ∈ t.applications, x.id = id
  | .entity id => ∃ r ∈ t.entities, r.id = id
  | .field id => ∃ r ∈ t.fields, r.id = id
  | .model id => ∃ r ∈ t.models, r.id = id
  | .entry id event => ∃ r ∈ t.entries, r.id = id ∧ r.event = event

/-- What the rows refer to. -/
def links (t : Tables) : List Link :=
  t.fields.map (fun r => .entity r.entity) ++
    (t.entities.map (fun r => .application r.application) ++
      t.entries.flatMap (fun r => [.model r.event, .entity r.entity]) ++
      t.modifications.flatMap (fun r => [.model r.event, .field r.field]) ++
      t.relationships.flatMap (fun r =>
        [.model r.event, .field r.field, .entry r.entry r.event]) ++
      t.requests.map (fun r => .application r.application) ++
      t.unspecified.map fun r => .application r.application)

/-- Whatever a row refers to is there. -/
def Linked (t : Tables) : Prop := ∀ link ∈ t.links, t.Has link

/-- The same table by table. -/
structure Joins (t : Tables) : Prop where
  entities : ∀ r ∈ t.entities, t.Has (.application r.application)
  fields : ∀ r ∈ t.fields, t.Has (.entity r.entity)
  entries : ∀ r ∈ t.entries, t.Has (.model r.event) ∧ t.Has (.entity r.entity)
  modifications : ∀ r ∈ t.modifications, t.Has (.model r.event) ∧ t.Has (.field r.field)
  relationships : ∀ r ∈ t.relationships,
    t.Has (.model r.event) ∧ t.Has (.field r.field) ∧ t.Has (.entry r.entry r.event)
  requests : ∀ r ∈ t.requests, t.Has (.application r.application)
  unspecified : ∀ r ∈ t.unspecified, t.Has (.application r.application)

theorem Linked.joins {t : Tables} (h : t.Linked) : t.Joins := by
  simp only [Linked, links, List.forall_mem_append, List.forall_mem_map, List.mem_flatMap,
    forall_exists_index, and_imp] at h
  obtain ⟨hfields, ⟨⟨⟨⟨⟨hentities, hentries⟩, hmodifications⟩, hrelationships⟩, hrequests⟩,
    hunspecified⟩⟩ := h
  exact {
    entities := hentities
    fields := hfields
    entries := fun r hr =>
      ⟨hentries _ r hr (by simp), hentries _ r hr (by simp)⟩
    modifications := fun r hr =>
      ⟨hmodifications _ r hr (by simp), hmodifications _ r hr (by simp)⟩
    relationships := fun r hr =>
      ⟨hrelationships _ r hr (by simp), hrelationships _ r hr (by simp),
        hrelationships _ r hr (by simp)⟩
    requests := hrequests
    unspecified := hunspecified }

end Tables

namespace Row

/-- What a row refers to. -/
def refers : Row → List Link
  | .application _ => []
  | .entity m => [.application m.application.id]
  | .field f => [.entity f.mirror.id]
  | .model _ => []
  | .entry r => [.model r.event, .entity r.entity]
  | .modification r => [.model r.event, .field r.field]
  | .relationship r => [.model r.event, .field r.field, .entry r.entry r.event]
  | .request r => [.application r.application]
  | .unspecified r => [.application r.application]

/-- What can be referred to once a row is there. -/
def offers : Row → List Link
  | .application x => [.application x.id]
  | .entity m => [.entity m.id]
  | .field f => [.field f.id]
  | .model r => [.model r.id]
  | .entry r => [.entry r.id r.event]
  | _ => []

/-- Each row refers to something known or to what rows before it offer. -/
def Grounded : List Link → List Row → Prop
  | _, [] => True
  | known, row :: rows => (∀ link ∈ row.refers, link ∈ known) ∧ Grounded (row.offers ++ known) rows

variable {known known' : List Link} {rows rows' : List Row}

theorem Grounded.mono (h : Grounded known rows) (hknown : known ⊆ known') :
    Grounded known' rows := by
  induction rows generalizing known known' with
  | nil => trivial
  | cons row rows ih =>
    refine ⟨fun link hlink => hknown (h.1 link hlink), ih h.2 ?_⟩
    exact List.append_subset.mpr ⟨List.subset_append_left _ _,
      List.Subset.trans hknown (List.subset_append_right _ _)⟩

theorem Grounded.append (h : Grounded known rows) (h' : Grounded known rows') :
    Grounded known (rows ++ rows') := by
  induction rows generalizing known with
  | nil => exact h'
  | cons row rows ih => exact ⟨h.1, ih h.2 (h'.mono (List.subset_append_right _ _))⟩

theorem grounded_ofEntry {event : Uuid} (h : .model event ∈ known) (e : EntityEntry)
    (isSubject : Bool) : Grounded known (ofEntry event e isSubject) := by
  simp [ofEntry, ofEntity, Grounded, refers, offers, h]

theorem grounded_ofModifications {event : Uuid} (h : .model event ∈ known) (position : Nat)
    (ms : List ValueModification) : Grounded known (ofModifications event position ms) := by
  induction ms generalizing position with
  | nil => trivial
  | cons m ms ih =>
    have hrest := (ih (position + 1)).mono (List.subset_append_right
      [.field m.field.id, .entity m.field.mirror.id, .application m.field.mirror.application.id] _)
    simpa [ofModifications, ofField, ofEntity, Grounded, refers, offers, h] using hrest

theorem grounded_ofRelationships {event : Uuid} (h : .model event ∈ known) (position : Nat)
    (rs : List RelationshipModification) :
    Grounded known (ofRelationships event position rs) := by
  induction rs generalizing position with
  | nil => trivial
  | cons r rs ih =>
    have hrest := (ih (position + 1)).mono (List.subset_append_right
      [.entry r.entry.id event, .entity r.entry.mirror.id,
        .application r.entry.mirror.application.id, .field r.field.id, .entity r.field.mirror.id,
        .application r.field.mirror.application.id] _)
    simpa [ofRelationships, ofField, ofEntry, ofEntity, Grounded, refers, offers, h] using hrest

/-- Each row of an event refers to rows of the event before it. -/
theorem grounded_of (e : EventRecord) : Grounded known (of e) := by
  cases e with
  | model e =>
    have hmodel : Link.model e.id ∈ (offers (.model (Tables.modelRow e)) ++ known) :=
      List.mem_append_left _ List.mem_cons_self
    refine ⟨nofun, (grounded_ofEntry hmodel e.entry true).append ?_⟩
    exact (grounded_ofModifications hmodel 0 e.modifications).append
      (grounded_ofRelationships hmodel 0 e.relationships)
  | request e => simp [of, Grounded, refers, offers, Tables.requestRow]
  | unspecified e => simp [of, Grounded, refers, offers, Tables.unspecifiedRow]

theorem grounded_all (events : List EventRecord) : Grounded known (events.flatMap of) := by
  induction events with
  | nil => trivial
  | cons e events ih =>
    rw [List.flatMap_cons]
    exact (grounded_of e).append ih

end Row

/-! ## Rows that are written -/

/-- A row is there under its identifier once it was added, whichever it is. -/
theorem exists_id_addRow {α : Type} {id : α → Uuid} {x : α} {rows : List α} {u : Uuid} :
    (∃ y ∈ addRow id x rows, id y = u) ↔ id x = u ∨ ∃ y ∈ rows, id y = u := by
  unfold addRow
  split
  next hany =>
    obtain ⟨y, hy, heq⟩ := List.any_eq_true.mp hany
    refine ⟨.inr, ?_⟩
    rintro (hx | h)
    · exact ⟨y, hy, (beq_iff_eq.mp heq).trans hx⟩
    · exact h
  next =>
    constructor
    · rintro ⟨y, hy, heq⟩
      rcases List.mem_append.mp hy with hy | hy
      · exact .inr ⟨y, hy, heq⟩
      · rw [List.mem_singleton.mp hy] at heq
        exact .inl heq
    · rintro (h | ⟨y, hy, heq⟩)
      · exact ⟨x, List.mem_append_right rows List.mem_cons_self, h⟩
      · exact ⟨y, List.mem_append_left _ hy, heq⟩

theorem mem_of_mem_addRow {α : Type} {id : α → Uuid} {x y : α} {rows : List α}
    (h : y ∈ addRow id x rows) : y = x ∨ y ∈ rows := by
  unfold addRow at h
  split at h
  · exact .inr h
  · rcases List.mem_append.mp h with h | h
    · exact .inr h
    · exact .inl (List.mem_singleton.mp h)

namespace Tables

variable {t : Tables}

theorem exists_id_putField {f : FieldRow} {rows : List FieldRow} {u : Uuid} :
    (∃ r ∈ putField f rows, r.id = u) ↔ f.id = u ∨ ∃ r ∈ rows, r.id = u := by
  induction rows with
  | nil => simp [putField]
  | cons g rows ih =>
    rw [putField]
    split
    next hid => simp [hid]
    next =>
      simp only [List.mem_cons, exists_eq_or_imp, ih]
      exact or_left_comm

/-- Putting a field only changes labels of fields that were there. -/
theorem mem_links_putField {f : FieldRow} {rows : List FieldRow} {link : Link}
    (h : link ∈ (putField f rows).map fun r => Link.entity r.entity) :
    link = .entity f.entity ∨ link ∈ rows.map fun r => Link.entity r.entity := by
  induction rows with
  | nil => exact .inl (List.mem_singleton.mp h)
  | cons g rows ih =>
    rw [putField] at h
    split at h
    · exact .inr h
    · rcases List.mem_cons.mp h with rfl | h
      · exact .inr List.mem_cons_self
      · exact (ih h).imp_right (List.mem_cons_of_mem _)

/-- A row takes nothing away. -/
theorem Has.put {link : Link} (h : t.Has link) (row : Row) : (row.put t).Has link := by
  cases link with
  | application id =>
    cases row with
    | application x => exact exists_id_addRow.mpr (.inr h)
    | _ => exact h
  | entity id =>
    cases row with
    | entity m => exact exists_id_addRow.mpr (.inr h)
    | _ => exact h
  | field id =>
    cases row with
    | field f => exact exists_id_putField.mpr (.inr h)
    | _ => exact h
  | model id =>
    cases row with
    | model r =>
      obtain ⟨r', hr', hid⟩ := h
      exact ⟨r', List.mem_append_left _ hr', hid⟩
    | _ => exact h
  | entry id event =>
    cases row with
    | entry r =>
      obtain ⟨r', hr', hids⟩ := h
      exact ⟨r', List.mem_append_left _ hr', hids⟩
    | _ => exact h

/-- What a row offers is there with it. -/
theorem has_offers (row : Row) : ∀ link ∈ row.offers, (row.put t).Has link := by
  cases row with
  | application x => exact List.forall_mem_singleton.mpr (exists_id_addRow.mpr (.inl rfl))
  | entity m => exact List.forall_mem_singleton.mpr (exists_id_addRow.mpr (.inl rfl))
  | field f => exact List.forall_mem_singleton.mpr (exists_id_putField.mpr (.inl rfl))
  | model r =>
    exact List.forall_mem_singleton.mpr ⟨r, List.mem_append_right _ List.mem_cons_self, rfl⟩
  | entry r =>
    exact List.forall_mem_singleton.mpr
      ⟨r, List.mem_append_right _ List.mem_cons_self, rfl, rfl⟩
  | _ => exact List.forall_mem_nil _

/-- Links come with the rows that have them. -/
theorem mem_links_put {row : Row} {link : Link} (h : link ∈ (row.put t).links) :
    link ∈ t.links ∨ link ∈ row.refers := by
  cases row with
  | application x => exact .inl h
  | model r => exact .inl h
  | entity m => grind [links, Row.put, Row.refers, EntityRow.of, mem_of_mem_addRow]
  | field f =>
    rcases List.mem_append.mp h with h | h
    · rcases mem_links_putField h with rfl | h
      · exact .inr List.mem_cons_self
      · exact .inl (List.mem_append_left _ h)
    · exact .inl (List.mem_append_right _ h)
  | _ => grind [links, Row.put, Row.refers]

theorem Linked.put (h : t.Linked) {row : Row} (hrow : ∀ link ∈ row.refers, t.Has link) :
    (row.put t).Linked := by
  intro link hlink
  exact ((mem_links_put hlink).elim (h link) (hrow link)).put row

/-- Rows each of which refers to what is there by then can be written. -/
theorem Linked.write (h : t.Linked) {known : List Link} {rows : List Row}
    (hrows : Row.Grounded known rows) (hknown : ∀ link ∈ known, t.Has link) :
    (write rows t).2.Linked := by
  induction rows generalizing t known with
  | nil => exact h
  | cons row rows ih =>
    rw [Tables.write]
    split
    · exact h
    · refine ih (h.put fun link hlink => hknown link (hrows.1 link hlink)) hrows.2 ?_
      intro link hlink
      rcases List.mem_append.mp hlink with hlink | hlink
      · exact has_offers row link hlink
      · exact (hknown link hlink).put row

/-! ## Deletions -/

/-- The tables without the changes of entities from before a time and what belongs to them. -/
theorem deleteBefore_model (cutoff : Int) (t : Tables) :
    (t.deleteBefore .model cutoff).2 =
      ({ t with models := t.models.filter fun r => !decide (r.createdAt < cutoff) } :
        Tables).dropOwned ((t.models.filter fun r => r.createdAt < cutoff).map (·.id)) := by
  obtain ⟨hgone, hkept⟩ := deleteOld_spec (fun r : ModelRow => r.createdAt < cutoff) t.models
  simp only [deleteBefore, hgone, hkept]

theorem deleteBefore_request (cutoff : Int) (t : Tables) : (t.deleteBefore .request cutoff).2 =
    { t with requests := t.requests.filter fun r => !decide (r.createdAt < cutoff) } := by
  obtain ⟨-, hkept⟩ := deleteOld_spec (fun r : RequestRow => r.createdAt < cutoff) t.requests
  simp only [deleteBefore, hkept]

theorem deleteBefore_unspecified (cutoff : Int) (t : Tables) :
    (t.deleteBefore .unspecified cutoff).2 =
      { t with unspecified := t.unspecified.filter fun r => !decide (r.createdAt < cutoff) } := by
  obtain ⟨-, hkept⟩ :=
    deleteOld_spec (fun r : UnspecifiedRow => r.createdAt < cutoff) t.unspecified
  simp only [deleteBefore, hkept]

/-- The links that are left when events are dropped with what belongs to them. -/
theorem mem_links_dropOwned {models : List ModelRow} {gone : List Uuid} {link : Link}
    (h : link ∈ (({ t with models := models } : Tables).dropOwned gone).links) :
    link ∈ t.links ∧ link.Avoids gone := by
  have hevent : ∀ event : Uuid, (!gone.contains event) = true → event ∉ gone :=
    fun event hevent => by simpa using hevent
  simp only [links, dropOwned, List.mem_append, List.mem_map, List.mem_flatMap, List.mem_filter,
    List.mem_cons, List.not_mem_nil, or_false] at h ⊢
  refine ⟨by grind, ?_⟩
  rcases h with ⟨r, -, rfl⟩ | (((((⟨r, -, rfl⟩ | ⟨r, ⟨-, hr⟩, rfl | rfl⟩) |
    ⟨r, ⟨-, hr⟩, rfl | rfl⟩) | ⟨r, ⟨-, hr⟩, rfl | rfl | rfl⟩) | ⟨r, -, rfl⟩) | ⟨r, -, rfl⟩)
  all_goals first
    | trivial
    | exact hevent r.event hr

/-- A deletion takes with an event all that refers to it. -/
theorem Linked.deleteBefore (h : t.Linked) (c : Category) (cutoff : Int) :
    (t.deleteBefore c cutoff).2.Linked := by
  cases c with
  | request =>
    intro link hlink
    refine h link ?_
    rw [deleteBefore_request] at hlink
    grind [links]
  | unspecified =>
    intro link hlink
    refine h link ?_
    rw [deleteBefore_unspecified] at hlink
    grind [links]
  | model =>
    intro link hlink
    rw [deleteBefore_model] at hlink ⊢
    obtain ⟨hmem, havoids⟩ := mem_links_dropOwned hlink
    have hthere := h link hmem
    cases link with
    | model id =>
      obtain ⟨r, hr, rfl⟩ := hthere
      refine ⟨r, List.mem_filter.mpr ⟨hr, ?_⟩, rfl⟩
      -- an old row would be among those that are gone
      cases hold : decide (r.createdAt < cutoff) with
      | false => rfl
      | true => exact absurd (List.mem_map_of_mem (List.mem_filter.mpr ⟨hr, hold⟩)) havoids
    | entry id event =>
      obtain ⟨r, hr, hid, rfl⟩ := hthere
      refine ⟨r, List.mem_filter.mpr ⟨hr, ?_⟩, hid, rfl⟩
      have hevent : r.event ∉ (t.models.filter fun r => r.createdAt < cutoff).map (·.id) := havoids
      simpa using hevent
    | _ => exact hthere

/-- The links hold after any calls, refused or not. -/
theorem Linked.apply (h : t.Linked) (op : StagedOp) : (t.apply op).Linked := by
  cases op with
  | insert events =>
    have hperform : t.apply (.insert events) = (Tables.write (events.flatMap Row.of) t).2 :=
      congrArg Prod.snd (insertAll_performs events t)
    rw [hperform]
    exact h.write (Row.grounded_all events) (List.forall_mem_nil _)
  | delete c cutoff => exact h.deleteBefore c cutoff.toMicros

theorem linked_of_calls (ops : List StagedOp) : (ops.foldl apply {}).Linked := by
  have hrun : ∀ t : Tables, t.Linked → (ops.foldl apply t).Linked := by
    induction ops with
    | nil => exact fun _ h => h
    | cons op ops ih => exact fun t h => ih (t.apply op) (h.apply op)
  exact hrun {} nofun

end Tables

end AuditTrail
