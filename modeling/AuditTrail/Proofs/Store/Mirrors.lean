import AuditTrail.Proofs.Store.Links
import Mathlib.Data.List.Induction

/-
  What rows leave of reference data. An application and a type of entities are kept as they came
  first under their identifier, and so is a field, except for the label of its type, which is the
  one that came last (`firsts`, `latest`). So what events leave is told by the applications, types
  and fields they refer to, in their order (`Archive.gather_rows`, `Row.ofRows_all`).
-/
namespace AuditTrail

/-! ## What an event refers to -/

namespace EventRecord

/-- The fields of the modifications and of the relationships of an event, in their order. -/
def fields : EventRecord → List FieldMirror
  | .model e => e.modifications.map (·.field) ++ e.relationships.map (·.field)
  | _ => []

/-- The types of the entity of an event, of its fields and of the related entities. -/
def entities : EventRecord → List EntityMirror
  | .model e =>
    e.entry.mirror :: (e.modifications.map (·.field.mirror) ++
      e.relationships.flatMap fun r => [r.field.mirror, r.entry.mirror])
  | _ => []

/-- The applications of an event and of the types it refers to. -/
def applications : EventRecord → List Application
  | .model e => (EventRecord.model e).entities.map (·.application)
  | .request e => [e.application]
  | .unspecified e => [e.application]

end EventRecord

/-! ## First and last under an identifier -/

/-- The first under each identifier. -/
def firsts {α : Type} (id : α → Uuid) (xs : List α) : List α :=
  xs.foldl (fun rows x => addRow id x rows) []

section firsts

variable {α : Type} {id : α → Uuid}

theorem firsts_concat (xs : List α) (x : α) :
    firsts id (xs ++ [x]) = addRow id x (firsts id xs) := List.foldl_append

theorem prefix_addRow (x : α) (rows : List α) : rows <+: addRow id x rows := by
  unfold addRow
  split
  · exact List.prefix_rfl
  · exact List.prefix_append rows [x]

/-- What came first stays when more comes. -/
theorem firsts_isPrefix (xs ys : List α) : firsts id xs <+: firsts id (xs ++ ys) := by
  induction ys using List.reverseRecOn with
  | nil => exact (List.append_nil xs).symm ▸ List.prefix_rfl
  | append_singleton ys y ih =>
    rw [← List.append_assoc, firsts_concat]
    exact ih.trans (prefix_addRow y _)

theorem mem_of_mem_firsts {xs : List α} {y : α} (h : y ∈ firsts id xs) : y ∈ xs := by
  induction xs using List.reverseRecOn with
  | nil => cases h
  | append_singleton xs x ih =>
    rw [firsts_concat] at h
    rcases mem_of_mem_addRow h with rfl | h
    · exact List.mem_append_right xs List.mem_cons_self
    · exact List.mem_append_left [x] (ih h)

/-- Every identifier is there. -/
theorem exists_mem_firsts {xs : List α} {u : Uuid} :
    (∃ y ∈ firsts id xs, id y = u) ↔ ∃ x ∈ xs, id x = u := by
  induction xs using List.reverseRecOn with
  | nil => exact Iff.rfl
  | append_singleton xs x ih =>
    rw [firsts_concat, exists_id_addRow, ih]
    simp only [List.mem_append, List.mem_singleton, or_and_right, exists_or, exists_eq_left]
    exact or_comm

theorem nodup_firsts (xs : List α) : ((firsts id xs).map id).Nodup := by
  induction xs using List.reverseRecOn with
  | nil => exact List.nodup_nil
  | append_singleton xs x ih =>
    rw [firsts_concat, addRow]
    split
    · exact ih
    next hnone =>
      rw [List.map_append, List.map_singleton, List.nodup_append]
      refine ⟨ih, List.pairwise_singleton _ _, fun u hu v hv heq => hnone ?_⟩
      obtain ⟨y, hy, rfl⟩ := List.mem_map.mp hu
      rw [List.mem_singleton.mp hv] at heq
      exact List.any_eq_true.mpr ⟨y, hy, beq_iff_eq.mpr heq⟩

end firsts

/-- A field with another label of its type. -/
def FieldMirror.labelled (f : FieldMirror) (label : String) : FieldMirror :=
  { f with typeLabel := label }

/-- The label that came last under an identifier. -/
def lastLabel (fs : List FieldMirror) (id : Uuid) : String :=
  ((fs.filter (·.id == id)).getLast?.map (·.typeLabel)).getD ""

theorem lastLabel_concat (fs : List FieldMirror) (f : FieldMirror) (id : Uuid) :
    lastLabel (fs ++ [f]) id = if f.id = id then f.typeLabel else lastLabel fs id := by
  unfold lastLabel
  rw [List.filter_append]
  by_cases h : f.id = id
  · rw [if_pos h, List.filter_cons_of_pos (by simpa using h), List.filter_nil,
      List.getLast?_concat]
    rfl
  · rw [if_neg h, List.filter_cons_of_neg (by simpa using h), List.filter_nil, List.append_nil]

/-- The fields as they came first, with the labels that came last. -/
def latest (fs : List FieldMirror) : List FieldMirror :=
  (firsts FieldMirror.id fs).map fun f => f.labelled (lastLabel fs f.id)

/-- A row is not added a second time. -/
theorem addRow_of_mem {α : Type} {id : α → Uuid} {x : α} {rows : List α}
    (h : ∃ y ∈ rows, id y = id x) : addRow id x rows = rows := by
  obtain ⟨y, hy, hid⟩ := h
  have hany : rows.any (id · == id x) = true :=
    List.any_eq_true.mpr ⟨y, hy, beq_iff_eq.mpr hid⟩
  rw [addRow, if_pos hany]

/-- A row is put behind the first one of another identifier. -/
theorem addRow_cons_of_ne {α : Type} {id : α → Uuid} {x y : α} (h : id y ≠ id x) (rows : List α) :
    addRow id x (y :: rows) = y :: addRow id x rows := by
  have hany : (y :: rows).any (id · == id x) = rows.any (id · == id x) := by
    rw [List.any_cons, beq_eq_false_iff_ne.mpr h, Bool.false_or]
  unfold addRow
  rw [hany]
  split <;> rfl

/-- Putting a field among fields with labels gives it its label, whether it is there or not. -/
theorem putField_map {fs : List FieldMirror} (hfs : (fs.map (·.id)).Nodup)
    (labels : Uuid → String) (f : FieldMirror) :
    Archive.putField f (fs.map fun g => g.labelled (labels g.id)) =
      (addRow FieldMirror.id f fs).map fun g =>
        g.labelled (if f.id = g.id then f.typeLabel else labels g.id) := by
  induction fs with
  | nil => simp [Archive.putField, addRow, FieldMirror.labelled]
  | cons g fs ih =>
    rw [List.map_cons, List.nodup_cons] at hfs
    have hsame : ∀ label, (g.labelled label).id = g.id := fun _ => rfl
    rw [List.map_cons, Archive.putField, hsame]
    by_cases h : g.id = f.id
    · have hthere : addRow FieldMirror.id f (g :: fs) = g :: fs :=
        addRow_of_mem ⟨g, List.mem_cons_self, h⟩
      rw [if_pos h, hthere, List.map_cons, if_pos h.symm]
      refine congrArg (_ :: ·) (List.map_congr_left fun g' hg' => ?_)
      -- no other field has this identifier
      have hother : f.id ≠ g'.id := fun heq =>
        hfs.1 (h.trans heq ▸ List.mem_map_of_mem hg')
      rw [if_neg hother]
    · rw [if_neg h, addRow_cons_of_ne h, List.map_cons, if_neg (Ne.symm h), ih hfs.2]

theorem latest_concat (fs : List FieldMirror) (f : FieldMirror) :
    latest (fs ++ [f]) = Archive.putField f (latest fs) := by
  unfold latest
  rw [putField_map (nodup_firsts fs), firsts_concat]
  simp only [lastLabel_concat]

/-! ## What rows leave -/

namespace Row

def application? : Row → Option Application
  | .application x => some x
  | _ => none

def entity? : Row → Option EntityMirror
  | .entity m => some m
  | _ => none

def field? : Row → Option FieldMirror
  | .field f => some f
  | _ => none

/-- What a row adds to the reference data of an archive. -/
def gather (a : Archive) : Row → Archive
  | .application x => a.addApplication x
  | .entity m => { a with entities := addRow EntityMirror.id m a.entities }
  | .field f => { a with fields := Archive.putField f a.fields }
  | _ => a

theorem gather_ofModifications (event : Uuid) (position : Nat) (ms : List ValueModification)
    (a : Archive) : (ofModifications event position ms).foldl gather a =
      ms.foldl (fun a m => a.addField m.field) a := by
  induction ms generalizing position a with
  | nil => rfl
  | cons m ms ih => exact ih (position + 1) _

theorem gather_ofRelationships (event : Uuid) (position : Nat) (rs : List RelationshipModification)
    (a : Archive) : (ofRelationships event position rs).foldl gather a =
      rs.foldl (fun a r => (a.addField r.field).addEntity r.entry.mirror) a := by
  induction rs generalizing position a with
  | nil => rfl
  | cons r rs ih => exact ih (position + 1) _

/-- The rows of an event add what the event refers to. -/
theorem gather_of (e : EventRecord) (a : Archive) : (of e).foldl gather a = a.addMirrors e := by
  cases e with
  | model e =>
    rw [of, List.foldl_cons, List.foldl_append, List.foldl_append, gather_ofModifications,
      gather_ofRelationships]
    rfl
  | request e => rfl
  | unspecified e => rfl

theorem gather_all (events : List EventRecord) (a : Archive) :
    (events.flatMap of).foldl gather a = events.foldl Archive.addMirrors a := by
  induction events generalizing a with
  | nil => rfl
  | cons e events ih => rw [List.flatMap_cons, List.foldl_append, gather_of, ih, List.foldl_cons]

end Row

namespace Archive

/-- The reference data alone. -/
def mirrors (a : Archive) : Archive := { a with events := [] }

/-- The reference data of some rows. -/
def ofRows (rows : List Row) : Archive where
  applications := firsts Application.id (rows.filterMap Row.application?)
  entities := firsts EntityMirror.id (rows.filterMap Row.entity?)
  fields := latest (rows.filterMap Row.field?)

/-- Rows leave the first under each identifier, and the last label of a field. -/
theorem gather_rows (rows : List Row) : rows.foldl Row.gather {} = ofRows rows := by
  induction rows using List.reverseRecOn with
  | nil => rfl
  | append_singleton rows row ih =>
    rw [List.foldl_append, ih]
    unfold ofRows
    cases row <;>
      simp only [List.foldl_cons, List.foldl_nil, List.filterMap_append, List.filterMap_cons,
        List.filterMap_nil, List.append_nil, Row.gather, Row.application?, Row.entity?, Row.field?,
        addApplication, firsts_concat, latest_concat]

end Archive

/-! ## Rows of reference data among those of an event -/

namespace Row

/-- The fields of an event are written in the order in which it refers to them. -/
theorem fields_of (e : EventRecord) : (of e).filterMap field? = e.fields := by
  cases e with
  | model e =>
    rw [filterMap_of_model, EventRecord.fields, List.map_eq_flatMap, List.map_eq_flatMap,
      ← flatMap_zipIdx _ e.modifications, ← flatMap_zipIdx _ e.relationships]
    rfl
  | request e => rfl
  | unspecified e => rfl

theorem entities_of (e : EventRecord) : (of e).filterMap entity? = e.entities := by
  cases e with
  | model e =>
    rw [filterMap_of_model, EventRecord.entities, List.map_eq_flatMap,
      ← flatMap_zipIdx _ e.modifications, ← flatMap_zipIdx _ e.relationships]
    rfl
  | request e => rfl
  | unspecified e => rfl

/-- With every type of entities its application is written. -/
theorem applications_of (e : EventRecord) : (of e).filterMap application? = e.applications := by
  cases e with
  | model e =>
    rw [filterMap_of_model, EventRecord.applications, EventRecord.entities, List.map_cons,
      List.map_append, List.map_map, List.map_flatMap, List.map_eq_flatMap,
      ← flatMap_zipIdx _ e.modifications, ← flatMap_zipIdx _ e.relationships]
    rfl
  | request e => rfl
  | unspecified e => rfl

/-- What events refer to, in the order in which it is written. -/
theorem ofRows_all (events : List EventRecord) : Archive.ofRows (events.flatMap of) =
    { applications := firsts Application.id (events.flatMap EventRecord.applications)
      entities := firsts EntityMirror.id (events.flatMap EventRecord.entities)
      fields := latest (events.flatMap EventRecord.fields) } := by
  unfold Archive.ofRows
  rw [List.filterMap_flatMap, List.filterMap_flatMap, List.filterMap_flatMap]
  simp only [applications_of, entities_of, fields_of]

end Row

end AuditTrail
