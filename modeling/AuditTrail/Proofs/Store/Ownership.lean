import AuditTrail.Proofs.Store.Links

/-
  The rows that belong to an event. An event whose rows were all written is held by the tables
  (`holds_of_write`): under its identifier there are its own rows and no others, those of its
  modifications and relationships numbered in their order. Rows of other events leave it so
  (`Holds.write`), for a row that belongs to an event comes behind a row of that event, which would
  be refused a second time; and so does a deletion that does not take the event
  (`Holds.deleteBefore`).
-/
namespace AuditTrail

variable {β : Type}

/-! ## Tables and the rows for them -/

namespace Row

def modelRow? : Row → Option ModelRow
  | .model r => some r
  | _ => none

def entryRow? : Row → Option EntryRow
  | .entry r => some r
  | _ => none

def modificationRow? : Row → Option ModificationRow
  | .modification r => some r
  | _ => none

def relationshipRow? : Row → Option RelationshipRow
  | .relationship r => some r
  | _ => none

def requestRow? : Row → Option RequestRow
  | .request r => some r
  | _ => none

def unspecifiedRow? : Row → Option UnspecifiedRow
  | .unspecified r => some r
  | _ => none

/-- The rows of one kind go behind those that are in a table. -/
structure Fills (table : Tables → List β) (row? : Row → Option β) : Prop where
  put (row : Row) (t : Tables) : table (row.put t) = table t ++ (row? row).toList

/-- Besides, one is refused that repeats an identifier. -/
structure Keys (table : Tables → List β) (row? : Row → Option β) (id : β → Uuid) : Prop
    extends Fills table row? where
  refused (row : Row) (t : Tables) (r : β) :
    row? row = some r → row.refused t = (table t).any (id · == id r)

theorem keys_models : Keys Tables.models modelRow? ModelRow.id where
  put row t := by cases row <;> first | rfl | exact (List.append_nil _).symm
  refused row t r h := by
    cases row with
    | model r' => cases h; rfl
    | _ => cases h

theorem keys_entries : Keys Tables.entries entryRow? EntryRow.id where
  put row t := by cases row <;> first | rfl | exact (List.append_nil _).symm
  refused row t r h := by
    cases row with
    | entry r' => cases h; rfl
    | _ => cases h

theorem keys_requests : Keys Tables.requests requestRow? RequestRow.id where
  put row t := by cases row <;> first | rfl | exact (List.append_nil _).symm
  refused row t r h := by
    cases row with
    | request r' => cases h; rfl
    | _ => cases h

theorem keys_unspecified : Keys Tables.unspecified unspecifiedRow? UnspecifiedRow.id where
  put row t := by cases row <;> first | rfl | exact (List.append_nil _).symm
  refused row t r h := by
    cases row with
    | unspecified r' => cases h; rfl
    | _ => cases h

theorem fills_modifications : Fills Tables.modifications modificationRow? where
  put row t := by cases row <;> first | rfl | exact (List.append_nil _).symm

theorem fills_relationships : Fills Tables.relationships relationshipRow? where
  put row t := by cases row <;> first | rfl | exact (List.append_nil _).symm

section

variable {table : Tables → List β} {row? : Row → Option β} {id : β → Uuid} {t : Tables}
  {row : Row}

theorem Fills.foldl (h : Fills table row?) (rows : List Row) (t : Tables) :
    table (rows.foldl Row.put t) = table t ++ rows.filterMap row? := by
  induction rows generalizing t with
  | nil => exact (List.append_nil _).symm
  | cons row rows ih =>
    rw [List.foldl_cons, ih, h.put, List.append_assoc]
    cases hrow : row? row with
    | none => rw [List.filterMap_cons_none hrow]; rfl
    | some r => rw [List.filterMap_cons_some hrow]; rfl

/-- What is looked for stays the same if the row is none of it. -/
theorem Fills.filter_put (h : Fills table row?) {p : β → Bool}
    (hrow : ∀ r, row? row = some r → p r = false) :
    (table (row.put t)).filter p = (table t).filter p := by
  rw [h.put, List.filter_append]
  cases hr : row? row with
  | none => exact List.append_nil _
  | some r => simp [hrow r hr]

/-- What is there under an identifier is all that ever is. -/
theorem Keys.filter_put (h : Keys table row? id) (hrow : row.refused t = false) {u : Uuid} {r : β}
    (hr : (table t).filter (id · == u) = [r]) : (table (row.put t)).filter (id · == u) = [r] := by
  refine (h.toFills.filter_put fun r' hr' => ?_).trans hr
  obtain ⟨hmem, hid⟩ := List.mem_filter.mp (hr ▸ List.mem_cons_self : r ∈ _)
  rw [h.refused row t r' hr'] at hrow
  exact beq_eq_false_iff_ne.mpr fun heq =>
    List.any_eq_false.mp hrow r hmem (beq_iff_eq.mpr ((beq_iff_eq.mp hid).trans heq.symm))

theorem Keys.filter_write (h : Keys table row? id) {u : Uuid} {r : β}
    (hr : (table t).filter (id · == u) = [r]) (rows : List Row) :
    (table (Tables.write rows t).2).filter (id · == u) = [r] := by
  induction rows generalizing t with
  | nil => exact hr
  | cons row rows ih =>
    rw [Tables.write]
    split
    next => exact hr
    next hrow => exact ih (h.filter_put (Bool.of_not_eq_true hrow) hr)

theorem Keys.nodup_put (h : Keys table row? id) (hrow : row.refused t = false)
    (hids : ((table t).map id).Nodup) : ((table (row.put t)).map id).Nodup := by
  rw [h.put, List.map_append]
  cases hr : row? row with
  | none => rwa [Option.toList_none, List.map_nil, List.append_nil]
  | some r =>
    rw [h.refused row t r hr] at hrow
    refine List.nodup_append.mpr ⟨hids, List.pairwise_singleton _ _, fun u hu v hv heq => ?_⟩
    obtain ⟨r', hr', rfl⟩ := List.mem_map.mp hu
    rw [List.mem_singleton.mp hv] at heq
    exact List.any_eq_false.mp hrow r' hr' (beq_iff_eq.mpr heq)

end

/-! ## The rows of a change of an entity -/

/-- The event that a row is part of, other than the event's own row. -/
def owner? : Row → Option Uuid
  | .entry r => some r.event
  | .modification r => some r.event
  | .relationship r => some r.event
  | _ => none

theorem mem_refers_of_owner {row : Row} {u : Uuid} (h : row.owner? = some u) :
    .model u ∈ row.refers := by
  cases row with
  | entry r => cases h; exact List.mem_cons_self
  | modification r => cases h; exact List.mem_cons_self
  | relationship r => cases h; exact List.mem_cons_self
  | _ => cases h

theorem owner_of_entryRow {row : Row} {r : EntryRow} (h : entryRow? row = some r) :
    row.owner? = some r.event := by
  cases row with
  | entry _ => cases h; rfl
  | _ => cases h

theorem owner_of_modificationRow {row : Row} {r : ModificationRow}
    (h : modificationRow? row = some r) : row.owner? = some r.event := by
  cases row with
  | modification _ => cases h; rfl
  | _ => cases h

theorem owner_of_relationshipRow {row : Row} {r : RelationshipRow}
    (h : relationshipRow? row = some r) : row.owner? = some r.event := by
  cases row with
  | relationship _ => cases h; rfl
  | _ => cases h

end Row

namespace Tables

/-- The entries of an event, the one it is about first. -/
def entryRows (e : MutationEvent) : List EntryRow :=
  entryRow e.id e.entry true :: e.relationships.map (entryRow e.id ·.entry false)

def modificationRows (e : MutationEvent) : List ModificationRow :=
  e.modifications.zipIdx.map fun m => modificationRow e.id m.1 m.2

def relationshipRows (e : MutationEvent) : List RelationshipRow :=
  e.relationships.zipIdx.map fun r => relationshipRow e.id r.1 r.2

end Tables

namespace Row

open Tables (entryRow modelRow)

theorem models_of (e : MutationEvent) : (of (.model e)).filterMap modelRow? = [modelRow e] := by
  rw [filterMap_of_model]
  simp [modelRow?, ofField, ofEntity, List.filterMap_cons]

theorem entries_of (e : MutationEvent) :
    (of (.model e)).filterMap entryRow? = Tables.entryRows e := by
  have hrelated : e.relationships.zipIdx.flatMap (fun r => [entryRow e.id r.1.entry false]) =
      e.relationships.map (entryRow e.id ·.entry false) := by
    rw [flatMap_zipIdx fun r : RelationshipModification => [entryRow e.id r.entry false],
      List.map_eq_flatMap]
  rw [filterMap_of_model, Tables.entryRows, ← hrelated]
  simp [entryRow?, ofField, ofEntity, List.filterMap_cons]

theorem modifications_of (e : MutationEvent) :
    (of (.model e)).filterMap modificationRow? = Tables.modificationRows e := by
  rw [filterMap_of_model, Tables.modificationRows, List.map_eq_flatMap]
  simp [modificationRow?, ofField, ofEntity, List.filterMap_cons]

theorem relationships_of (e : MutationEvent) :
    (of (.model e)).filterMap relationshipRow? = Tables.relationshipRows e := by
  rw [filterMap_of_model, Tables.relationshipRows, List.map_eq_flatMap]
  simp [relationshipRow?, ofField, ofEntity, List.filterMap_cons]

end Row

/-! ## Events that are held -/

namespace Tables

variable {t : Tables} {row : Row}

/-- The rows under the identifier of a change of an entity are its own. -/
structure HoldsMutation (t : Tables) (e : MutationEvent) : Prop where
  model : t.models.filter (·.id == e.id) = [modelRow e]
  entries : t.entries.filter (·.event == e.id) = entryRows e
  modifications : t.modifications.filter (·.event == e.id) = modificationRows e
  relationships : t.relationships.filter (·.event == e.id) = relationshipRows e

/-- The rows under the identifier of an event are its own. -/
def Holds (t : Tables) : EventRecord → Prop
  | .model e => t.HoldsMutation e
  | .request e => t.requests.filter (·.id == e.id) = [requestRow e]
  | .unspecified e => t.unspecified.filter (·.id == e.id) = [unspecifiedRow e]

/-! ### Writing -/

theorem HoldsMutation.put {e : MutationEvent} (h : t.HoldsMutation e)
    (hrow : row.refused t = false) (howner : row.owner? ≠ some e.id) :
    (row.put t).HoldsMutation e := by
  have hother : ∀ {u : Uuid}, row.owner? = some u → (u == e.id) = false := fun hu =>
    beq_eq_false_iff_ne.mpr fun heq => howner (heq ▸ hu)
  constructor
  · exact Row.keys_models.filter_put hrow h.model
  · exact (Row.keys_entries.toFills.filter_put fun _ hr =>
      hother (Row.owner_of_entryRow hr)).trans h.entries
  · exact (Row.fills_modifications.filter_put fun _ hr =>
      hother (Row.owner_of_modificationRow hr)).trans h.modifications
  · exact (Row.fills_relationships.filter_put fun _ hr =>
      hother (Row.owner_of_relationshipRow hr)).trans h.relationships

theorem HoldsMutation.refused {e : MutationEvent} (h : t.HoldsMutation e) {r : ModelRow}
    (hid : r.id = e.id) : (Row.model r).refused t = true := by
  have hmem : modelRow e ∈ t.models := (List.mem_filter.mp (h.model ▸ List.mem_cons_self)).1
  exact List.any_eq_true.mpr ⟨modelRow e, hmem, beq_iff_eq.mpr hid.symm⟩

/-- Rows that come behind the row of their event leave an event alone that is held: a second row of
it would be refused. -/
theorem HoldsMutation.write {e : MutationEvent} (h : t.HoldsMutation e) {known : List Link}
    {rows : List Row} (hrows : Row.Grounded known rows) (hknown : Link.model e.id ∉ known) :
    (write rows t).2.HoldsMutation e := by
  induction rows generalizing t known with
  | nil => exact h
  | cons row rows ih =>
    rw [Tables.write]
    split
    next => exact h
    next hrow =>
      have howner : row.owner? ≠ some e.id := fun howner =>
        hknown (hrows.1 _ (Row.mem_refers_of_owner howner))
      have hoffers : Link.model e.id ∉ row.offers := by
        intro hoffers
        cases row with
        | model r =>
          have hid := Link.model.inj (List.mem_singleton.mp hoffers)
          exact hrow (h.refused hid.symm)
        | _ => simp [Row.offers] at hoffers
      refine ih (h.put (Bool.of_not_eq_true hrow) howner) hrows.2 ?_
      exact fun hmem => (List.mem_append.mp hmem).elim hoffers hknown

/-- An event that is held stays so when others are inserted. -/
theorem Holds.write {e : EventRecord} (h : t.Holds e) {rows : List Row}
    (hrows : Row.Grounded [] rows) : (write rows t).2.Holds e := by
  cases e with
  | model e => exact HoldsMutation.write h hrows List.not_mem_nil
  | request e => exact Row.keys_requests.filter_write h rows
  | unspecified e => exact Row.keys_unspecified.filter_write h rows

/-- Nothing refers to an event that is not there. -/
theorem Linked.no_owned (h : t.Linked) {u : Uuid} (hu : ∀ r ∈ t.models, r.id ≠ u) :
    t.entries.filter (·.event == u) = [] ∧ t.modifications.filter (·.event == u) = [] ∧
      t.relationships.filter (·.event == u) = [] := by
  have hnone : ∀ {event : Uuid}, t.Has (.model event) → ¬ (event == u) = true := fun hhas heq => by
    obtain ⟨r, hr, hid⟩ := hhas
    exact hu r hr (hid.trans (beq_iff_eq.mp heq))
  refine ⟨?_, ?_, ?_⟩
  · exact List.filter_eq_nil_iff.mpr fun r hr => hnone (h.joins.entries r hr).1
  · exact List.filter_eq_nil_iff.mpr fun r hr => hnone (h.joins.modifications r hr).1
  · exact List.filter_eq_nil_iff.mpr fun r hr => hnone (h.joins.relationships r hr).1

theorem filter_own {p : β → Bool} {rows own : List β} (hrows : rows.filter p = [])
    (hown : ∀ r ∈ own, p r = true) : (rows ++ own).filter p = own := by
  rw [List.filter_append, hrows, List.nil_append, List.filter_eq_self.mpr hown]

/-- A row that was written had a new identifier. -/
theorem filter_of_not_refused {table : Tables → List β} {row? : Row → Option β} {id : β → Uuid}
    (h : Row.Keys table row? id) {r : β} (hr : row? row = some r) (hrow : row.refused t = false) :
    (table t).filter (id · == id r) = [] := by
  rw [h.refused row t r hr] at hrow
  exact List.filter_eq_nil_iff.mpr (List.any_eq_false.mp hrow)

theorem not_refused_of_ok {rows : List Row} (hok : (write (row :: rows) t).1 = .ok ()) :
    row.refused t = false ∧ (write rows (row.put t)).1 = .ok () := by
  rw [write] at hok
  split at hok
  next => cases hok
  next hrow => exact ⟨Bool.of_not_eq_true hrow, hok⟩

/-- An event whose rows were all written is held. -/
theorem holds_of_write (h : t.Linked) {e : EventRecord} (hok : (write (Row.of e) t).1 = .ok ()) :
    (write (Row.of e) t).2.Holds e := by
  rw [write_snd, taken_of_ok hok]
  cases e with
  | model e =>
    obtain ⟨hrow, -⟩ := not_refused_of_ok hok
    have hmodels : t.models.filter (·.id == e.id) = [] :=
      filter_of_not_refused Row.keys_models (r := modelRow e) rfl hrow
    have hnew : ∀ r ∈ t.models, r.id ≠ e.id := fun r hr heq =>
      List.filter_eq_nil_iff.mp hmodels r hr (beq_iff_eq.mpr heq)
    obtain ⟨hentries, hmodifications, hrelationships⟩ := h.no_owned hnew
    constructor
    · rw [Row.keys_models.foldl, Row.models_of]
      exact filter_own hmodels (List.forall_mem_singleton.mpr (beq_self_eq_true _))
    · rw [Row.keys_entries.foldl, Row.entries_of]
      refine filter_own hentries (List.forall_mem_cons.mpr ⟨beq_self_eq_true _, ?_⟩)
      exact List.forall_mem_map.mpr fun r _ => beq_self_eq_true _
    · rw [Row.fills_modifications.foldl, Row.modifications_of]
      exact filter_own hmodifications (List.forall_mem_map.mpr fun m _ => beq_self_eq_true _)
    · rw [Row.fills_relationships.foldl, Row.relationships_of]
      exact filter_own hrelationships (List.forall_mem_map.mpr fun r _ => beq_self_eq_true _)
  | request e =>
    obtain ⟨-, hrest⟩ := not_refused_of_ok hok
    obtain ⟨hrow, -⟩ := not_refused_of_ok hrest
    have hrequests : (t.addApplication e.application).requests.filter (·.id == e.id) = [] :=
      filter_of_not_refused Row.keys_requests (r := requestRow e) rfl hrow
    exact filter_own hrequests (List.forall_mem_singleton.mpr (beq_self_eq_true _))
  | unspecified e =>
    obtain ⟨-, hrest⟩ := not_refused_of_ok hok
    obtain ⟨hrow, -⟩ := not_refused_of_ok hrest
    have hunspecified : (t.addApplication e.application).unspecified.filter (·.id == e.id) = [] :=
      filter_of_not_refused Row.keys_unspecified (r := unspecifiedRow e) rfl hrow
    exact filter_own hunspecified (List.forall_mem_singleton.mpr (beq_self_eq_true _))

/-- Of events whose rows were all written each one is held. -/
theorem holds_of_writeAll (h : t.Linked) {events : List EventRecord}
    (hok : (write (events.flatMap Row.of) t).1 = .ok ()) :
    ∀ e ∈ events, (write (events.flatMap Row.of) t).2.Holds e := by
  induction events generalizing t with
  | nil => exact fun e he => absurd he List.not_mem_nil
  | cons e events ih =>
    rw [List.flatMap_cons, write_append] at hok ⊢
    cases hwrite : write (Row.of e) t with | mk result t' =>
    rw [hwrite] at hok
    cases result with
    | error _ => cases hok
    | ok _ =>
      have hgrounded : Row.Grounded [] (Row.of e) := Row.grounded_of e
      have hlinked := h.write hgrounded (List.forall_mem_nil _)
      have hheld := holds_of_write h (e := e) (by rw [hwrite])
      rw [hwrite] at hlinked hheld
      exact List.forall_mem_cons.mpr
        ⟨hheld.write (Row.grounded_all events), ih hlinked hok⟩

/-! ### Deletions -/

/-- What is looked for stays the same if none of it is dropped. -/
theorem filter_kept {p keep : β → Bool} {rows own : List β} (hown : rows.filter p = own)
    (hkeep : ∀ r ∈ own, keep r = true) : (rows.filter keep).filter p = own := by
  have hswap : (rows.filter keep).filter p = (rows.filter p).filter keep := by
    rw [List.filter_filter, List.filter_filter]
    exact List.filter_congr fun _ _ => Bool.and_comm _ _
  rw [hswap, hown, List.filter_eq_self.mpr hkeep]

/-- An event that is held is not among the old ones if it has not their time. -/
theorem HoldsMutation.not_mem_old {e : MutationEvent} (h : t.HoldsMutation e) {cutoff : Int}
    (hkept : ¬ e.createdAt.toMicros < cutoff) :
    e.id ∉ (t.models.filter fun r => r.createdAt < cutoff).map (·.id) := by
  intro hmem
  obtain ⟨r, hr, hid⟩ := List.mem_map.mp hmem
  obtain ⟨hr, hold⟩ := List.mem_filter.mp hr
  have hown : r ∈ t.models.filter (·.id == e.id) :=
    List.mem_filter.mpr ⟨hr, beq_iff_eq.mpr hid⟩
  rw [h.model] at hown
  rw [List.mem_singleton.mp hown] at hold
  exact hkept (of_decide_eq_true hold)

/-- A deletion that does not take an event leaves it alone. -/
theorem Holds.deleteBefore {e : EventRecord} (h : t.Holds e) {c : Category} {cutoff : Int}
    (hkept : c = e.category → ¬ e.createdAt.toMicros < cutoff) :
    (t.deleteBefore c cutoff).2.Holds e := by
  have hnew : c = e.category → (!decide (e.createdAt.toMicros < cutoff)) = true :=
    fun hc => by simpa using hkept hc
  cases c with
  | model =>
    rw [deleteBefore_model]
    cases e with
    | model e =>
      have hgone := HoldsMutation.not_mem_old h (hkept rfl)
      have hstays : (!((t.models.filter fun r => r.createdAt < cutoff).map (·.id)).contains e.id) =
          true := by simpa using hgone
      obtain ⟨hmodel, hentries, hmodifications, hrelationships⟩ := h
      constructor
      · exact filter_kept hmodel (List.forall_mem_singleton.mpr (hnew rfl))
      · exact filter_kept hentries (List.forall_mem_cons.mpr
          ⟨hstays, List.forall_mem_map.mpr fun r _ => hstays⟩)
      · exact filter_kept hmodifications (List.forall_mem_map.mpr fun m _ => hstays)
      · exact filter_kept hrelationships (List.forall_mem_map.mpr fun r _ => hstays)
    | request e => exact h
    | unspecified e => exact h
  | request =>
    rw [deleteBefore_request]
    cases e with
    | model e => exact ⟨h.model, h.entries, h.modifications, h.relationships⟩
    | request e =>
      exact filter_kept h (List.forall_mem_singleton.mpr (hnew rfl))
    | unspecified e => exact h
  | unspecified =>
    rw [deleteBefore_unspecified]
    cases e with
    | model e => exact ⟨h.model, h.entries, h.modifications, h.relationships⟩
    | request e => exact h
    | unspecified e =>
      exact filter_kept h (List.forall_mem_singleton.mpr (hnew rfl))

/-! ### Identifiers -/

/-- No identifier is there twice. -/
structure Distinct (t : Tables) : Prop where
  stamps (c : Category) : ((t.stamps c).map Prod.fst).Nodup
  entries : t.entryIds.Nodup

theorem Distinct.put (h : t.Distinct) (hrow : row.refused t = false) : (row.put t).Distinct where
  stamps c := by
    have hids := h.stamps c
    cases c with
    | model =>
      simp only [Tables.stamps, List.map_map] at hids ⊢
      exact Row.keys_models.nodup_put hrow hids
    | request =>
      simp only [Tables.stamps, List.map_map] at hids ⊢
      exact Row.keys_requests.nodup_put hrow hids
    | unspecified =>
      simp only [Tables.stamps, List.map_map] at hids ⊢
      exact Row.keys_unspecified.nodup_put hrow hids
  entries := Row.keys_entries.nodup_put hrow h.entries

theorem Distinct.write (h : t.Distinct) (rows : List Row) : (write rows t).2.Distinct := by
  induction rows generalizing t with
  | nil => exact h
  | cons row rows ih =>
    rw [Tables.write]
    split
    next => exact h
    next hrow => exact ih (h.put (Bool.of_not_eq_true hrow))

theorem Distinct.deleteBefore (h : t.Distinct) (c : Category) (cutoff : Int) :
    (t.deleteBefore c cutoff).2.Distinct := by
  obtain ⟨-, -, hstamps, hentries⟩ := deleteBefore_spec c cutoff t
  refine ⟨fun d => ?_, h.entries.sublist hentries⟩
  rw [hstamps]
  split
  next => exact (h.stamps c).sublist (List.filter_sublist.map _)
  next => exact h.stamps d

/-! ### Calls -/

end Tables

/-- Whether a call deletes an event: one of its category and of a time before the call's. -/
def StagedOp.Sweeps (e : EventRecord) : StagedOp → Prop
  | .insert _ => False
  | .delete c cutoff => c = e.category ∧ e.createdAt.toMicros < cutoff.toMicros

instance (e : EventRecord) (op : StagedOp) : Decidable (op.Sweeps e) :=
  match op with
  | .insert _ => inferInstanceAs (Decidable False)
  | .delete _ _ => inferInstanceAs (Decidable (_ ∧ _))

namespace Tables

variable {t : Tables}

theorem apply_insert (events : List EventRecord) (t : Tables) :
    t.apply (.insert events) = (write (events.flatMap Row.of) t).2 :=
  congrArg Prod.snd (insertAll_performs events t)

theorem Holds.apply {e : EventRecord} (h : t.Holds e) {op : StagedOp} (hop : ¬ op.Sweeps e) :
    (t.apply op).Holds e := by
  cases op with
  | insert events =>
    rw [apply_insert]
    exact h.write (Row.grounded_all events)
  | delete c cutoff => exact h.deleteBefore fun hc hbefore => hop ⟨hc, hbefore⟩

/-- An event that is held stays so along calls that do not sweep it. -/
theorem Holds.calls {e : EventRecord} (h : t.Holds e) {ops : List StagedOp}
    (hops : ∀ op ∈ ops, ¬ op.Sweeps e) : (ops.foldl Tables.apply t).Holds e := by
  induction ops generalizing t with
  | nil => exact h
  | cons op ops ih =>
    obtain ⟨hop, hrest⟩ := List.forall_mem_cons.mp hops
    exact ih (h.apply hop) hrest

theorem distinct_of_calls (ops : List StagedOp) : (ops.foldl Tables.apply {}).Distinct := by
  have hrun : ∀ t : Tables, t.Distinct → (ops.foldl Tables.apply t).Distinct := by
    induction ops with
    | nil => exact fun _ h => h
    | cons op ops ih =>
      refine fun t h => ih (t.apply op) ?_
      cases op with
      | insert events =>
        rw [apply_insert]
        exact h.write _
      | delete c cutoff => exact h.deleteBefore c cutoff.toMicros
  refine hrun {} ⟨fun c => ?_, List.nodup_nil⟩
  cases c <;> exact List.nodup_nil

end Tables

end AuditTrail
