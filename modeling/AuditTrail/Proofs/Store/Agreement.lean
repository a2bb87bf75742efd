import AuditTrail.Proofs.Store.Replay
import Mathlib.Data.List.Forall2

/-
  The store in memory and the tables do the same for a handler. A transaction as a handler makes it
  inserts events at most once and then deletes from each category at most once (`Transaction`). The
  one store stages all of it and goes through what is staged at the commit; the other one runs
  statements as they come. So a transaction is followed step by step with what the staged operations
  would leave (`Agree.insert`, `Agree.deleteBefore`), and then ended (`run_agrees`); a run of
  transactions follows by induction (`memory_and_tables_agree`).
-/
namespace AuditTrail

variable {σ τ : Type}

/-! ## Transactions -/

/-- A transaction of the shape that a handler makes. -/
structure Transaction where
  /-- The events to be inserted, if any are. -/
  events : Option (List EventRecord) := none
  deletions : List (Category × Timestamp) := []
  commits : Bool := true
  deletions_nodup : (deletions.map Prod.fst).Nodup := by decide

/-- What the calls of a transaction answered. -/
structure Answers where
  inserted : Option (Except StoreError Nat)
  deleted : List (Except StoreError Nat)
  ended : Except StoreError Unit

/-- No call was refused. -/
structure Answers.Granted (a : Answers) : Prop where
  inserted : ∀ r ∈ a.inserted, r.isOk = true
  deleted : ∀ r ∈ a.deleted, r.isOk = true
  ended : a.ended = .ok ()

namespace Transaction

/-- The events that are inserted. -/
def inserted (x : Transaction) : List EventRecord := x.events.getD []

/-- Inserts events, if there is something to insert. -/
def insertWithin (S : Store σ τ) :
    Option (List EventRecord) → τ → σ → Option (Except StoreError Nat) × τ × σ
  | none, t, s => (none, t, s)
  | some events, t, s =>
    let (result, t, s) := S.insert events t s
    (some result, t, s)

/-- Stages deletions one after the other. -/
def deleteWithin (S : Store σ τ) :
    List (Category × Timestamp) → τ → σ → List (Except StoreError Nat) × τ × σ
  | [], t, s => ([], t, s)
  | (c, cutoff) :: rest, t, s =>
    let (result, t, s) := S.deleteBefore c cutoff t s
    let (results, t, s) := deleteWithin S rest t s
    (result :: results, t, s)

/-- Ends a transaction. -/
def finish (S : Store σ τ) (commits : Bool) (t : τ) (s : σ) : Except StoreError Unit × σ :=
  if commits then S.commit t s else S.rollback t s

/-- Runs a transaction on a store. -/
def run (S : Store σ τ) (x : Transaction) (s : σ) : Except StoreError Answers × σ :=
  match S.start s with
  | (.error e, s) => (.error e, s)
  | (.ok t, s) =>
    let (inserted, t, s) := insertWithin S x.events t s
    let (deleted, t, s) := deleteWithin S x.deletions t s
    let (ended, s) := finish S x.commits t s
    (.ok ⟨inserted, deleted, ended⟩, s)

/-- Runs transactions one at a time: what each one answered and what the store held after it. -/
def runAll (S : Store σ τ) : List Transaction → σ → List (Except StoreError Answers × σ)
  | [], _ => []
  | x :: xs, s => x.run S s :: runAll S xs (x.run S s).2

/-- What has been stored after a transaction, where it was `seen` before. -/
def seenAfter (seen : List EventRecord) (x : Transaction) : List EventRecord :=
  if x.commits then seen ++ x.inserted else seen

/-- Along the transactions every event and every entry comes under an identifier that nothing of
its own transaction or of a committed one has. A generation that was rolled back may come again. -/
def Fresh (seen : List EventRecord) : List Transaction → Prop
  | [] => True
  | x :: xs =>
    ((seen ++ x.inserted).map EventRecord.id).Nodup ∧
      ((seen ++ x.inserted).flatMap EventRecord.entryIds).Nodup ∧ Fresh (x.seenAfter seen) xs

instance Fresh.decidable : ∀ seen xs, Decidable (Fresh seen xs)
  | _, [] => inferInstanceAs (Decidable True)
  | seen, x :: xs =>
    have := Fresh.decidable (x.seenAfter seen) xs
    inferInstanceAs (Decidable (_ ∧ _ ∧ _))

/-- All times are in whole microseconds. -/
structure WholeMicros (x : Transaction) : Prop where
  events : ∀ e ∈ x.inserted, e.createdAt.IsWholeMicros
  cutoffs : ∀ d ∈ x.deletions, d.2.IsWholeMicros

instance (x : Transaction) : Decidable x.WholeMicros :=
  decidable_of_iff ((∀ e ∈ x.inserted, e.createdAt.IsWholeMicros) ∧
    ∀ d ∈ x.deletions, d.2.IsWholeMicros) ⟨fun h => ⟨h.1, h.2⟩, fun h => ⟨h.events, h.cutoffs⟩⟩

end Transaction

/-- The archive and the tables hold the same: the events of every category under their identifiers,
applications, types of entities and fields with their names, owners and labels. -/
structure HoldSame (a : Archive) (t : Tables) : Prop where
  events (c : Category) : (t.stamps c).map Prod.fst = (a.eventsOf c).map EventRecord.id
  applications : t.applications = a.applications
  entities : t.entities = a.entities.map EntityRow.of
  fields : t.fields = a.fields.map FieldRow.of

/-! ## One operation on both -/

/-- The archive and the tables agree, where both were filled with some of the events `seen`. -/
structure Agree (seen : List EventRecord) (a : Archive) (t : Tables) : Prop where
  reference : t.reference = a.reference
  stamps (c : Category) : t.stamps c = (a.eventsOf c).map EventRecord.stamp
  events : a.events.Sublist seen
  entries : t.entryIds.Sublist (seen.flatMap EventRecord.entryIds)

namespace Agree

variable {seen : List EventRecord} {a : Archive} {t : Tables}

theorem holdSame (h : Agree seen a t) : HoldSame a t := by
  refine ⟨fun c => ?_, congrArg Reference.applications h.reference,
    congrArg Reference.entities h.reference, congrArg Reference.fields h.reference⟩
  rw [h.stamps, List.map_map]
  rfl

/-- Events under new identifiers are taken in by both. -/
theorem insert (h : Agree seen a t) {events : List EventRecord}
    (hids : ((seen ++ events).map EventRecord.id).Nodup)
    (hentries : ((seen ++ events).flatMap EventRecord.entryIds).Nodup) :
    ∃ t', Tables.perform (events.forM Tables.insertEvent) t = (.ok (), t') ∧
      Agree (seen ++ events) (a.insert events) t' := by
  have hids' : ∀ c, ((t.stamps c).map Prod.fst ++
      (events.filter (·.category == c)).map EventRecord.id).Nodup := by
    intro c
    rw [List.map_append] at hids
    rw [h.holdSame.events]
    have hstored : (a.eventsOf c).Sublist seen := List.filter_sublist.trans h.events
    exact hids.sublist ((hstored.map _).append (List.filter_sublist.map _))
  have hentries' : (t.entryIds ++ events.flatMap EventRecord.entryIds).Nodup := by
    rw [List.flatMap_append] at hentries
    exact hentries.sublist (h.entries.append (List.Sublist.refl _))
  obtain ⟨t', hperform, hgains⟩ := Tables.insertAll_spec hids' hentries'
  refine ⟨t', hperform, ?_, fun c => ?_, ?_, ?_⟩
  · rw [hgains.reference, h.reference, Archive.reference_insert]
  · rw [hgains.stamps, h.stamps, Archive.eventsOf_insert, List.map_append]
  · rw [Archive.events_insert]
    exact h.events.append (List.Sublist.refl _)
  · rw [hgains.entries, List.flatMap_append]
    exact h.entries.append (List.Sublist.refl _)

/-- The expired events of a category are the same in both. -/
theorem isBefore (h : Agree seen a t) (hseen : ∀ e ∈ seen, e.createdAt.IsWholeMicros)
    {cutoff : Timestamp} (hcutoff : cutoff.IsWholeMicros) {c : Category} {e : EventRecord}
    (he : e ∈ a.eventsOf c) :
    e.isBefore c cutoff = isBeforeMicros cutoff.toMicros e.stamp := by
  obtain ⟨hmem, hcategory⟩ := List.mem_filter.mp he
  exact EventRecord.isBefore_eq (beq_iff_eq.mp hcategory) (hseen e (h.events.subset hmem)) hcutoff

/-- The tables count what the archive has of a category from before a time. -/
theorem deleteBefore_count (h : Agree seen a t) (hseen : ∀ e ∈ seen, e.createdAt.IsWholeMicros)
    {cutoff : Timestamp} (hcutoff : cutoff.IsWholeMicros) (c : Category) :
    (t.deleteBefore c cutoff.toMicros).1 = a.events.countP (·.isBefore c cutoff) := by
  obtain ⟨hcount, -, -, -⟩ := Tables.deleteBefore_spec c cutoff.toMicros t
  have hcategory : ∀ e ∈ a.events,
      (e.isBefore c cutoff = true ↔ (e.isBefore c cutoff && e.category == c) = true) := by
    intro e _
    rw [EventRecord.isBefore]
    cases e.category == c <;> simp
  rw [hcount, h.stamps, List.countP_map, List.countP_congr hcategory, ← List.countP_filter]
  refine List.countP_congr fun e he => ?_
  rw [h.isBefore hseen hcutoff he]
  rfl

/-- A deletion leaves the same in both. -/
theorem deleteBefore (h : Agree seen a t) (hseen : ∀ e ∈ seen, e.createdAt.IsWholeMicros)
    {cutoff : Timestamp} (hcutoff : cutoff.IsWholeMicros) (c : Category) :
    Agree seen (a.deleteBefore c cutoff) (t.deleteBefore c cutoff.toMicros).2 := by
  obtain ⟨-, hreference, hstamps, hentries⟩ := Tables.deleteBefore_spec c cutoff.toMicros t
  refine ⟨hreference.trans h.reference, fun d => ?_, List.filter_sublist.trans h.events,
    hentries.trans h.entries⟩
  rw [hstamps, Archive.eventsOf_deleteBefore]
  split
  next =>
    rw [h.stamps, List.filter_map]
    congr 1
    refine List.filter_congr fun e he => ?_
    rw [h.isBefore hseen hcutoff he]
    rfl
  next => exact h.stamps d

end Agree

/-! ## One transaction on both -/

/-- As long as no deletion from a category is staged, what is said to be deleted from it is what the
staged operations would leave of it. -/
theorem MemoryStore.countBefore_eq {c : Category} {staged : Staged} {s : MemoryStore}
    (hstaged : ∀ cutoff, StagedOp.delete c cutoff ∉ staged) (cutoff : Timestamp) :
    s.countBefore c cutoff staged =
      (staged.foldl StagedOp.apply s.archive).events.countP (·.isBefore c cutoff) := by
  rw [MemoryStore.countBefore_gathered]
  refine ((StagedOp.countP_survivors_iff _).mpr ?_).symm
  rintro before op after rfl e - hstruck
  have hmem : op ∈ before ++ op :: after := List.mem_append_right _ List.mem_cons_self
  cases op with
  | insert events => cases hstruck
  | delete d cutoff' =>
    have hother : d ≠ c := fun heq => hstaged cutoff' (heq ▸ hmem)
    simp only [StagedOp.strikes, EventRecord.isBefore, Bool.and_eq_true, beq_iff_eq] at hstruck ⊢
    rw [hstruck.1, beq_eq_false_iff_ne.mpr hother, Bool.false_and]

namespace Transaction

variable {seen : List EventRecord} {staged : Staged} {work t : Tables} {s : MemoryStore}

/-- Inserting answers the same in both stores, and is not refused. -/
theorem insertWithin_agrees (h : Agree seen (staged.foldl StagedOp.apply s.archive) work)
    {events : Option (List EventRecord)}
    (hids : ((seen ++ events.getD []).map EventRecord.id).Nodup)
    (hentries : ((seen ++ events.getD []).flatMap EventRecord.entryIds).Nodup) :
    ∃ answer more work', insertWithin MemoryStore.store events staged s =
        (answer, staged ++ more, s) ∧
      insertWithin Tables.store events work t = (answer, work', t) ∧
      (∀ r ∈ answer, r.isOk = true) ∧ (∀ c cutoff, StagedOp.delete c cutoff ∉ more) ∧
      Agree (seen ++ events.getD []) ((staged ++ more).foldl StagedOp.apply s.archive) work' := by
  cases events with
  | none =>
    rw [Option.getD_none, List.append_nil]
    refine ⟨none, [], work, ?_, rfl, nofun, fun _ _ => List.not_mem_nil, ?_⟩
    · rw [List.append_nil]
      rfl
    · rw [List.append_nil]
      exact h
  | some events =>
    obtain ⟨work', hperform, hagree⟩ := h.insert hids hentries
    refine ⟨some (.ok events.length), [.insert events], work', rfl, ?_, ?_, ?_, ?_⟩
    · have hrun : (ExceptT.run (events.forM Tables.insertEvent)).run work = (.ok (), work') :=
        hperform
      simp only [insertWithin, Tables.store, hrun]
      rfl
    · rintro r ⟨⟩
      rfl
    · exact fun c cutoff hmem => by cases List.mem_singleton.mp hmem
    · rw [List.foldl_append]
      exact hagree

/-- Deleting from different categories answers the same in both stores, and is not refused. -/
theorem deleteWithin_agrees (h : Agree seen (staged.foldl StagedOp.apply s.archive) work)
    (hseen : ∀ e ∈ seen, e.createdAt.IsWholeMicros) {deletions : List (Category × Timestamp)}
    (hcutoffs : ∀ d ∈ deletions, d.2.IsWholeMicros)
    (hnodup : (deletions.map Prod.fst).Nodup)
    (hstaged : ∀ c ∈ deletions.map Prod.fst, ∀ cutoff, StagedOp.delete c cutoff ∉ staged) :
    ∃ answers staged' work', deleteWithin MemoryStore.store deletions staged s =
        (answers, staged', s) ∧
      deleteWithin Tables.store deletions work t = (answers, work', t) ∧
      (∀ r ∈ answers, r.isOk = true) ∧
      Agree seen (staged'.foldl StagedOp.apply s.archive) work' := by
  induction deletions generalizing staged work with
  | nil => exact ⟨[], staged, work, rfl, rfl, List.forall_mem_nil _, h⟩
  | cons d deletions ih =>
    obtain ⟨c, cutoff⟩ := d
    have hcutoff : cutoff.IsWholeMicros := hcutoffs _ List.mem_cons_self
    rw [List.map_cons, List.nodup_cons] at hnodup
    have hcount : s.countBefore c cutoff staged = (work.deleteBefore c cutoff.toMicros).1 := by
      rw [MemoryStore.countBefore_eq (hstaged c List.mem_cons_self),
        h.deleteBefore_count hseen hcutoff]
    have hnext : Agree seen ((staged ++ [StagedOp.delete c cutoff]).foldl StagedOp.apply s.archive)
        (work.deleteBefore c cutoff.toMicros).2 := by
      rw [List.foldl_append]
      exact h.deleteBefore hseen hcutoff c
    have hlater : ∀ d ∈ deletions.map Prod.fst, ∀ cutoff',
        StagedOp.delete d cutoff' ∉ staged ++ [StagedOp.delete c cutoff] := by
      intro d hd cutoff' hmem
      rcases List.mem_append.mp hmem with hmem | hmem
      · exact hstaged d (List.mem_cons_of_mem _ hd) cutoff' hmem
      · obtain ⟨rfl, -⟩ := StagedOp.delete.inj (List.mem_singleton.mp hmem)
        exact hnodup.1 hd
    obtain ⟨answers, staged', work', hmemory, htables, hok, hagree⟩ :=
      ih hnext (fun d hd => hcutoffs d (List.mem_cons_of_mem _ hd)) hnodup.2 hlater
    refine ⟨.ok (work.deleteBefore c cutoff.toMicros).1 :: answers, staged', work', ?_, ?_, ?_,
      hagree⟩
    · rw [deleteWithin]
      simp only [MemoryStore.store, hcount] at hmemory ⊢
      rw [hmemory]
    · rw [deleteWithin]
      simp only [Tables.store] at htables ⊢
      rw [htables]
    · exact List.forall_mem_cons.mpr ⟨rfl, hok⟩

/-- A transaction answers the same on both stores, is not refused, and leaves them in agreement. -/
theorem run_agrees (h : Agree seen s.archive t) (x : Transaction)
    (hseen : ∀ e ∈ seen, e.createdAt.IsWholeMicros) (hx : x.WholeMicros)
    (hids : ((seen ++ x.inserted).map EventRecord.id).Nodup)
    (hentries : ((seen ++ x.inserted).flatMap EventRecord.entryIds).Nodup) :
    ∃ answers s' t', x.run MemoryStore.store s = (.ok answers, s') ∧
      x.run Tables.store t = (.ok answers, t') ∧ answers.Granted ∧
      Agree (x.seenAfter seen) s'.archive t' := by
  obtain ⟨s₀, hs₀⟩ : ∃ s₀ : MemoryStore, s₀ = { s with started := s.started + 1 } := ⟨_, rfl⟩
  have hstart : Agree seen (([] : Staged).foldl StagedOp.apply s₀.archive) t := by
    rw [hs₀]
    exact h
  obtain ⟨inserted, staged, work, hmemory, htables, hinserted, hnone, hagree⟩ :=
    insertWithin_agrees (t := t) hstart hids hentries
  rw [List.nil_append] at hmemory hagree
  have hseen' : ∀ e ∈ seen ++ x.inserted, e.createdAt.IsWholeMicros := fun e he =>
    (List.mem_append.mp he).elim (hseen e) (hx.events e)
  obtain ⟨deleted, staged', work', hmemory', htables', hdeleted, hagree'⟩ :=
    deleteWithin_agrees (t := t) hagree hseen' hx.cutoffs x.deletions_nodup fun c _ => hnone c
  obtain ⟨s', hcommit⟩ : ∃ s', finish MemoryStore.store x.commits staged' s₀ = (.ok (), s') ∧
      s'.archive = if x.commits then staged'.foldl StagedOp.apply s₀.archive else s₀.archive := by
    unfold finish
    cases x.commits with
    | true => exact ⟨_, rfl, rfl⟩
    | false => exact ⟨_, rfl, rfl⟩
  have hcommit' : finish Tables.store x.commits work' t =
      (.ok (), if x.commits then work' else t) := by
    unfold finish
    cases x.commits <;> rfl
  refine ⟨⟨inserted, deleted, .ok ()⟩, s', if x.commits then work' else t, ?_, ?_,
    ⟨hinserted, hdeleted, rfl⟩, ?_⟩
  · have hbegun : MemoryStore.store.start s = (.ok [], s₀) := by
      rw [hs₀]
      rfl
    rw [run, hbegun]
    dsimp only
    rw [hmemory]
    dsimp only
    rw [hmemory']
    dsimp only
    rw [hcommit.1]
  · have hbegun : Tables.store.start t = (.ok t, t) := rfl
    rw [run, hbegun]
    dsimp only
    rw [htables]
    dsimp only
    rw [htables']
    dsimp only
    rw [hcommit']
  · rw [hcommit.2, seenAfter]
    cases x.commits with
    | true => exact hagree'
    | false =>
      rw [hs₀]
      exact h

end Transaction

/-! ## Runs -/

/-- Stores in agreement stay so along transactions, and answer the same. -/
theorem runAll_agrees (xs : List Transaction) {seen : List EventRecord} {s : MemoryStore}
    {t : Tables} (h : Agree seen s.archive t) (hseen : ∀ e ∈ seen, e.createdAt.IsWholeMicros)
    (hfresh : Transaction.Fresh seen xs) (htimes : ∀ x ∈ xs, x.WholeMicros) :
    List.Forall₂ (fun m t => ∃ answers : Answers, m.1 = .ok answers ∧ t.1 = .ok answers ∧
        answers.Granted ∧ HoldSame m.2.archive t.2)
      (Transaction.runAll MemoryStore.store xs s) (Transaction.runAll Tables.store xs t) := by
  induction xs generalizing seen s t with
  | nil => exact .nil
  | cons x xs ih =>
    obtain ⟨hids, hentries, hrest⟩ := hfresh
    obtain ⟨hx, hxs⟩ := List.forall_mem_cons.mp htimes
    obtain ⟨answers, s', t', hmemory, htables, hgranted, hagree⟩ :=
      Transaction.run_agrees h x hseen hx hids hentries
    have hseen' : ∀ e ∈ x.seenAfter seen, e.createdAt.IsWholeMicros := by
      intro e he
      unfold Transaction.seenAfter at he
      split at he
      · exact (List.mem_append.mp he).elim (hseen e) (hx.events e)
      · exact hseen e he
    unfold Transaction.runAll
    rw [hmemory, htables]
    exact .cons ⟨answers, rfl, rfl, hgranted, hagree.holdSame⟩ (ih hagree hseen' hrest hxs)

/-- **The stores are interchangeable.** Transactions of the shape that a handler makes are run one
at a time on the store in memory and on the tables, both empty at first, events and entries under
identifiers of their own and all times in whole microseconds. Then every call is granted and
answers the same on both, and after every transaction, committed or rolled back, both hold the same
events of every category and the same reference data. -/
theorem memory_and_tables_agree (xs : List Transaction) (hfresh : Transaction.Fresh [] xs)
    (htimes : ∀ x ∈ xs, x.WholeMicros) :
    List.Forall₂ (fun m t => ∃ answers : Answers, m.1 = .ok answers ∧ t.1 = .ok answers ∧
        answers.Granted ∧ HoldSame m.2.archive t.2)
      (Transaction.runAll MemoryStore.store xs {}) (Transaction.runAll Tables.store xs {}) := by
  have hempty : Agree [] ({} : MemoryStore).archive {} := by
    refine ⟨rfl, fun c => ?_, List.Sublist.refl _, List.Sublist.refl _⟩
    cases c <;> rfl
  exact runAll_agrees xs hempty (List.forall_mem_nil _) hfresh htimes

/-- An application, a type in it and a field of the type with some label of its type. -/
def shopField (label : String) : FieldMirror :=
  ⟨.ofNat 3, "total", ⟨.ofNat 2, "Order", ⟨.ofNat 1, some "shop"⟩⟩, label⟩

/-- A modification of an order at a second, with a related order, under three identifiers from a
number on. -/
def orderModified (n : Nat) (second : Int) (label : String) : EventRecord := .model {
  id := .ofNat n
  createdAt := ⟨second, 500000000⟩
  operation := .modify
  actor := none
  entry := ⟨.ofNat (n + 1), (shopField label).mirror, "1", "order"⟩
  modifications := [⟨.modify, shopField label, none, some "2"⟩]
  relationships := [⟨.create, shopField label,
    ⟨.ofNat (n + 2), (shopField label).mirror, "2", "order"⟩⟩] }

/-- A log record at a second. -/
def logged (n : Nat) (second : Int) : EventRecord := .unspecified {
  id := .ofNat n
  createdAt := ⟨second, 7000⟩
  message := "logged"
  level := .info
  line := none
  file := none
  application := ⟨.ofNat n, none⟩ }

/-- A generation is written; the next one is rolled back and written again, with a sweep that finds
events of both; then a sweep of its own finds one more. -/
def sweepingTransactions : List Transaction := [
  { events := some [orderModified 10 5 "decimal", logged 20 6] },
  { events := some [orderModified 30 3 "money", logged 40 9], commits := false },
  { events := some [orderModified 30 3 "money", logged 40 9]
    deletions := [(.model, ⟨5, 500000000⟩), (.unspecified, ⟨7, 0⟩)] },
  { deletions := [(.unspecified, ⟨10, 0⟩), (.request, ⟨10, 0⟩)] }]

theorem memory_and_tables_agree_sweeping :
    Transaction.Fresh [] sweepingTransactions ∧ (∀ x ∈ sweepingTransactions, x.WholeMicros) ∧
      (Transaction.runAll MemoryStore.store sweepingTransactions {}).map
          (fun r => r.2.archive.events.map EventRecord.id) =
        [[.ofNat 10, .ofNat 20], [.ofNat 10, .ofNat 20], [.ofNat 10, .ofNat 40], [.ofNat 10]] ∧
      List.Forall₂ (fun m t => ∃ answers : Answers, m.1 = .ok answers ∧ t.1 = .ok answers ∧
          answers.Granted ∧ HoldSame m.2.archive t.2)
        (Transaction.runAll MemoryStore.store sweepingTransactions {})
        (Transaction.runAll Tables.store sweepingTransactions {}) :=
  ⟨by decide, by decide, by decide, memory_and_tables_agree sweepingTransactions (by decide)
    (by decide)⟩

end AuditTrail
