import AuditTrail.Handler

/-
  Handlers at two stores, one of which keeps more than the other one, as does a store that takes
  note of what is asked of it. If the operations of the one store answer as those of the other and
  leave the same once the rest is left out (`Store.Projects`), then so do all operations of the
  handlers at them (`Handler.project`).
-/
namespace AuditTrail

variable {σ τ σ' τ' : Type} {S : Store σ τ} {S' : Store σ' τ'} {f : σ' → σ} {g : τ' → τ}

/-- Contents and transactions of the first store are those of the second one with something more,
which `f` and `g` leave out and which no answer depends on. -/
structure Store.Projects (S' : Store σ' τ') (S : Store σ τ) (f : σ' → σ) (g : τ' → τ) : Prop where
  name : S'.name = S.name
  start (s : σ') : S.start (f s) = ((S'.start s).1.map g, f (S'.start s).2)
  insert (events : List EventRecord) (t : τ') (s : σ') :
    S.insert events (g t) (f s) =
      ((S'.insert events t s).1, g (S'.insert events t s).2.1, f (S'.insert events t s).2.2)
  delete (c : Category) (cutoff : Timestamp) (t : τ') (s : σ') :
    S.deleteBefore c cutoff (g t) (f s) =
      ((S'.deleteBefore c cutoff t s).1, g (S'.deleteBefore c cutoff t s).2.1,
        f (S'.deleteBefore c cutoff t s).2.2)
  commit (t : τ') (s : σ') : S.commit (g t) (f s) = ((S'.commit t s).1, f (S'.commit t s).2)
  rollback (t : τ') (s : σ') : S.rollback (g t) (f s) = ((S'.rollback t s).1, f (S'.rollback t s).2)
  ready (t : τ') (s : σ') : S.ready (g t) (f s) = S'.ready t s

def Prepared.project (g : τ' → τ) (p : Prepared τ') : Prepared τ :=
  { events := p.events, swept := p.swept, transaction := g p.transaction }

def Task.project (g : τ' → τ) : Task τ' → Task τ
  | .taken events config => .taken events config
  | .prepared p => .prepared (p.project g)

theorem sweepCategories_project (hS : S'.Projects S f g) (config : Config) (now : Timestamp)
    (cs : List Category) (swept : Swept) (t : τ') (s : σ') (j : Journal) :
    sweepCategories S config now cs swept (g t) (f s) j =
      ((sweepCategories S' config now cs swept t s j).1,
        g (sweepCategories S' config now cs swept t s j).2.1,
        f (sweepCategories S' config now cs swept t s j).2.2.1,
        (sweepCategories S' config now cs swept t s j).2.2.2) := by
  induction cs generalizing swept t s j with
  | nil => rfl
  | cons c cs ih =>
    unfold sweepCategories
    cases config.cutoff? now c with
    | none => exact ih swept t s j
    | some cutoff =>
      dsimp only
      rw [hS.delete]
      cases S'.deleteBefore c cutoff t s with | mk result rest =>
      obtain ⟨t', s'⟩ := rest
      cases result with
      | error e => rfl
      | ok n => exact ih (swept.set c n) t' s' (j.countDeleted c n)

namespace Handler

/-- What is left of a handler at the store that keeps less. -/
def project (f : σ' → σ) (g : τ' → τ) (h : Handler σ' τ') : Handler σ τ where
  store := f h.store
  buffer := h.buffer
  queue := h.queue.map (Task.project g)
  held := h.held.map (Prepared.project g)
  flushes := h.flushes
  failures := h.failures
  persisted := h.persisted
  surroundings := h.surroundings
  journal := h.journal

variable (hS : S'.Projects S f g)

include hS

theorem giveUp_project (t : τ') (h : Handler σ' τ') :
    (h.project f g).giveUp S (g t) = (h.giveUp S' t).project f g := by
  have hrollback : S.rollback (g t) (h.project f g).store = _ := hS.rollback t h.store
  unfold giveUp
  rw [hrollback]
  cases S'.rollback t h.store with | mk result s =>
  cases result with
  | ok u => rfl
  | error e => rfl

theorem sweepWithin_project (config : Config) (now : Timestamp) (t : τ') (h : Handler σ' τ') :
    (h.project f g).sweepWithin S config now (g t) =
      ((h.sweepWithin S' config now t).1.map fun r => (r.1, g r.2),
        (h.sweepWithin S' config now t).2.project f g) := by
  have hsweep : sweepCategories S config now Category.all {} (g t) (h.project f g).store
      (h.project f g).journal = _ := sweepCategories_project hS config now _ _ t h.store h.journal
  unfold sweepWithin sweep
  rw [hsweep]
  cases sweepCategories S' config now Category.all {} t h.store h.journal with | mk result rest =>
  obtain ⟨t', s, j⟩ := rest
  cases result with
  | ok swept => rfl
  | error e =>
    exact congrArg (Prod.mk _) (giveUp_project hS t' { h with store := s, journal := j })

theorem prepare_project (events : List EventRecord) (config : Config) (h : Handler σ' τ') :
    (h.project f g).prepare S events config =
      ((h.prepare S' events config).1.map (Prepared.project g),
        (h.prepare S' events config).2.project f g) := by
  have hstart : S.start (h.project f g).store = _ := hS.start h.store
  unfold prepare
  rw [hstart]
  cases S'.start h.store with | mk result s =>
  cases result with
  | error e => rfl
  | ok t =>
    dsimp only [Except.map]
    rw [hS.insert]
    cases S'.insert events t s with | mk result rest =>
    obtain ⟨t', s'⟩ := rest
    cases result with
    | error e => exact congrArg (Prod.mk _) (giveUp_project hS t' { h with store := s' })
    | ok n =>
      have hnow : ({ h.project f g with store := f s' } : Handler σ τ).now =
          (({ h with store := s' } : Handler σ' τ').now.1,
            ({ h with store := s' } : Handler σ' τ').now.2.project f g) := rfl
      dsimp only
      rw [hnow]
      dsimp only
      rw [sweepWithin_project hS]
      cases ({ h with store := s' } : Handler σ' τ').now.2.sweepWithin S' config
        ({ h with store := s' } : Handler σ' τ').now.1 t' with | mk result h' =>
      cases result with
      | ok r => rfl
      | error e => rfl

theorem succeed_project (events : List EventRecord) (swept : Swept) (h : Handler σ' τ') :
    (h.project f g).succeed S events swept =
      ((h.succeed S' events swept).1, (h.succeed S' events swept).2.project f g) := by
  unfold succeed countFlush gaugeBuffer
  rw [hS.name]
  rfl

theorem fail_project (events : List EventRecord) (e : StoreError) (h : Handler σ' τ') :
    (h.project f g).fail S events e =
      ((h.fail S' events e).1, (h.fail S' events e).2.project f g) := by
  unfold fail countFlush gaugeBuffer
  rw [hS.name]
  rfl

theorem finish_project (p : Prepared τ') (h : Handler σ' τ') :
    (h.project f g).finish S (p.project g) =
      ((h.finish S' p).1, (h.finish S' p).2.project f g) := by
  have hcommit : S.commit (p.project g).transaction (h.project f g).store = _ :=
    hS.commit p.transaction h.store
  unfold finish
  rw [hcommit]
  cases S'.commit p.transaction h.store with | mk result s =>
  cases result with
  | ok u => exact succeed_project hS p.events p.swept { h with store := s }
  | error e => exact fail_project hS p.events e { h with store := s }

theorem persist_project (events : List EventRecord) (config : Config) (h : Handler σ' τ') :
    (h.project f g).persist S events config =
      ((h.persist S' events config).1, (h.persist S' events config).2.project f g) := by
  unfold persist
  rw [prepare_project hS]
  cases h.prepare S' events config with | mk result h' =>
  cases result with
  | ok p => exact finish_project hS p h'
  | error e => exact fail_project hS events e h'

theorem flushIfDue_project (config : Config) (h : Handler σ' τ') :
    (h.project f g).flushIfDue S config =
      ((h.flushIfDue S' config).1, (h.flushIfDue S' config).2.project f g) := by
  have hlength : (h.project f g).buffer.length = h.buffer.length := rfl
  unfold flushIfDue takeIfDue
  rw [hlength]
  by_cases hdue : h.buffer.length < threshold config
  · rw [if_pos hdue, if_pos hdue]
  · have hpersist :
        ({ h.project f g with buffer := [] } : Handler σ τ).persist S h.buffer config = _ :=
      persist_project hS h.buffer config { h with buffer := [] }
    rw [if_neg hdue, if_neg hdue]
    dsimp only [takeAll]
    cases config.handler.background with
    | true =>
      rw [if_pos rfl, if_pos rfl]
      simp [enqueue, project, Task.project]
    | false =>
      rw [if_neg Bool.false_ne_true, if_neg Bool.false_ne_true]
      exact congrArg (fun r => (r.1.map some, r.2)) hpersist

theorem record_project (config : Config) (e : EventRecord) (h : Handler σ' τ') :
    (h.project f g).record S config e =
      ((h.record S' config e).1, (h.record S' config e).2.project f g) := by
  unfold record
  exact congrArg (fun r => (r.1.map fun _ => (), r.2)) (flushIfDue_project hS config (h.push e))

theorem flush_project (config : Config) (h : Handler σ' τ') :
    (h.project f g).flush S config =
      ((h.flush S' config).1, (h.flush S' config).2.project f g) := by
  have hpersist :
      ({ h.project f g with buffer := [] } : Handler σ τ).persist S h.buffer config = _ :=
    persist_project hS h.buffer config { h with buffer := [] }
  unfold flush
  dsimp only [takeAll]
  by_cases hempty : h.buffer.isEmpty = true
  · have hempty' : (h.project f g).buffer.isEmpty = true := hempty
    rw [if_pos hempty, if_pos hempty']
    rfl
  · have hempty' : ¬ (h.project f g).buffer.isEmpty = true := hempty
    rw [if_neg hempty, if_neg hempty']
    exact hpersist

theorem sweepExpired_project (config : Config) (now : Timestamp) (h : Handler σ' τ') :
    (h.project f g).sweepExpired S config now =
      ((h.sweepExpired S' config now).1, (h.sweepExpired S' config now).2.project f g) := by
  have hstart : S.start (h.project f g).store = _ := hS.start h.store
  unfold sweepExpired
  dsimp only
  rw [hstart, hS.name]
  cases S'.start h.store with | mk result s =>
  cases result with
  | error e => rfl
  | ok t =>
    have hsweep : ({ h.project f g with store := f s } : Handler σ τ).sweepWithin S config now
        (g t) = _ := sweepWithin_project hS config now t { h with store := s }
    dsimp only [Except.map]
    rw [hsweep]
    cases ({ h with store := s } : Handler σ' τ').sweepWithin S' config now t with
    | mk result h' =>
    cases result with
    | error e => rfl
    | ok r =>
      obtain ⟨swept, t'⟩ := r
      have hcommit : S.commit (g t') (h'.project f g).store = _ := hS.commit t' h'.store
      dsimp only [Except.map]
      rw [hcommit]
      cases S'.commit t' h'.store with | mk result s' =>
      cases result with
      | ok u => rfl
      | error e => rfl

theorem proceed_project (p : Prepared τ') (h : Handler σ' τ') :
    (h.project f g).proceed S (p.project g) = (h.proceed S' p).project f g := by
  have hready : S.ready (p.project g).transaction (h.project f g).store =
      S'.ready p.transaction h.store := hS.ready p.transaction h.store
  unfold proceed
  rw [hready]
  cases S'.ready p.transaction h.store with
  | true => rw [if_pos rfl, if_pos rfl, finish_project hS]
  | false =>
    rw [if_neg Bool.false_ne_true, if_neg Bool.false_ne_true]
    simp [project]

theorem advance_project (task : Task τ') (h : Handler σ' τ') :
    (h.project f g).advance S (task.project g) = (h.advance S' task).project f g := by
  cases task with
  | prepared p => exact proceed_project hS p h
  | taken events config =>
    unfold advance
    dsimp only [Task.project]
    rw [prepare_project hS]
    cases h.prepare S' events config with | mk result h' =>
    cases result with
    | ok p => exact proceed_project hS p h'
    | error e => exact congrArg Prod.snd (fail_project hS events e h')

theorem runQueue_project (h : Handler σ' τ') :
    (h.project f g).runQueue S = (h.runQueue S').project f g := by
  have hqueue : (h.project f g).queue = h.queue.map (Task.project g) := rfl
  have hempty : ({ h.project f g with queue := [] } : Handler σ τ) =
      ({ h with queue := [] } : Handler σ' τ').project f g := rfl
  unfold runQueue
  rw [hqueue, List.foldl_map, hempty]
  exact List.foldl_hom (project f g) fun h' task => advance_project hS task h'

theorem shutdown_project (config : Config) (h : Handler σ' τ') :
    (h.project f g).shutdown S config =
      ((h.shutdown S' config).1, (h.shutdown S' config).2.project f g) := by
  unfold shutdown
  rw [runQueue_project hS]
  exact flush_project hS config (h.runQueue S')

end Handler

end AuditTrail
