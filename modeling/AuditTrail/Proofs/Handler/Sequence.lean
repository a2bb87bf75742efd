import AuditTrail.Proofs.Handler.Interleaving
import AuditTrail.Proofs.Handler.Tracing

/-
  A handler whose calls are made one after another and that writes nothing in the background. Every
  call makes at most one attempt to write a generation (`Attempt`), and that generation is all that
  is in the buffer: it is written, or it is the buffer again (`make_traced`). So a run of calls
  keeps the events in the order in which they were recorded, first those of the committed
  generations and then those of the buffer (`InOrder`, `makeAll_inOrder`), whichever calls the store
  refuses and however the configuration changes.
-/
namespace AuditTrail

namespace Handler

variable {σ τ κ : Type} {S : Store σ τ} {contents : σ → κ}

/-! ## One transaction -/

/-- What was gathered is the same. -/
structure SameGathered (h h' : Handler σ τ) : Prop where
  buffer : h'.buffer = h.buffer
  queue : h'.queue = h.queue

theorem SameGathered.trans {h h' h'' : Handler σ τ} (first : SameGathered h h')
    (second : SameGathered h' h'') : SameGathered h h'' :=
  ⟨second.buffer.trans first.buffer, second.queue.trans first.queue⟩

section Transaction

variable {s : Traced σ} {steps : Trace} {t : Numbered τ} {h : Handler (Traced σ) (Numbered τ)}

/-- A transaction that is given up ends in a rollback. -/
theorem giveUp_traced (hS : S.ChangesByCommit contents) (hopen : Opened contents steps s h.store)
    (ht : t.number = s.started) (events : List EventRecord) :
    Attempt contents events s false (h.giveUp S.traced t).store ∧
      SameGathered h (h.giveUp S.traced t) := by
  have hcontents := hS.rollback t.inner h.store.inner
  cases hanswer : S.rollback t.inner h.store.inner with | mk result inner =>
  rw [hanswer] at hcontents
  have hattempt : Attempt contents events s false
      (h.store.note s.started .rollback result.isOk inner) :=
    hopen.givenUp rfl rfl nofun hcontents
  unfold giveUp
  rw [Store.traced_rollback hanswer, ht]
  cases result with
  | ok u => exact ⟨hattempt, rfl, rfl⟩
  | error e => exact ⟨hattempt, rfl, rfl⟩

/-- A sweep goes on with the transaction, or ends it. -/
theorem sweepWithin_traced (hS : S.ChangesByCommit contents) (config : Config) (now : Timestamp)
    (hopen : Opened contents steps s h.store) (ht : t.number = s.started)
    (events : List EventRecord) :
    (∃ swept t' h' deletes, h.sweepWithin S.traced config now t = (.ok (swept, t'), h') ∧
      t'.number = s.started ∧ Opened contents (steps ++ deletes) s h'.store ∧
      (∀ e ∈ deletes, e.succeeded = true) ∧ deletes.flatMap (·.call.events) = [] ∧
      SameGathered h h') ∨
    ∃ e h', h.sweepWithin S.traced config now t = (.error e, h') ∧
      Attempt contents events s false h'.store ∧ SameGathered h h' := by
  obtain ⟨deletes, hprogress, hnumber, hdeletes, hok⟩ := sweepCategories_progress hS config now
    Category.all {} t h.store h.journal
  rw [ht] at hprogress
  have hopen' := hopen.advance hprogress fun e he => (hdeletes e he).1
  unfold sweepWithin sweep
  cases hsweep : sweepCategories S.traced config now Category.all {} t h.store h.journal with
  | mk result rest =>
  obtain ⟨t', s', j⟩ := rest
  rw [hsweep] at hopen' hnumber hok
  cases result with
  | ok swept =>
    refine .inl ⟨swept, t', _, deletes, rfl, hnumber.trans ht, hopen', hok swept rfl, ?_, rfl, rfl⟩
    exact List.flatMap_eq_nil_iff.mpr fun e he => (hdeletes e he).2
  | error e =>
    have hopen'' : Opened contents (steps ++ deletes) s
        ({ h with store := s', journal := j } : Handler (Traced σ) (Numbered τ)).store := hopen'
    obtain ⟨hattempt, hsame⟩ := giveUp_traced hS hopen'' (hnumber.trans ht) events
    exact .inr ⟨e, _, rfl, hattempt, hsame.buffer, hsame.queue⟩

end Transaction

/-- Staging a generation opens a transaction in which exactly its events are inserted, or the
attempt is over. -/
theorem prepare_traced (hS : S.ChangesByCommit contents) (events : List EventRecord)
    (config : Config) (h : Handler (Traced σ) (Numbered τ)) :
    (∃ p h' steps, h.prepare S.traced events config = (.ok p, h') ∧ p.events = events ∧
      p.transaction.number = h.store.started ∧ Opened contents steps h.store h'.store ∧
      (∀ e ∈ steps, e.succeeded = true) ∧ steps.flatMap (·.call.events) = events ∧
      SameGathered h h') ∨
    ∃ e h', h.prepare S.traced events config = (.error e, h') ∧
      Attempt contents events h.store false h'.store ∧ SameGathered h h' := by
  unfold prepare
  rcases Store.traced_start hS h.store with ⟨t, s, hstart, ht, hopen⟩ | ⟨e, s, hstart, hattempt⟩
  · rw [hstart]
    have hcontents := hS.insert events t.inner s.inner
    cases hanswer : S.insert events t.inner s.inner with | mk result rest =>
    obtain ⟨t', inner⟩ := rest
    rw [hanswer] at hcontents
    have hinsert : Progress contents h.store.started
        [⟨h.store.started, .insert events, result.isOk⟩] s
        (s.note h.store.started (.insert events) result.isOk inner) := .note hcontents
    have hopen' := hopen.advance hinsert fun e he => by rw [List.mem_singleton.mp he]; rfl
    dsimp only
    rw [Store.traced_insert hanswer, ht]
    generalize s.note h.store.started (.insert events) result.isOk inner = s' at hopen'
    obtain ⟨filled, hfilled⟩ : ∃ filled, ({ h with store := s' } : Handler _ _) = filled :=
      ⟨_, rfl⟩
    have hsame : SameGathered h filled := by rw [← hfilled]; exact ⟨rfl, rfl⟩
    have hstore : filled.store = s' := by rw [← hfilled]
    rw [← hstore] at hopen'
    cases result with
    | error e =>
      obtain ⟨hattempt, hsame'⟩ :=
        giveUp_traced (t := ⟨t', h.store.started⟩) hS hopen' rfl events
      dsimp only
      rw [hfilled]
      exact .inr ⟨e, _, rfl, hattempt, hsame.trans hsame'⟩
    | ok n =>
      have htick : SameGathered h filled.now.2 := hsame.trans ⟨rfl, rfl⟩
      have hticked : Opened contents _ h.store filled.now.2.store := hopen'
      rcases sweepWithin_traced (t := ⟨t', h.store.started⟩) hS config filled.now.1 hticked rfl
          events with ⟨swept, t'', h', deletes, hsweep, ht'', hopen'', hok, hnone, hsame'⟩ |
            ⟨e, h', hsweep, hattempt, hsame'⟩
      · dsimp only
        rw [hfilled, hsweep]
        refine .inl ⟨⟨events, swept, t''⟩, h', _, rfl, rfl, ht'', hopen'', ?_, ?_,
          htick.trans hsame'⟩
        · intro e he
          rcases List.mem_cons.mp he with rfl | he
          · rfl
          · exact hok e he
        · rw [List.nil_append, List.flatMap_append, hnone, List.append_nil]
          exact List.append_nil events
      · dsimp only
        rw [hfilled, hsweep]
        exact .inr ⟨e, h', rfl, hattempt, htick.trans hsame'⟩
  · rw [hstart]
    exact .inr ⟨e, _, rfl, hattempt events, rfl, rfl⟩

/-- What comes of an attempt: the generation is committed, or all of it is put in front of `rest`
again, and the error tells its size. -/
structure Tried {α : Type} (contents : σ → κ) (events rest : List EventRecord) (s : Traced σ)
    (result : Except HandlerError α) (h' : Handler (Traced σ) (Numbered τ)) : Prop where
  attempt : Attempt contents events s result.isOk h'.store
  buffer : h'.buffer = (if result.isOk then [] else events) ++ rest
  error : ∀ error, result = .error error → error.events = events.length

theorem finish_traced (hS : S.ChangesByCommit contents) {s : Traced σ} {steps : Trace}
    {p : Prepared (Numbered τ)} {h : Handler (Traced σ) (Numbered τ)}
    (hopen : Opened contents steps s h.store) (hp : p.transaction.number = s.started)
    (hsteps : ∀ e ∈ steps, e.succeeded = true)
    (hevents : steps.flatMap (·.call.events) = p.events) :
    Tried contents p.events h.buffer s (h.finish S.traced p).1 (h.finish S.traced p).2 ∧
      (h.finish S.traced p).2.queue = h.queue := by
  cases hanswer : S.commit p.transaction.inner h.store.inner with | mk result inner =>
  unfold finish
  rw [Store.traced_commit hanswer, hp]
  cases result with
  | ok u =>
    refine ⟨⟨?_, rfl, nofun⟩, rfl⟩
    have hattempt := hopen.committed inner hsteps
    rw [hevents] at hattempt
    exact hattempt
  | error e =>
    refine ⟨⟨?_, rfl, ?_⟩, rfl⟩
    · exact hopen.givenUp rfl rfl (fun _ => hsteps) (hS.refused hanswer)
    · intro error herror
      rw [← Except.error.inj herror]

theorem persist_traced (hS : S.ChangesByCommit contents) (events : List EventRecord)
    (config : Config) (h : Handler (Traced σ) (Numbered τ)) :
    Tried contents events h.buffer h.store (h.persist S.traced events config).1
        (h.persist S.traced events config).2 ∧
      (h.persist S.traced events config).2.queue = h.queue := by
  unfold persist
  rcases prepare_traced hS events config h with
    ⟨p, h', steps, hprepare, rfl, hp, hopen, hsteps, hevents, hsame⟩ |
      ⟨e, h', hprepare, hattempt, hsame⟩
  · rw [hprepare, ← hsame.buffer, ← hsame.queue]
    exact finish_traced hS hopen hp hsteps hevents
  · rw [hprepare, ← hsame.buffer, ← hsame.queue]
    refine ⟨⟨hattempt, rfl, ?_⟩, rfl⟩
    intro error herror
    rw [← Except.error.inj herror]

/-- A sweep of its own commits no events. -/
theorem sweepExpired_traced (hS : S.ChangesByCommit contents) (config : Config) (now : Timestamp)
    (h : Handler (Traced σ) (Numbered τ)) :
    Tried contents [] h.buffer h.store (h.sweepExpired S.traced config now).1
        (h.sweepExpired S.traced config now).2 ∧
      (h.sweepExpired S.traced config now).2.queue = h.queue := by
  have hrefused : ∀ e : StoreError, ∀ error : HandlerError,
      (.error ⟨0, e⟩ : Except HandlerError Swept) = .error error → error.events = 0 := by
    intro e error herror
    rw [← Except.error.inj herror]
  unfold sweepExpired
  dsimp only
  rcases Store.traced_start hS h.store with ⟨t, s, hstart, ht, hopen⟩ | ⟨e, s, hstart, hattempt⟩
  · rw [hstart]
    dsimp only
    have hopen' : Opened contents [] h.store
        ({ h with store := s } : Handler (Traced σ) (Numbered τ)).store := hopen
    rcases sweepWithin_traced hS config now hopen' ht [] with
      ⟨swept, t', h', deletes, hsweep, ht', hopen'', hok, hnone, hsame⟩ |
        ⟨e, h', hsweep, hattempt, hsame⟩
    · rw [hsweep]
      dsimp only
      cases hanswer : S.commit t'.inner h'.store.inner with | mk result inner =>
      rw [Store.traced_commit hanswer, ht']
      rw [List.nil_append] at hopen''
      cases result with
      | ok u =>
        have hattempt := hopen''.committed inner hok
        rw [hnone] at hattempt
        exact ⟨⟨hattempt, hsame.buffer, nofun⟩, hsame.queue⟩
      | error e =>
        have hattempt : Attempt contents [] h.store false
            (h'.store.note h.store.started .commit false inner) :=
          hopen''.givenUp rfl rfl (fun _ => hok) (hS.refused hanswer)
        exact ⟨⟨hattempt, hsame.buffer, hrefused e⟩, hsame.queue⟩
    · rw [hsweep]
      exact ⟨⟨hattempt, hsame.buffer, hrefused e⟩, hsame.queue⟩
  · rw [hstart]
    exact ⟨⟨hattempt [], rfl, hrefused e⟩, rfl⟩

/-! ## Calls -/

/-- A call to a handler. -/
inductive Call where
  | record (e : EventRecord)
  | flushIfDue
  | flush
  | shutdown
  | sweepExpired (now : Timestamp)

namespace Call

/-- What a call records. -/
def recorded : Call → List EventRecord
  | .record e => [e]
  | _ => []

/-- The generation that a call tries to write, if it tries to write one: all that is in the buffer
by then. A sweep writes none. -/
def generation (h : Handler σ τ) : Call → List EventRecord
  | .sweepExpired _ => []
  | call => h.buffer ++ call.recorded

/-- Makes a call under a configuration. Of what a call returns it is only kept whether it is an
error. -/
def make (S : Store σ τ) (config : Config) (h : Handler σ τ) :
    Call → Except HandlerError Unit × Handler σ τ
  | .record e => h.record S config e
  | .flushIfDue => ((h.flushIfDue S config).1.map fun _ => (), (h.flushIfDue S config).2)
  | .flush => ((h.flush S config).1.map fun _ => (), (h.flush S config).2)
  | .shutdown => ((h.shutdown S config).1.map fun _ => (), (h.shutdown S config).2)
  | .sweepExpired now =>
    ((h.sweepExpired S config now).1.map fun _ => (), (h.sweepExpired S config now).2)

end Call

/-- Makes calls one after another, each under the configuration in effect at its time. -/
def makeAll (S : Store σ τ) (calls : List (Config × Call)) (h : Handler σ τ) : Handler σ τ :=
  calls.foldl (fun h c => (c.2.make S c.1 h).2) h

/-- A handler that no call has reached yet. -/
def fresh (s : σ) (w : Surroundings) : Handler σ τ := { store := s, surroundings := w }

theorem make_project {σ' τ' : Type} {S' : Store σ' τ'} {f : σ' → σ} {g : τ' → τ}
    (hS : S'.Projects S f g) (config : Config) (call : Call) (h : Handler σ' τ') :
    call.make S config (h.project f g) =
      ((call.make S' config h).1, (call.make S' config h).2.project f g) := by
  cases call with
  | record e => exact record_project hS config e h
  | flushIfDue => simp only [Call.make, flushIfDue_project hS]
  | flush => simp only [Call.make, flush_project hS]
  | shutdown => simp only [Call.make, shutdown_project hS]
  | sweepExpired now => simp only [Call.make, sweepExpired_project hS]

theorem makeAll_project {σ' τ' : Type} {S' : Store σ' τ'} {f : σ' → σ} {g : τ' → τ}
    (hS : S'.Projects S f g) (calls : List (Config × Call)) (h : Handler σ' τ') :
    makeAll S calls (h.project f g) = (makeAll S' calls h).project f g := by
  induction calls generalizing h with
  | nil => rfl
  | cons c calls ih =>
    unfold makeAll at ih ⊢
    rw [List.foldl_cons, List.foldl_cons, make_project hS]
    exact ih _

theorem make_untraced (config : Config) (call : Call) (h : Handler (Traced σ) (Numbered τ)) :
    call.make S config h.untraced =
      ((call.make S.traced config h).1, (call.make S.traced config h).2.untraced) := by
  rw [untraced_eq_project, untraced_eq_project]
  exact make_project S.traced_projects config call h

theorem makeAll_fresh (calls : List (Config × Call)) (s : σ) (w : Surroundings) :
    makeAll S calls (fresh s w) =
      (makeAll S.traced calls (fresh { inner := s } w)).untraced := by
  rw [untraced_eq_project]
  exact makeAll_project S.traced_projects calls (fresh { inner := s } w)

/-! ## One call -/

/-- What a call leaves: it does not come to writing, or it tries to write its generation. -/
structure Made (contents : σ → κ) (call : Call) (h : Handler (Traced σ) (Numbered τ))
    (result : Except HandlerError Unit) (h' : Handler (Traced σ) (Numbered τ)) : Prop where
  queue : h'.queue = []
  outcome : (result = .ok () ∧ h'.store = h.store ∧ h'.buffer = h.buffer ++ call.recorded) ∨
    ∃ rest, call.generation h ++ rest = h.buffer ++ call.recorded ∧
      Tried contents (call.generation h) rest h.store result h'

theorem isOk_map {α β : Type} (f : α → β) (result : Except HandlerError α) :
    (result.map f).isOk = result.isOk := by
  cases result <;> rfl

/-- What is returned besides an error does not matter. -/
theorem Tried.map {α β : Type} {events rest : List EventRecord} {s : Traced σ}
    {result : Except HandlerError α} {h' : Handler (Traced σ) (Numbered τ)}
    (htried : Tried contents events rest s result h') (f : α → β) :
    Tried contents events rest s (result.map f) h' := by
  refine ⟨?_, ?_, ?_⟩
  · rw [isOk_map]
    exact htried.attempt
  · rw [isOk_map]
    exact htried.buffer
  · intro error herror
    cases result with
    | ok a => cases herror
    | error e =>
      refine htried.error error ?_
      rw [← Except.error.inj herror]

/-- Looking whether a batch is full: nothing happens, or the whole buffer is tried. -/
theorem flushIfDue_traced (hS : S.ChangesByCommit contents) {config : Config}
    (hsync : config.handler.background = false) (h : Handler (Traced σ) (Numbered τ)) :
    h.flushIfDue S.traced config = (.ok none, h) ∨
      Tried contents h.buffer [] h.store (h.flushIfDue S.traced config).1
          (h.flushIfDue S.traced config).2 ∧
        (h.flushIfDue S.traced config).2.queue = h.queue := by
  unfold flushIfDue takeIfDue
  by_cases hdue : h.buffer.length < threshold config
  · rw [if_pos hdue]
    exact .inl rfl
  · right
    rw [if_neg hdue]
    dsimp only [takeAll]
    rw [hsync, if_neg Bool.false_ne_true]
    obtain ⟨htried, hqueue⟩ := persist_traced hS h.buffer config { h with buffer := [] }
    exact ⟨htried.map some, hqueue⟩

/-- Writing the buffer: there is nothing to write, or the whole buffer is tried. -/
theorem flush_traced (hS : S.ChangesByCommit contents) (config : Config)
    (h : Handler (Traced σ) (Numbered τ)) :
    h.flush S.traced config = (.ok {}, h) ∨
      Tried contents h.buffer [] h.store (h.flush S.traced config).1 (h.flush S.traced config).2 ∧
        (h.flush S.traced config).2.queue = h.queue := by
  unfold flush
  dsimp only [takeAll]
  by_cases hempty : h.buffer.isEmpty = true
  · left
    rw [if_pos hempty, ← List.isEmpty_iff.mp hempty]
  · right
    rw [if_neg hempty]
    exact persist_traced hS h.buffer config { h with buffer := [] }

theorem make_traced (hS : S.ChangesByCommit contents) {config : Config}
    (hsync : config.handler.background = false) {h : Handler (Traced σ) (Numbered τ)}
    (hqueue : h.queue = []) (call : Call) :
    Made contents call h (call.make S.traced config h).1 (call.make S.traced config h).2 := by
  have hflush : ∀ result : Except HandlerError FlushReport × Handler (Traced σ) (Numbered τ),
      result = (.ok {}, h) ∨ Tried contents h.buffer [] h.store result.1 result.2 ∧
        result.2.queue = h.queue →
      ∀ call : Call, call.recorded = [] → call.generation h = h.buffer →
        Made contents call h (result.1.map fun _ => ()) result.2 := by
    intro result hresult call hrecorded hgeneration
    rcases hresult with rfl | ⟨htried, hkept⟩
    · exact ⟨hqueue, .inl ⟨rfl, rfl, by rw [hrecorded, List.append_nil]⟩⟩
    · refine ⟨hkept.trans hqueue, .inr ⟨[], ?_, ?_⟩⟩
      · rw [hgeneration, hrecorded]
      · rw [hgeneration]
        exact htried.map _
  cases call with
  | record e =>
    have hrecord : h.record S.traced config e =
        (((h.push e).flushIfDue S.traced config).1.map fun _ => (),
          ((h.push e).flushIfDue S.traced config).2) := rfl
    rcases flushIfDue_traced hS hsync (h.push e) with hidle | ⟨htried, hkept⟩
    · simp only [Call.make, hrecord, hidle]
      exact ⟨hqueue, .inl ⟨rfl, rfl, rfl⟩⟩
    · exact ⟨hkept.trans hqueue, .inr ⟨[], List.append_nil _, htried.map _⟩⟩
  | flushIfDue =>
    rcases flushIfDue_traced hS hsync h with hidle | ⟨htried, hkept⟩
    · simp only [Call.make, hidle]
      exact ⟨hqueue, .inl ⟨rfl, rfl, (List.append_nil _).symm⟩⟩
    · have hgeneration : Call.generation h .flushIfDue = h.buffer := List.append_nil _
      refine ⟨hkept.trans hqueue, .inr ⟨[], List.append_nil _, ?_⟩⟩
      rw [hgeneration]
      exact htried.map _
  | flush => exact hflush _ (flush_traced hS config h) .flush rfl (List.append_nil _)
  | shutdown =>
    have hrun : h.runQueue S.traced = h := by
      unfold runQueue
      rw [hqueue, List.foldl_nil, ← hqueue]
    have hshutdown : h.shutdown S.traced config = h.flush S.traced config := by
      rw [shutdown, hrun]
    simp only [Call.make, hshutdown]
    exact hflush _ (flush_traced hS config h) .shutdown rfl (List.append_nil _)
  | sweepExpired now =>
    obtain ⟨htried, hkept⟩ := sweepExpired_traced hS config now h
    exact ⟨hkept.trans hqueue, .inr ⟨h.buffer, (List.append_nil _).symm, htried.map _⟩⟩

/-! ## Runs -/

/-- What is true of a handler to which some events were recorded: they are in order, first in the
committed generations and then in the buffer, and every transaction was gone through. -/
structure InOrder (events : List EventRecord) (h : Handler (Traced σ) (Numbered τ)) : Prop where
  order : h.store.trace.committed.flatten ++ h.buffer = events
  queue : h.queue = []
  orderly : h.store.Orderly

theorem fresh_inOrder (s : σ) (w : Surroundings) :
    InOrder [] (fresh { inner := s } w : Handler (Traced σ) (Numbered τ)) :=
  ⟨rfl, rfl, List.forall_mem_nil _, fun _ h => absurd h (Nat.not_lt_zero _)⟩

/-- A call keeps the order, whether it writes, fails or does not come to writing. -/
theorem InOrder.make (hS : S.ChangesByCommit contents) {config : Config}
    (hsync : config.handler.background = false) {events : List EventRecord}
    {h : Handler (Traced σ) (Numbered τ)} (hinv : InOrder events h) (call : Call) :
    InOrder (events ++ call.recorded) (call.make S.traced config h).2 := by
  obtain ⟨hqueue, houtcome⟩ := make_traced hS hsync hinv.queue call
  rcases houtcome with ⟨-, hstore, hbuffer⟩ | ⟨rest, hrest, htried⟩
  · refine ⟨?_, hqueue, ?_⟩
    · rw [hstore, hbuffer, ← List.append_assoc, hinv.order]
    · rw [hstore]
      exact hinv.orderly
  · refine ⟨?_, hqueue, htried.attempt.orderly hinv.orderly⟩
    rw [htried.attempt.committed hinv.orderly, htried.buffer, ← hinv.order, List.append_assoc,
      List.append_assoc, ← hrest]
    cases (call.make S.traced config h).1.isOk with
    | true => rfl
    | false => rfl

/-- A call that returns an error has left the contents as they were, and tells the size of the
generation that it tried to write. -/
theorem InOrder.make_error (hS : S.ChangesByCommit contents) {config : Config}
    (hsync : config.handler.background = false) {events : List EventRecord}
    {h : Handler (Traced σ) (Numbered τ)} (hinv : InOrder events h) {call : Call}
    {error : HandlerError} (herror : (call.make S.traced config h).1 = .error error) :
    contents (call.make S.traced config h).2.store.inner = contents h.store.inner ∧
      error.events = (call.generation h).length := by
  obtain ⟨-, houtcome⟩ := make_traced hS hsync hinv.queue call
  rcases houtcome with ⟨hok, -, -⟩ | ⟨rest, -, htried⟩
  · rw [herror] at hok
    cases hok
  · have hattempt := htried.attempt
    rw [herror] at hattempt
    exact ⟨hattempt.contents_eq, htried.error error herror⟩

/-- Calls made one after another keep the order of the events that they record. -/
theorem makeAll_inOrder (hS : S.ChangesByCommit contents) {calls : List (Config × Call)}
    (hsync : ∀ c ∈ calls, c.1.handler.background = false) {events : List EventRecord}
    {h : Handler (Traced σ) (Numbered τ)} (hinv : InOrder events h) :
    InOrder (events ++ calls.flatMap (·.2.recorded)) (makeAll S.traced calls h) := by
  induction calls generalizing events h with
  | nil =>
    rw [List.flatMap_nil, List.append_nil]
    exact hinv
  | cons c calls ih =>
    obtain ⟨hfirst, hrest⟩ := List.forall_mem_cons.mp hsync
    have hnext := ih hrest (hinv.make hS hfirst c.2)
    rw [List.append_assoc] at hnext
    exact hnext

/-- **In order, and all or nothing.** Calls are made one after another, without background, on a
handler whose store changes its contents by a commit that succeeds and by nothing else. Whatever the
store refuses and under any configurations, the recorded events are in order, first in the committed
generations and then in the buffer, and every transaction that was started was gone through; and a
call that returns an error has left the contents as they were and tells how many events it tried to
write. -/
theorem calls_in_order_atomic (hS : S.ChangesByCommit contents) (s : σ) (w : Surroundings)
    (calls : List (Config × Call)) (hsync : ∀ c ∈ calls, c.1.handler.background = false) :
    let h := makeAll S.traced calls (fresh { inner := s } w)
    makeAll S calls (fresh s w) = h.untraced ∧
      h.store.trace.committed.flatten ++ h.buffer = calls.flatMap (·.2.recorded) ∧
      (∀ e ∈ h.store.trace, e.transaction < h.store.started) ∧
      (∀ n < h.store.started, (h.store.trace.on n).Conducted) ∧
      ∀ before config call after, calls = before ++ (config, call) :: after →
        ∀ reached error, reached = makeAll S before (fresh s w) →
          (call.make S config reached).1 = .error error →
            contents (call.make S config reached).2.store = contents reached.store ∧
              error.events = (call.generation reached).length := by
  have hinv := makeAll_inOrder hS hsync (fresh_inOrder s w)
  refine ⟨makeAll_fresh calls s w, hinv.order, hinv.orderly.transaction, hinv.orderly.conducted, ?_⟩
  rintro before config call after rfl reached error rfl herror
  have hbefore := makeAll_inOrder hS (fun c hc => hsync c (List.mem_append_left _ hc))
    (fresh_inOrder s w)
  have hconfig : config.handler.background = false :=
    hsync (config, call) (List.mem_append_right _ List.mem_cons_self)
  rw [makeAll_fresh, make_untraced] at herror ⊢
  exact hbefore.make_error hS hconfig herror

/-- The store in memory, which refuses the first call of every kind. -/
def refusingEach : Faulty MemoryStore :=
  Stage.all.foldl (fun s stage => s.demand stage 1) { inner := {} }

/-- A configuration that writes batches of some size and sweeps out log records from a second
before. -/
def sweeping (batch : Nat) : Config :=
  { unspecified := { maxAge := some (.ofSecs 1) }, handler := { batch := batch } }

/-- Every stage of a transaction fails once, the first rollback too, before a generation is
written. -/
def refusedCalls : List (Config × Call) := [
  (sweeping 1, .record (Concurrent.numbered 1)),
  (sweeping 2, .record (Concurrent.numbered 2)),
  (sweeping 1, .record (Concurrent.numbered 3)),
  (sweeping 9, .flush),
  (sweeping 9, .record (Concurrent.numbered 4)),
  (sweeping 9, .sweepExpired ⟨5, 0⟩),
  (sweeping 9, .shutdown),
  (sweeping 9, .record (Concurrent.numbered 5))]

theorem calls_in_order_atomic_refusingEach :
    let S := Faulty.store MemoryStore.store
    let contents := fun s : Faulty MemoryStore => s.inner.archive
    let h := makeAll S.traced refusedCalls (fresh { inner := refusingEach } ⟨0, ⟨0, 0⟩⟩)
    S.ChangesByCommit contents ∧
      (∀ c ∈ refusedCalls, c.1.handler.background = false) ∧
      (h.store.started = 5 ∧ h.failures = 4) ∧
      (h.store.trace.committed =
          [[], [Concurrent.numbered 1, Concurrent.numbered 2, Concurrent.numbered 3,
            Concurrent.numbered 4]] ∧ h.buffer = [Concurrent.numbered 5]) ∧
      makeAll S refusedCalls (fresh refusingEach ⟨0, ⟨0, 0⟩⟩) = h.untraced ∧
      h.store.trace.committed.flatten ++ h.buffer = refusedCalls.flatMap (·.2.recorded) ∧
      (∀ e ∈ h.store.trace, e.transaction < h.store.started) ∧
      (∀ n < h.store.started, (h.store.trace.on n).Conducted) ∧
      ∀ before config call after, refusedCalls = before ++ (config, call) :: after →
        ∀ reached error, reached = makeAll S before (fresh refusingEach ⟨0, ⟨0, 0⟩⟩) →
          (call.make S config reached).1 = .error error →
            contents (call.make S config reached).2.store = contents reached.store ∧
              error.events = (call.generation reached).length :=
  ⟨Faulty.changesByCommit MemoryStore.changesByCommit, by decide, by decide, by decide,
    calls_in_order_atomic (Faulty.changesByCommit MemoryStore.changesByCommit) refusingEach
      ⟨0, ⟨0, 0⟩⟩ refusedCalls (by decide)⟩

end Handler

end AuditTrail
