import AuditTrail.Handler
import AuditTrail.Proofs.Store.Contract

/-
  What the handler's operations on transactions change. Staging a generation and giving a
  transaction up touch the store, the surroundings and the journal only, and apply nothing
  (`prepare_spec`, `sweepExpired_spec`); the commit of a staged generation either applies its events
  and counts it as written, or applies nothing, counts a failure and puts the events back to the
  front of the buffer (`finish_spec`). Without background, recording an event therefore adds it to
  what is gathered, and nothing else changes that (`record_account`, `flush_account`).
-/
namespace AuditTrail.Handler

variable {σ τ : Type} {S : Store σ τ}
  {staged : τ → List EventRecord} {applied : σ → List EventRecord}

/-- The handler `h'` differs from `h` in its surroundings, its journal and its store at most, and
the store has applied nothing more. -/
def Quiet (applied : σ → List EventRecord) (h h' : Handler σ τ) : Prop :=
  ∃ s w j, h' = { h with store := s, surroundings := w, journal := j } ∧ applied s = applied h.store

theorem Quiet.refl (h : Handler σ τ) : Quiet applied h h :=
  ⟨h.store, h.surroundings, h.journal, rfl, rfl⟩

theorem Quiet.trans {h h' h'' : Handler σ τ} (first : Quiet applied h h')
    (second : Quiet applied h' h'') : Quiet applied h h'' := by
  obtain ⟨s, w, j, rfl, hs⟩ := first
  obtain ⟨s', w', j', rfl, hs'⟩ := second
  exact ⟨s', w', j', rfl, hs'.trans hs⟩

theorem quiet_store (h : Handler σ τ) {s : σ} (hs : applied s = applied h.store) :
    Quiet applied h { h with store := s } :=
  ⟨s, h.surroundings, h.journal, rfl, hs⟩

theorem quiet_report (f : Journal → Journal) (h : Handler σ τ) : Quiet applied h (h.report f) :=
  ⟨h.store, h.surroundings, f h.journal, rfl, rfl⟩

theorem quiet_now (h : Handler σ τ) : Quiet applied h h.now.2 :=
  ⟨h.store, h.surroundings.now.2, h.journal, rfl, rfl⟩

theorem quiet_giveUp (hS : S.Transactional staged applied) (t : τ) (h : Handler σ τ) :
    Quiet applied h (h.giveUp S t) := by
  have hrollback := hS.rollback_applied t h.store
  unfold giveUp
  split
  next s hs =>
    rw [hs] at hrollback
    exact quiet_store h hrollback
  next e s hs =>
    rw [hs] at hrollback
    exact (quiet_store h hrollback).trans (quiet_report _ _)

theorem sweepWithin_spec (hS : S.Transactional staged applied) (config : Config) (now : Timestamp)
    (t : τ) (h : Handler σ τ) :
    Quiet applied h (h.sweepWithin S config now t).2 ∧
      ∀ swept t', (h.sweepWithin S config now t).1 = .ok (swept, t') → staged t' = staged t := by
  obtain ⟨happlied, hstaged⟩ := hS.sweep_staged config now t h.store h.journal
  unfold sweepWithin
  split
  next swept t' s j hsweep =>
    rw [hsweep] at happlied hstaged
    refine ⟨⟨s, h.surroundings, j, rfl, happlied⟩, fun swept' t'' hok => ?_⟩
    simp only [Except.ok.injEq, Prod.mk.injEq] at hok
    rw [← hok.2]
    exact hstaged swept rfl
  next e t' s j hsweep =>
    rw [hsweep] at happlied
    refine ⟨?_, fun swept' t'' hok => by simp at hok⟩
    have hgone : Quiet applied h { h with store := s, journal := j } :=
      ⟨s, h.surroundings, j, rfl, happlied⟩
    exact hgone.trans (quiet_giveUp hS t' _)

/-- Staging a generation applies nothing; if it succeeds, exactly the generation is staged. -/
theorem prepare_spec (hS : S.Transactional staged applied) (events : List EventRecord)
    (config : Config) (h : Handler σ τ) :
    Quiet applied h (h.prepare S events config).2 ∧
      ∀ p, (h.prepare S events config).1 = .ok p →
        p.events = events ∧ staged p.transaction = events := by
  have hstart := hS.start_applied h.store
  unfold prepare
  split
  next e s hs =>
    rw [hs] at hstart
    exact ⟨quiet_store h hstart, fun p hp => by simp at hp⟩
  next t s hs =>
    rw [hs] at hstart
    have hbegun : Quiet applied h { h with store := s } := quiet_store h hstart
    have hinsert := hS.insert_applied events t s
    split
    next e t' s' hs' =>
      rw [hs'] at hinsert
      refine ⟨?_, fun p hp => by simp at hp⟩
      exact (quiet_store h (hinsert.trans hstart)).trans (quiet_giveUp hS t' _)
    next n t' s' hs' =>
      rw [hs'] at hinsert
      have hfilled : Quiet applied h { h with store := s' } :=
        quiet_store h (hinsert.trans hstart)
      have htick := hfilled.trans (quiet_now _)
      dsimp only
      obtain ⟨hquiet, hstaged⟩ := sweepWithin_spec hS config
        (({ h with store := s' } : Handler σ τ).now).1 t'
        (({ h with store := s' } : Handler σ τ).now).2
      split
      next e h' hsweep =>
        rw [hsweep] at hquiet
        exact ⟨htick.trans hquiet, fun p hp => by simp at hp⟩
      next swept t'' h' hsweep =>
        rw [hsweep] at hquiet hstaged
        refine ⟨htick.trans hquiet, fun p hp => ?_⟩
        simp only [Except.ok.injEq] at hp
        subst hp
        refine ⟨rfl, ?_⟩
        rw [hstaged swept t'' rfl, hS.insert_staged hs', hS.start_staged hs, List.nil_append]

/-- The commit of a staged generation: written, with its events applied, or put back. -/
theorem finish_spec (hS : S.Transactional staged applied) (p : Prepared τ) (h : Handler σ τ) :
    (∃ report s j, h.finish S p = (.ok report, { h with
        store := s
        flushes := h.flushes + 1
        persisted := h.persisted + p.events.length
        journal := j }) ∧
      applied s = applied h.store ++ staged p.transaction) ∨
    (∃ error s j, h.finish S p = (.error error, { h with
        store := s
        failures := h.failures + 1
        buffer := p.events ++ h.buffer
        journal := j }) ∧
      applied s = applied h.store) := by
  unfold finish
  split
  next s hs => exact .inl ⟨_, s, _, rfl, hS.commit_applied hs⟩
  next e s hs => exact .inr ⟨_, s, _, rfl, hS.commit_refused hs⟩

/-- A generation that is not written is counted and goes back to the front of the buffer. -/
theorem fail_spec (events : List EventRecord) (e : StoreError) (h : Handler σ τ) :
    ∃ j, (h.fail S events e).2 = { h with
      failures := h.failures + 1
      buffer := events ++ h.buffer
      journal := j } :=
  ⟨_, rfl⟩

/-- A generation is written, with its events applied, or put back in front of the buffer. -/
theorem persist_spec (hS : S.Transactional staged applied) (events : List EventRecord)
    (config : Config) (h : Handler σ τ) :
    (∃ report s w j, h.persist S events config = (.ok report, { h with
        store := s
        surroundings := w
        journal := j
        flushes := h.flushes + 1
        persisted := h.persisted + events.length }) ∧
      applied s = applied h.store ++ events) ∨
    (∃ error s w j, h.persist S events config = (.error error, { h with
        store := s
        surroundings := w
        journal := j
        failures := h.failures + 1
        buffer := events ++ h.buffer }) ∧
      applied s = applied h.store) := by
  obtain ⟨hquiet, hstaged⟩ := prepare_spec hS events config h
  unfold persist
  split
  next p h' hprepare =>
    rw [hprepare] at hquiet hstaged
    obtain ⟨s, w, j, rfl, hs⟩ := hquiet
    obtain ⟨rfl, hp⟩ := hstaged p rfl
    rcases finish_spec hS p { h with store := s, surroundings := w, journal := j } with
      ⟨report, s', j', hfinish, hs'⟩ | ⟨error, s', j', hfinish, hs'⟩
    · exact .inl ⟨report, s', w, j', hfinish, by rw [hs', hp, hs]⟩
    · exact .inr ⟨error, s', w, j', hfinish, hs'.trans hs⟩
  next e h' hprepare =>
    rw [hprepare] at hquiet
    obtain ⟨s, w, j, rfl, hs⟩ := hquiet
    exact .inr ⟨_, s, w, _, rfl, hs⟩

/-- A sweep of its own applies nothing. -/
theorem sweepExpired_spec (hS : S.Transactional staged applied) (config : Config) (now : Timestamp)
    (h : Handler σ τ) : Quiet applied h (h.sweepExpired S config now).2 := by
  have hstart := hS.start_applied h.store
  unfold sweepExpired
  dsimp only
  split
  next e s hs =>
    rw [hs] at hstart
    exact (quiet_store h hstart).trans (quiet_report _ _)
  next t s hs =>
    rw [hs] at hstart
    have hbegun : Quiet applied h { h with store := s } := quiet_store h hstart
    obtain ⟨hquiet, hstaged⟩ := sweepWithin_spec hS config now t { h with store := s }
    split
    next e h' hsweep =>
      rw [hsweep] at hquiet
      exact (hbegun.trans hquiet).trans (quiet_report _ _)
    next swept t' h' hsweep =>
      rw [hsweep] at hquiet hstaged
      have hempty : staged t' = [] := (hstaged swept t' rfl).trans (hS.start_staged hs)
      split
      next s' hs' =>
        have hcommit := hS.commit_applied hs'
        rw [hempty, List.append_nil] at hcommit
        exact (hbegun.trans hquiet).trans (quiet_store h' hcommit)
      next e s' hs' =>
        have hback := quiet_store h' (hS.commit_refused hs')
        exact ((hbegun.trans hquiet).trans hback).trans (quiet_report _ _)

/-! ## Recording without background -/

/-- All events gathered so far, in order: those that were applied, then those in the buffer. -/
def account (applied : σ → List EventRecord) (h : Handler σ τ) : List EventRecord :=
  applied h.store ++ h.buffer

/-- A generation that is written follows what was applied before, and one that is not precedes what
is in the buffer. -/
theorem persist_account (hS : S.Transactional staged applied) (events : List EventRecord)
    (config : Config) (h : Handler σ τ) :
    (h.persist S events config).2.account applied = applied h.store ++ (events ++ h.buffer) ∧
      ∀ report, (h.persist S events config).1 = .ok report →
        (h.persist S events config).2.buffer = h.buffer := by
  rcases persist_spec hS events config h with ⟨report, s, w, j, hpersist, hs⟩ |
    ⟨error, s, w, j, hpersist, hs⟩
  · rw [hpersist]
    refine ⟨?_, fun _ _ => rfl⟩
    rw [account, hs, List.append_assoc]
  · rw [hpersist]
    refine ⟨?_, nofun⟩
    rw [account, hs]

/-- Whether or not it comes to writing, and whatever comes of that, exactly the recorded event is
gathered. -/
theorem record_account (hS : S.Transactional staged applied) {config : Config}
    (hsync : config.handler.background = false) (e : EventRecord) (h : Handler σ τ) :
    (h.record S config e).2.account applied = h.account applied ++ [e] := by
  unfold record flushIfDue takeIfDue
  by_cases hdue : (h.push e).buffer.length < threshold config
  · rw [if_pos hdue]
    exact (List.append_assoc _ _ _).symm
  · rw [if_neg hdue]
    dsimp only [takeAll]
    rw [hsync, if_neg Bool.false_ne_true]
    refine (persist_account hS _ config _).1.trans ?_
    rw [List.append_nil, push, account, List.append_assoc]

/-- A flush writes the whole buffer, or leaves buffer and store as they were; it leaves the
background alone. -/
theorem flush_spec (hS : S.Transactional staged applied) (config : Config) (h : Handler σ τ) :
    (h.flush S config).2.queue = h.queue ∧ (h.flush S config).2.held = h.held ∧
      ((∃ report, (h.flush S config).1 = .ok report ∧ (h.flush S config).2.buffer = [] ∧
          applied (h.flush S config).2.store = applied h.store ++ h.buffer) ∨
        ∃ error, (h.flush S config).1 = .error error ∧ (h.flush S config).2.buffer = h.buffer ∧
          applied (h.flush S config).2.store = applied h.store) := by
  unfold flush
  dsimp only [takeAll]
  by_cases hempty : h.buffer.isEmpty = true
  · rw [if_pos hempty, List.isEmpty_iff.mp hempty]
    exact ⟨rfl, rfl, .inl ⟨_, rfl, rfl, (List.append_nil _).symm⟩⟩
  · rw [if_neg hempty]
    rcases persist_spec hS h.buffer config { h with buffer := [] } with
      ⟨report, s, w, j, hpersist, hs⟩ | ⟨error, s, w, j, hpersist, hs⟩
    · rw [hpersist]
      exact ⟨rfl, rfl, .inl ⟨report, rfl, rfl, hs⟩⟩
    · rw [hpersist]
      exact ⟨rfl, rfl, .inr ⟨error, rfl, List.append_nil _, hs⟩⟩

/-- A flush gathers nothing, and leaves nothing in the buffer if it succeeds. -/
theorem flush_account (hS : S.Transactional staged applied) (config : Config) (h : Handler σ τ) :
    (h.flush S config).2.account applied = h.account applied ∧
      ∀ report, (h.flush S config).1 = .ok report → (h.flush S config).2.buffer = [] := by
  obtain ⟨-, -, ⟨report, hok, hbuffer, hs⟩ | ⟨error, herror, hbuffer, hs⟩⟩ := flush_spec hS config h
  · refine ⟨?_, fun _ _ => hbuffer⟩
    rw [account, account, hbuffer, hs, List.append_nil]
  · refine ⟨?_, fun report hok => ?_⟩
    · rw [account, account, hbuffer, hs]
    · rw [herror] at hok
      cases hok

end AuditTrail.Handler
