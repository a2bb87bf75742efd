import AuditTrail.Retention

/-
  What is relied on of a store. `staged` gives the events staged in an open transaction, `applied`
  all events that committed transactions have brought in so far, in the order of the commits and
  whether or not a sweep has deleted them since. A commit that succeeds applies everything staged;
  nothing else applies anything (`Store.Transactional`).

  `Store.logged` keeps that account beside any store, so every store meets the contract with it
  (`logged_transactional`). A sweep stages no events (`sweep_staged`).
-/
namespace AuditTrail

variable {σ τ : Type}

/-- The contract of a store: only a commit that succeeds applies what is staged. -/
structure Store.Transactional (S : Store σ τ) (staged : τ → List EventRecord)
    (applied : σ → List EventRecord) : Prop where
  start_applied (s : σ) : applied (S.start s).2 = applied s
  start_staged {s s' : σ} {t : τ} : S.start s = (.ok t, s') → staged t = []
  insert_applied (events : List EventRecord) (t : τ) (s : σ) :
    applied (S.insert events t s).2.2 = applied s
  insert_staged {events : List EventRecord} {t t' : τ} {s s' : σ} {n : Nat} :
    S.insert events t s = (.ok n, t', s') → staged t' = staged t ++ events
  delete_applied (c : Category) (cutoff : Timestamp) (t : τ) (s : σ) :
    applied (S.deleteBefore c cutoff t s).2.2 = applied s
  delete_staged {c : Category} {cutoff : Timestamp} {t t' : τ} {s s' : σ} {n : Nat} :
    S.deleteBefore c cutoff t s = (.ok n, t', s') → staged t' = staged t
  commit_applied {t : τ} {s s' : σ} : S.commit t s = (.ok (), s') →
    applied s' = applied s ++ staged t
  commit_refused {t : τ} {s s' : σ} {e : StoreError} :
    S.commit t s = (.error e, s') → applied s' = applied s
  rollback_applied (t : τ) (s : σ) : applied (S.rollback t s).2 = applied s

namespace Store.Transactional

variable {S : Store σ τ} {staged : τ → List EventRecord} {applied : σ → List EventRecord}

/-- Staging the deletions of some categories applies nothing, and if it succeeds no event has been
staged by it. -/
theorem sweepCategories_staged (hS : S.Transactional staged applied) (config : Config)
    (now : Timestamp) (cs : List Category) (swept : Swept) (t : τ) (s : σ) (j : Journal) :
    applied (sweepCategories S config now cs swept t s j).2.2.1 = applied s ∧
      ∀ n, (sweepCategories S config now cs swept t s j).1 = .ok n →
        staged (sweepCategories S config now cs swept t s j).2.1 = staged t := by
  induction cs generalizing swept t s j with
  | nil => exact ⟨rfl, fun _ _ => rfl⟩
  | cons c cs ih =>
    unfold sweepCategories
    cases config.cutoff? now c with
    | none => exact ih swept t s j
    | some cutoff =>
      have happlied := hS.delete_applied c cutoff t s
      dsimp only
      split
      next e t' s' hdel =>
        rw [hdel] at happlied
        exact ⟨happlied, fun n hn => by simp at hn⟩
      next n t' s' hdel =>
        rw [hdel] at happlied
        obtain ⟨hs, ht⟩ := ih (swept.set c n) t' s' (j.countDeleted c n)
        refine ⟨hs.trans happlied, fun m hm => ?_⟩
        rw [ht m hm, hS.delete_staged hdel]

theorem sweep_staged (hS : S.Transactional staged applied) (config : Config) (now : Timestamp)
    (t : τ) (s : σ) (j : Journal) :
    applied (sweep S config now t s j).2.2.1 = applied s ∧
      ∀ n, (sweep S config now t s j).1 = .ok n →
        staged (sweep S config now t s j).2.1 = staged t :=
  sweepCategories_staged hS config now Category.all {} t s j

end Store.Transactional

/-! ## An account beside a store -/

/-- A store with an account of what is staged and of what has been applied. -/
def Store.logged (S : Store σ τ) : Store (σ × List EventRecord) (τ × List EventRecord) where
  name := S.name
  start s := match S.start s.1 with
    | (.ok t, s') => (.ok (t, []), (s', s.2))
    | (.error e, s') => (.error e, (s', s.2))
  insert events t s := match S.insert events t.1 s.1 with
    | (.ok n, t', s') => (.ok n, (t', t.2 ++ events), (s', s.2))
    | (.error e, t', s') => (.error e, (t', t.2), (s', s.2))
  deleteBefore c cutoff t s :=
    let (result, t', s') := S.deleteBefore c cutoff t.1 s.1
    (result, (t', t.2), (s', s.2))
  commit t s := match S.commit t.1 s.1 with
    | (.ok (), s') => (.ok (), (s', s.2 ++ t.2))
    | (.error e, s') => (.error e, (s', s.2))
  rollback t s :=
    let (result, s') := S.rollback t.1 s.1
    (result, (s', s.2))
  ready t s := S.ready t.1 s.1

/-- Every store meets the contract with the account kept beside it. -/
theorem Store.logged_transactional (S : Store σ τ) : S.logged.Transactional Prod.snd Prod.snd where
  start_applied s := by
    simp only [logged]
    split <;> rfl
  start_staged {s s' t} h := by
    simp only [logged] at h
    split at h
    · simp only [Prod.mk.injEq, Except.ok.injEq] at h
      rw [← h.1]
    · simp at h
  insert_applied events t s := by
    simp only [logged]
    split <;> rfl
  insert_staged {events t t' s s' n} h := by
    simp only [logged] at h
    split at h
    · simp only [Prod.mk.injEq] at h
      rw [← h.2.1]
    · simp at h
  delete_applied _ _ _ _ := rfl
  delete_staged {c cutoff t t' s s' n} h := by
    simp only [logged, Prod.mk.injEq] at h
    rw [← h.2.1]
  commit_applied {t s s'} h := by
    simp only [logged] at h
    split at h
    · simp only [Prod.mk.injEq] at h
      rw [← h.2]
    · simp at h
  commit_refused {t s s' e} h := by
    simp only [logged] at h
    split at h
    · simp at h
    · simp only [Prod.mk.injEq] at h
      rw [← h.2]
  rollback_applied _ _ := rfl

end AuditTrail
