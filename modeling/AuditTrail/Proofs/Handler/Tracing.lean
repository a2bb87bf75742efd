import AuditTrail.Proofs.Handler.Projection
import AuditTrail.Proofs.Store.Trace

/-
  A handler whose store is traced. Without the trace (`Handler.untraced`) it is a handler at the
  store itself, as with everything that is only kept beside what a store does. What a trace shows of
  a run is therefore true of the run without it.
-/
namespace AuditTrail

variable {σ τ : Type} {S : Store σ τ}

def Prepared.untraced (p : Prepared (Numbered τ)) : Prepared τ :=
  { events := p.events, swept := p.swept, transaction := p.transaction.inner }

def Task.untraced : Task (Numbered τ) → Task τ
  | .taken events config => .taken events config
  | .prepared p => .prepared p.untraced

/-- A trace is only kept beside what a store does. -/
theorem Store.traced_projects (S : Store σ τ) :
    S.traced.Projects S Traced.inner Numbered.inner where
  name := rfl
  start s := by
    simp only [traced]
    split
    next t inner h => exact h
    next e inner h => exact h
  insert _ _ _ := rfl
  delete _ _ _ _ := rfl
  commit _ _ := rfl
  rollback _ _ := rfl
  ready _ _ := rfl

namespace Handler

/-- What is left of a handler without the trace. -/
def untraced (h : Handler (Traced σ) (Numbered τ)) : Handler σ τ where
  store := h.store.inner
  buffer := h.buffer
  queue := h.queue.map Task.untraced
  held := h.held.map Prepared.untraced
  flushes := h.flushes
  failures := h.failures
  persisted := h.persisted
  surroundings := h.surroundings
  journal := h.journal

theorem untraced_eq_project (h : Handler (Traced σ) (Numbered τ)) :
    h.untraced = h.project Traced.inner Numbered.inner := by
  have htask : (Task.untraced : Task (Numbered τ) → Task τ) = Task.project Numbered.inner :=
    funext fun task => by cases task <;> rfl
  unfold untraced
  rw [htask]
  rfl

end Handler

end AuditTrail
