import AuditTrail.Proofs.Lookup
import AuditTrail.Proofs.Mutation.Probes

/-
  Events and contexts without what is generated: identifiers, times and measured durations are
  blanked, and it is only kept whether something was measured. What is done to a context can be done
  to the blank one, with blank events (`blank_stash` to `blank_editEvent`), and lines of the audit
  do not show what was blanked.
-/
namespace AuditTrail

/-! ## Events -/

/-- The entry without its identifier. -/
def EntityEntry.blank (e : EntityEntry) : EntityEntry := { e with id := .ofNat 0 }

/-- The modification with a blank entry. -/
def RelationshipModification.blank (m : RelationshipModification) : RelationshipModification :=
  { m with entry := m.entry.blank }

/-- The event without identifiers, time and duration. -/
def MutationEvent.blank (m : MutationEvent) : MutationEvent :=
  { m with
    id := .ofNat 0
    createdAt := default
    entry := m.entry.blank
    duration := m.duration.map fun _ => .ofSecs 0
    relationships := m.relationships.map (·.blank) }

theorem MutationEvent.blank_modifications (m : MutationEvent) :
    m.blank.modifications = m.modifications := rfl

theorem MutationEvent.blank_isEmptyModification (m : MutationEvent) :
    m.blank.isEmptyModification = m.isEmptyModification := by
  unfold isEmptyModification blank
  dsimp only
  rw [List.isEmpty_map]

/-- A blank event reads like the event. -/
theorem MutationEvent.blank_message (m : MutationEvent) (label : String) (detailed : Bool) :
    m.blank.message label detailed = m.message label detailed := rfl

/-- What was seen before a save, without the time. -/
def PendingSave.blank (p : PendingSave) : PendingSave :=
  { p with started := p.started.map fun _ => default }

/-! ## Entries under keys -/

namespace Keyed

variable {α β : Type}

/-- The entries with other values under the same keys. -/
def mapValues (f : α → β) (m : Keyed α) : Keyed β := m.map fun e => (e.1, f e.2)

theorem remove_mapValues (f : α → β) (k : InstanceKey) (m : Keyed α) :
    (m.mapValues f).remove k = (m.remove k).mapValues f := by
  unfold remove mapValues
  rw [List.filter_map]
  rfl

theorem put_mapValues (f : α → β) (k : InstanceKey) (a : α) (m : Keyed α) :
    (m.mapValues f).put k (f a) = (m.put k a).mapValues f := by
  unfold put
  rw [remove_mapValues]
  rfl

theorem lookup_mapValues (f : α → β) (k : InstanceKey) (m : Keyed α) :
    (m.mapValues f).lookup k = (m.lookup k).map f :=
  lookup_map_entry (fun _ => f) k m

end Keyed

/-! ## Contexts -/

namespace Context

/-- The context with blank events and without times. -/
def blank (c : Context) : Context :=
  { c with events := c.events.map (·.blank), pending := c.pending.mapValues (·.blank) }

theorem blank_discardPending (i : Instance) (c : Context) :
    (c.discardPending i).blank = c.blank.discardPending i := by
  unfold discardPending blank
  dsimp only
  rw [Keyed.remove_mapValues]

theorem blank_stash (i : Instance) (p : PendingSave) (c : Context) :
    (c.stash i p).blank = c.blank.stash i p.blank := by
  unfold stash blank
  dsimp only
  rw [Keyed.put_mapValues]

theorem blank_takePending (i : Instance) (c : Context) :
    (c.takePending i).1.map (·.blank) = (c.blank.takePending i).1 ∧
      (c.takePending i).2.blank = (c.blank.takePending i).2 := by
  unfold takePending blank
  dsimp only
  rw [Keyed.lookup_mapValues, Keyed.lookup_mapValues, Keyed.remove_mapValues,
    Keyed.remove_mapValues]
  cases c.pending.lookup (InstanceKey.of i) with
  | some p => exact ⟨rfl, rfl⟩
  | none => exact ⟨rfl, rfl⟩

theorem blank_enter (i : Instance) (m : MutationEvent) (c : Context) :
    (c.enter i m).blank = c.blank.enter i m.blank := by
  unfold enter blank
  dsimp only
  rw [List.map_append, List.length_map]
  rfl

/-- Equal events of instances with one key are entered alike. -/
theorem blank_enter_congr {c₁ c₂ : Context} {i j : Instance} {m₁ m₂ : MutationEvent}
    (hc : c₁.blank = c₂.blank) (hkey : InstanceKey.of i = InstanceKey.of j)
    (hm : m₁.blank = m₂.blank) : (c₁.enter i m₁).blank = (c₂.enter j m₂).blank := by
  rw [blank_enter, blank_enter, hc, hm, enter, enter, hkey]

theorem blank_editEvent (position : Nat) (relationships : List RelationshipModification)
    (c : Context) :
    (c.editEvent position (Engine.addRelationships relationships)).blank =
      c.blank.editEvent position (Engine.addRelationships (relationships.map (·.blank))) := by
  unfold editEvent blank
  dsimp only
  rw [map_modify]
  intro m
  unfold Engine.addRelationships MutationEvent.blank
  dsimp only
  rw [List.map_append]

theorem blank_actor (position : Nat) (c : Context) :
    c.blank.events[position]?.bind (·.actor) = c.events[position]?.bind (·.actor) := by
  unfold blank
  dsimp only
  rw [List.getElem?_map]
  cases c.events[position]? <;> rfl

end Context

/-! ## Lines of the audit -/

namespace Engine

variable {σ τ : Type} {e₁ e₂ : Engine σ τ} {i j : Instance}

/-- Equal events of one type are announced alike. -/
theorem mutationLine_congr (hconfig : e₁.config = e₂.config) (hentity : i.entity = j.entity)
    {m₁ m₂ : MutationEvent} (hm : m₁.blank = m₂.blank) :
    e₁.mutationLine i m₁ = e₂.mutationLine j m₂ := by
  unfold mutationLine
  rw [hconfig, hentity, ← MutationEvent.blank_message, hm, MutationEvent.blank_message]

/-- Equal changes of a relation are announced alike. -/
theorem relationLine_congr (hconfig : e₁.config = e₂.config) (hentity : i.entity = j.entity)
    (actor : Option String) (field : String) {ms₁ ms₂ : List RelationshipModification}
    (hms : ms₁.map (·.blank) = ms₂.map (·.blank)) :
    e₁.relationLine actor i field ms₁ = e₂.relationLine actor j field ms₂ := by
  have hshort : ms₁.map (·.short) = ms₂.map (·.short) := by
    have h := congrArg (List.map (·.short)) hms
    rw [List.map_map, List.map_map] at h
    exact h
  unfold relationLine
  rw [hconfig, hentity, hshort]

end Engine

end AuditTrail
