/-
  Lists of entries under keys. What is found under a key after entries were dropped by their keys,
  after the values of entries were changed, and if only presence counts.
-/
namespace AuditTrail

variable {α β γ : Type}

theorem lookup_filter_key [DecidableEq α] (keep : α → Bool) (key : α) (entries : List (α × β)) :
    (entries.filter fun e => keep e.1).lookup key =
      if keep key then entries.lookup key else none := by
  induction entries with
  | nil => exact (ite_self _).symm
  | cons e entries ih =>
    rw [List.filter_cons, List.lookup_cons]
    by_cases hkey : key = e.1
    · rw [hkey, beq_self_eq_true]
      cases hkeep : keep e.1 with
      | true => rw [if_pos rfl, if_pos rfl, List.lookup_cons, beq_self_eq_true]
      | false =>
        rw [if_neg Bool.false_ne_true, if_neg Bool.false_ne_true, ← hkey, ih, hkey, hkeep,
          if_neg Bool.false_ne_true]
    · rw [beq_eq_false_iff_ne.mpr hkey]
      cases keep e.1 with
      | true => rw [if_pos rfl, List.lookup_cons, beq_eq_false_iff_ne.mpr hkey, ih]
      | false => rw [if_neg Bool.false_ne_true, ih]

/-- Values may be changed with a view to their keys. -/
theorem lookup_map_entry [DecidableEq α] (f : α → β → γ) (key : α) (entries : List (α × β)) :
    (entries.map fun e => (e.1, f e.1 e.2)).lookup key = (entries.lookup key).map (f key) := by
  induction entries with
  | nil => rfl
  | cons e entries ih =>
    rw [List.map_cons, List.lookup_cons, List.lookup_cons]
    by_cases hkey : key = e.1
    · rw [hkey, beq_self_eq_true]
      rfl
    · rw [beq_eq_false_iff_ne.mpr hkey]
      exact ih

/-- Where every value is replaced by the same one, only presence counts. -/
theorem map_const_eq {o o' : Option α} (h : o.isSome = o'.isSome) (b : β) :
    o.map (fun _ => b) = o'.map (fun _ => b) :=
  match o, o', h with
  | none, none, _ => rfl
  | some _, some _, _ => rfl

end AuditTrail
