import AuditTrail.Config.Basic

/-
  Rules of a configuration and its resolution. A configuration is accepted if it keeps the rules
  (`Config.broken?_eq_none_iff`), and resolving it adds the global exclusions to every category's
  (`Config.resolved_excludesGlobally`).
-/
namespace AuditTrail

/-- A configuration keeps the rules. -/
def Config.Valid (c : Config) : Prop :=
  1 ≤ c.handler.batch ∧ ∀ key ∈ c.request.data.mask, key ∉ c.request.data.ignore

theorem Config.broken?_eq_none_iff (c : Config) : c.broken? = none ↔ c.Valid := by
  rw [Config.broken?, Config.Valid]
  by_cases hb : c.handler.batch = 0
  · simp [hb]
  · have hpos : 1 ≤ c.handler.batch := by omega
    simp [hb, hpos, List.filter_eq_nil_iff]

/-- The patterns of both lists are in their union. -/
theorem Pattern.mem_union {p : Pattern} {left right : List Pattern} :
    p ∈ Pattern.union left right ↔ p ∈ left ∨ p ∈ right := by
  induction right generalizing left with
  | nil => simp [Pattern.union]
  | cons q right ih =>
    have hstep : Pattern.union left (q :: right)
        = Pattern.union (if left.contains q then left else left ++ [q]) right := rfl
    rw [hstep, ih]
    by_cases hq : q ∈ left
    · rw [if_pos (by simpa using hq), List.mem_cons]
      constructor
      · rintro (h | h)
        · exact .inl h
        · exact .inr (.inr h)
      · rintro (h | rfl | h)
        · exact .inl h
        · exact .inl hq
        · exact .inr h
    · rw [if_neg (by simpa using hq), List.mem_append, List.mem_singleton, List.mem_cons, or_assoc]

/-- The global exclusions hold for every category. -/
structure Config.ExcludesGlobally (c : Config) : Prop where
  request : ∀ p ∈ c.globals.applications, p ∈ c.request.exclude.applications
  model : ∀ p ∈ c.globals.applications, p ∈ c.model.exclude.applications
  unspecified : ∀ p ∈ c.globals.applications, p ∈ c.unspecified.exclude.applications

theorem Config.resolved_excludesGlobally (c : Config) : c.resolved.ExcludesGlobally where
  request _ hp := Pattern.mem_union.mpr (.inr hp)
  model _ hp := Pattern.mem_union.mpr (.inr hp)
  unspecified _ hp := Pattern.mem_union.mpr (.inr hp)

end AuditTrail
