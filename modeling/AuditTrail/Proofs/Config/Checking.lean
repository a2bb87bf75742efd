import AuditTrail.Config.Decode
import AuditTrail.Proofs.Json.Records
import Mathlib.Data.List.Basic

/-
  What the early look at patterns and ages reports: nothing if there is no bad one (`check_eq_ok`),
  and otherwise the first bad pattern of the first list that holds one, under the key of that list
  (`check_eq_error`). A configuration with a single list shows what is said of that list
  (`check_listing`).
-/
namespace AuditTrail.Config

/-- A walk over a list that nothing stops. -/
theorem forIn_eq_ok {α ε : Type} {as : List α} {f : α → PUnit → Except ε (ForInStep PUnit)}
    (h : ∀ a ∈ as, f a ⟨⟩ = .ok (.yield ⟨⟩)) : forIn as PUnit.unit f = .ok ⟨⟩ := by
  induction as with
  | nil => rfl
  | cons a as ih =>
    rw [List.forall_mem_cons] at h
    rw [List.forIn_cons, h.1]
    exact ih h.2

/-- Without a bad pattern and a bad age there is nothing to report. -/
theorem check_eq_ok {v : Json}
    (hpatterns : ∀ path ∈ patternLists, ∀ items, valueAt? v path = some (.array items) →
      badPattern? items = none)
    (hages : ∀ k : Category, ∀ age, valueAt? v [k.name, "max_age"] = some age →
      badAge? age = none) : check v = .ok () := by
  refine Decoder.bind_eq_ok.mpr ⟨⟨⟩, forIn_eq_ok fun path hpath => ?_,
    Decoder.bind_eq_ok.mpr ⟨⟨⟩, forIn_eq_ok fun k _ => ?_, rfl⟩⟩
  · split
    · rw [hpatterns path hpath _ ‹_›]
      rfl
    · rfl
  · dsimp only
    split
    · rw [hages k _ ‹_›]
      rfl
    · rfl

/-- A walk over a list that stops with an error. -/
theorem forIn_eq_error {α ε : Type} {before after : List α} {a : α} {e : ε}
    {f : α → PUnit → Except ε (ForInStep PUnit)}
    (hbefore : ∀ b ∈ before, f b ⟨⟩ = .ok (.yield ⟨⟩)) (ha : f a ⟨⟩ = .error e) :
    forIn (before ++ a :: after) PUnit.unit f = .error e := by
  induction before with
  | nil =>
    rw [List.nil_append, List.forIn_cons, ha]
    rfl
  | cons b before ih =>
    rw [List.forall_mem_cons] at hbefore
    rw [List.cons_append, List.forIn_cons, hbefore.1]
    exact ih hbefore.2

/-- The first list with a bad pattern is reported. -/
theorem check_eq_error {v : Json} {before after : List (List String)} {path : List String}
    (hlists : patternLists = before ++ path :: after)
    (hbefore : ∀ path ∈ before, ∀ items, valueAt? v path = some (.array items) →
      badPattern? items = none)
    {items : List Json} (hitems : valueAt? v path = some (.array items)) {e : PatternError}
    (hbad : badPattern? items = some e) :
    check v = .error (.invalidPattern (".".intercalate path) e) := by
  rw [check, hlists]
  refine congrArg (· >>= _) (forIn_eq_error (fun path hpath => ?_) ?_)
  · split
    · rw [hbefore path hpath _ ‹_›]
      rfl
    · rfl
  · rw [hitems]
    dsimp only
    rw [hbad]
    rfl

/-- A configuration with one list of patterns at a place. -/
def listing (path : List String) (items : List Json) : Json :=
  path.foldr (fun key v => .object [(key, v)]) (.array items)

theorem valueAt?_listing {path path' : List String} (hpath : path ∈ patternLists)
    (hpath' : path' ∈ patternLists) (items : List Json) :
    valueAt? (listing path items) path' = if path = path' then some (.array items) else none := by
  simp only [patternLists, List.mem_cons, List.not_mem_nil, or_false] at hpath hpath'
  rcases hpath with rfl | rfl | rfl | rfl | rfl | rfl | rfl <;>
    rcases hpath' with rfl | rfl | rfl | rfl | rfl | rfl | rfl <;> rfl

theorem valueAt?_listing_age {path : List String} (hpath : path ∈ patternLists) (k : Category)
    (items : List Json) : valueAt? (listing path items) [k.name, "max_age"] = none := by
  simp only [patternLists, List.mem_cons, List.not_mem_nil, or_false] at hpath
  rcases hpath with rfl | rfl | rfl | rfl | rfl | rfl | rfl <;> cases k <;> rfl

/-- A list is reported by its first bad pattern. -/
theorem check_listing {path : List String} (hpath : path ∈ patternLists) (items : List Json) :
    check (listing path items) = (badPattern? items).elim (.ok ())
      fun e => .error (.invalidPattern (".".intercalate path) e) := by
  cases hbad : badPattern? items with
  | none =>
    refine check_eq_ok (fun path' hpath' items' hitems => ?_) fun k age hage => ?_
    · rw [valueAt?_listing hpath hpath'] at hitems
      split at hitems
      · cases hitems
        exact hbad
      · cases hitems
    · rw [valueAt?_listing_age hpath] at hage
      cases hage
  | some e =>
    obtain ⟨before, after, hlists⟩ := List.append_of_mem hpath
    have hnodup : patternLists.Nodup := by decide
    refine check_eq_error hlists (fun path' hpath' items' hitems => ?_)
      ((valueAt?_listing hpath hpath items).trans (if_pos rfl)) hbad
    have hne : path ≠ path' := by
      rintro rfl
      rw [hlists, List.nodup_append] at hnodup
      exact hnodup.2.2 path hpath' path List.mem_cons_self rfl
    have hmem : path' ∈ patternLists := hlists ▸ List.mem_append_left _ hpath'
    rw [valueAt?_listing hpath hmem, if_neg hne] at hitems
    cases hitems

end AuditTrail.Config
