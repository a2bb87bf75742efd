import AuditTrail.Proofs.Config.Resolution

/-
  The union of exclusion lists, by which global exclusions are added to those of each category. It
  is the first list followed by what is new in the second (`Pattern.union_eq`); a second union with
  the same list finds nothing new (`Pattern.union_union`), and since only patterns that have
  occurred are dropped, it matches what either list matches (`Pattern.anyMatch_union`).

  Patterns are compared by kind and value. What is matched depends on these alone, also where a
  pattern is kept with the expression that it was compiled to and is matched by that expression: a
  union that leaves the expressions out of the comparison drops the same patterns and matches the
  same candidates (`Pattern.Compiled.union_pattern`, `Pattern.Compiled.isMatch_eq`).

  Main statement: `Config.exclusions_united`.
-/
namespace AuditTrail

namespace Pattern

theorem union_cons (left : List Pattern) (p : Pattern) (right : List Pattern) :
    union left (p :: right) = union (if left.contains p then left else left ++ [p]) right := rfl

/-- The first list, then the distinct patterns of the second that are not in the first, in the order
in which they first occur. -/
theorem union_eq (left right : List Pattern) :
    union left right = left ++ (right.filter (· ∉ left)).eraseDups := by
  induction right generalizing left with
  | nil => exact (List.append_nil left).symm
  | cons p right ih =>
    rw [union_cons, ih]
    by_cases hp : p ∈ left
    · rw [if_pos (List.contains_iff_mem.mpr hp), List.filter_cons_of_neg (by simpa using hp)]
    · have hlater : right.filter (· ∉ left ++ [p]) =
          (right.filter (· ∉ left)).filter fun q => !q == p := by
        rw [List.filter_filter]
        refine List.filter_congr fun q _ => ?_
        rw [Bool.eq_iff_iff]
        simp [and_comm]
      rw [if_neg (mt List.contains_iff_mem.mp hp), List.filter_cons_of_pos (by simpa using hp),
        List.eraseDups_cons, hlater, List.append_assoc, List.singleton_append]

theorem union_union (left right : List Pattern) :
    union (union left right) right = union left right := by
  have hnone : right.filter (· ∉ union left right) = [] := by
    refine List.filter_eq_nil_iff.mpr fun p hp => ?_
    simpa using mem_union.mpr (.inr hp)
  rw [union_eq, hnone, List.eraseDups_nil, List.append_nil]

theorem anyMatch_union (left right : List Pattern) (candidate : String) :
    anyMatch (union left right) candidate =
      (anyMatch left candidate || anyMatch right candidate) := by
  rw [Bool.eq_iff_iff, Bool.or_eq_true]
  simp only [anyMatch, List.any_eq_true, mem_union, or_and_right, exists_or]

/-! ## Compiled patterns -/

/-- The expression by which a pattern is matched, if it is not compared as it is. -/
def expression? (p : Pattern) : Option Regex :=
  match p.kind with
  | .glob => wildcard p.value
  | .plain => none
  | .regex => anchored p.value

/-- A pattern that keeps the expression that it was compiled to. -/
structure Compiled where
  pattern : Pattern
  matcher : Option Regex
  matcher_eq : matcher = pattern.expression?

namespace Compiled

/-- A pattern with the expression that was made of its value, if one could be made. -/
def keep (p : Pattern) (expression : Option Regex) (h : expression = p.expression?) :
    Except PatternError Compiled :=
  match expression, h with
  | some matcher, h => .ok ⟨p, some matcher, h⟩
  | none, _ => .error (.invalidExpression p.value)

/-- Compiles a value. -/
def make (kind : PatternKind) (value : String) : Except PatternError Compiled :=
  match kind with
  | .glob => keep ⟨.glob, Text.lower value⟩ (wildcard (Text.lower value)) rfl
  | .plain => .ok ⟨⟨.plain, Text.lower value⟩, none, rfl⟩
  | .regex => keep ⟨.regex, value⟩ (anchored value) rfl

/-- Whether a candidate matches, by the kept expression. -/
def isMatch (p : Compiled) (candidate : String) : Bool :=
  match p.pattern.kind, p.matcher with
  | .plain, _ => Text.lower candidate == p.pattern.value
  | .glob, some matcher => matcher.isMatch (Text.lower candidate)
  | .regex, some matcher => matcher.isMatch candidate
  | _, none => false

/-- The patterns of both lists. Whether a pattern has occurred is told without its expression. -/
def union (left right : List Compiled) : List Compiled :=
  right.foldl (fun merged p =>
    if merged.any (·.pattern == p.pattern) then merged else merged ++ [p]) left

theorem keep_pattern (p : Pattern) (expression : Option Regex) (h : expression = p.expression?) :
    (keep p expression h).map (·.pattern) =
      if expression.isSome then .ok p else .error (.invalidExpression p.value) := by
  cases expression <;> rfl

/-- Compiling accepts the same values and makes the same patterns of them. -/
theorem make_pattern (kind : PatternKind) (value : String) :
    (make kind value).map (·.pattern) = ofKind kind value := by
  cases kind with
  | glob => exact keep_pattern _ _ _
  | plain => rfl
  | regex => exact keep_pattern _ _ _

theorem isMatch_eq (p : Compiled) (candidate : String) :
    p.isMatch candidate = p.pattern.isMatch candidate := by
  unfold isMatch Pattern.isMatch
  cases hkind : p.pattern.kind with
  | glob =>
    have hmatcher : p.matcher = wildcard p.pattern.value := by
      rw [p.matcher_eq, expression?, hkind]
    dsimp only
    rw [← hmatcher]
    cases p.matcher <;> rfl
  | plain => rfl
  | regex =>
    have hmatcher : p.matcher = anchored p.pattern.value := by
      rw [p.matcher_eq, expression?, hkind]
    dsimp only
    rw [← hmatcher]
    cases p.matcher <;> rfl

theorem union_pattern (left right : List Compiled) :
    (union left right).map (·.pattern) =
      Pattern.union (left.map (·.pattern)) (right.map (·.pattern)) := by
  induction right generalizing left with
  | nil => rfl
  | cons p right ih =>
    have hoccurs : (left.map (·.pattern)).contains p.pattern =
        left.any (·.pattern == p.pattern) := by
      rw [List.contains_eq_any_beq, List.any_map]
      exact congrArg left.any (funext fun q => Bool.beq_comm)
    have hstep : union left (p :: right) =
        union (if left.any (·.pattern == p.pattern) then left else left ++ [p]) right := rfl
    rw [hstep, ih, List.map_cons, union_cons, hoccurs]
    cases left.any (·.pattern == p.pattern) with
    | true => rfl
    | false => rw [if_neg Bool.false_ne_true, if_neg Bool.false_ne_true, List.map_append]; rfl

end Compiled

end Pattern

/-! ## Resolution -/

namespace Config

/-- The applications that a category excludes. -/
def applications (c : Config) : Category → List Pattern
  | .request => c.request.exclude.applications
  | .model => c.model.exclude.applications
  | .unspecified => c.unspecified.exclude.applications

/-- The configuration with other lists of excluded applications. -/
def withApplications (c : Config) (own : Category → List Pattern) : Config :=
  { c with
    request.exclude.applications := own .request
    model.exclude.applications := own .model
    unspecified.exclude.applications := own .unspecified }

theorem resolved_eq (c : Config) : c.resolved =
    c.withApplications fun k => Pattern.union (c.applications k) c.globals.applications := rfl

theorem applications_withApplications (c : Config) (own : Category → List Pattern)
    (k : Category) : (c.withApplications own).applications k = own k := by
  cases k <;> rfl

theorem resolved_resolved (c : Config) : c.resolved.resolved = c.resolved := by
  have hkept : (fun k => Pattern.union (c.resolved.applications k) c.globals.applications) =
      fun k => Pattern.union (c.applications k) c.globals.applications := by
    funext k
    rw [resolved_eq, applications_withApplications, Pattern.union_union]
  calc c.resolved.resolved
      = c.withApplications fun k =>
          Pattern.union (c.resolved.applications k) c.globals.applications := rfl
    _ = c.resolved := by rw [hkept, ← resolved_eq]

/-- **The union of exclusions.** The union of two lists is the first one followed by the distinct
patterns of the second that are not in the first, in the order in which they first occur; a second
union with the same list changes nothing; and it matches exactly what either list matches. Of
patterns that are kept compiled and compared without their expressions the same is true. So a
configuration that was resolved is not changed by resolving it again, differs from what it was in
the three lists of excluded applications at most, and excludes from a category exactly the
applications that the category or the global exclusions name. -/
theorem exclusions_united :
    (∀ left right : List Pattern,
      Pattern.union left right = left ++ (right.filter (· ∉ left)).eraseDups ∧
      Pattern.union (Pattern.union left right) right = Pattern.union left right ∧
      ∀ candidate, Pattern.anyMatch (Pattern.union left right) candidate =
        (Pattern.anyMatch left candidate || Pattern.anyMatch right candidate)) ∧
    (∀ left right : List Pattern.Compiled,
      (Pattern.Compiled.union left right).map (·.pattern) =
        Pattern.union (left.map (·.pattern)) (right.map (·.pattern)) ∧
      ∀ candidate, (Pattern.Compiled.union left right).any (·.isMatch candidate) =
        (left.any (·.isMatch candidate) || right.any (·.isMatch candidate))) ∧
    ∀ c : Config,
      c.resolved.resolved = c.resolved ∧
      c.resolved.withApplications c.applications = c ∧
      ∀ k application, Pattern.anyMatch (c.resolved.applications k) application =
        (Pattern.anyMatch (c.applications k) application ||
          Pattern.anyMatch c.globals.applications application) := by
  refine ⟨fun left right => ⟨Pattern.union_eq left right, Pattern.union_union left right,
    Pattern.anyMatch_union left right⟩, fun left right => ?_, fun c => ⟨c.resolved_resolved, rfl,
    fun k application => ?_⟩⟩
  · have hcompiled : ∀ (ps : List Pattern.Compiled) candidate,
        ps.any (·.isMatch candidate) = Pattern.anyMatch (ps.map (·.pattern)) candidate := by
      intro ps candidate
      rw [Pattern.anyMatch, List.any_map]
      exact congrArg ps.any (funext fun p => p.isMatch_eq candidate)
    refine ⟨Pattern.Compiled.union_pattern left right, fun candidate => ?_⟩
    rw [hcompiled, hcompiled, hcompiled, Pattern.Compiled.union_pattern, Pattern.anyMatch_union]
  · rw [resolved_eq, applications_withApplications, Pattern.anyMatch_union]

end Config

end AuditTrail
