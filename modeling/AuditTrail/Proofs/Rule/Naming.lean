import AuditTrail.Proofs.Rule.Memory
import AuditTrail.Proofs.Text.Length
import Mathlib.Data.List.Basic

/-
  What the names of a type of entities determine. The patterns look at the name, the module and the
  application of a type; the qualified name runs name and module together. Types of one qualified
  name and one application are judged alike if they have the same name (`verdict_congr`). If their
  names differ, the longer name ends in the shorter one behind a dot, and for every field there is
  a plain pattern that excludes the field of the type with the shorter name only
  (`exists_excludesField_ne`).

  Plain patterns ignore case, so texts are told apart by the lengths of their small forms
  (`Text.lower_ne_of_lowerLength_ne`).
-/
namespace AuditTrail

/-! ## Types of one qualified name -/

namespace EntityType

variable {a b : EntityType}

theorem qualifiedName_of_module {m : String} (h : a.moduleName = some m) :
    a.qualifiedName = m ++ "." ++ a.name := by
  rw [qualifiedName, h]

theorem qualifiedName_of_none (h : a.moduleName = none) : a.qualifiedName = a.name := by
  rw [qualifiedName, h]

theorem name_length_le (a : EntityType) : a.name.length ≤ a.qualifiedName.length := by
  cases h : a.moduleName with
  | none => exact Nat.le_of_eq (by rw [qualifiedName_of_none h])
  | some m =>
    rw [qualifiedName_of_module h, String.length_append]
    omega

theorem name_suffix (a : EntityType) : a.name.toList <:+ a.qualifiedName.toList := by
  cases h : a.moduleName with
  | none => exact ⟨[], by rw [qualifiedName_of_none h, List.nil_append]⟩
  | some m =>
    rw [qualifiedName_of_module h, String.toList_append]
    exact List.suffix_append _ _

/-- The name and the qualified name leave no choice of the module. -/
theorem moduleName_eq (hqualified : a.qualifiedName = b.qualifiedName) (hname : a.name = b.name) :
    a.moduleName = b.moduleName := by
  cases ha : a.moduleName with
  | none =>
    cases hb : b.moduleName with
    | none => rfl
    | some m =>
      rw [qualifiedName_of_none ha, qualifiedName_of_module hb, hname] at hqualified
      have hlength := congrArg String.length hqualified
      rw [String.length_append, String.length_append, show ".".length = 1 from rfl] at hlength
      omega
  | some m =>
    cases hb : b.moduleName with
    | none =>
      rw [qualifiedName_of_module ha, qualifiedName_of_none hb, hname] at hqualified
      have hlength := congrArg String.length hqualified
      rw [String.length_append, String.length_append, show ".".length = 1 from rfl] at hlength
      omega
    | some m' =>
      rw [qualifiedName_of_module ha, qualifiedName_of_module hb, hname, String.append_left_inj,
        String.append_left_inj] at hqualified
      rw [hqualified]

/-- Names of types of one qualified name are told apart by their lengths. -/
theorem name_eq_of_length (hqualified : a.qualifiedName = b.qualifiedName)
    (hlength : a.name.length = b.name.length) : a.name = b.name := by
  have ha := name_suffix a
  rw [hqualified] at ha
  have hsuffix : a.name.toList <:+ b.name.toList := by
    refine List.suffix_of_suffix_length_le ha (name_suffix b) ?_
    exact Nat.le_of_eq (by rw [String.length_toList, String.length_toList, hlength])
  have heq := hsuffix.eq_of_length (by rw [String.length_toList, String.length_toList, hlength])
  exact String.toList_inj.mp heq

/-- Of two types of one qualified name, the one with the longer name has the name of the other at
its end, behind a dot. -/
theorem exists_name_eq_append (hqualified : a.qualifiedName = b.qualifiedName)
    (hlength : a.name.length < b.name.length) : ∃ z, b.name = z ++ "." ++ a.name := by
  cases ha : a.moduleName with
  | none =>
    have hle := name_length_le b
    rw [← hqualified, qualifiedName_of_none ha] at hle
    omega
  | some m =>
    have hdotted : ("." ++ a.name).toList <:+ b.qualifiedName.toList := by
      rw [← hqualified, qualifiedName_of_module ha, String.append_assoc]
      rw [String.toList_append (s := m)]
      exact List.suffix_append _ _
    obtain ⟨z, hz⟩ : ("." ++ a.name).toList <:+ b.name.toList := by
      refine List.suffix_of_suffix_length_le hdotted (name_suffix b) ?_
      rw [String.length_toList, String.length_toList, String.length_append,
        show ".".length = 1 from rfl]
      omega
    refine ⟨String.ofList z, ?_⟩
    rw [← String.toList_inj, String.append_assoc, String.toList_append, String.toList_ofList, hz]

end EntityType

/-- Types that are found by the same keys but looked at under different names. -/
def EntityType.Confused (a b : EntityType) : Prop :=
  a.qualifiedName = b.qualifiedName ∧ a.application = b.application ∧ a.name ≠ b.name

/-! ## What the patterns see -/

/-- Types of one name, module and application are excluded alike. -/
theorem ModelExclude.excludesType_congr (x : ModelExclude) {a b : EntityType}
    (hname : a.name = b.name) (hmodule : a.moduleName = b.moduleName)
    (happlication : a.application = b.application) : x.excludesType a = x.excludesType b := by
  unfold excludesType EntityType.names
  rw [hname, hmodule, happlication]

/-- Fields of types of one name and application are excluded alike. -/
theorem ModelExclude.excludesField_congr (x : ModelExclude) {a b : EntityType}
    (hname : a.name = b.name) (happlication : a.application = b.application) (field : String) :
    x.excludesField a field = x.excludesField b field := by
  unfold excludesField EntityType.fieldNames
  rw [hname, happlication]

/-- Candidates that are found by one key are judged alike if their types have one name. -/
theorem Config.verdict_congr (c : Config) {x y : Candidate} {version : Nat} {key : MemoKey}
    (hx : x.memoKey? version = some key) (hy : y.memoKey? version = some key)
    (hname : x.entity?.map (·.name) = y.entity?.map (·.name)) :
    c.verdict x = c.verdict y := by
  cases x with
  | model a op =>
    cases y with
    | model b op' =>
      have hkey := Option.some.inj (hx.trans hy.symm)
      simp only [MemoKey.mk.injEq] at hkey
      have hnames := Option.some.inj hname
      exact c.model.exclude.excludesType_congr hnames
        (EntityType.moduleName_eq hkey.2.1 hnames) hkey.2.2.1
    | field b field' => cases congrArg MemoKey.kind (Option.some.inj (hx.trans hy.symm))
    | request _ _ _ _ => cases hy
    | log _ _ => cases hy
  | field a field =>
    cases y with
    | model b op' => cases congrArg MemoKey.kind (Option.some.inj (hx.trans hy.symm))
    | field b field' =>
      have hkey := Option.some.inj (hx.trans hy.symm)
      simp only [MemoKey.mk.injEq] at hkey
      obtain ⟨-, -, happlication, -, rfl⟩ := hkey
      exact c.model.exclude.excludesField_congr (Option.some.inj hname) happlication field
    | request _ _ _ _ => cases hy
    | log _ _ => cases hy
  | request _ _ _ _ => cases hx
  | log _ _ => cases hx

theorem excludesField_plain (p : String) (e : EntityType) (field : String) :
    ({ fields := [.plain p] } : ModelExclude).excludesField e field =
      (e.fieldNames field).any (Text.lower · == Text.lower p) := by
  unfold ModelExclude.excludesField Pattern.anyMatch
  simp only [List.any_cons, List.any_nil, Bool.or_false]
  rfl

/-- The field under the shorter name is excluded by a pattern that leaves the field under the longer
one alone. -/
theorem excludesField_shorter {a b : EntityType} (hqualified : a.qualifiedName = b.qualifiedName)
    (hlength : a.name.length < b.name.length) (field : String) :
    ({ fields := [.plain (a.name ++ "." ++ field)] } : ModelExclude).excludesField a field = true ∧
      ({ fields := [.plain (a.name ++ "." ++ field)] } : ModelExclude).excludesField b field =
        false := by
  rw [excludesField_plain, excludesField_plain]
  constructor
  · rw [List.any_eq_true]
    exact ⟨a.name ++ "." ++ field, by simp [EntityType.fieldNames], beq_self_eq_true _⟩
  · obtain ⟨z, hz⟩ := EntityType.exists_name_eq_append hqualified hlength
    rw [List.any_eq_false]
    intro name hname
    have hlength : Text.lowerLength name ≠ Text.lowerLength (a.name ++ "." ++ field) := by
      simp only [EntityType.fieldNames, hz, List.cons_append, List.nil_append, List.mem_cons,
        Option.mem_toList, Option.map_eq_some_iff] at hname
      rcases hname with rfl | rfl | ⟨application, -, rfl⟩
      · simp only [Text.lowerLength_append, Text.lowerLength_dot]
        omega
      · simp only [Text.lowerLength_append, Text.lowerLength_dot]
        omega
      · simp only [Text.lowerLength_append, Text.lowerLength_dot]
        omega
    rw [beq_iff_eq]
    exact Text.lower_ne_of_lowerLength_ne hlength

/-- For every field there are patterns that tell types of different names apart. -/
theorem exists_excludesField_ne {a b : EntityType} (hqualified : a.qualifiedName = b.qualifiedName)
    (hname : a.name ≠ b.name) (field : String) :
    ∃ p : Pattern, ({ fields := [p] } : ModelExclude).excludesField a field ≠
      ({ fields := [p] } : ModelExclude).excludesField b field := by
  have hlength : a.name.length ≠ b.name.length := fun h =>
    hname (EntityType.name_eq_of_length hqualified h)
  rcases Nat.lt_or_gt_of_ne hlength with hlt | hgt
  · obtain ⟨ha, hb⟩ := excludesField_shorter hqualified hlt field
    exact ⟨_, by rw [ha, hb]; decide⟩
  · obtain ⟨hb, ha⟩ := excludesField_shorter hqualified.symm hgt field
    exact ⟨_, by rw [ha, hb]; decide⟩

end AuditTrail
