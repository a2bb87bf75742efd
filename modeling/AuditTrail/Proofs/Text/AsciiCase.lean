import AuditTrail.Proofs.Text.Stable

/-
  ASCII letters made small before anything else. That has no influence on the small form of a text
  (`lower_asciiLower`): out of context an ASCII capital becomes what its small letter stays, and as
  context both have a case, so that a sigma next to one of them is final exactly if it is final next
  to the other. All of this is said by four traits of a character, in which no ASCII letter differs
  from its capital (`traits_toLower`). Texts can be put together before or after, as signs are not
  among the letters (`asciiLower_append`, `asciiLower_intercalate`).
-/
namespace AuditTrail.Text

theorem toLower_of_not_ascii {c : Char} (h : ¬ c.toNat < 128) : c.toLower = c := by
  refine dif_neg fun hcapital => h ?_
  have hlast : c.toNat ≤ 90 := hcapital.2
  omega

/-- All that the small form of a text depends on in a character of it. -/
def traits (c : Char) : Bool × Bool × Bool × List Char :=
  (isCased c, isCaseIgnorable c, decide (c = 'Σ'), lowerChar c)

theorem traits_toLower (c : Char) : traits c.toLower = traits c := by
  by_cases hc : c.toNat < 128
  · exact forall_ascii (fun c => traits c.toLower = traits c) (by decide +kernel) hc
  · rw [toLower_of_not_ascii hc]

theorem isCased_toLower (c : Char) : isCased c.toLower = isCased c :=
  congrArg (·.1) (traits_toLower c)

theorem isCaseIgnorable_toLower (c : Char) : isCaseIgnorable c.toLower = isCaseIgnorable c :=
  congrArg (·.2.1) (traits_toLower c)

theorem toLower_eq_sigma (c : Char) : c.toLower = 'Σ' ↔ c = 'Σ' :=
  decide_eq_decide.mp (congrArg (·.2.2.1) (traits_toLower c))

theorem lowerChar_toLower (c : Char) : lowerChar c.toLower = lowerChar c :=
  congrArg (·.2.2.2) (traits_toLower c)

/-- Signs are not among the letters. -/
theorem beq_toLower {sign : Char} (hsign : isSign sign = true) (c : Char) :
    (c.toLower == sign) = (c == sign) := by
  by_cases hc : c.toNat < 128
  · have hchar : lowerChar c = [c.toLower] := if_pos hc
    rw [Bool.eq_iff_iff, beq_iff_eq, beq_iff_eq]
    constructor
    · intro heq
      refine eq_of_mem_lowerChar hsign ?_
      rw [hchar, heq]
      exact List.mem_singleton_self sign
    · rintro rfl
      rw [lowerChar_of_settled (settled_of_isSign hsign)] at hchar
      exact (List.singleton_inj.mp hchar).symm
  · rw [toLower_of_not_ascii hc]

theorem nextIsCased_map_toLower (cs : List Char) :
    nextIsCased (cs.map Char.toLower) = nextIsCased cs := by
  unfold nextIsCased
  induction cs with
  | nil => rfl
  | cons c cs ih =>
    have hsame := isCaseIgnorable_toLower c
    rw [List.map_cons]
    cases hc : isCaseIgnorable c with
    | true => rw [List.dropWhile_cons_of_pos (hsame.trans hc), List.dropWhile_cons_of_pos hc, ih]
    | false =>
      have hstop : ¬ isCaseIgnorable c = true := by rw [hc]; exact Bool.false_ne_true
      rw [List.dropWhile_cons_of_neg (by rw [hsame]; exact hstop), List.dropWhile_cons_of_neg hstop]
      exact isCased_toLower c

theorem lowerFrom_map_toLower (before cs : List Char) :
    lowerFrom (before.map Char.toLower) (cs.map Char.toLower) = lowerFrom before cs := by
  induction cs generalizing before with
  | nil => rfl
  | cons c cs ih =>
    rw [List.map_cons, lowerFrom, lowerFrom, isFinalSigma, isFinalSigma, nextIsCased_map_toLower,
      nextIsCased_map_toLower, lowerChar_toLower, ← List.map_cons, ih]
    simp only [toLower_eq_sigma]

theorem toList_asciiLower (s : String) : (asciiLower s).toList = s.toList.map Char.toLower :=
  String.toList_map

/-- Small forms do not depend on the case of ASCII letters, neither of those that are made small nor
of those around the others. -/
theorem lower_asciiLower (s : String) : lower (asciiLower s) = lower s := by
  rw [lower, lower, toList_asciiLower]
  exact congrArg String.ofList (lowerFrom_map_toLower [] s.toList)

theorem asciiLower_eq_iff {s t : String} : asciiLower s = asciiLower t ↔
    s.toList.map Char.toLower = t.toList.map Char.toLower := by
  rw [← String.toList_inj, toList_asciiLower, toList_asciiLower]

/-! ## Texts put together -/

theorem asciiLower_ofList (cs : List Char) :
    asciiLower (String.ofList cs) = String.ofList (cs.map Char.toLower) := by
  rw [← String.toList_inj, toList_asciiLower, String.toList_ofList, String.toList_ofList]

theorem asciiLower_append (s t : String) : asciiLower (s ++ t) = asciiLower s ++ asciiLower t := by
  rw [← String.toList_inj]
  simp only [toList_asciiLower, String.toList_append, List.map_append]

theorem asciiLower_eq_empty {s : String} : asciiLower s = "" ↔ s = "" := by
  rw [← String.toList_eq_nil_iff, toList_asciiLower, List.map_eq_nil_iff, String.toList_eq_nil_iff]

theorem asciiLower_dot : asciiLower "." = "." := String.toList_inj.mp (toList_asciiLower ".")

theorem asciiLower_slash : asciiLower "/" = "/" := String.toList_inj.mp (toList_asciiLower "/")

theorem asciiLower_intercalate (parts : List String) :
    asciiLower ("/".intercalate parts) = "/".intercalate (parts.map asciiLower) := by
  induction parts with
  | nil => rw [List.map_nil, String.intercalate_nil, asciiLower_eq_empty]
  | cons part parts ih =>
    cases parts with
    | nil => rfl
    | cons next parts =>
      rw [String.intercalate_cons_cons, asciiLower_append, asciiLower_append, ih, asciiLower_slash,
        List.map_cons, List.map_cons, List.map_cons, String.intercalate_cons_cons]

end AuditTrail.Text
