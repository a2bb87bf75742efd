import AuditTrail.Proofs.Text.Stable

/-
  Small letters of a text with slashes in it. A slash has no case and ends every word, so what
  stands on one side of it has no influence on the other (`lowerFrom_slash`), and a path can be made
  small component by component (`lower_intercalate`).
-/
namespace AuditTrail.Text

theorem isSign_slash : isSign '/' = true := by decide

theorem nextIsCased_slash (cs after : List Char) :
    nextIsCased (cs ++ '/' :: after) = nextIsCased cs := by
  have hignorable : isCaseIgnorable '/' = false := by decide
  have hcased : isCased '/' = false := by decide
  unfold nextIsCased
  induction cs with
  | nil =>
    rw [List.nil_append, List.dropWhile_cons_of_neg (by rw [hignorable]; exact Bool.false_ne_true)]
    exact hcased
  | cons c cs ih =>
    rw [List.cons_append]
    cases hc : isCaseIgnorable c with
    | true => rw [List.dropWhile_cons_of_pos hc, List.dropWhile_cons_of_pos hc, ih]
    | false =>
      have hstop : ¬ isCaseIgnorable c = true := by rw [hc]; exact Bool.false_ne_true
      rw [List.dropWhile_cons_of_neg hstop, List.dropWhile_cons_of_neg hstop]

/-- What stands before a slash has no influence on what follows it. -/
theorem lowerFrom_behind_slash (passed before cs : List Char) :
    lowerFrom (passed ++ '/' :: before) cs = lowerFrom passed cs := by
  induction cs generalizing passed with
  | nil => rfl
  | cons c cs ih =>
    rw [lowerFrom, lowerFrom, isFinalSigma, isFinalSigma, nextIsCased_slash, ← List.cons_append, ih]

theorem lowerFrom_slash (before cs ds : List Char) :
    lowerFrom before (cs ++ '/' :: ds) = lowerFrom before cs ++ '/' :: lowerFrom [] ds := by
  induction cs generalizing before with
  | nil =>
    have hslash : '/' ≠ 'Σ' := by decide
    rw [List.nil_append, lowerFrom, List.nil_append, lowerFrom, if_neg hslash,
      lowerChar_of_settled (settled_of_isSign isSign_slash)]
    exact congrArg ('/' :: ·) (lowerFrom_behind_slash [] before ds)
  | cons c cs ih =>
    rw [List.cons_append, lowerFrom, lowerFrom, isFinalSigma, isFinalSigma, nextIsCased_slash, ih,
      List.append_assoc]

/-- No other character becomes a slash. -/
theorem mem_of_mem_lowerFrom {sign : Char} (hsign : isSign sign = true) {before cs : List Char}
    (h : sign ∈ lowerFrom before cs) : sign ∈ cs := by
  induction cs generalizing before with
  | nil => cases h
  | cons c cs ih =>
    rw [lowerFrom, List.mem_append] at h
    rcases h with h | h
    · split at h
      · rw [List.mem_singleton] at h
        rw [h] at hsign
        cases hfinal : isFinalSigma before cs <;> rw [hfinal] at hsign <;> cases hsign
      · rw [eq_of_mem_lowerChar hsign h]
        exact List.mem_cons_self
    · exact List.mem_cons_of_mem c (ih h)

theorem lower_slash (s t : String) : lower (s ++ "/" ++ t) = lower s ++ "/" ++ lower t := by
  rw [← String.toList_inj]
  simp only [lower, String.toList_append, String.toList_ofList]
  have hslash : ("/" : String).toList = ['/'] := rfl
  rw [hslash, List.append_assoc, List.append_assoc, List.singleton_append, lowerFrom_slash,
    List.singleton_append]

theorem toList_lower_slash (s : String) : (lower ("/" ++ s)).toList = '/' :: (lower s).toList := by
  rw [lower, lower, String.toList_ofList, String.toList_ofList, String.toList_append]
  exact lowerFrom_slash [] [] s.toList

/-- A path in small letters is put together from its components in small letters. -/
theorem lower_intercalate (parts : List String) :
    lower ("/".intercalate parts) = "/".intercalate (parts.map lower) := by
  induction parts with
  | nil => rfl
  | cons part parts ih =>
    cases parts with
    | nil => rfl
    | cons next parts =>
      rw [String.intercalate_cons_cons, lower_slash, ih, List.map_cons, List.map_cons,
        List.map_cons, String.intercalate_cons_cons]

end AuditTrail.Text
