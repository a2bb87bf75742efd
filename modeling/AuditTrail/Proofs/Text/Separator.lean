import Mathlib.Data.List.TakeWhile

/-
  Texts cut at the first occurrence of a separator: what stands before it holds none
  (`cut_at`, `cut_none`), and what was cut can be put together again (`joined_of_cut`).
-/
namespace AuditTrail.Text

variable {separator : Char} {before rest cs : List Char}

theorem cut_at (h : separator ∉ before) (rest : List Char) :
    (before ++ separator :: rest).takeWhile (· ≠ separator) = before ∧
      (before ++ separator :: rest).dropWhile (· ≠ separator) = separator :: rest := by
  have hall : ∀ c ∈ before, decide (c ≠ separator) = true :=
    fun c hc => decide_eq_true fun heq => h (heq ▸ hc)
  rw [List.takeWhile_append_of_pos hall, List.dropWhile_append_of_pos hall,
    List.takeWhile_cons_of_neg (by simp), List.dropWhile_cons_of_neg (by simp), List.append_nil]
  exact ⟨rfl, rfl⟩

theorem cut_none (h : separator ∉ cs) :
    cs.takeWhile (· ≠ separator) = cs ∧ cs.dropWhile (· ≠ separator) = [] := by
  have hall : ∀ c ∈ cs, decide (c ≠ separator) = true :=
    fun c hc => decide_eq_true fun heq => h (heq ▸ hc)
  exact ⟨List.takeWhile_eq_self_iff.mpr hall, List.dropWhile_eq_nil_iff.mpr hall⟩

theorem not_mem_takeWhile (separator : Char) (cs : List Char) :
    separator ∉ cs.takeWhile (· ≠ separator) := by
  intro h
  have hne := List.mem_takeWhile_imp h
  exact of_decide_eq_true hne rfl

theorem joined_of_cut {c : Char} (h : cs.dropWhile (· ≠ separator) = c :: rest) :
    cs = cs.takeWhile (· ≠ separator) ++ separator :: rest := by
  have hstop : ¬ decide (c ≠ separator) = true := by
    have hhead := List.head?_dropWhile_not (fun c => decide (c ≠ separator)) cs
    rw [h] at hhead
    exact Bool.not_eq_true _ ▸ hhead
  obtain rfl : c = separator := by simpa using hstop
  rw [← h, List.takeWhile_append_dropWhile]

end AuditTrail.Text
