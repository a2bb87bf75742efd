import AuditTrail.Text.Case
import Mathlib.Algebra.Ring.Nat
import Mathlib.Algebra.BigOperators.Group.List.Basic

/-
  How long texts are in small letters. The lengths add up over the characters (`length_lower`),
  whatever becomes of a sigma, so texts can be told apart by them (`lower_ne_of_lowerLength_ne`).
-/
namespace AuditTrail.Text

/-- How long the small form of a character is. Both small forms of a sigma are one character. -/
def lowerWidth (c : Char) : Nat := if c = 'Σ' then 1 else (lowerChar c).length

/-- How long the small form of a text is. -/
def lowerLength (s : String) : Nat := (s.toList.map lowerWidth).sum

theorem length_lowerFrom (before cs : List Char) :
    (lowerFrom before cs).length = (cs.map lowerWidth).sum := by
  induction cs generalizing before with
  | nil => rfl
  | cons c cs ih =>
    rw [lowerFrom, List.length_append, ih, List.map_cons, List.sum_cons, lowerWidth]
    split <;> rfl

theorem length_lower (s : String) : (lower s).length = lowerLength s := by
  rw [lower, String.length_ofList, length_lowerFrom, lowerLength]

theorem lowerLength_append (s t : String) :
    lowerLength (s ++ t) = lowerLength s + lowerLength t := by
  rw [lowerLength, String.toList_append, List.map_append, List.sum_append, lowerLength, lowerLength]

theorem lowerLength_dot : lowerLength "." = 1 := by decide

theorem lower_ne_of_lowerLength_ne {s t : String} (h : lowerLength s ≠ lowerLength t) :
    lower s ≠ lower t := by
  intro heq
  have hlength := congrArg String.length heq
  rw [length_lower, length_lower] at hlength
  exact h hlength

end AuditTrail.Text
