import AuditTrail.Number.Digits

/-
  Sets of code points given by ranges. A set is read once from a text of hexadecimal ranges
  (`41-5A 61-7A AA`) and asked by bisection.
-/
namespace AuditTrail.Text

open Digits (hexNumber)

/-- The words of a text, separated by blanks or line ends. -/
def wordsOf (text : String) : List String :=
  ((text.splitOn "\n").flatMap (·.splitOn " ")).filter (· ≠ "")

/-- Ranges of code points, in rising order and apart from each other. -/
structure Ranges where
  spans : Array (Nat × Nat)

namespace Ranges

/-- Reads one range, `first-last` or a single code point. -/
def readSpan (word : List Char) : Nat × Nat :=
  let first := word.takeWhile (· ≠ '-')
  match word.dropWhile (· ≠ '-') with
  | [] => (hexNumber first, hexNumber first)
  | _ :: last => (hexNumber first, hexNumber last)

/-- Reads ranges, each a word. -/
def ofText (text : String) : Ranges where
  spans := (wordsOf text).foldl (fun a w => a.push (readSpan w.toList)) #[]

/-- Bisection between the positions `lo` and `hi`. -/
def search (spans : Array (Nat × Nat)) (n lo hi : Nat) : Bool :=
  if lo < hi then
    let mid := (lo + hi) / 2
    match spans[mid]? with
    | none => false
    | some (first, last) =>
      if n < first then search spans n lo mid
      else if last < n then search spans n (mid + 1) hi
      else true
  else false
termination_by hi - lo

/-- Membership of a code point. -/
def contains (r : Ranges) (n : Nat) : Bool :=
  search r.spans n 0 r.spans.size

/-- The empty set of ranges. -/
def empty : Ranges := ⟨#[]⟩

/-- Nothing lies in the empty set. -/
theorem contains_empty (n : Nat) : empty.contains n = false := by
  simp [contains, empty, search]

end Ranges

end AuditTrail.Text
