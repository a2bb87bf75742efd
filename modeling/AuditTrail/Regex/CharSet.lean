import AuditTrail.Text.Case

/-
  Sets of characters as expressions: spans, named properties and their combinations. Membership is
  defined along the expression, so each combination means what it says by definition.
-/
namespace AuditTrail

open Text (Property caseOrbit)

/-- A set of characters. -/
inductive CharSet where
  | none
  | span (first last : Nat)
  | property (p : Property)
  | union (a b : CharSet)
  | inter (a b : CharSet)
  | diff (a b : CharSet)
  | symmDiff (a b : CharSet)
  | compl (a : CharSet)
  | anyCase (a : CharSet)
  | anyAsciiCase (a : CharSet)
  deriving DecidableEq, Repr, Inhabited

namespace CharSet

/-- The other case of an ASCII letter, anything else itself. -/
def swapAsciiCase (n : Nat) : Nat :=
  if 65 ≤ n ∧ n ≤ 90 then n + 32 else if 97 ≤ n ∧ n ≤ 122 then n - 32 else n

/-- Membership of a code point. -/
def holds : CharSet → Nat → Bool
  | .none, _ => false
  | .span first last, n => first ≤ n && n ≤ last
  | .property p, n => p.holds n
  | .union a b, n => a.holds n || b.holds n
  | .inter a b, n => a.holds n && b.holds n
  | .diff a b, n => a.holds n && !b.holds n
  | .symmDiff a b, n => a.holds n != b.holds n
  | .compl a, n => !a.holds n
  | .anyCase a, n => (caseOrbit n).any a.holds
  | .anyAsciiCase a, n => a.holds n || a.holds (swapAsciiCase n)

/-- Membership of a character. -/
def contains (s : CharSet) (c : Char) : Bool := s.holds c.toNat

/-- The set of one character. -/
def single (c : Char) : CharSet := .span c.toNat c.toNat

/-- All characters. -/
def any : CharSet := .compl .none

/-- The union of several sets. -/
def unions : List CharSet → CharSet
  | [] => .none
  | [s] => s
  | s :: rest => .union s (unions rest)

/-- The set of the spans between pairs of characters. -/
def spans (ps : List (Char × Char)) : CharSet :=
  unions (ps.map fun (a, b) => .span a.toNat b.toNat)

@[simp] theorem contains_single (c d : Char) : (single c).contains d = (c == d) := by
  rw [Bool.eq_iff_iff]
  simp only [contains, single, holds, Bool.and_eq_true, decide_eq_true_eq, beq_iff_eq]
  constructor
  · intro h
    exact Char.ext (UInt32.toNat_inj.mp (Nat.le_antisymm h.1 h.2))
  · rintro rfl
    exact ⟨Nat.le_refl _, Nat.le_refl _⟩

@[simp] theorem contains_any (c : Char) : any.contains c = true := rfl

theorem contains_compl (s : CharSet) (c : Char) : (compl s).contains c = !s.contains c := rfl

theorem contains_union (a b : CharSet) (c : Char) :
    (union a b).contains c = (a.contains c || b.contains c) := rfl

/-! Named sets. -/

/-- Decimal digits of any script. -/
def digits : CharSet := .property (.category ["Nd"])

/-- Blanks of any kind. -/
def blanks : CharSet := .property (.flag "whitespace")

/-- Characters of words: letters, marks, digits, connecting punctuation and joiners. -/
def wordChars : CharSet :=
  unions [.property (.flag "alphabetic"), .property (.category ["Mn", "Mc", "Me", "Nd", "Pc"]),
    .property (.flag "joincontrol")]

def asciiDigits : CharSet := spans [('0', '9')]
def asciiBlanks : CharSet := spans [('\t', '\r'), (' ', ' ')]
def asciiWordChars : CharSet := spans [('0', '9'), ('A', 'Z'), ('_', '_'), ('a', 'z')]

/-- The sets that are written `[:name:]` inside brackets. -/
def asciiClass : String → Option CharSet
  | "alnum" => some (spans [('0', '9'), ('A', 'Z'), ('a', 'z')])
  | "alpha" => some (spans [('A', 'Z'), ('a', 'z')])
  | "ascii" => some (.span 0 127)
  | "blank" => some (spans [('\t', '\t'), (' ', ' ')])
  | "cntrl" => some (.union (.span 0 31) (.span 127 127))
  | "digit" => some asciiDigits
  | "graph" => some (spans [('!', '~')])
  | "lower" => some (spans [('a', 'z')])
  | "print" => some (spans [(' ', '~')])
  | "punct" => some (spans [('!', '/'), (':', '@'), ('[', '\x60'), ('\x7b', '~')])
  | "space" => some asciiBlanks
  | "upper" => some (spans [('A', 'Z')])
  | "word" => some asciiWordChars
  | "xdigit" => some (spans [('0', '9'), ('A', 'F'), ('a', 'f')])
  | _ => Option.none

end CharSet

end AuditTrail
