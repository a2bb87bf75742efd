import AuditTrail.Regex.CharSet

/-
  Regular expressions over characters with assertions about the place between two characters, and
  the search for a match. A state of the search is a list of expressions, any of which may match
  the rest of the text; reading a character replaces each by what is left of it after that
  character. The number of states that can arise is bounded by the expression, and equal ones are
  kept once, so the search is linear in the text.
-/
namespace AuditTrail

/-- An assertion about the place between two characters. -/
inductive Look where
  | textStart
  | textEnd
  | lineStart
  | lineEnd
  | anyLineStart
  | anyLineEnd
  | wordBoundary (ascii : Bool)
  | notWordBoundary (ascii : Bool)
  | wordStart (ascii : Bool)
  | wordEnd (ascii : Bool)
  | noWordBefore (ascii : Bool)
  | noWordAfter (ascii : Bool)
  deriving DecidableEq, Repr

namespace Look

/-- Whether there is a character of a word at one side of the place. -/
def wordAt (ascii : Bool) : Option Char → Bool
  | none => false
  | some c => (if ascii then CharSet.asciiWordChars else CharSet.wordChars).contains c

/-- Whether the assertion holds between two characters, either of which may be missing. -/
def holds (before after : Option Char) : Look → Bool
  | .textStart => before.isNone
  | .textEnd => after.isNone
  | .lineStart => before.isNone || before == some '\n'
  | .lineEnd => after.isNone || after == some '\n'
  | .anyLineStart =>
    before.isNone || before == some '\n' || (before == some '\r' && after != some '\n')
  | .anyLineEnd =>
    after.isNone || after == some '\r' || (after == some '\n' && before != some '\r')
  | .wordBoundary a => wordAt a before != wordAt a after
  | .notWordBoundary a => wordAt a before == wordAt a after
  | .wordStart a => !wordAt a before && wordAt a after
  | .wordEnd a => wordAt a before && !wordAt a after
  | .noWordBefore a => !wordAt a before
  | .noWordAfter a => !wordAt a after

end Look

/-- A regular expression. `times r min max` stands for at least `min` and, if given, at most `max`
matches of `r` one after another. -/
inductive Regex where
  | empty
  | chars (s : CharSet)
  | look (l : Look)
  | seq (a b : Regex)
  | alt (a b : Regex)
  | times (a : Regex) (min : Nat) (max : Option Nat)
  deriving DecidableEq, Repr, Inhabited

namespace Regex

/-- Whether the expression matches the empty text at a place. -/
def matchesEmpty (before after : Option Char) : Regex → Bool
  | .empty => true
  | .chars _ => false
  | .look l => l.holds before after
  | .seq a b => a.matchesEmpty before after && b.matchesEmpty before after
  | .alt a b => a.matchesEmpty before after || b.matchesEmpty before after
  | .times a min _ => min == 0 || a.matchesEmpty before after

/-- Concatenation that drops an empty left part. -/
def andThen : Regex → Regex → Regex
  | .empty, b => b
  | a, b => .seq a b

/-- What is left of an expression after reading `c`, as alternatives. -/
def step (before : Option Char) (c : Char) : Regex → List Regex
  | .empty => []
  | .chars s => if s.contains c then [.empty] else []
  | .look _ => []
  | .seq a b =>
    (a.step before c).map (·.andThen b) ++
      (if a.matchesEmpty before (some c) then b.step before c else [])
  | .alt a b => a.step before c ++ b.step before c
  | .times a min max =>
    if max == some 0 then []
    else
      let min' := if a.matchesEmpty before (some c) then 0 else min - 1
      (a.step before c).map (·.andThen (.times a min' (max.map (· - 1))))

/-- Removes repeated entries. -/
def distinct (rs : List Regex) : List Regex :=
  rs.foldr (fun r done => if done.contains r then done else r :: done) []

/-- Whether a match of `r` begins at this place or a later one, or one of the begun matches `open`
ends somewhere from here on. -/
def search (r : Regex) (before : Option Char) (begun : List Regex) : List Char → Bool
  | [] => (r :: begun).any (·.matchesEmpty before none)
  | c :: rest =>
    (r :: begun).any (·.matchesEmpty before (some c)) ||
      r.search (some c) (distinct ((r :: begun).flatMap (·.step before c))) rest

/-- Whether the expression has a match anywhere in the text. -/
def isMatch (r : Regex) (text : String) : Bool := r.search none [] text.toList

end Regex

end AuditTrail
