import AuditTrail.Text.Property
import AuditTrail.Text.CaseTable

/-
  Small letters and capitals of texts in any script. A capital sigma becomes a final sigma at the
  end of a word. ASCII letters follow the plain rule; the tables are asked for the rest.
-/
namespace AuditTrail.Text

namespace CaseRun

/-- The image of a code point that lies in the run. -/
def image? (r : CaseRun) (n : Nat) : Option (List Nat) :=
  if r.first ≤ n ∧ n ≤ r.last ∧ (n - r.first) % r.step = 0 then
    match r.target with
    | [t] => some [t + (n - r.first)]
    | ts => some ts
  else none

end CaseRun

/-- The image of a character under a case map, itself if the map does not name it. -/
def mapCase (runs : List CaseRun) (c : Char) : List Char :=
  match runs.findSome? (·.image? c.toNat) with
  | none => [c]
  | some ns => ns.map Char.ofNat

/-- The small form of one character, out of context. -/
def lowerChar (c : Char) : List Char :=
  if c.toNat < 128 then [c.toLower] else mapCase lowerMap c

/-- The capital form of one character. -/
def upperChar (c : Char) : List Char :=
  if c.toNat < 128 then [c.toUpper] else mapCase upperMap c

/-- Whether, looking through characters without influence, the next one has a case. -/
def nextIsCased (cs : List Char) : Bool :=
  match cs.dropWhile isCaseIgnorable with
  | c :: _ => isCased c
  | [] => false

/-- A sigma is final if it closes a word of cased letters. -/
def isFinalSigma (before after : List Char) : Bool :=
  nextIsCased before && !nextIsCased after

/-- Small form of a list of characters, `before` being those already passed, last one first. -/
def lowerFrom (before : List Char) : List Char → List Char
  | [] => []
  | c :: rest =>
    (if c = 'Σ' then [if isFinalSigma before rest then 'ς' else 'σ'] else lowerChar c) ++
      lowerFrom (c :: before) rest

/-- The text in small letters. -/
def lower (s : String) : String :=
  String.ofList (lowerFrom [] s.toList)

/-- The text in capitals. -/
def upper (s : String) : String :=
  String.ofList (s.toList.flatMap upperChar)

/-- The text with its ASCII letters made small. -/
def asciiLower (s : String) : String :=
  s.map Char.toLower

/-- The text with its ASCII letters made capital. -/
def asciiUpper (s : String) : String :=
  s.map Char.toUpper

/-- Equality up to the case of ASCII letters. -/
def equalIgnoringAsciiCase (a b : String) : Bool :=
  asciiLower a == asciiLower b

/-- Expands a run into its pairs of a source and its image. -/
def CaseRun.pairs (r : CaseRun) : List (Nat × Nat) :=
  ((List.range (r.last - r.first + 1)).filter (· % r.step = 0)).filterMap fun d =>
    match r.target with
    | [t] => some (r.first + d, t + d)
    | _ => none

/-- Every pair of a character and the one it is compared as. -/
def foldPairs : List (Nat × Nat) :=
  foldMap.flatMap CaseRun.pairs

/-- All code points equal to a given one when case is ignored, itself included. -/
def caseOrbit (n : Nat) : List Nat :=
  let rep := ((foldPairs.find? (·.1 == n)).map (·.2)).getD n
  rep :: (foldPairs.filter (·.2 == rep)).map (·.1)

end AuditTrail.Text
