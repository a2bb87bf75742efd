import AuditTrail.Log.Emission
import AuditTrail.Text.Property

/-
  Filters of log output: a list of directives with commas between, each a severity, a target, or a
  target and the least severity of its lines. Of the directives whose target begins a line's target
  the longest one decides; of equal ones the last. A line that none covers is not shown. Without any
  directive errors are shown.
-/
namespace AuditTrail

/-- A directive: which targets it covers and what is the least severity shown of them, if any is. -/
structure LogRule where
  target : Option String
  least : Option Severity
  deriving DecidableEq, Repr

/-- The directives of a filter in order. -/
abbrev LogFilter := List LogRule

namespace LogRule

/-- The thresholds by number. -/
def thresholds : List (Option Severity) :=
  [none, some .error, some .warn, some .info, some .debug, some .trace]

/-- The names of the thresholds. -/
def thresholdNames : List (String × Option Severity) :=
  ("off", none) :: [Severity.error, .warn, .info, .debug, .trace].map fun s => (s.directive, some s)

/-- Reads a number that may have a plus sign. -/
def readNumber? (cs : List Char) : Option Nat :=
  let digits := match cs with
    | '+' :: rest => rest
    | cs => cs
  if !digits.isEmpty && digits.all Char.isDigit then some (Digits.number digits) else none

/-- The threshold with a number from 0 to 5 or with a name, which is compared without regard to
ASCII case. -/
def threshold? (text : String) : Option (Option Severity) :=
  match readNumber? text.toList with
  | some n => thresholds[n]?
  | none => thresholdNames.lookup (Text.asciiLower text)

/-- Whether a directive can begin with a character. -/
def opens (c : Char) : Bool := c == '-' || c == ':' || c == '_' || Text.isAlphanumeric c

/-- What is meant by the text after a target: everything if it is empty. -/
def leastOf? (text : String) : Option (Option Severity) :=
  if text.isEmpty then some (some .trace) else threshold? text

/-- Reads a directive about spans after the opening bracket. Such directives say nothing about
lines outside of spans, so only their form counts. -/
def readSpan (cs : List Char) : Option (List LogRule) :=
  match cs.dropWhile (· ≠ ']') with
  | [_] => some []
  | _ :: '=' :: level => (leastOf? (String.ofList level)).map fun _ => []
  | _ => none

/-- Reads one directive. Blanks around it belong to it. -/
def parse (text : String) : Option (List LogRule) :=
  let core := Text.trim text
  match core.toList with
  | [] => none
  | '[' :: rest => readSpan rest
  | c :: cs =>
    if !opens c then none
    else
      let name := (c :: cs).takeWhile fun c => c ≠ '=' ∧ c ≠ '['
      match (c :: cs).dropWhile fun c => c ≠ '=' ∧ c ≠ '[' with
      | [] => some [match threshold? text with
          | some least => ⟨none, least⟩
          | none => ⟨some text, some .trace⟩]
      | '[' :: rest => readSpan rest
      | _ :: level =>
        if core = text then
          (leastOf? (String.ofList level)).map fun least => [⟨some (String.ofList name), least⟩]
        else none

/-- Whether a directive covers a target. -/
def covers (r : LogRule) (target : String) : Bool := r.target.all (startsWith · target)

/-- How closely a directive says what it covers: the length of its target. -/
def closeness (r : LogRule) : Nat :=
  match r.target with
  | none => 0
  | some t => t.utf8ByteSize + 1

end LogRule

namespace LogFilter

/-- The filter without directives: only errors are shown. -/
def quiet : LogFilter := [⟨none, some .error⟩]

/-- Reads a filter. -/
def parse (text : String) : Option LogFilter :=
  match (text.splitOn ",").filter (· ≠ "") with
  | [] => some quiet
  | directives => (directives.mapM LogRule.parse).map List.flatten

/-- The later of the closest directives. -/
def closest : LogFilter → Option LogRule
  | [] => none
  | r :: rest =>
    match closest rest with
    | none => some r
    | some s => if r.closeness ≤ s.closeness then some s else some r

/-- Whether a line is shown. -/
def shows (f : LogFilter) (target : String) (severity : Severity) : Bool :=
  match closest (f.filter (·.covers target)) with
  | none => false
  | some r => r.least.any fun least => least.rank ≤ severity.rank

end LogFilter

end AuditTrail
