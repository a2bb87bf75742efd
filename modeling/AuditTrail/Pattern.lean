import AuditTrail.Glob

/-
  Search patterns of the exclusion lists: wildcards and plain texts, which ignore case, and regular
  expressions, which do not and match from the start of the candidate. A pattern is written
  `kind:value`; without a kind it is a wildcard pattern.
-/
namespace AuditTrail

/-- How a pattern is compared with a candidate. -/
inductive PatternKind where
  | glob
  | plain
  | regex
  deriving DecidableEq, Repr

namespace PatternKind

/-- The name of a kind. -/
def name : PatternKind → String
  | .glob => "glob"
  | .plain => "plain"
  | .regex => "regex"

/-- The kind with a name. -/
def ofName? : String → Option PatternKind
  | "glob" => some .glob
  | "plain" => some .plain
  | "regex" => some .regex
  | _ => none

end PatternKind

/-- Why something is no pattern. -/
inductive PatternError where
  | unknownKind (kind : String)
  | invalidExpression (value : String)
  deriving DecidableEq, Repr

/-- The text shown for an error, where it is this library's own. -/
def PatternError.message? : PatternError → Option String
  | .unknownKind kind =>
    some ("Unknown search pattern type '" ++ kind ++ "' (expected glob, plain or regex)")
  | .invalidExpression _ => none

/-- A search pattern. The value of a wildcard or plain pattern is in small letters. -/
structure Pattern where
  kind : PatternKind
  value : String
  deriving DecidableEq, Repr

namespace Pattern

/-- The regular expression of a value, tied to the start of the candidate. -/
def anchored (value : String) : Option Regex := Regex.parse ("^(?:" ++ value ++ ")")

/-- The regular expression that stands for a wildcard pattern. -/
def wildcard (value : String) : Option Regex := Regex.parse (Glob.parse value.toList).expression

/-- A wildcard pattern. -/
def glob (value : String) : Except PatternError Pattern :=
  let value := Text.lower value
  if (wildcard value).isSome then .ok ⟨.glob, value⟩ else .error (.invalidExpression value)

/-- A plain pattern. -/
def plain (value : String) : Pattern := ⟨.plain, Text.lower value⟩

/-- A pattern that is a regular expression. -/
def regex (value : String) : Except PatternError Pattern :=
  if (anchored value).isSome then .ok ⟨.regex, value⟩ else .error (.invalidExpression value)

/-- A pattern of a given kind. -/
def ofKind (kind : PatternKind) (value : String) : Except PatternError Pattern :=
  match kind with
  | .glob => glob value
  | .plain => .ok (plain value)
  | .regex => regex value

/-- Whether a character may stand in the name of a kind. -/
def isKindChar (c : Char) : Bool := Text.isAlphanumeric c || c == '_'

/-- A pattern of the kind that a name in small letters begins with. The empty name stands for
wildcards. -/
def ofNamed (name value : String) : Except PatternError Pattern :=
  match name.toList with
  | [] => glob value
  | 'g' :: 'l' :: _ => glob value
  | 'p' :: 'l' :: _ => .ok (plain value)
  | 'r' :: 'e' :: _ => regex value
  | _ => .error (.unknownKind name)

/-- Reads `kind:value`. The name of a kind is recognised by its first two letters without regard to
case. What stands before the first colon is a kind only if it is a run of letters, digits and
underscores; otherwise the whole text is a wildcard pattern. -/
def parse (text : String) : Except PatternError Pattern :=
  let cs := text.toList
  let name := cs.takeWhile (· ≠ ':')
  match cs.dropWhile (· ≠ ':') with
  | [] => glob text
  | _ :: value =>
    if !name.all isKindChar then glob text
    else ofNamed (Text.lower (String.ofList name)) (String.ofList value)

/-- The written form. -/
def toText (p : Pattern) : String := p.kind.name ++ ":" ++ p.value

/-- Whether a candidate matches. -/
def isMatch (p : Pattern) (candidate : String) : Bool :=
  match p.kind with
  | .glob => (wildcard p.value).any (·.isMatch (Text.lower candidate))
  | .plain => Text.lower candidate == p.value
  | .regex => (anchored p.value).any (·.isMatch candidate)

/-- Whether any of several patterns matches a candidate. -/
def anyMatch (ps : List Pattern) (candidate : String) : Bool := ps.any (·.isMatch candidate)

/-- The patterns of both lists: those of the first as they are, then those of the second that have
not occurred. -/
def union (left right : List Pattern) : List Pattern :=
  right.foldl (fun merged p => if merged.contains p then merged else merged ++ [p]) left

end Pattern

end AuditTrail
