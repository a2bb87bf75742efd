import AuditTrail.Regex.Reader

/-
  Wildcard patterns. `*` stands for any run of characters, `?` for any one character, and brackets
  for one character of a set, or with `!` in front one outside it; a `]` directly after the opening
  is a member. Everything else, an opening bracket without a closing one included, stands for
  itself. A pattern is matched by the regular expression that it is written as (`Glob.expression`).
  What has a meaning among the members of a set there is escaped, but for the hyphen: hyphens at the
  start or before the end are members, `x-y` is a range, and a doubled hyphen takes what follows it
  away from what stands before it.
-/
namespace AuditTrail

/-- One part of a wildcard pattern. -/
inductive GlobPart where
  | run
  | one
  | set (negated : Bool) (body : List Char)
  | char (c : Char)
  deriving DecidableEq, Repr

/-- A wildcard pattern. -/
abbrev Glob := List GlobPart

namespace GlobPart

/-- A character between the brackets of a set. -/
def member (c : Char) : List Char :=
  if ['\\', '[', ']', '&', '~', '^'].contains c then ['\\', c] else [c]

/-- The regular expression of a part. -/
def expression : GlobPart → List Char
  | .run => ['.', '*']
  | .one => ['.']
  | .set negated body =>
    '[' :: ((if negated then ['^'] else []) ++ (body.flatMap member ++ [']']))
  | .char c => Regex.escape c

end GlobPart

namespace Glob

/-- Splits what follows an opening bracket into the text of the set and the rest after the closing
bracket. The first character of the set is no closing bracket. -/
def splitSet (cs : List Char) : Option (Bool × List Char × List Char) :=
  let (negated, cs) := match cs with
    | '!' :: r => (true, r)
    | r => (false, r)
  let (first, cs) := match cs with
    | ']' :: r => ([']'], r)
    | r => ([], r)
  match cs.dropWhile (· ≠ ']') with
  | [] => none
  | _ :: rest => some (negated, first ++ cs.takeWhile (· ≠ ']'), rest)

theorem length_dropWhile_le (p : Char → Bool) (l : List Char) :
    (l.dropWhile p).length ≤ l.length := by
  induction l with
  | nil => simp
  | cons c l ih =>
    rw [List.dropWhile_cons]
    split
    · simp only [List.length_cons]; omega
    · exact Nat.le_refl _

theorem length_of_splitSet {cs body rest : List Char} {negated : Bool}
    (h : splitSet cs = some (negated, body, rest)) : rest.length < cs.length := by
  unfold splitSet at h
  split at h
  rename_i n cs' hn
  split at h
  rename_i f cs'' hf
  have h' : cs'.length ≤ cs.length := by
    split at hn <;> (injection hn with _ e; subst e) <;> simp
  have h'' : cs''.length ≤ cs'.length := by
    split at hf <;> (injection hf with _ e; subst e) <;> simp
  have hd := length_dropWhile_le (fun c => decide (c ≠ ']')) cs''
  split at h
  · simp at h
  · rename_i r hr
    rw [hr, List.length_cons] at hd
    injection h with h
    injection h with _ h
    injection h with _ h
    subst h
    omega

/-- Reads a pattern. -/
def parse (cs : List Char) : Glob :=
  match cs with
  | [] => []
  | '*' :: rest => .run :: parse rest
  | '?' :: rest => .one :: parse rest
  | '[' :: rest =>
    match h : splitSet rest with
    | none => .char '[' :: parse rest
    | some (negated, body, after) =>
      have := length_of_splitSet h
      .set negated body :: parse after
  | c :: rest => .char c :: parse rest
termination_by cs.length
decreasing_by all_goals simp_wf <;> omega

/-- The regular expression of a pattern. It is tied to both ends of the text, and its points match
line feeds too. -/
def expression (g : Glob) : String :=
  String.ofList (['(', '?', 's', ')', '^'] ++ (g.flatMap (·.expression) ++ ['$']))

end Glob

end AuditTrail
