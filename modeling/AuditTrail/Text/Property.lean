import AuditTrail.Text.Ranges
import AuditTrail.Text.CategoryTable
import AuditTrail.Text.ScriptTable
import AuditTrail.Text.PropertyTable

/-
  Properties of characters: general categories, scripts and yes-or-no properties, with the names
  under which they can be asked for. Names are compared without case, blanks, `_` and `-`, and a
  leading `is` is skipped.
-/
namespace AuditTrail.Text

/-- The general category of every assigned code point, as ranges in rising order with the
two-letter name of the category. -/
def categorySpans : Array ((Nat × Nat) × String) :=
  let all := categoryRanges.flatMap fun (name, text) =>
    (Ranges.ofText text).spans.toList.map fun span => (span, name)
  (all.mergeSort fun a b => a.1.1 ≤ b.1.1).toArray

/-- Bisection for the span that holds a code point. -/
def searchSpan (spans : Array ((Nat × Nat) × String)) (n lo hi : Nat) : Option String :=
  if lo < hi then
    let mid := (lo + hi) / 2
    match spans[mid]? with
    | none => none
    | some ((first, last), name) =>
      if n < first then searchSpan spans n lo mid
      else if last < n then searchSpan spans n (mid + 1) hi
      else some name
  else none
termination_by hi - lo

/-- The two-letter general category of a code point; `Cn` stands for unassigned. -/
def categoryOf (n : Nat) : String :=
  (searchSpan categorySpans n 0 categorySpans.size).getD "Cn"

/-- The yes-or-no properties with their decoded ranges. -/
def propertySets : List (List String × Ranges) :=
  propertyRanges.map fun (names, text) => (names, Ranges.ofText text)

/-- The scripts with their decoded ranges. -/
def scriptSets : List (List String × Ranges) :=
  scriptRanges.map fun (names, text) => (names, Ranges.ofText text)

/-- Looks a set up by one of its names. -/
def namedSet (sets : List (List String × Ranges)) (name : String) : Option Ranges :=
  (sets.find? fun (names, _) => names.contains name).map (·.2)

def alphabeticSet : Ranges := (namedSet propertySets "alphabetic").getD .empty
def casedSet : Ranges := (namedSet propertySets "cased").getD .empty
def caseIgnorableSet : Ranges := (namedSet propertySets "caseignorable").getD .empty
def blankSet : Ranges := (namedSet propertySets "whitespace").getD .empty
def graphemeExtendSet : Ranges := (namedSet propertySets "graphemeextend").getD .empty

/-- Letters of any script, and letter-like marks. -/
def isAlphabetic (c : Char) : Bool :=
  if c.toNat < 128 then c.isAlpha else alphabeticSet.contains c.toNat

/-- Characters whose general category is one of those for numbers. -/
def isNumeric (c : Char) : Bool :=
  if c.toNat < 128 then c.isDigit else ["Nd", "Nl", "No"].contains (categoryOf c.toNat)

/-- Letters and numbers of any script. -/
def isAlphanumeric (c : Char) : Bool :=
  isAlphabetic c || isNumeric c

/-- Blanks of any kind, line ends included. -/
def isBlank (c : Char) : Bool :=
  if c.toNat < 128 then c == ' ' || (9 ≤ c.toNat && c.toNat ≤ 13) else blankSet.contains c.toNat

/-- Letters that have a case. -/
def isCased (c : Char) : Bool :=
  if c.toNat < 128 then c.isAlpha else casedSet.contains c.toNat

/-- Characters that are looked through when the case context of a letter is determined. Of the ASCII
characters these are the apostrophe, the dot, the colon and the two free-standing accents. -/
def isCaseIgnorable (c : Char) : Bool :=
  if c.toNat < 128 then [0x27, 0x2E, 0x3A, 0x5E, 0x60].contains c.toNat
  else caseIgnorableSet.contains c.toNat

/-- Marks that join the character before them. -/
def isGraphemeExtend (c : Char) : Bool :=
  128 ≤ c.toNat && graphemeExtendSet.contains c.toNat

/-- Characters shown as themselves: assigned ones that are no controls, no format characters, not
reserved for private use and no separators other than the plain space. -/
def isPrintable (c : Char) : Bool :=
  c == ' ' || !(["Cc", "Cf", "Co", "Cn", "Zl", "Zp", "Zs"].contains (categoryOf c.toNat))

/-- Removes blanks at both ends. -/
def trim (s : String) : String :=
  String.ofList ((s.toList.dropWhile isBlank).reverse.dropWhile isBlank).reverse

/-- Something that can be asked of a code point by name. -/
inductive Property where
  | category (members : List String)
  | script (name : String)
  | flag (name : String)
  | any
  | ascii
  deriving DecidableEq, Repr

namespace Property

/-- Whether a code point has the property. -/
def holds : Property → Nat → Bool
  | .category members, n => members.contains (categoryOf n)
  | .script name, n => ((namedSet scriptSets name).getD .empty).contains n
  | .flag name, n => ((namedSet propertySets name).getD .empty).contains n
  | .any, _ => true
  | .ascii, n => n < 128

/-- The form in which names are compared. -/
def comparedName (name : String) : String :=
  let small := name.toList.filterMap fun c =>
    if c == ' ' || c == '_' || c == '-' || 128 ≤ c.toNat then none else some c.toLower
  match name.toList.map Char.toLower with
  | 'i' :: 's' :: _ =>
    let rest := small.drop 2
    if rest = ['c'] then "isc" else String.ofList rest
  | _ => String.ofList small

/-- The general categories by their compared names, with the two-letter categories they hold. -/
def categoryNames : List (List String × List String) := [
  (["lu", "uppercaseletter"], ["Lu"]),
  (["ll", "lowercaseletter"], ["Ll"]),
  (["lt", "titlecaseletter"], ["Lt"]),
  (["lc", "casedletter"], ["Lu", "Ll", "Lt"]),
  (["lm", "modifierletter"], ["Lm"]),
  (["lo", "otherletter"], ["Lo"]),
  (["l", "letter"], ["Lu", "Ll", "Lt", "Lm", "Lo"]),
  (["mn", "nonspacingmark"], ["Mn"]),
  (["mc", "spacingmark"], ["Mc"]),
  (["me", "enclosingmark"], ["Me"]),
  (["m", "mark", "combiningmark"], ["Mn", "Mc", "Me"]),
  (["nd", "decimalnumber", "digit"], ["Nd"]),
  (["nl", "letternumber"], ["Nl"]),
  (["no", "othernumber"], ["No"]),
  (["n", "number"], ["Nd", "Nl", "No"]),
  (["pc", "connectorpunctuation"], ["Pc"]),
  (["pd", "dashpunctuation"], ["Pd"]),
  (["ps", "openpunctuation"], ["Ps"]),
  (["pe", "closepunctuation"], ["Pe"]),
  (["pi", "initialpunctuation"], ["Pi"]),
  (["pf", "finalpunctuation"], ["Pf"]),
  (["po", "otherpunctuation"], ["Po"]),
  (["p", "punctuation", "punct"], ["Pc", "Pd", "Ps", "Pe", "Pi", "Pf", "Po"]),
  (["sm", "mathsymbol"], ["Sm"]),
  (["sc", "currencysymbol"], ["Sc"]),
  (["sk", "modifiersymbol"], ["Sk"]),
  (["so", "othersymbol"], ["So"]),
  (["s", "symbol"], ["Sm", "Sc", "Sk", "So"]),
  (["zs", "spaceseparator"], ["Zs"]),
  (["zl", "lineseparator"], ["Zl"]),
  (["zp", "paragraphseparator"], ["Zp"]),
  (["z", "separator"], ["Zs", "Zl", "Zp"]),
  (["cc", "control", "cntrl"], ["Cc"]),
  (["cf", "format"], ["Cf"]),
  (["co", "privateuse"], ["Co"]),
  (["cn", "unassigned"], ["Cn"]),
  (["c", "other"], ["Cc", "Cf", "Co", "Cn"])]

/-- The categories other than the unassigned one. -/
def assignedCategories : List String :=
  categoryRanges.map (·.1)

/-- The general category of a compared name. -/
def ofCategoryName (name : String) : Option Property :=
  if name = "any" then some .any
  else if name = "assigned" then some (.category assignedCategories)
  else if name = "ascii" then some .ascii
  else (categoryNames.find? fun (names, _) => names.contains name).map fun (_, ms) => .category ms

/-- The script of a compared name. -/
def ofScriptName (name : String) : Option Property :=
  if (namedSet scriptSets name).isSome then some (.script name) else none

/-- The property a single name stands for: a yes-or-no property, else a general category, else a
script. Three abbreviations always mean the category. -/
def ofName (name : String) : Option Property :=
  let n := comparedName name
  let flag := if ["cf", "sc", "lc"].contains n then none else namedSet propertySets n
  if flag.isSome then some (.flag n)
  else (ofCategoryName n).orElse fun _ => ofScriptName n

/-- The property written as a name and a value. -/
def ofNameValue (name value : String) : Option Property :=
  match comparedName name with
  | "gc" | "generalcategory" => ofCategoryName (comparedName value)
  | "sc" | "script" => ofScriptName (comparedName value)
  | _ => none

end Property

end AuditTrail.Text
