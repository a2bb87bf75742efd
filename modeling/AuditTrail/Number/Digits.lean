/-
  Digits: their values, and numbers as runs of digits.
-/
namespace AuditTrail.Digits

/-- The value of a decimal digit. -/
def value (c : Char) : Nat := c.toNat - 48

/-- The number written by decimal digits, most significant first. -/
def number (cs : List Char) : Nat := cs.foldl (fun n c => 10 * n + value c) 0

/-- The value of a hexadecimal digit of either case. -/
def hexValue (c : Char) : Option Nat :=
  if '0' ≤ c ∧ c ≤ '9' then some (c.toNat - 48)
  else if 'a' ≤ c ∧ c ≤ 'f' then some (c.toNat - 87)
  else if 'A' ≤ c ∧ c ≤ 'F' then some (c.toNat - 55)
  else none

/-- The number written by hexadecimal digits, most significant first; other characters count as
zeros. -/
def hexNumber (cs : List Char) : Nat :=
  cs.foldl (fun n c => 16 * n + (hexValue c).getD 0) 0

/-- The digit of a number below sixteen, letters small. -/
def hexDigit (n : Nat) : Char :=
  if n < 10 then Char.ofNat (48 + n) else Char.ofNat (87 + n)

/-- The decimal text of a natural number. -/
def text (n : Nat) : String := String.ofList (Nat.toDigits 10 n)

/-- The hexadecimal text of a natural number, letters small. -/
def hexText (n : Nat) : String := String.ofList (Nat.toDigits 16 n)

/-- The decimal text, filled up with zeros in front to a width. -/
def padded (width n : Nat) : String :=
  let t := text n
  String.ofList (List.replicate (width - t.length) '0') ++ t

/-- The hexadecimal text of the last `width` digits, filled up with zeros in front. -/
def hexPadded : Nat → Nat → List Char
  | 0, _ => []
  | width + 1, n => hexPadded width (n / 16) ++ [hexDigit (n % 16)]

end AuditTrail.Digits
