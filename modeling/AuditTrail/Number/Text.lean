import AuditTrail.Number.Shortest
import AuditTrail.Number.Digits

/-
  Two written forms of floating-point numbers. The compact form is positional from `1e-5` up to
  below `1e16` and has an exponent elsewhere; it always shows that the number is no integer. The
  plain form is positional at any size.
-/
namespace AuditTrail.Double

/-- `n` zeros. -/
def zeros (n : Nat) : String := String.ofList (List.replicate n '0')

/-- Positional text of a decimal; `fraction` says whether whole numbers end in `.0`. -/
def positional (d : Decimal) (fraction : Bool) : String :=
  let digits := Digits.text d.digits
  let whole := if fraction then ".0" else ""
  if 0 ≤ d.exponent then digits ++ zeros d.exponent.toNat ++ whole
  else
    let places := (-d.exponent).toNat
    let n := digits.length
    if places < n then
      String.ofList (digits.toList.take (n - places)) ++ "." ++
        String.ofList (digits.toList.drop (n - places))
    else "0." ++ zeros (places - n) ++ digits

/-- Text of a decimal with one digit before the point and an exponent with a sign. -/
def scientific (d : Decimal) : String :=
  let digits := (Digits.text d.digits).toList
  let exponent := d.exponent + ((digits.length : Int) - 1)
  let sign := if exponent < 0 then "-" else "+"
  let mantissa := match digits with
    | [] => "0"
    | [c] => c.toString
    | c :: rest => c.toString ++ "." ++ String.ofList rest
  let power := if exponent < 0 then "-" ++ Digits.text exponent.natAbs
    else sign ++ Digits.text exponent.natAbs
  mantissa ++ "e" ++ power

/-- The compact form of a finite number. -/
def compactText (x : Double) : String :=
  let sign := if x.isNegative then "-" else ""
  if x.isZero then sign ++ "0.0"
  else
    let d := x.shortest
    let magnitude := d.exponent + ((Digits.text d.digits).length : Int)
    if -5 < magnitude ∧ magnitude ≤ 16 then sign ++ positional d true
    else sign ++ scientific d

/-- The plain form of any number. -/
def plainText (x : Double) : String :=
  let sign := if x.isNegative then "-" else ""
  if x.isUndefined then "NaN"
  else if !x.isFinite then sign ++ "inf"
  else if x.isZero then sign ++ "0"
  else sign ++ positional x.shortest false

end AuditTrail.Double
