import AuditTrail.Number.Double

/-
  The shortest decimal that reads back as a given floating-point number: of all decimals in the
  interval of reals that round to the number those with the fewest digits, and of these the one
  nearest to it. All arithmetic is on natural numbers.
-/
namespace AuditTrail.Double

/-- A decimal `digits · 10 ^ exponent`. -/
structure Decimal where
  digits : Nat
  exponent : Int
  deriving DecidableEq, Repr

/-- The interval of reals that round to a number, and the number itself, as numerators over one
denominator. -/
structure Interval where
  low : Nat
  value : Nat
  high : Nat
  denominator : Nat
  closed : Bool

/-- The interval of a positive finite number. The lower neighbour of a power of two is nearer than
the upper one; the ends belong to the interval exactly when the mantissa is even. -/
def interval (x : Double) : Interval :=
  let m := x.mantissa
  let below := if x.fractionBits = 0 ∧ 1 < x.exponentBits then 1 else 2
  -- everything is counted in units of `2 ^ (power - 1076)`
  let scale := Nat.pow 2 x.power
  { low := (4 * m - below) * scale
    value := 4 * m * scale
    high := (4 * m + 2) * scale
    denominator := Nat.pow 2 1076
    closed := m % 2 = 0 }

/-- Whether the grid point `n · 10 ^ e` lies in the interval. -/
def Interval.holds (i : Interval) (n : Nat) (e : Int) : Bool :=
  let point := if e < 0 then n * i.denominator else n * Nat.pow 10 e.toNat * i.denominator
  let unit := if e < 0 then Nat.pow 10 (-e).toNat else 1
  if i.closed then i.low * unit ≤ point && point ≤ i.high * unit
  else i.low * unit < point && point < i.high * unit

/-- The grid point below the number, and twice the distance to it compared with the grid's step. -/
def Interval.below (i : Interval) (e : Int) : Nat × Ordering :=
  let value := if e < 0 then i.value * Nat.pow 10 (-e).toNat else i.value
  let step := if e < 0 then i.denominator else i.denominator * Nat.pow 10 e.toNat
  (value / step, compare (2 * (value % step)) step)

/-- The best point on the grid of step `10 ^ e`: of the two neighbours of the number those that lie
in the interval, the nearer one of two, the even one of two equally near. -/
def Interval.onGrid (i : Interval) (e : Int) : Option Decimal :=
  let (n, half) := i.below e
  match i.holds n e, i.holds (n + 1) e with
  | true, true =>
    match half with
    | .lt => some ⟨n, e⟩
    | .gt => some ⟨n + 1, e⟩
    | .eq => some ⟨if n % 2 = 0 then n else n + 1, e⟩
  | true, false => some ⟨n, e⟩
  | false, true => some ⟨n + 1, e⟩
  | false, false => none

/-- A power of ten above the number, at most a few steps above the least one. -/
def Interval.topExponent (i : Interval) : Int :=
  let bits : Int := (Nat.log2 i.value : Int) - (Nat.log2 i.denominator : Int)
  (bits + 1) * 30103 / 100000 + 1

/-- Drops trailing zeros of the digits. -/
def Decimal.trim (d : Decimal) : Nat → Decimal
  | 0 => d
  | fuel + 1 =>
    if d.digits ≠ 0 ∧ d.digits % 10 = 0 then Decimal.trim ⟨d.digits / 10, d.exponent + 1⟩ fuel
    else d

/-- The shortest decimal of a positive finite number: the first grid, from coarse to fine, with a
point in the interval. -/
def shortest (x : Double) : Decimal :=
  let i := x.interval
  let top := i.topExponent
  let grids : List Int := (List.range 20).map fun k : Nat => top - (k : Int)
  ((grids.findSome? i.onGrid).getD ⟨0, 0⟩).trim 20

end AuditTrail.Double
