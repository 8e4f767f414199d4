import Bayeux.Number
/-! The fewest decimal digits that read back as a given positive double.
The double is `m * 2 ^ q`; the reals that round to it form an interval around it,
closed exactly when `m` is even. On the grids of one, two, ... seventeen digits the
two neighbours of the double are tried, in exact integer arithmetic; the first grid
with a neighbour inside the interval wins, and of two such neighbours the nearer. Two at
the same distance are told apart by the tie rule. -/

namespace Bayeux.Shortest

/-- Powers; one for an exponent below zero. -/
def twoTo (exponent : Int) : Nat := Nat.pow 2 exponent.toNat

def tenTo (exponent : Int) : Nat := Nat.pow 10 exponent.toNat

/-- `significand * 2 ^ exponent`, with the distance to the double below halved at a
power of two. -/
structure Binary where
  significand : Nat
  exponent : Int
  narrowBelow : Bool

def Binary.ofDouble (d : Double) : Binary :=
  let field := (d.magnitude >>> 52).toNat
  let fraction := (d.magnitude &&& 0xf_ffff_ffff_ffff).toNat
  if field = 0 then ⟨fraction, -1074, false⟩
  else ⟨fraction + 0x10_0000_0000_0000, (field : Int) - 1075, fraction == 0 && field > 1⟩

/-- `numerator / denominator` for the double and for the ends of its interval. -/
structure Interval where
  lower : Nat
  value : Nat
  upper : Nat
  denominator : Nat
  closed : Bool

def Binary.interval (b : Binary) : Interval :=
  let scale := twoTo (b.exponent - 2)
  { lower := (4 * b.significand - (if b.narrowBelow then 1 else 2)) * scale
    value := 4 * b.significand * scale
    upper := (4 * b.significand + 2) * scale
    denominator := twoTo (2 - b.exponent)
    closed := b.significand % 2 == 0 }

/-- The grid point `count * 10 ^ exponent`. -/
structure Decimal where
  count : Nat
  exponent : Int
  deriving DecidableEq

/-- `count * 10 ^ exponent` as a numerator over the interval's denominator, and the
factor by which the interval's own numerators grow to be compared with it. -/
def scaled (i : Interval) (p : Decimal) : Nat × Nat :=
  (p.count * tenTo p.exponent * i.denominator, tenTo (-p.exponent))

def inside (i : Interval) (p : Decimal) : Bool :=
  let (point, factor) := scaled i p
  if i.closed then i.lower * factor ≤ point && point ≤ i.upper * factor
  else i.lower * factor < point && point < i.upper * factor

/-- The exponent of the leading digit of `numerator / denominator`. -/
def leading (numerator denominator : Nat) : Int :=
  let guess : Int := (Nat.toDigits 10 numerator).length - (Nat.toDigits 10 denominator).length
  if numerator * tenTo (-guess) ≥ denominator * tenTo guess then guess else guess - 1

def below (i : Interval) (exponent : Int) : Nat :=
  i.value * tenTo (-exponent) / (i.denominator * tenTo exponent)

inductive Tie where
  | even
  | up
  deriving DecidableEq, Repr

def Tie.choose (low high : Decimal) : Tie → Decimal
  | .even => if low.count % 2 = 0 then low else high
  | .up => high

/-- The neighbour of the double on one grid that reads back, the nearer of two. -/
def neighbour (tie : Tie) (i : Interval) (exponent : Int) : Option Decimal :=
  let low : Decimal := ⟨below i exponent, exponent⟩
  let high : Decimal := ⟨below i exponent + 1, exponent⟩
  let (lowPoint, factor) := scaled i low
  let (highPoint, _) := scaled i high
  match inside i low, inside i high with
  | true, true =>
    match compare (i.value * factor - lowPoint) (highPoint - i.value * factor) with
    | .lt => some low
    | .eq => some (tie.choose low high)
    | .gt => some high
  | true, false => some low
  | false, true => some high
  | false, false => none

/-- Grids of growing precision, the last one always holding a neighbour. -/
def search (tie : Tie) (i : Interval) : (digitsLeft : Nat) → (exponent : Int) → Decimal
  | 0, exponent => ⟨below i exponent, exponent⟩
  | n + 1, exponent => (neighbour tie i exponent).getD (search tie i n (exponent - 1))

def trim : (fuel : Nat) → Decimal → Decimal
  | 0, p => p
  | fuel + 1, p =>
    if p.count ≠ 0 ∧ p.count % 10 = 0 then trim fuel ⟨p.count / 10, p.exponent + 1⟩ else p

/-- The digits of the double's magnitude, without trailing zeros. -/
def digits (tie : Tie) (d : Double) : Decimal :=
  let i := (Binary.ofDouble d).interval
  trim 18 (search tie i 17 (leading i.value i.denominator))

end Bayeux.Shortest
