import PostfixCalculator.Number.Binary

/-!
# Decimals

A decimal is a whole number times a power of ten. `shortest` finds the decimal with the
fewest digits among those that round to a given double, and of these the nearest one.
-/
namespace PostfixCalculator.Number

structure Decimal where
  digits : Nat
  exponent : Int
  deriving DecidableEq, Repr

/-- The number of digits of a whole number; zero has one. -/
def digitCount (n : Nat) : Nat := (Nat.toDigits 10 n).length

/-- A decimal whose first digit lies beyond these places rounds to infinity or to zero. -/
def Decimal.toFloat (negative : Bool) (d : Decimal) : Float :=
  let place := d.exponent + digitCount d.digits
  if d.digits == 0 || place < -340 then ofSignedBits negative 0
  else if place > 310 then infinity negative
  else if d.exponent < 0 then ofRatio negative d.digits (Nat.pow 10 (-d.exponent).toNat)
  else ofRatio negative (d.digits * Nat.pow 10 d.exponent.toNat) 1

/-- Removes zeros at the end, at most `limit` of them. -/
def Decimal.strip (d : Decimal) : Nat → Decimal
  | 0 => d
  | limit + 1 =>
    if d.digits % 10 == 0 then Decimal.strip ⟨d.digits / 10, d.exponent + 1⟩ limit else d

/-- `a * 2 ^ p` and `b * 10 ^ q` as whole numbers of one common unit. -/
def commonUnit (a : Nat) (p : Int) (b : Nat) (q : Int) : Nat × Nat :=
  (a * Nat.pow 2 p.toNat * Nat.pow 10 (-q).toNat, b * Nat.pow 10 q.toNat * Nat.pow 2 (-p).toNat)

/-- The real numbers that round to one double, in units of `2 ^ unit`. -/
structure Interval where
  low : Nat
  value : Nat
  high : Nat
  unit : Int
  closed : Bool
  deriving Repr

/-- A bound lies half way to the neighbouring double; the one below a power of two is
nearer. Both bounds belong to the interval if the mantissa is even. -/
def Interval.of (mantissa : Nat) (exponent : Int) : Interval where
  low := if mantissa == Nat.pow 2 52 && exponent > -1074 then 4 * mantissa - 1 else 4 * mantissa - 2
  value := 4 * mantissa
  high := 4 * mantissa + 2
  unit := exponent - 2
  closed := mantissa % 2 == 0

def Interval.has (i : Interval) (d : Decimal) : Bool :=
  let (low, x) := commonUnit i.low i.unit d.digits d.exponent
  let (high, _) := commonUnit i.high i.unit d.digits d.exponent
  if i.closed then low ≤ x && x ≤ high else low < x && x < high

/-- The digits of the value down to the place `exponent`, cut off. -/
def Interval.floorAt (i : Interval) (exponent : Int) : Nat :=
  let (value, one) := commonUnit i.value i.unit 1 exponent
  value / one

/-- Whether the decimal one place above the cut value is the nearer one; a tie goes to the
even digit. -/
def Interval.roundsUp (i : Interval) (exponent : Int) : Bool :=
  let (value, one) := commonUnit i.value i.unit 1 exponent
  let twice := 2 * (value % one)
  twice > one || (twice == one && value / one % 2 == 1)

/-- The member with its last digit at the place `exponent`, the nearer one of two. -/
def Interval.memberAt (i : Interval) (exponent : Int) : Option Decimal :=
  let below : Decimal := ⟨i.floorAt exponent, exponent⟩
  let above : Decimal := ⟨i.floorAt exponent + 1, exponent⟩
  match i.has below, i.has above with
  | true, true => some (if i.roundsUp exponent then above else below)
  | true, false => some below
  | false, true => some above
  | false, false => none

/-- Goes down place by place, at most `limit` places, to the first that has a member. -/
def Interval.firstMember (i : Interval) (exponent : Int) : Nat → Decimal
  | 0 => ⟨i.floorAt exponent, exponent⟩
  | limit + 1 =>
    match i.memberAt exponent with
    | some d => d
    | none => Interval.firstMember i (exponent - 1) limit

/-- The least power of ten above `mantissa * 2 ^ exponent`, or one that is larger by few. -/
def placeAbove (mantissa : Nat) (exponent : Int) : Int :=
  ((mantissa.log2 : Int) + 1 + exponent) * 30103 / 100000 + 2

/-- The shortest decimal of a positive double. -/
def shortest (mantissa : Nat) (exponent : Int) : Decimal :=
  ((Interval.of mantissa exponent).firstMember (placeAbove mantissa exponent) 22).strip 22

end PostfixCalculator.Number
