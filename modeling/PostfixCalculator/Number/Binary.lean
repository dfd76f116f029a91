/-!
# Doubles as exact numbers

A finite double is a whole mantissa times a power of two. `ofRatio` rounds a quotient of
two whole numbers to the nearest double, a tie to the even one.
-/
namespace PostfixCalculator.Number

/-- What a double stands for; a finite one is `mantissa * 2 ^ exponent` with a sign. -/
inductive Exact where
  | notNumber
  | infinite (negative : Bool)
  | finite (negative : Bool) (mantissa : Nat) (exponent : Int)
  deriving DecidableEq, Repr

/-- The bits of a double below its sign. -/
def magnitudeBits (bits : Nat) : Nat := bits % Nat.pow 2 63

def infinityBits : Nat := 2047 * Nat.pow 2 52

def exactOfBits (bits : Nat) : Exact :=
  let negative : Bool := bits / Nat.pow 2 63 == 1
  let field : Nat := magnitudeBits bits / Nat.pow 2 52
  let fraction := magnitudeBits bits % Nat.pow 2 52
  if field == 2047 then if fraction == 0 then .infinite negative else .notNumber
  else if field == 0 then .finite negative fraction (-1074)
  else .finite negative (Nat.pow 2 52 + fraction) ((field : Int) - 1075)

def exact (x : Float) : Exact := exactOfBits x.toBits.toNat

/-- The bits that two doubles share exactly if they are the same number: zero has no sign,
and what is not a number has one form. -/
def canonicalBits (x : Float) : Nat :=
  match exact x with
  | .notNumber => infinityBits + 1
  | .finite _ 0 _ => 0
  | _ => x.toBits.toNat

/-- The quotient of two numbers and whether its fraction is at least, or over, a half. -/
def roundQuotient (num den : Nat) : Nat :=
  let floor := num / den
  let twice := 2 * (num % den)
  if twice > den || (twice == den && floor % 2 == 1) then floor + 1 else floor

/-- The power of two of the last place of `num / den`, a positive quotient. -/
def lastPlace (num den : Nat) : Int :=
  let guess : Int := (num.log2 : Int) - den.log2 - 53
  let large : Bool :=
    if guess < 0 then num * Nat.pow 2 (-guess).toNat ≥ Nat.pow 2 53 * den
    else num ≥ Nat.pow 2 53 * (den * Nat.pow 2 guess.toNat)
  max (if large then guess + 1 else guess) (-1074)

/-- The bits of the double nearest to `num / den`. -/
def nearestBits (num den : Nat) : Nat :=
  if num == 0 then 0
  else
    let place := lastPlace num den
    let mantissa :=
      if place < 0 then roundQuotient (num * Nat.pow 2 (-place).toNat) den
      else roundQuotient num (den * Nat.pow 2 place.toNat)
    min ((place + 1074).toNat * Nat.pow 2 52 + mantissa) infinityBits

def ofSignedBits (negative : Bool) (bits : Nat) : Float :=
  Float.ofBits (.ofNat (if negative then bits + Nat.pow 2 63 else bits))

def ofRatio (negative : Bool) (num den : Nat) : Float :=
  ofSignedBits negative (nearestBits num den)

def infinity (negative : Bool) : Float := ofSignedBits negative infinityBits

def notNumber : Float := ofSignedBits false (infinityBits + Nat.pow 2 51)

/-- The nearest double, unless the number is too large for any. -/
def ofInt? (n : Int) : Option Float :=
  let bits := nearestBits n.natAbs 1
  if bits == infinityBits then none else some (ofSignedBits (n < 0) bits)

theorem nearestBits_le (num den : Nat) : nearestBits num den ≤ infinityBits := by
  unfold nearestBits
  split
  · simp [infinityBits]
  · exact Nat.min_le_right _ _

end PostfixCalculator.Number
