import PostfixCalculator.Number.Decimal
import PostfixCalculator.Text.Digit

/-!
# Number literals

An optional sign, then digits with an optional fraction and an optional exponent, or one
of the words `inf`, `infinity` and `nan` in any case of letters. Digits are ASCII digits
and may be missing on one side of the point.
-/
namespace PostfixCalculator.Number

open Text

inductive Literal where
  | decimal (negative : Bool) (value : Decimal)
  | infinity (negative : Bool)
  | notNumber
  deriving DecidableEq, Repr

def Literal.value : Literal → Float
  | .decimal negative d => d.toFloat negative
  | .infinity negative => Number.infinity negative
  | .notNumber => Number.notNumber

/-- Whether there is a minus sign in front, and what follows the sign. -/
def splitSign : List Char → Bool × List Char
  | '-' :: rest => (true, rest)
  | '+' :: rest => (false, rest)
  | rest => (false, rest)

/-- The digits at the front, and the rest. -/
def spanDigits (text : List Char) : List Char × List Char :=
  (text.takeWhile Char.isDigit, text.dropWhile Char.isDigit)

/-- The value of an exponent part, which may be missing. -/
def exponent? : List Char → Option Int
  | [] => some 0
  | mark :: rest =>
    let (negative, digits) := splitSign rest
    if (mark == 'e' || mark == 'E') && !digits.isEmpty && digits.all Char.isDigit then
      let size : Int := ofDigits 10 digits
      some (if negative then -size else size)
    else none

/-- The digits of a fraction, which may be missing, and the rest. -/
def spanFraction : List Char → List Char × List Char
  | '.' :: rest => spanDigits rest
  | rest => ([], rest)

def unsignedDecimal? (text : List Char) : Option Decimal :=
  let (whole, rest) := spanDigits text
  let (fraction, rest) := spanFraction rest
  if whole.isEmpty && fraction.isEmpty then none
  else (exponent? rest).map fun e => ⟨ofDigits 10 (whole ++ fraction), e - fraction.length⟩

/-- The words for infinity and for what is not a number, in small letters. -/
def word? (negative : Bool) (letters : List Char) : Option Literal :=
  if letters == ['i', 'n', 'f'] || letters == ['i', 'n', 'f', 'i', 'n', 'i', 't', 'y'] then
    some (.infinity negative)
  else if letters == ['n', 'a', 'n'] then some .notNumber
  else none

def Literal.read? (text : List Char) : Option Literal :=
  let (negative, rest) := splitSign text
  match unsignedDecimal? rest with
  | some d => some (.decimal negative d)
  | none => word? negative (rest.map Char.toLower)

/-- The letter i with its dot added to a capital or left off a small one. -/
def isForeignI (c : Char) : Bool := c.toNat == 0x130 || c.toNat == 0x131

/-- Small letters, with every foreign i read as the letter i. -/
def foldLetter (c : Char) : Char := if isForeignI c then 'i' else c.toLower

/-- A word that is recognised only when a foreign i counts as the letter i. -/
def isMisspelt (text : List Char) : Bool :=
  let (negative, rest) := splitSign text
  rest.any isForeignI && (word? negative (rest.map foldLetter)).isSome

end PostfixCalculator.Number
