import PostfixCalculator.Number.Literal
import PostfixCalculator.Text.Blank

/-!
# Numbers as people write them

Numbers with blanks around them, with digits of any script, and with single underscores
between digits.
-/
namespace PostfixCalculator.Number

open Text

/-- The plain form of a character: blanks of other scripts become spaces and digits of
other scripts ASCII digits; any other character outside ASCII has none. -/
def plainChar? (c : Char) : Option Char :=
  if c.toNat < 127 then some c
  else if isBlank c then some ' '
  else (digitValue? c).map fun n => Char.ofNat (48 + n)

def dropAsciiBlank (text : List Char) : List Char := text.dropWhile isAsciiBlank

def trimAsciiBlank (text : List Char) : List Char :=
  (dropAsciiBlank (dropAsciiBlank text).reverse).reverse

/-- Removes underscores; each must stand between two digits. -/
def dropUnderscores? (afterDigit : Bool) : List Char → Option (List Char)
  | [] => some []
  | '_' :: d :: rest =>
    if afterDigit && d.isDigit then (dropUnderscores? true rest).map (d :: ·) else none
  | c :: rest =>
    if c == '_' then none else (dropUnderscores? c.isDigit rest).map (c :: ·)

/-- The plain form of a number without its blanks and underscores. -/
def plainNumber? (text : List Char) : Option (List Char) := do
  let plain ← text.mapM plainChar?
  dropUnderscores? false (trimAsciiBlank plain)

def readFloat? (text : List Char) : Option Float := do
  let plain ← plainNumber? text
  let literal ← Literal.read? plain
  return literal.value

/-- The letter that announces a base after a zero. -/
def baseMark : Nat → Option Char
  | 2 => some 'b'
  | 8 => some 'o'
  | 16 => some 'x'
  | _ => none

def dropBaseMark (base : Nat) : List Char → List Char
  | '0' :: mark :: rest =>
    if baseMark base == some mark.toLower then
      match rest with
      | '_' :: digits => digits
      | digits => digits
    else '0' :: mark :: rest
  | rest => rest

/-- Removes underscores between characters of a whole number. -/
def dropSeparators? : List Char → Option (List Char)
  | [] => none
  | [c] => if c == '_' then none else some [c]
  | c :: '_' :: rest => if c == '_' then none else (dropSeparators? rest).map (c :: ·)
  | c :: rest => if c == '_' then none else (dropSeparators? rest).map (c :: ·)

/-- A whole number in a base, with an optional sign and base mark. -/
def readInt? (base : Nat) (text : List Char) : Option Int := do
  let plain ← text.mapM plainChar?
  let (negative, rest) := splitSign (trimAsciiBlank plain)
  let digits ← dropSeparators? (dropBaseMark base rest)
  if digits.all fun c => (baseDigit? base c).isSome then
    let size : Int := ofDigits base digits
    return if negative then -size else size
  else none

end PostfixCalculator.Number
