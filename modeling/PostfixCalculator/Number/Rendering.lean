import PostfixCalculator.Number.Decimal

/-!
# The text of a double

The shortest decimal that reads back, always with a point or an exponent. The decimal
point stands among the digits as long as the first digit is at most fifteen places before
it and at most four after it; otherwise an exponent of at least two digits follows.
-/
namespace PostfixCalculator.Number

def zeros (count : Int) : List Char := List.replicate count.toNat '0'

/-- Digits with the decimal point after the first `point` of them. -/
def positional (digits : List Char) (point : Int) : List Char :=
  if point ≤ 0 then '0' :: '.' :: zeros (-point) ++ digits
  else if digits.length ≤ point then digits ++ zeros (point - digits.length) ++ ['.', '0']
  else digits.take point.toNat ++ '.' :: digits.drop point.toNat

/-- An exponent has a sign and at least two digits. -/
def exponentText (e : Int) : List Char :=
  let digits := Nat.toDigits 10 e.natAbs
  'e' :: (if e < 0 then '-' else '+') :: zeros (2 - digits.length) ++ digits

def scientific (digits : List Char) (point : Int) : List Char :=
  match digits with
  | [] => []
  | first :: rest =>
    first :: (if rest.isEmpty then [] else '.' :: rest) ++ exponentText (point - 1)

def Decimal.render (d : Decimal) : List Char :=
  let digits := Nat.toDigits 10 d.digits
  let point := digits.length + d.exponent
  if -4 < point && point ≤ 16 then positional digits point else scientific digits point

def renderMagnitude (mantissa : Nat) (exponent : Int) : List Char :=
  if mantissa == 0 then ['0', '.', '0'] else (shortest mantissa exponent).render

def signed (negative : Bool) (text : List Char) : List Char :=
  if negative then '-' :: text else text

def Exact.render : Exact → List Char
  | .notNumber => ['n', 'a', 'n']
  | .infinite negative => signed negative ['i', 'n', 'f']
  | .finite negative mantissa exponent => signed negative (renderMagnitude mantissa exponent)

def render (x : Float) : List Char := (exact x).render

def text (x : Float) : String := String.ofList (render x)

end PostfixCalculator.Number
