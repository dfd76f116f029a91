import PostfixCalculator.Text.Utf8

/-!
# The characters of a YAML stream

A stream is UTF-8, or UTF-16 if it starts with a byte order mark of that encoding. Control
characters other than tabs and line ends are refused.
-/
namespace PostfixCalculator.Document.Yaml

def isAllowed (c : Char) : Bool :=
  let n := c.toNat
  n == 0x09 || n == 0x0A || n == 0x0D || (0x20 ≤ n && n ≤ 0x7E) || n == 0x85 ||
    (0xA0 ≤ n && n ≤ 0xD7FF) || (0xE000 ≤ n && n ≤ 0xFFFD) || 0x10000 ≤ n

/-- The code units of pairs of bytes; the first byte of a pair is the low one if `lowFirst`. -/
def units16? (lowFirst : Bool) : List UInt8 → Option (List Nat)
  | [] => some []
  | [_] => none
  | a :: b :: rest =>
    let unit := if lowFirst then b.toNat * 256 + a.toNat else a.toNat * 256 + b.toNat
    (units16? lowFirst rest).map (unit :: ·)

def isHighHalf (n : Nat) : Bool := 0xD800 ≤ n && n < 0xDC00

def isLowHalf (n : Nat) : Bool := 0xDC00 ≤ n && n < 0xE000

/-- Joins pairs of halves; no half may stand alone. -/
def joinUnits? : List Nat → Option (List Char)
  | [] => some []
  | [unit] => if isHighHalf unit || isLowHalf unit then none else some [Char.ofNat unit]
  | high :: low :: rest =>
    if isHighHalf high then
      if isLowHalf low then
        let n := 0x10000 + (high - 0xD800) * 0x400 + (low - 0xDC00)
        (joinUnits? rest).map (Char.ofNat n :: ·)
      else none
    else if isLowHalf high then none
    else (joinUnits? (low :: rest)).map (Char.ofNat high :: ·)

def decode? : List UInt8 → Option (List Char)
  | 0xFF :: 0xFE :: rest => units16? true rest >>= joinUnits?
  | 0xFE :: 0xFF :: rest => units16? false rest >>= joinUnits?
  | 0xEF :: 0xBB :: 0xBF :: rest => (Text.decode rest).toOption
  | bytes => (Text.decode bytes).toOption

/-- The characters of a stream, unless one is malformed or not allowed. -/
def chars? (bytes : List UInt8) : Option (List Char) := do
  let text ← decode? bytes
  if text.all isAllowed then some text else none

end PostfixCalculator.Document.Yaml
