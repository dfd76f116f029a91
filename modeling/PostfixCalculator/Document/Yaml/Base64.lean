/-!
# Bytes as text

Four letters stand for three bytes. Characters that are no letters are ignored, and so is
what follows the padding of an incomplete group.
-/
namespace PostfixCalculator.Document.Yaml

/-- The value of a letter. -/
def sextet? (c : Char) : Option Nat :=
  if 'A' ≤ c && c ≤ 'Z' then some (c.toNat - 65)
  else if 'a' ≤ c && c ≤ 'z' then some (c.toNat - 71)
  else if c.isDigit then some (c.toNat + 4)
  else if c == '+' then some 62
  else if c == '/' then some 63
  else none

/-- The letters before the padding, and whether there was enough of it; `pads` counts the
padding since the last letter. -/
def sextets (position pads : Nat) : List Char → List Nat × Bool
  | [] => ([], false)
  | c :: rest =>
    if c == '=' then
      if position % 4 < 2 then sextets position pads rest
      else if 4 ≤ position % 4 + pads + 1 then ([], true)
      else sextets position (pads + 1) rest
    else
      match sextet? c with
      | none => sextets position pads rest
      | some n =>
        let (more, padded) := sextets (position + 1) 0 rest
        (n :: more, padded)

/-- The bytes of groups of letters; an incomplete group has fewer. -/
def bytesOfSextets : List Nat → List UInt8
  | a :: b :: c :: d :: rest =>
    .ofNat (a * 4 + b / 16) :: .ofNat (b % 16 * 16 + c / 4) :: .ofNat (c % 4 * 64 + d) ::
      bytesOfSextets rest
  | [a, b, c] => [.ofNat (a * 4 + b / 16), .ofNat (b % 16 * 16 + c / 4)]
  | [a, b] => [.ofNat (a * 4 + b / 16)]
  | _ => []

/-- The bytes of an ASCII text, unless a group is incomplete without padding. -/
def bytes? (text : List Char) : Option (List UInt8) :=
  let (letters, padded) := sextets 0 0 text
  if text.any fun c => 127 < c.toNat then none
  else if padded || letters.length % 4 == 0 then some (bytesOfSextets letters)
  else none

end PostfixCalculator.Document.Yaml
