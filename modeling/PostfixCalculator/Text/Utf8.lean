/-!
# Reading bytes as text

Decoding refuses a sequence at its first byte and says how many bytes of it were
well formed so far. Text that is read in blocks carries an unfinished sequence over to
the next block, so positions count from the first byte that was not yet decoded.
-/
namespace PostfixCalculator.Text

inductive ByteFault where
  | invalidStart
  | invalidContinuation
  | unexpectedEnd
  deriving DecidableEq, Repr

def ByteFault.reason : ByteFault → String
  | .invalidStart => "invalid start byte"
  | .invalidContinuation => "invalid continuation byte"
  | .unexpectedEnd => "unexpected end of data"

/-- What cannot be decoded: the byte at fault, where it is, and how many bytes are meant. -/
structure DecodeError where
  fault : ByteFault
  byte : UInt8
  position : Nat
  count : Nat
  deriving DecidableEq, Repr

def byteText (b : UInt8) : String :=
  let digit (n : Nat) : Char := (Nat.toDigits 16 n).headD '0'
  String.ofList ['0', 'x', digit (b.toNat / 16), digit (b.toNat % 16)]

def DecodeError.message (e : DecodeError) : String :=
  if e.count == 1 then
    s!"'utf-8' codec can't decode byte {byteText e.byte} in position {e.position}: {e.fault.reason}"
  else
    let last := e.position + e.count - 1
    s!"'utf-8' codec can't decode bytes in position {e.position}-{last}: {e.fault.reason}"

/-- How many bytes follow a first byte, and the range of the one after it. -/
def followers (b : UInt8) : Option (Nat × Nat × Nat) :=
  let n := b.toNat
  if n < 0x80 then some (0, 0, 0)
  else if n < 0xC2 then none
  else if n < 0xE0 then some (1, 0x80, 0xBF)
  else if n == 0xE0 then some (2, 0xA0, 0xBF)
  else if n == 0xED then some (2, 0x80, 0x9F)
  else if n < 0xF0 then some (2, 0x80, 0xBF)
  else if n == 0xF0 then some (3, 0x90, 0xBF)
  else if n < 0xF4 then some (3, 0x80, 0xBF)
  else if n == 0xF4 then some (3, 0x80, 0x8F)
  else none

/-- The bytes that continue a sequence, as far as they are allowed. -/
def goodFollowers (count low high : Nat) : List UInt8 → List UInt8
  | [] => []
  | b :: rest =>
    match count with
    | 0 => []
    | count + 1 =>
      if low ≤ b.toNat && b.toNat ≤ high then b :: goodFollowers count 0x80 0xBF rest else []

/-- The bits that a first byte holds before `count` more bytes. -/
def leadBits (b : UInt8) : Nat → Nat
  | 0 => b.toNat
  | 1 => b.toNat % 0x20
  | 2 => b.toNat % 0x10
  | _ => b.toNat % 0x08

def joinBits (lead : Nat) (more : List UInt8) : Nat :=
  more.foldl (fun total b => total * 64 + b.toNat % 64) lead

/-- What stands at the front of some bytes. -/
inductive Front where
  | char (c : Char) (size : Nat)
  | fault (f : ByteFault) (count : Nat)
  | unfinished
  deriving Repr

def front (b : UInt8) (rest : List UInt8) : Front :=
  match followers b with
  | none => .fault .invalidStart 1
  | some (count, low, high) =>
    let more := goodFollowers count low high rest
    if more.length == count then .char (Char.ofNat (joinBits (leadBits b count) more)) (count + 1)
    else if more.length == rest.length then .unfinished
    else .fault .invalidContinuation (more.length + 1)

/-- An unfinished start of a surrogate is not refused until the bytes end. -/
def mayBeUnfinished (b : UInt8) (rest : List UInt8) : Bool :=
  match rest with
  | [c] => b == 0xED && 0xA0 ≤ c.toNat && c.toNat ≤ 0xBF
  | _ => false

/-- Decodes a block; `final` says that no more bytes follow. Gives the text and the bytes of
an unfinished sequence. -/
def decodeBlock (final : Bool) (position : Nat) (text : List Char) :
    List UInt8 → Except DecodeError (List Char × List UInt8)
  | [] => .ok (text.reverse, [])
  | b :: rest =>
    match front b rest with
    | .char c size => decodeBlock final (position + size) (c :: text) (rest.drop (size - 1))
    | .fault f count =>
      if !final && mayBeUnfinished b rest then .ok (text.reverse, b :: rest)
      else .error ⟨f, b, position, count⟩
    | .unfinished =>
      if final then .error ⟨.unexpectedEnd, b, position, rest.length + 1⟩
      else .ok (text.reverse, b :: rest)
termination_by bytes => bytes.length
decreasing_by simp only [List.length_drop, List.length_cons]; omega

/-- Decodes all bytes at once. -/
def decode (bytes : List UInt8) : Except DecodeError (List Char) :=
  (decodeBlock true 0 [] bytes).map (·.1)

/-- Decodes in blocks of `size + 1` bytes; `pending` is an unfinished sequence. -/
def decodeBlocks (size : Nat) (pending : List UInt8) :
    List UInt8 → Except DecodeError (List Char)
  | [] => decode pending
  | b :: rest => do
    let (text, unfinished) ← decodeBlock false 0 [] (pending ++ b :: rest.take size)
    let more ← decodeBlocks size unfinished (rest.drop size)
    return text ++ more
termination_by bytes => bytes.length
decreasing_by simp only [List.length_drop, List.length_cons]; omega

/-- Decodes bytes that are read in blocks of 8192. -/
def decodeStream (bytes : List UInt8) : Except DecodeError (List Char) :=
  decodeBlocks 8191 [] bytes

def encodeChar (c : Char) : List UInt8 :=
  let n := c.toNat
  let tail (shift : Nat) : UInt8 := .ofNat (0x80 + n / Nat.pow 2 shift % 64)
  if n < 0x80 then [.ofNat n]
  else if n < 0x800 then [.ofNat (0xC0 + n / 64), tail 0]
  else if n < 0x10000 then [.ofNat (0xE0 + n / 4096), tail 6, tail 0]
  else [.ofNat (0xF0 + n / 262144), tail 12, tail 6, tail 0]

def encode (text : List Char) : List UInt8 := text.flatMap encodeChar

end PostfixCalculator.Text
