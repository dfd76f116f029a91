import PostfixCalculator.Document.Cursor
import PostfixCalculator.Document.Value
import PostfixCalculator.Number.Literal

/-!
# Reading JSON

A reader that reports the first problem and its position. Besides the standard forms it
accepts `NaN`, `Infinity` and `-Infinity`. Of equal keys in an object the last one counts.
-/
namespace PostfixCalculator.Document.Json

inductive Problem where
  | byteOrderMark
  | value
  | comma
  | colon
  | propertyName
  | unterminated
  | control
  | escape
  | codeEscape
  | extra
  deriving DecidableEq, Repr

def Problem.message : Problem → String
  | byteOrderMark => "Unexpected UTF-8 BOM (decode using utf-8-sig)"
  | value => "Expecting value"
  | comma => "Expecting ',' delimiter"
  | colon => "Expecting ':' delimiter"
  | propertyName => "Expecting property name enclosed in double quotes"
  | unterminated => "Unterminated string starting at"
  | control => "Invalid control character at"
  | escape => "Invalid \\escape"
  | codeEscape => "Invalid \\uXXXX escape"
  | extra => "Extra data"

/-- A syntax error has a position; a number with too many digits is refused as such. -/
inductive Error where
  | syntaxAt (problem : Problem) (position : Nat)
  | digits (count : Nat)
  deriving DecidableEq, Repr

def Error.at (problem : Problem) (c : Cursor) : Error := .syntaxAt problem c.position

def isSpace (c : Char) : Bool := c == ' ' || c == '\t' || c == '\n' || c == '\r'

def digitsMessage (count : Nat) : String := limitMessage s!": value has {count} digits"

def simpleEscape? : Char → Option Char
  | '"' => some '"'
  | '\\' => some '\\'
  | '/' => some '/'
  | 'b' => some '\x08'
  | 'f' => some '\x0c'
  | 'n' => some '\n'
  | 'r' => some '\r'
  | 't' => some '\t'
  | _ => none

/-- The value of the four hexadecimal digits at the front. -/
def fourDigits? (rest : List Char) : Option Nat :=
  let digits := rest.take 4
  if digits.length == 4 && digits.all Text.isHexDigit then some (Text.ofDigits 16 digits)
  else none

def isHighHalf (n : Nat) : Bool := 0xD800 ≤ n && n < 0xDC00

def isLowHalf (n : Nat) : Bool := 0xDC00 ≤ n && n < 0xE000

/-- The character of a unit. A half of a pair that stands alone is no character, and texts hold
characters only, so it becomes the replacement character. This is a limit of the model: a reader whose
texts may hold such a half keeps it, and tells it from an escape of U+FFFD. -/
def charOfUnit (n : Nat) : Char := if isHighHalf n || isLowHalf n then '\ufffd' else Char.ofNat n

def joinHalves (high low : Nat) : Char :=
  Char.ofNat (0x10000 + (high - 0xD800) * 0x400 + (low - 0xDC00))

/-- Reads an escape whose letter `u` is at the front: its character and its length. At
least one character must follow the digits. -/
def codeEscape (c : Cursor) : Except Error (Char × Nat) :=
  let rest := c.rest.drop 1
  match fourDigits? rest with
  | none => .error (.at .codeEscape c)
  | some high =>
    match rest.drop 4 with
    | [] => .error (.at .codeEscape c)
    | '\\' :: 'u' :: more =>
      if isHighHalf high && 4 < more.length then
        match fourDigits? more with
        | none => .error (.at .codeEscape (c.advance 6))
        | some low =>
          if isLowHalf low then .ok (joinHalves high low, 11) else .ok (charOfUnit high, 5)
      else .ok (charOfUnit high, 5)
    | _ => .ok (charOfUnit high, 5)

/-- Reads a string from after its opening quote at `start`; `text` holds its characters in
reverse. -/
def stringFrom (start : Nat) (text : List Char) : Nat → Cursor → Except Error (String × Cursor)
  | 0, _ => .error (.syntaxAt .unterminated start)
  | fuel + 1, c =>
    match c.rest with
    | [] => .error (.syntaxAt .unterminated start)
    | '"' :: _ => .ok (String.ofList text.reverse, c.advance 1)
    | '\\' :: [] => .error (.syntaxAt .unterminated start)
    | '\\' :: 'u' :: _ => do
      let (char, length) ← codeEscape (c.advance 1)
      stringFrom start (char :: text) fuel (c.advance (1 + length))
    | '\\' :: letter :: _ =>
      match simpleEscape? letter with
      | some char => stringFrom start (char :: text) fuel (c.advance 2)
      | none => .error (.at .escape c)
    | char :: _ =>
      if char.toNat < 0x20 then .error (.at .control c)
      else stringFrom start (char :: text) fuel (c.advance 1)

def string (c : Cursor) : Except Error (String × Cursor) :=
  stringFrom c.position [] (c.rest.length + 1) (c.advance 1)

/-- The digits of a whole number, which has no zero in front of other digits. -/
def wholeDigits (rest : List Char) : List Char :=
  match rest with
  | '0' :: _ => ['0']
  | _ => rest.takeWhile Char.isDigit

/-- A fraction with its point, or nothing. -/
def fractionPart (rest : List Char) : List Char :=
  match rest with
  | '.' :: more =>
    let digits := more.takeWhile Char.isDigit
    if digits.isEmpty then [] else '.' :: digits
  | _ => []

/-- An exponent with its mark, or nothing. -/
def exponentPart (rest : List Char) : List Char :=
  match rest with
  | mark :: more =>
    if mark == 'e' || mark == 'E' then
      let sign := more.take 1 |>.filter fun c => c == '+' || c == '-'
      let digits := (more.drop sign.length).takeWhile Char.isDigit
      if digits.isEmpty then [] else mark :: sign ++ digits
    else []
  | [] => []

def floatOf (text : List Char) : Float :=
  match Number.Literal.read? text with
  | some literal => literal.value
  | none => Number.notNumber

def number (c : Cursor) : Except Error (Value × Cursor) :=
  let sign := c.rest.take 1 |>.filter (· == '-')
  let afterSign := c.rest.drop sign.length
  let whole := wholeDigits afterSign
  let afterWhole := afterSign.drop whole.length
  let fraction := fractionPart afterWhole
  let exponent := exponentPart (afterWhole.drop fraction.length)
  let text := sign ++ whole ++ fraction ++ exponent
  if whole.isEmpty then .error (.at .value c)
  else if fraction.isEmpty && exponent.isEmpty then
    if digitLimit < whole.length then .error (.digits whole.length)
    else
      let size : Int := Text.ofDigits 10 whole
      .ok (.int (if sign.isEmpty then size else -size), c.advance text.length)
  else .ok (.float (floatOf text), c.advance text.length)

def words : List (String × Value) :=
  [("null", .null), ("true", .bool true), ("false", .bool false), ("NaN", .float Number.notNumber),
    ("Infinity", .float (Number.infinity false)), ("-Infinity", .float (Number.infinity true))]

def word? (c : Cursor) : Option (Value × Cursor) :=
  (words.find? fun (w, _) => w.toList.isPrefixOf c.rest).map fun (w, v) => (v, c.advance w.length)

/-- Puts an entry in place of an earlier one with the same key, or at the end. -/
def putEntry (key : String) (value : Value) : List (Value × Value) → List (Value × Value)
  | [] => [(.text key, value)]
  | (.text k, v) :: rest =>
    if k == key then (.text k, value) :: rest else (.text k, v) :: putEntry key value rest
  | entry :: rest => entry :: putEntry key value rest

mutual

def value : Nat → Cursor → Except Error (Value × Cursor)
  | 0, c => .error (.at .value c)
  | fuel + 1, c =>
    match c.rest with
    | '"' :: _ => (string c).map fun (s, after) => (.text s, after)
    | '[' :: _ =>
      let inner := (c.advance 1).skip isSpace
      match inner.rest with
      | ']' :: _ => .ok (.list [], inner.advance 1)
      | _ => items fuel [] inner
    | '\x7b' :: _ =>
      let inner := (c.advance 1).skip isSpace
      match inner.rest with
      | '\x7d' :: _ => .ok (.dict [], inner.advance 1)
      | _ => entries fuel [] inner
    | _ =>
      match word? c with
      | some found => .ok found
      | none => number c

/-- The items of a list from the next one on; `found` holds the earlier ones in reverse. -/
def items : Nat → List Value → Cursor → Except Error (Value × Cursor)
  | 0, _, c => .error (.at .value c)
  | fuel + 1, found, c => do
    let (item, after) ← value fuel c
    let after := after.skip isSpace
    match after.rest with
    | ']' :: _ => .ok (.list (item :: found).reverse, after.advance 1)
    | ',' :: _ => items fuel (item :: found) ((after.advance 1).skip isSpace)
    | _ => .error (.at .comma after)

def entries : Nat → List (Value × Value) → Cursor → Except Error (Value × Cursor)
  | 0, _, c => .error (.at .value c)
  | fuel + 1, found, c => do
    if c.rest.head? != some '"' then throw (.at .propertyName c)
    let (key, after) ← string c
    let after := after.skip isSpace
    if after.rest.head? != some ':' then throw (.at .colon after)
    let (v, after) ← value fuel ((after.advance 1).skip isSpace)
    let after := after.skip isSpace
    let found := putEntry key v found
    match after.rest with
    | '\x7d' :: _ => .ok (.dict found, after.advance 1)
    | ',' :: _ => entries fuel found ((after.advance 1).skip isSpace)
    | _ => .error (.at .comma after)

end

/-- Reads a text that holds one value. -/
def read (text : List Char) : Except Error Value :=
  if text.head? == some '\ufeff' then .error (.syntaxAt .byteOrderMark 0)
  else do
    let start := (Cursor.ofText text).skip isSpace
    let (v, after) ← value (2 * text.length + 2) start
    let after := after.skip isSpace
    if after.rest.isEmpty then return v else throw (.at .extra after)

end PostfixCalculator.Document.Json
