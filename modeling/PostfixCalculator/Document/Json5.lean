import PostfixCalculator.Document.Json
import PostfixCalculator.Text.Blank
import PostfixCalculator.Text.Identifier

/-!
# Reading JSON5

JSON with comments, trailing commas, keys without quotes, either kind of quotes, and more
forms of numbers. A reader takes the text from a place and gives what it read and the text
after it, or nothing if the text has no such form there.
-/
namespace PostfixCalculator.Document.Json5

def isLineEnd (c : Char) : Bool :=
  c == '\n' || c == '\r' || c == '\u2028' || c == '\u2029'

/-- Blanks between values: spaces of every script, tabs, form feeds, line ends and the byte
order mark. -/
def isSpace (c : Char) : Bool :=
  c == '\ufeff' || (Text.isBlank c && !(0x1C ≤ c.toNat && c.toNat < 0x20) && c.toNat != 0x85)

/-- The text after the end of a comment that was opened by a slash and a star. -/
def afterComment? : List Char → Option (List Char)
  | [] => none
  | '*' :: '/' :: rest => some rest
  | _ :: rest => afterComment? rest

/-- Skips blanks and comments. -/
def skipSpace : Nat → List Char → List Char
  | 0, text => text
  | fuel + 1, text =>
    match text with
    | '/' :: '/' :: rest => skipSpace fuel (rest.dropWhile fun c => !isLineEnd c)
    | '/' :: '*' :: rest =>
      match afterComment? rest with
      | some rest => skipSpace fuel rest
      | none => text
    | c :: rest => if isSpace c then skipSpace fuel rest else text
    | [] => []

def skip (text : List Char) : List Char := skipSpace text.length text

/-- The character of an escape by `x` and two digits or `u` and four digits. -/
def codeEscape? : List Char → Option (Nat × List Char)
  | 'x' :: rest =>
    let digits := rest.take 2
    if digits.length == 2 && digits.all Text.isHexDigit then
      some (Text.ofDigits 16 digits, rest.drop 2)
    else none
  | 'u' :: rest => (Json.fourDigits? rest).map fun n => (n, rest.drop 4)
  | _ => none

def namedEscape? : Char → Option Char
  | 'b' => some '\x08'
  | 'f' => some '\x0c'
  | 'n' => some '\n'
  | 'r' => some '\r'
  | 't' => some '\t'
  | 'v' => some '\x0b'
  | _ => none

/-- A character of a string as it was written: a code unit, or nothing for a line end that
is escaped. -/
def escape? : List Char → Option (Option Nat × List Char)
  | [] => none
  | '\r' :: '\n' :: rest => some (none, rest)
  | '0' :: rest =>
    if (rest.head?.map Char.isDigit).getD false then none else some (some 0, rest)
  | c :: rest =>
    if isLineEnd c then some (none, rest)
    else if c == 'x' || c == 'u' then
      (codeEscape? (c :: rest)).map fun (n, rest) => (some n, rest)
    else if c.isDigit then none
    else some (some ((namedEscape? c).getD c).toNat, rest)

/-- Joins the halves of pairs; the replacement character stands for a half that stands alone. -/
def joinUnits : List Nat → List Char
  | [] => []
  | high :: low :: rest =>
    if Json.isHighHalf high && Json.isLowHalf low then Json.joinHalves high low :: joinUnits rest
    else Json.charOfUnit high :: joinUnits (low :: rest)
  | [unit] => [Json.charOfUnit unit]

/-- Reads a string up to the quote that closes it; `units` holds what was read in reverse. -/
def stringFrom (mark : Char) (units : List Nat) : Nat → List Char → Option (String × List Char)
  | 0, _ => none
  | fuel + 1, text =>
    match text with
    | [] => none
    | '\\' :: rest =>
      match escape? rest with
      | some (some unit, rest) => stringFrom mark (unit :: units) fuel rest
      | some (none, rest) => stringFrom mark units fuel rest
      | none => none
    | c :: rest =>
      if c == mark then some (String.ofList (joinUnits units.reverse), rest)
      else if c.toNat < 0x20 || isLineEnd c then none
      else stringFrom mark (c.toNat :: units) fuel rest

def isQuote (c : Char) : Bool := c == '\x27' || c == '\x22'

def string? : List Char → Option (String × List Char)
  | [] => none
  | mark :: rest => if isQuote mark then stringFrom mark [] (rest.length + 1) rest else none

/-- The characters of an identifier, which may be escaped, in front of a text. -/
def identifierUnits (isPart : Char → Bool) : Nat → List Char → List Nat × List Char
  | 0, text => ([], text)
  | fuel + 1, text =>
    match text with
    | '\\' :: 'u' :: rest =>
      match codeEscape? ('u' :: rest) with
      | some (n, rest) =>
        let (more, rest) := identifierUnits Text.continuesIdentifier fuel rest
        (n :: more, rest)
      | none => ([], text)
    | c :: rest =>
      if isPart c then
        let (more, rest) := identifierUnits Text.continuesIdentifier fuel rest
        (c.toNat :: more, rest)
      else ([], text)
    | [] => ([], [])

def identifier? (text : List Char) : Option (String × List Char) :=
  let (units, rest) := identifierUnits Text.startsIdentifier text.length text
  if units.isEmpty then none else some (String.ofList (joinUnits units), rest)

def key? (text : List Char) : Option (String × List Char) := (string? text).or (identifier? text)

/-- The minus signs in front of a number, and what follows all signs. -/
def splitSigns : List Char → List Char × List Char
  | '-' :: rest =>
    let (signs, rest) := splitSigns rest
    ('-' :: signs, rest)
  | '+' :: rest => splitSigns rest
  | rest => ([], rest)

/-- A whole number in hexadecimal notation. -/
def hexNumber? : List Char → Option (Nat × List Char)
  | '0' :: mark :: rest =>
    let digits := rest.takeWhile Text.isHexDigit
    if (mark == 'x' || mark == 'X') && !digits.isEmpty then
      some (Text.ofDigits 16 digits, rest.drop digits.length)
    else none
  | _ => none

/-- An exponent with its mark, or nothing. -/
def exponentPart : List Char → List Char
  | [] => []
  | mark :: rest =>
    if mark == 'e' || mark == 'E' then
      let sign := rest.take 1 |>.filter fun c => c == '+' || c == '-'
      mark :: sign ++ (rest.drop sign.length).takeWhile Char.isDigit
    else []

/-- A fraction with its point, or nothing. -/
def fractionPart : List Char → List Char
  | '.' :: rest => '.' :: rest.takeWhile Char.isDigit
  | _ => []

/-- A whole number has no zero in front of other digits. -/
def startsWithZero : List Char → Bool
  | '0' :: d :: _ => d.isDigit
  | _ => false

/-- Whether an identifier, possibly escaped, is at the front. -/
def hasIdentifier (text : List Char) : Bool := (identifier? (text.take 6)).isSome

/-- A number in decimal notation. No identifier may follow it. -/
def decimal? (negative : Bool) (text : List Char) : Option (Value × List Char) :=
  let whole := text.takeWhile Char.isDigit
  let afterWhole := text.drop whole.length
  let fraction := fractionPart afterWhole
  let exponent := exponentPart (afterWhole.drop fraction.length)
  let written := whole ++ fraction ++ exponent
  let rest := text.drop written.length
  if startsWithZero text || hasIdentifier rest then none
  else if fraction.isEmpty && exponent.isEmpty then
    if whole.isEmpty || digitLimit < whole.length then none
    else
      let size : Int := Text.ofDigits 10 whole
      some (.int (if negative then -size else size), rest)
  else
    (Number.Literal.read? (if negative then '-' :: written else written)).map fun literal =>
      (.float literal.value, rest)

/-- A number, which may have plus signs and at most one minus sign in front. -/
def number? (text : List Char) : Option (Value × List Char) :=
  let (signs, rest) := splitSigns text
  let negative := !signs.isEmpty
  if 1 < signs.length then none
  else if "Infinity".toList.isPrefixOf rest then
    some (.float (Number.infinity negative), rest.drop 8)
  else if "NaN".toList.isPrefixOf rest then some (.float Number.notNumber, rest.drop 3)
  else
    match hexNumber? rest with
    | some (n, rest) => some (.int (if negative then -(n : Int) else n), rest)
    | none => decimal? negative rest

def words : List (String × Value) :=
  [("null", .null), ("true", .bool true), ("false", .bool false)]

def word? (text : List Char) : Option (Value × List Char) :=
  (words.find? fun (w, _) => w.toList.isPrefixOf text).map fun (w, v) => (v, text.drop w.length)

mutual

def value? : Nat → List Char → Option (Value × List Char)
  | 0, _ => none
  | fuel + 1, text =>
    match text with
    | '[' :: rest => items? fuel [] (skip rest)
    | '\x7b' :: rest => entries? fuel [] (skip rest)
    | c :: _ =>
      if isQuote c then (string? text).map fun (s, rest) => (.text s, rest)
      else (word? text).or (number? text)
    | [] => none

/-- The items of a list up to its closing bracket; `found` holds the earlier ones in
reverse. -/
def items? : Nat → List Value → List Char → Option (Value × List Char)
  | 0, _, _ => none
  | fuel + 1, found, text =>
    match text with
    | ']' :: rest => some (.list found.reverse, rest)
    | _ => do
      let (item, rest) ← value? fuel text
      match skip rest with
      | ',' :: rest => items? fuel (item :: found) (skip rest)
      | ']' :: rest => some (.list (item :: found).reverse, rest)
      | _ => none

/-- The entries of an object up to its closing brace. -/
def entries? : Nat → List (Value × Value) → List Char → Option (Value × List Char)
  | 0, _, _ => none
  | fuel + 1, found, text =>
    match text with
    | '\x7d' :: rest => some (.dict found, rest)
    | _ => do
      let (key, rest) ← key? text
      let (v, rest) ← match skip rest with
        | ':' :: rest => value? fuel (skip rest)
        | _ => none
      let found := Json.putEntry key v found
      match skip rest with
      | ',' :: rest => entries? fuel found (skip rest)
      | '\x7d' :: rest => some (.dict found, rest)
      | _ => none

end

/-- Reads a text that holds one value. -/
def read? (text : List Char) : Option Value :=
  match value? (2 * text.length + 2) (skip text) with
  | some (v, rest) => if (skip rest).isEmpty then some v else none
  | none => none

end PostfixCalculator.Document.Json5
