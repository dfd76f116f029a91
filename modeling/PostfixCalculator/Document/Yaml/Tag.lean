import PostfixCalculator.Text.Digit

/-!
# Types of YAML nodes

The type of a node is stated by its tag, or found from the text of a plain scalar.
-/
namespace PostfixCalculator.Document.Yaml

inductive Tag where
  | null
  | bool
  | int
  | float
  | binary
  | timestamp
  | omap
  | pairs
  | set
  | str
  | seq
  | map
  | merge
  | value
  | other
  deriving DecidableEq, Repr

namespace Tag

def core : List (String × Tag) :=
  [("null", null), ("bool", bool), ("int", int), ("float", float), ("binary", binary),
    ("timestamp", timestamp), ("omap", omap), ("pairs", pairs), ("set", set), ("str", str),
    ("seq", seq), ("map", map), ("merge", merge), ("value", value)]

def corePrefix : String := "tag:yaml.org,2002:"

/-- The type with a full name. -/
def ofName (name : String) : Tag :=
  ((core.find? fun (short, _) => corePrefix ++ short == name).map (·.2)).getD other

end Tag

/-- The texts of truth values in small letters. -/
def truths : List (String × Bool) :=
  [("yes", true), ("no", false), ("true", true), ("false", false), ("on", true), ("off", false)]

/-- A word in small letters, in capitals, or with a capital in front. -/
def casings (word : String) : List String := [word, word.capitalize, word.toUpper]

def isTruth (text : String) : Bool := truths.any fun (word, _) => (casings word).contains text

def isNull (text : String) : Bool := text == "~" || text == "" || (casings "null").contains text

/-- What follows an optional sign. -/
def dropSign : List Char → List Char
  | '-' :: rest => rest
  | '+' :: rest => rest
  | rest => rest

def isDigitOrLine (c : Char) : Bool := c.isDigit || c == '_'

/-- Digits and underscores that start with a digit. -/
def isSeparatedNumber : List Char → Bool
  | [] => false
  | c :: rest => c.isDigit && rest.all isDigitOrLine

/-- One or two digits below sixty. -/
def isSixtieth : List Char → Bool
  | [d] => d.isDigit
  | [t, d] => '0' ≤ t && t ≤ '5' && d.isDigit
  | _ => false

/-- The parts of a text between colons. -/
def splitColons : List Char → List (List Char)
  | [] => [[]]
  | c :: rest =>
    match splitColons rest with
    | [] => [[c]]
    | part :: parts => if c == ':' then [] :: part :: parts else (c :: part) :: parts

/-- Numbers between colons, with at least one colon. -/
def isSexagesimal (text : List Char) : Bool :=
  match splitColons text with
  | first :: second :: rest => isSeparatedNumber first && (second :: rest).all isSixtieth
  | _ => false

def isIntBody (text : List Char) : Bool :=
  match text with
  | '0' :: 'b' :: rest => !rest.isEmpty && rest.all fun c => c == '0' || c == '1' || c == '_'
  | '0' :: 'x' :: rest => !rest.isEmpty && rest.all fun c => Text.isHexDigit c || c == '_'
  | '0' :: rest => rest.all fun c => ('0' ≤ c && c ≤ '7') || c == '_'
  | _ => isSeparatedNumber text || isSexagesimal text

/-- Binary, octal, decimal, hexadecimal and sexagesimal whole numbers. -/
def isInt (text : List Char) : Bool := isIntBody (dropSign text)

/-- An exponent with a sign, or nothing. -/
def isExponent : List Char → Bool
  | [] => true
  | e :: sign :: digits =>
    (e == 'e' || e == 'E') && (sign == '+' || sign == '-') && !digits.isEmpty &&
      digits.all Char.isDigit
  | _ => false

/-- What follows the digits and underscores of a fraction is an exponent. -/
def isFraction (text : List Char) : Bool := isExponent (text.dropWhile isDigitOrLine)

def isFloatBody (text : List Char) : Bool :=
  let whole := text.takeWhile (· != '.')
  match text.drop whole.length with
  | '.' :: rest =>
    (isSeparatedNumber whole && isFraction rest) || (isSexagesimal whole && rest.all isDigitOrLine)
  | _ => false

/-- A number with a point and perhaps an exponent, a sexagesimal one, or a word after a
point. A number that starts with the point has no sign. -/
def isFloat (text : List Char) : Bool :=
  let body := dropSign text
  isFloatBody body ||
    (match text with
      | '.' :: d :: rest => d.isDigit && isFraction rest
      | _ => false) ||
    ((casings "inf").map fun w => '.' :: w.toList).contains body ||
    [".nan", ".NaN", ".NAN"].contains (String.ofList text)

/-- The parts of a date and perhaps a time of day; the zone is in minutes. -/
structure Stamp where
  year : Nat
  month : Nat
  day : Nat
  time : Option (Nat × Nat × Nat × List Char × Option Int)

/-- A number of as many digits, and the rest. -/
def digits? (least most : Nat) (text : List Char) : Option (Nat × List Char) :=
  let found := (text.takeWhile Char.isDigit).take most
  if least ≤ found.length then some (Text.ofDigits 10 found, text.drop found.length) else none

def mark? (mark : Char) (text : List Char) : Option (List Char) :=
  if text.head? == some mark then some (text.drop 1) else none

def isBlankOrTab (c : Char) : Bool := c == ' ' || c == '\t'

/-- The distance from universal time at the end of a timestamp, which may be missing. -/
def zone? (text : List Char) : Option (Option Int) :=
  if text.isEmpty then some none
  else
    match text.dropWhile isBlankOrTab with
    | ['Z'] => some (some 0)
    | sign :: rest =>
      if sign == '+' || sign == '-' then do
        let (hours, rest) ← digits? 1 2 rest
        let (minutes, rest) ←
          if rest.isEmpty then some (0, rest) else mark? ':' rest >>= digits? 2 2
        let size : Int := hours * 60 + minutes
        if rest.isEmpty then some (some (if sign == '-' then -size else size)) else none
      else none
    | [] => none

def timeOfDay? (text : List Char) : Option (Nat × Nat × Nat × List Char × Option Int) := do
  let (hour, rest) ← digits? 1 2 text
  let (minute, rest) ← mark? ':' rest >>= digits? 2 2
  let (second, rest) ← mark? ':' rest >>= digits? 2 2
  let (fraction, rest) := match rest with
    | '.' :: more => (more.takeWhile Char.isDigit, more.dropWhile Char.isDigit)
    | _ => ([], rest)
  return (hour, minute, second, fraction, ← zone? rest)

/-- What separates a date from a time of day: a letter, or blanks. -/
def dropSeparator? (text : List Char) : Option (List Char) :=
  match text with
  | c :: rest =>
    if c == 'T' || c == 't' then some rest
    else if isBlankOrTab c then some (rest.dropWhile isBlankOrTab)
    else none
  | [] => none

def stamp? (text : List Char) : Option Stamp := do
  let (year, rest) ← digits? 4 4 text
  let (month, rest) ← mark? '-' rest >>= digits? 1 2
  let (day, rest) ← mark? '-' rest >>= digits? 1 2
  if rest.isEmpty then return ⟨year, month, day, none⟩
  else
    let time ← dropSeparator? rest >>= timeOfDay?
    return ⟨year, month, day, some time⟩

/-- A date alone is recognised only with two digits for month and day. -/
def isTimestamp (text : List Char) : Bool :=
  match stamp? text with
  | some stamp => stamp.time.isSome || text.length == 10
  | none => false

/-- A line feed at the end of a text does not count when its type is found. -/
def dropLineEnd (text : List Char) : List Char :=
  if 1 < text.length && text.getLast? == some '\n' then text.dropLast else text

/-- The type of a plain scalar. -/
def Tag.ofPlain (text : String) : Tag :=
  let chars := dropLineEnd text.toList
  let word := String.ofList chars
  if isTruth word then .bool
  else if isFloat chars then .float
  else if isInt chars then .int
  else if word == "<<" then .merge
  else if isNull word then .null
  else if isTimestamp chars then .timestamp
  else if word == "=" then .value
  else if ["!", "&", "*"].contains word then .other
  else .str

end PostfixCalculator.Document.Yaml
