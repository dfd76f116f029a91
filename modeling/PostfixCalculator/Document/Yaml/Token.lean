import PostfixCalculator.Document.Yaml.Scalar
import PostfixCalculator.Text.Utf8

/-!
# Tokens of a YAML text

The marks, names and scalars that a YAML text consists of, and the readers of the names.
-/
namespace PostfixCalculator.Document.Yaml

/-- A name of a type as written: a handle and what follows it. -/
structure TagName where
  handle : String
  suffix : String
  deriving DecidableEq, Repr

inductive Token where
  | version (major minor : Nat)
  | tagHandle (handle start : String)
  | documentStart
  | documentEnd
  | blockSequence
  | blockMapping
  | blockEnd
  | flowSequence
  | flowSequenceEnd
  | flowMapping
  | flowMappingEnd
  | blockEntry
  | flowEntry
  | key
  | value
  | alias (name : String)
  | anchor (name : String)
  | tag (name : TagName)
  | scalar (text : String) (plain : Bool)
  | streamEnd
  deriving DecidableEq, Repr

/-- The name of an anchor. A gap or a mark that no name contains must follow it. -/
def anchorName? (p : Place) : Option (String × Place) :=
  let (name, p) := (p.skip 1).span isNameChar
  let ended := endsWord p.rest ||
    (p.rest.head?.map ['?', ':', ',', ']', '\x7d', '%', '@', '\x60'].contains).getD false
  if !name.isEmpty && ended then some (String.ofList name, p) else none

/-- The characters of names of types besides those of names; some only between angle
brackets and in directives. -/
def isUriChar (verbatim : Bool) (c : Char) : Bool :=
  isNameChar c || [';', '/', '?', ':', '@', '&', '=', '+', '$', '.', '%', '!', '~', '*', '\x27',
    '(', ')'].contains c || (verbatim && [',', '[', ']'].contains c)

/-- The byte of an escape with a percent sign. -/
def escapedByte? : List Char → Option (UInt8 × List Char)
  | '%' :: a :: b :: rest =>
    if Text.isHexDigit a && Text.isHexDigit b then some (.ofNat (Text.ofDigits 16 [a, b]), rest)
    else none
  | _ => none

def escapedBytes? : Nat → List Char → Option (List UInt8 × List Char)
  | 0, text => some ([], text)
  | count + 1, text => do
    let (b, rest) ← escapedByte? text
    let (more, rest) ← escapedBytes? count rest
    return (b :: more, rest)

/-- The character whose encoded bytes are escaped at the front of a text. -/
def escapedChar? (text : List Char) : Option (Char × List Char) := do
  let (first, _) ← escapedByte? text
  let (count, _, _) ← Text.followers first
  let (bytes, rest) ← escapedBytes? (count + 1) text
  match (Text.decode bytes).toOption with
  | some [c] => some (c, rest)
  | _ => none

/-- Replaces escapes by their characters. -/
def unescape? : Nat → List Char → Option (List Char)
  | 0, text => some text
  | _, [] => some []
  | fuel + 1, c :: rest =>
    if c == '%' then do
      let (char, rest) ← escapedChar? (c :: rest)
      return char :: (← unescape? fuel rest)
    else (unescape? fuel rest).map (c :: ·)

def uri? (verbatim : Bool) (p : Place) : Option (List Char × Place) := do
  let (text, p) := p.span (isUriChar verbatim)
  return (← unescape? text.length text, p)

/-- A handle: an exclamation mark, a name and perhaps another exclamation mark. -/
def handle? (p : Place) : Option (List Char × Place) :=
  match p.rest with
  | '!' :: _ =>
    let (name, after) := (p.skip 1).span isNameChar
    if after.rest.head? == some '!' then some ('!' :: name ++ ['!'], after.skip 1)
    else some ('!' :: name, after)
  | _ => none

def verbatimTag? (p : Place) : Option (TagName × Place) := do
  let (suffix, p) ← uri? true (p.skip 2)
  if suffix.isEmpty || p.rest.head? != some '>' then none
  else some (⟨"", String.ofList suffix⟩, p.skip 1)

/-- A tag by a handle and a suffix; an exclamation mark alone is a suffix without handle. -/
def shortTag? (p : Place) : Option (TagName × Place) := do
  let (handle, p) ← handle? p
  let (suffix, p) ← uri? false p
  if 1 < handle.length && handle.getLast? == some '!' then
    if suffix.isEmpty then none
    else some (⟨String.ofList handle, String.ofList suffix⟩, p)
  else
    let suffix := handle.drop 1 ++ suffix
    if suffix.isEmpty then some (⟨"", "!"⟩, p) else some (⟨"!", String.ofList suffix⟩, p)

/-- A tag must be followed by a gap, or by a comma inside brackets. -/
def tagName? (flow : Bool) (p : Place) : Option (TagName × Place) := do
  let verbatim := (p.rest.drop 1).head? == some '<'
  let (name, p) ← if verbatim then verbatimTag? p else shortTag? p
  if (flow && p.rest.head? == some ',') || endsWord p.rest then some (name, p) else none

/-- A version number has at most nine digits. -/
def versionNumber? (p : Place) : Option (Nat × Place) :=
  let (digits, p) := p.span Char.isDigit
  if digits.isEmpty || 9 < digits.length then none else some (Text.ofDigits 10 digits, p)

def versionDirective? (p : Place) : Option (Token × Place) := do
  let (major, p) ← versionNumber? (p.skipWhile isBlank)
  if p.rest.head? != some '.' then none
  else
    let (minor, p) ← versionNumber? (p.skip 1)
    return (.version major minor, p)

def tagDirective? (p : Place) : Option (Token × Place) := do
  let (handle, p) ← handle? (p.skipWhile isBlank)
  let complete := handle == ['!'] || (1 < handle.length && handle.getLast? == some '!')
  if !complete || !((p.rest.head?.map isBlank).getD false) then none
  else
    let (start, p) ← uri? true (p.skipWhile isBlank)
    if start.isEmpty || !endsWord p.rest then none
    else some (.tagHandle (String.ofList handle) (String.ofList start), p)

/-- A directive takes its line up. There are two kinds of directives. -/
def directive? (p : Place) : Option (Token × Place) := do
  let (name, p) := (p.skip 1).span isNameChar
  if name.isEmpty || !endsWord p.rest then none
  else
    let (token, p) ←
      if name == ['Y', 'A', 'M', 'L'] then versionDirective? p
      else if name == ['T', 'A', 'G'] then tagDirective? p
      else none
    return (token, ← p.finishLine?)

end PostfixCalculator.Document.Yaml
