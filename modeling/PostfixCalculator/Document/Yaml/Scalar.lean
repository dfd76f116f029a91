import PostfixCalculator.Document.Yaml.Place
import PostfixCalculator.Text.Digit

/-!
# Scalars of a YAML text

A scalar is a text in one of five styles: plain, in single or double quotes, or in an
indented block that keeps or folds its line breaks. Each reader starts at the first
character of its scalar and gives the text and the place after it, or nothing if the scalar
is malformed.
-/
namespace PostfixCalculator.Document.Yaml

namespace Plain

def isFlowMark (c : Char) : Bool := [',', '[', ']', '\x7b', '\x7d'].contains c

/-- The characters at the front up to a gap or a mark that ends a plain scalar. Inside
brackets a colon must not stand before a mark. -/
def word? (flow : Bool) : List Char → Option (List Char)
  | [] => some []
  | c :: rest =>
    if isGap c then some []
    else if c == ':' && flow && (rest.head?.map fun d => isFlowMark d || d == '?').getD false then
      none
    else if (c == ':' && endsWord rest) || (flow && isFlowMark c) then some []
    else (word? flow rest).map (c :: ·)

/-- Reads words and the gaps between them; `gap` is the gap before the next word. Also says
whether the scalar was followed by a line break. -/
def readFrom (flow : Bool) (indent : Nat) (text : List Char) (gap : Gap) :
    Nat → Place → Option (List Char × Bool × Place)
  | 0, _ => none
  | fuel + 1, p =>
    if p.atBoundary || p.rest.head? == some '#' then some (text, gap.broken, p)
    else do
      let word ← word? flow p.rest
      if word.isEmpty then return (text, gap.broken, p)
      let text := text ++ gap.text ++ word
      let p := p.skip word.length
      if !((p.rest.head?.map isGap).getD false) then return (text, false, p)
      let (gap, p) ← Gap.read indent {} p
      if !flow && p.column < indent then return (text, gap.broken, p)
      readFrom flow indent text gap fuel p

def read? (flow : Bool) (indent : Nat) (p : Place) : Option (List Char × Bool × Place) :=
  readFrom flow indent [] {} (p.rest.length + 1) p

end Plain

namespace Quoted

/-- What a letter after a backslash stands for. -/
def namedEscape? : Char → Option Char
  | '0' => some '\x00'
  | 'a' => some '\x07'
  | 'b' => some '\x08'
  | 't' => some '\t'
  | '\t' => some '\t'
  | 'n' => some '\n'
  | 'v' => some '\x0b'
  | 'f' => some '\x0c'
  | 'r' => some '\r'
  | 'e' => some '\x1b'
  | ' ' => some ' '
  | '\x22' => some '\x22'
  | '/' => some '/'
  | '\\' => some '\\'
  | 'N' => some '\u0085'
  | '_' => some '\u00a0'
  | 'L' => some '\u2028'
  | 'P' => some '\u2029'
  | _ => none

/-- How many digits of a code point follow a letter after a backslash. -/
def codeLength? : Char → Option Nat
  | 'x' => some 2
  | 'u' => some 4
  | 'U' => some 8
  | _ => none

/-- The character of the escape that follows a backslash, and how many characters it has. -/
def escape? : List Char → Option (Char × Nat)
  | [] => none
  | letter :: rest =>
    match codeLength? letter with
    | none => (namedEscape? letter).map fun c => (c, 1)
    | some length =>
      let digits := rest.take length
      let code := Text.ofDigits 16 digits
      if digits.length == length && digits.all Text.isHexDigit && code.isValidChar then
        some (Char.ofNat code, length + 1)
      else none

/-- Where a run of characters in quotes stopped. -/
inductive Stop where
  | closed
  | gap
  | escapedBreak

/-- Reads characters up to a gap, the closing quote or an escaped line break. The text is
in reverse. -/
def run (mark : Char) (text : List Char) : Nat → Place → Option (List Char × Stop × Place)
  | 0, _ => none
  | fuel + 1, p =>
    match p.rest with
    | [] => some (text, .gap, p)
    | c :: rest =>
      if isGap c then some (text, .gap, p)
      else if c == mark then
        if mark == '\x27' && rest.head? == some mark then run mark (mark :: text) fuel (p.skip 2)
        else some (text, .closed, p.skip 1)
      else if c == '\\' && mark == '\x22' then
        match (p.skip 1).lineBreak? with
        | some (_, next) => some (text, .escapedBreak, next)
        | none => do
          let (char, length) ← escape? rest
          run mark (char :: text) fuel (p.skip (1 + length))
      else run mark (c :: text) fuel (p.skip 1)

def readFrom (mark : Char) (text : List Char) : Nat → Place → Option (List Char × Place)
  | 0, _ => none
  | fuel + 1, p =>
    if p.atBoundary || p.rest.isEmpty then none
    else do
      let (text, stop, p) ← run mark text (p.rest.length + 1) p
      match stop with
      | .closed => return (text.reverse, p)
      | .gap =>
        let (gap, p) ← Gap.read 0 {} p
        readFrom mark (gap.text.reverse ++ text) fuel p
      | .escapedBreak =>
        let (gap, p) ← Gap.read 0 ⟨[], [], [], true⟩ p
        readFrom mark (gap.text.reverse ++ text) fuel p

def read? (mark : Char) (p : Place) : Option (List Char × Place) :=
  readFrom mark [] (p.rest.length + 1) (p.skip 1)

end Quoted

namespace Block

/-- What becomes of the line breaks at the end of a block. -/
inductive Chomp where
  | strip
  | clip
  | keep
  deriving DecidableEq, Repr

def chomp? : List Char → Option Chomp
  | '+' :: _ => some .keep
  | '-' :: _ => some .strip
  | _ => none

/-- The indentation that a digit states, if a digit is there; the digit 0 is refused. -/
def increment? : List Char → Option (Option Nat)
  | c :: _ => if c == '0' then none else if c.isDigit then some (some (c.toNat - 48)) else some none
  | [] => some none

/-- Reads a chomping mark and a digit for the indentation, in either order. -/
def header? (p : Place) : Option (Chomp × Option Nat × Place) :=
  match chomp? p.rest with
  | some chomp => do
    let p := p.skip 1
    let increment ← increment? p.rest
    let p := p.skip (if increment.isSome then 1 else 0)
    return (chomp, increment, ← p.finishLine?)
  | none => do
    let increment ← increment? p.rest
    let p := p.skip (if increment.isSome then 1 else 0)
    let chomp := if increment.isSome then chomp? p.rest else none
    let p := p.skip (if chomp.isSome then 1 else 0)
    return (chomp.getD .clip, increment, ← p.finishLine?)

/-- Whether more spaces at this place are indentation. -/
def isIndentation (indent : Option Nat) (p : Place) : Bool :=
  match indent with
  | some n => p.column < n
  | none => true

def skipIndentation (indent : Option Nat) (p : Place) : Place :=
  let spaces := (p.rest.takeWhile (· == ' ')).length
  match indent with
  | some n => p.skip (min spaces (n - p.column))
  | none => p.skip spaces

/-- Skips empty lines; gives their breaks and the widest indentation. A tab must not stand in
place of an indentation. -/
def emptyLinesFrom (indent : Option Nat) (widest : Nat) (breaks : List Char) :
    Nat → Place → Option (List Char × Nat × Place)
  | 0, _ => none
  | fuel + 1, p =>
    let p := skipIndentation indent p
    let widest := max widest p.column
    if isIndentation indent p && p.rest.head? == some '\t' then none
    else
      match p.lineBreak? with
      | some (c, next) => emptyLinesFrom indent widest (breaks ++ [c]) fuel next
      | none => some (breaks, widest, p)

def emptyLines (indent : Option Nat) (p : Place) : Option (List Char × Nat × Place) :=
  emptyLinesFrom indent 0 [] (p.rest.length + 1) p

/-- A block that was read up to a line: its text, the break after its last line, the breaks
of the empty lines after that, and whether the last line started with a blank. -/
structure Partial where
  text : List Char := []
  first : List Char := []
  others : List Char := []
  startedBlank : Bool := false

/-- What stands between the last line and the next. In a folded block a line break between
lines that start with no blank becomes a space. -/
def Partial.gap (folded : Bool) (b : Partial) (startsBlank : Bool) : List Char :=
  if folded && b.first == ['\n'] && !b.startedBlank && !startsBlank then
    if b.others.isEmpty then [' '] else b.others
  else b.first ++ b.others

def Partial.finish (b : Partial) : Chomp → List Char
  | .strip => b.text
  | .clip => b.text ++ b.first
  | .keep => b.text ++ b.first ++ b.others

def linesFrom (folded : Bool) (indent : Nat) (b : Partial) : Nat → Place → Option (Partial × Place)
  | 0, _ => none
  | fuel + 1, p =>
    if p.column == indent && !p.rest.isEmpty then do
      let startsBlank := (p.rest.head?.map isBlank).getD false
      let (line, p) := p.span fun c => !isBreak c
      let text := b.text ++ b.gap folded startsBlank ++ line
      let (first, p) := match p.lineBreak? with
        | some (c, next) => ([c], next)
        | none => ([], p)
      let (others, _, p) ← emptyLines (some indent) p
      linesFrom folded indent ⟨text, first, others, startsBlank⟩ fuel p
    else some (b, p)

/-- Reads a block; `parent` is the indentation around it, or -1 at the outermost level. A
stated indentation counts from there, and one not stated is the widest of the blank lines
in front, but more than `parent`. -/
def read? (folded : Bool) (parent : Int) (p : Place) : Option (List Char × Place) := do
  let (chomp, increment, p) ← header? (p.skip 1)
  let stated := increment.map fun n => if 0 ≤ parent then parent.toNat + n else n
  let (breaks, widest, p) ← emptyLines stated p
  let indent := stated.getD (max widest (max (parent + 1) 1).toNat)
  let (b, p) ← linesFrom folded indent { others := breaks } (p.rest.length + 1) p
  return (b.finish chomp, p)

end Block

end PostfixCalculator.Document.Yaml
