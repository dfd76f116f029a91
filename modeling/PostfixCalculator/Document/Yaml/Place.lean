/-!
# Places in a YAML text

A place is the rest of the text with the number of characters, lines and columns before it.
Five characters break lines; a carriage return and a line feed are one break.
-/
namespace PostfixCalculator.Document.Yaml

def isBreak (c : Char) : Bool :=
  c == '\n' || c == '\r' || c == '\u0085' || c == '\u2028' || c == '\u2029'

def isBlank (c : Char) : Bool := c == ' ' || c == '\t'

def isGap (c : Char) : Bool := isBlank c || isBreak c

/-- The characters of names. -/
def isNameChar (c : Char) : Bool := c.isAlphanum || c == '_' || c == '-'

/-- Whether the text is at its end, or a blank or a line break follows. -/
def endsWord : List Char → Bool
  | [] => true
  | c :: _ => isGap c

structure Place where
  rest : List Char
  index : Nat
  line : Nat
  column : Nat

namespace Place

def start (text : List Char) : Place := ⟨text, 0, 0, 0⟩

/-- Moves over characters of one line. -/
def skip (p : Place) (count : Nat) : Place :=
  ⟨p.rest.drop count, p.index + count, p.line, p.column + count⟩

/-- The characters of a line that satisfy a predicate, and the place after them. -/
def span (p : Place) (test : Char → Bool) : List Char × Place :=
  let found := p.rest.takeWhile test
  (found, p.skip found.length)

def skipWhile (p : Place) (test : Char → Bool) : Place := (p.span test).2

/-- The line break at the front, in its normal form, and the place after it. -/
def lineBreak? (p : Place) : Option (Char × Place) :=
  match p.rest with
  | '\r' :: '\n' :: rest => some ('\n', ⟨rest, p.index + 2, p.line + 1, 0⟩)
  | c :: rest =>
    if isBreak c then
      let normal := if c == '\u2028' || c == '\u2029' then c else '\n'
      some (normal, ⟨rest, p.index + 1, p.line + 1, 0⟩)
    else none
  | [] => none

/-- Whether one of two marks of a document's bounds stands here. -/
def hasMark (p : Place) (mark : Char) : Bool :=
  p.column == 0 && p.rest.take 3 == [mark, mark, mark] && endsWord (p.rest.drop 3)

def atBoundary (p : Place) : Bool := p.hasMark '-' || p.hasMark '.'

def skipComment (p : Place) : Place :=
  match p.rest with
  | '#' :: _ => p.skipWhile fun c => !isBreak c
  | _ => p

/-- Skips blanks, a comment and a line break; nothing else may stand on the line. -/
def finishLine? (p : Place) : Option Place :=
  let p := (p.skipWhile isBlank).skipComment
  match p.lineBreak? with
  | some (_, next) => some next
  | none => if p.rest.isEmpty then some p else none

end Place

/-- The blanks and line breaks between two words of a scalar. The first break is apart from
the others; blanks count only if there is no break. -/
structure Gap where
  blanks : List Char := []
  first : List Char := []
  others : List Char := []
  broken : Bool := false

namespace Gap

/-- A single line break becomes a space, and more of them lose the first. -/
def text (g : Gap) : List Char :=
  if !g.broken then g.blanks
  else if g.first == ['\n'] then if g.others.isEmpty then [' '] else g.others
  else g.first ++ g.others

/-- Moves over blanks and line breaks. After a break a tab must not stand left of `indent`. -/
def readFrom (indent : Nat) (gap : Gap) : Nat → Place → Option (Gap × Place)
  | 0, _ => none
  | fuel + 1, p =>
    match p.lineBreak? with
    | some (c, next) =>
      if gap.broken then readFrom indent { gap with others := gap.others ++ [c] } fuel next
      else readFrom indent ⟨[], [c], [], true⟩ fuel next
    | none =>
      match p.rest with
      | c :: _ =>
        if !isBlank c then some (gap, p)
        else if !gap.broken then
          readFrom indent { gap with blanks := gap.blanks ++ [c] } fuel (p.skip 1)
        else if c == '\t' && p.column < indent then none
        else readFrom indent gap fuel (p.skip 1)
      | [] => some (gap, p)

def read (indent : Nat) (gap : Gap) (p : Place) : Option (Gap × Place) :=
  readFrom indent gap (p.rest.length + 1) p

end Gap

end PostfixCalculator.Document.Yaml
