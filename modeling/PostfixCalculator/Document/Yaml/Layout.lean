import PostfixCalculator.Document.Yaml.Token

/-!
# The tokens of a YAML text

Outside brackets, indentation opens and closes collections. A node that could be a key is
remembered until a colon makes it one or it cannot be one any more; its token for the key,
and the one that opens its mapping, are put in before it.
-/
namespace PostfixCalculator.Document.Yaml

/-- A node that could be a key: the number of tokens before it and its place. -/
structure KeyMark where
  token : Nat
  index : Nat
  line : Nat
  column : Nat
  required : Bool

/-- Tokens so far in reverse, open indentations, and the possible key at every level of
brackets, innermost first. -/
structure Layout where
  place : Place
  tokens : List Token := []
  count : Nat := 0
  indent : Int := -1
  indents : List Int := []
  keyAllowed : Bool := true
  key : Option KeyMark := none
  outerKeys : List (Option KeyMark) := []

namespace Layout

def inFlow (s : Layout) : Bool := !s.outerKeys.isEmpty

def column (s : Layout) : Nat := s.place.column

def push (s : Layout) (t : Token) : Layout :=
  { s with tokens := t :: s.tokens, count := s.count + 1 }

/-- Puts a token in before the one with a given number. -/
def insert (s : Layout) (number : Nat) (t : Token) : Layout :=
  let later := s.count - number
  { s with tokens := s.tokens.take later ++ t :: s.tokens.drop later, count := s.count + 1 }

/-- Skips blanks, comments and line breaks. Where a key may start, a tab is no blank. -/
def skipGaps (s : Layout) : Nat → Layout
  | 0 => s
  | fuel + 1 =>
    let p := s.place
    let p := if p.column == 0 && p.rest.head? == some '\ufeff' then p.skip 1 else p
    let tabs := s.inFlow || !s.keyAllowed
    let p := (p.skipWhile fun c => c == ' ' || (tabs && c == '\t')).skipComment
    match p.lineBreak? with
    | some (_, next) =>
      skipGaps { s with place := next, keyAllowed := s.keyAllowed || !s.inFlow } fuel
    | none => { s with place := p }

/-- Whether a possible key is over: it must be on one line and short. -/
def isStale (p : Place) (k : KeyMark) : Bool := k.line < p.line || k.index + 1024 < p.index

/-- Forgets a key that is over, unless it is required. -/
def freshKey? (p : Place) (key : Option KeyMark) : Option (Option KeyMark) :=
  match key with
  | some k => if isStale p k then if k.required then none else some none else some key
  | none => some none

def dropStaleKeys? (s : Layout) : Option Layout := do
  let key ← freshKey? s.place s.key
  let outer ← s.outerKeys.mapM (freshKey? s.place)
  return { s with key := key, outerKeys := outer }

/-- Forgets the possible key at this level, unless it is required. -/
def forgetKey? (s : Layout) : Option Layout :=
  match s.key with
  | some k => if k.required then none else some { s with key := none }
  | none => some s

/-- Remembers that the next token could start a key. -/
def rememberKey? (s : Layout) : Option Layout :=
  if !s.keyAllowed then some s
  else
    let p := s.place
    let required := !s.inFlow && s.indent == p.column
    s.forgetKey?.map fun s => { s with key := some ⟨s.count, p.index, p.line, p.column, required⟩ }

/-- Opens a block collection at a column, before the token with a given number. -/
def openBlock (s : Layout) (column number : Nat) (t : Token) : Layout :=
  if !s.inFlow && s.indent < column then
    { s.insert number t with indent := column, indents := s.indent :: s.indents }
  else s

def closeBlocksFrom (s : Layout) (column : Int) : List Int → Layout
  | [] => { s with indents := [] }
  | outer :: rest =>
    if column < s.indent then
      closeBlocksFrom { s.push .blockEnd with indent := outer } column rest
    else { s with indents := outer :: rest }

/-- Closes the block collections that are indented more than a column. -/
def closeBlocks (s : Layout) (column : Int) : Layout :=
  if s.inFlow then s else s.closeBlocksFrom column s.indents

/-- Takes a mark of some characters. -/
def take (s : Layout) (length : Nat) (t : Token) : Layout :=
  { s.push t with place := s.place.skip length }

def mark? (s : Layout) (t : Token) (keyAllowed : Bool) : Option Layout :=
  s.forgetKey?.map fun s => { s.take 1 t with keyAllowed := keyAllowed }

/-- Closes all blocks, as at the bounds of a document. -/
def closeAll? (s : Layout) : Option Layout :=
  (s.closeBlocks (-1)).forgetKey?.map fun s => { s with keyAllowed := false }

def streamEnd? (s : Layout) : Option Layout :=
  s.closeAll?.map fun s => s.push .streamEnd

def directive? (s : Layout) : Option Layout := do
  let s ← s.closeAll?
  let (token, p) ← Yaml.directive? s.place
  return { s.push token with place := p }

def boundary? (s : Layout) (t : Token) : Option Layout := s.closeAll?.map fun s => s.take 3 t

def openFlow? (s : Layout) (t : Token) : Option Layout := do
  let s ← s.rememberKey?
  let s := { s with outerKeys := s.key :: s.outerKeys, key := none, keyAllowed := true }
  return s.take 1 t

def closeFlow? (s : Layout) (t : Token) : Option Layout := do
  let s ← s.forgetKey?
  let s := match s.outerKeys with
    | outer :: rest => { s with key := outer, outerKeys := rest }
    | [] => s
  return { s.take 1 t with keyAllowed := false }

def blockEntry? (s : Layout) : Option Layout :=
  if s.inFlow then s.mark? .blockEntry true
  else if s.keyAllowed then
    (s.openBlock s.column s.count .blockSequence).mark? .blockEntry true
  else none

def explicitKey? (s : Layout) : Option Layout :=
  if s.inFlow then s.mark? .key false
  else if s.keyAllowed then (s.openBlock s.column s.count .blockMapping).mark? .key true
  else none

/-- A colon turns the possible key into a key; otherwise it follows an explicit key. -/
def colon? (s : Layout) : Option Layout :=
  match s.key with
  | some k =>
    let s := (s.insert k.token .key).openBlock k.column k.token .blockMapping
    some { s.take 1 .value with key := none, keyAllowed := false }
  | none =>
    if s.inFlow then some { s.take 1 .value with keyAllowed := false }
    else if s.keyAllowed then
      some ((s.openBlock s.column s.count .blockMapping).take 1 .value)
    else none

/-- Takes a name or scalar that could start a key. -/
def node? (s : Layout) (read : Place → Option (Token × Place)) : Option Layout := do
  let s ← s.rememberKey?
  let (token, p) ← read s.place
  return { s.push token with place := p, keyAllowed := false }

def quoted? (s : Layout) (mark : Char) : Option Layout :=
  s.node? fun p => (Quoted.read? mark p).map fun (text, p) =>
    (.scalar (String.ofList text) false, p)

/-- After a plain scalar on several lines a key may start again. -/
def plain? (s : Layout) : Option Layout := do
  let s ← s.rememberKey?
  let (text, broken, p) ← Plain.read? s.inFlow (s.indent + 1).toNat s.place
  return { s.push (.scalar (String.ofList text) true) with place := p, keyAllowed := broken }

def block? (s : Layout) (folded : Bool) : Option Layout := do
  let s ← s.forgetKey?
  let (text, p) ← Block.read? folded s.indent s.place
  return { s.push (.scalar (String.ofList text) false) with place := p, keyAllowed := true }

/-- The characters that start no plain scalar. -/
def isMark (c : Char) : Bool :=
  ['-', '?', ':', ',', '[', ']', '\x7b', '\x7d', '#', '&', '*', '!', '|', '>', '\x27', '\x22', '%',
    '@', '\x60'].contains c

def startsPlain (flow : Bool) (c : Char) (rest : List Char) : Bool :=
  !(isGap c || isMark c) || (c == '-' && !((rest.head?.map isBlank).getD false)) ||
    (!flow && (c == '?' || c == ':') && !endsWord rest)

/-- Takes the token that starts with a character. -/
def token? (s : Layout) (c : Char) (rest : List Char) : Option Layout :=
  if s.column == 0 && c == '%' then s.directive?
  else if s.place.hasMark '-' then s.boundary? .documentStart
  else if s.place.hasMark '.' then s.boundary? .documentEnd
  else if c == '[' then s.openFlow? .flowSequence
  else if c == '\x7b' then s.openFlow? .flowMapping
  else if c == ']' then s.closeFlow? .flowSequenceEnd
  else if c == '\x7d' then s.closeFlow? .flowMappingEnd
  else if c == ',' then s.mark? .flowEntry true
  else if c == '-' && endsWord rest then s.blockEntry?
  else if c == '?' && (s.inFlow || endsWord rest) then s.explicitKey?
  else if c == ':' && (s.inFlow || endsWord rest) then s.colon?
  else if c == '*' then s.node? fun p => (anchorName? p).map fun (name, p) => (.alias name, p)
  else if c == '&' then s.node? fun p => (anchorName? p).map fun (name, p) => (.anchor name, p)
  else if c == '!' then
    let flow := s.inFlow
    s.node? fun p => (tagName? flow p).map fun (name, p) => (.tag name, p)
  else if c == '|' && !s.inFlow then s.block? false
  else if c == '>' && !s.inFlow then s.block? true
  else if c == '\x27' || c == '\x22' then s.quoted? c
  else if startsPlain s.inFlow c rest then s.plain?
  else none

/-- Takes the next token; nothing remains after the end of the stream. -/
def next? (s : Layout) : Option Layout := do
  let s := s.skipGaps (s.place.rest.length + 1)
  let s ← s.dropStaleKeys?
  let s := s.closeBlocks s.column
  match s.place.rest with
  | [] => s.streamEnd?
  | c :: rest => s.token? c rest

/-- The tokens that cannot be changed any more by a colon. -/
def settled (s : Layout) : List Token :=
  let live := (s.key :: s.outerKeys).filterMap fun key => key.filter fun k => !isStale s.place k
  let count := live.foldl (fun count k => min count k.token) s.count
  s.tokens.reverse.take count

def tokensFrom (s : Layout) : Nat → List Token
  | 0 => s.settled
  | fuel + 1 =>
    match s.next? with
    | none => s.settled
    | some after =>
      if after.tokens.head? == some .streamEnd then after.tokens.reverse
      else after.tokensFrom fuel

end Layout

/-- The tokens of a text. The end of the stream is among them unless the text has no
further tokens because it is malformed. -/
def tokens (text : List Char) : List Token :=
  Layout.tokensFrom { place := .start text } (text.length + 1)

end PostfixCalculator.Document.Yaml
