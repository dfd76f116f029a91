import PostfixCalculator.Document.Yaml.Layout
import PostfixCalculator.Document.Yaml.Tag

/-!
# The nodes of a YAML document

The nodes of a document are numbered, and collections hold the numbers of their parts, so
that a node with an anchor can have several places, even inside itself.
-/
namespace PostfixCalculator.Document.Yaml

inductive Content where
  | scalar (text : String)
  | sequence (items : List Nat)
  | mapping (entries : List (Nat × Nat))
  deriving DecidableEq, Repr

structure Node where
  tag : Tag
  content : Content
  deriving DecidableEq, Repr

/-- The nodes of a document by number. -/
abbrev Nodes := Array Node

/-- What remains to be read, the nodes so far, and their anchors; and the handles of tags
that are known in this document. -/
structure Composer where
  tokens : List Token
  nodes : Nodes := #[]
  anchors : List (String × Nat) := []
  handles : List (String × String) := []

namespace Composer

def peek? (c : Composer) : Option Token := c.tokens.head?

def next (c : Composer) : Composer := { c with tokens := c.tokens.drop 1 }

def add (c : Composer) (node : Node) : Nat × Composer :=
  (c.nodes.size, { c with nodes := c.nodes.push node })

def set (c : Composer) (number : Nat) (node : Node) : Composer :=
  { c with nodes := c.nodes.setIfInBounds number node }

/-- A node for what was left out. -/
def addEmpty (c : Composer) : Nat × Composer := c.add ⟨.null, .scalar ""⟩

/-- The full name of a tag, if its handle is known. -/
def fullName? (c : Composer) (name : TagName) : Option String :=
  if name.handle.isEmpty then some name.suffix
  else (c.handles.lookup name.handle).map (· ++ name.suffix)

/-- The properties in front of a node: an anchor and a tag, in either order. -/
structure Properties where
  anchor : Option String := none
  tag : Option TagName := none

def properties (c : Composer) : Properties × Composer :=
  match c.tokens with
  | .anchor a :: .tag t :: rest => (⟨some a, some t⟩, { c with tokens := rest })
  | .tag t :: .anchor a :: rest => (⟨some a, some t⟩, { c with tokens := rest })
  | .anchor a :: rest => (⟨some a, none⟩, { c with tokens := rest })
  | .tag t :: rest => (⟨none, some t⟩, { c with tokens := rest })
  | _ => ({}, c)

/-- Gives a new node its anchor, which no node of the document has yet. -/
def addAnchored? (c : Composer) (anchor : Option String) (node : Node) : Option (Nat × Composer) :=
  let (number, after) := c.add node
  match anchor with
  | none => some (number, after)
  | some name =>
    if (c.anchors.lookup name).isSome then none
    else some (number, { after with anchors := (name, number) :: after.anchors })

/-- The type of a scalar: an exclamation mark as a tag makes it a plain one. -/
def scalarTag (tag : Option String) (text : String) (plain : Bool) : Tag :=
  match tag with
  | none => if plain then .ofPlain text else .str
  | some name => if name == "!" then .ofPlain text else .ofName name

/-- The type of a node that has properties and no content. -/
def emptyTag : Option String → Tag
  | none => .null
  | some name => if name == "!" then .str else .ofName name

def collectionTag (tag : Option String) (standard : Tag) : Tag :=
  match tag with
  | none => standard
  | some name => if name == "!" then standard else .ofName name

/-- A collection that is being read: its number and its type. -/
structure Slot where
  number : Nat
  tag : Tag

/-- Starts a collection, which is empty until its parts are read. -/
def start? (c : Composer) (anchor : Option String) (tag : Tag) (content : Content) :
    Option (Slot × Composer) := do
  let (number, c) ← c.addAnchored? anchor ⟨tag, content⟩
  return (⟨number, tag⟩, c)

def startSequence? (c : Composer) (anchor tag : Option String) : Option (Slot × Composer) :=
  c.start? anchor (collectionTag tag .seq) (.sequence [])

def startMapping? (c : Composer) (anchor tag : Option String) : Option (Slot × Composer) :=
  c.start? anchor (collectionTag tag .map) (.mapping [])

def endSequence (c : Composer) (slot : Slot) (items : List Nat) : Nat × Composer :=
  (slot.number, c.set slot.number ⟨slot.tag, .sequence items.reverse⟩)

def endMapping (c : Composer) (slot : Slot) (entries : List (Nat × Nat)) : Nat × Composer :=
  (slot.number, c.set slot.number ⟨slot.tag, .mapping entries.reverse⟩)

/-- Where a node stands decides which forms it can have: `block` collections may be opened,
and a sequence may lack an indentation of its own. -/
inductive Context where
  | flow
  | block
  | mappingPart
  deriving DecidableEq, Repr

/-- Whether a value or key was left out before a token. -/
def isLeftOut (ends : List Token) (c : Composer) : Bool :=
  match c.peek? with
  | some t => ends.contains t
  | none => false

mutual

def node? (context : Context) : Nat → Composer → Option (Nat × Composer)
  | 0, _ => none
  | fuel + 1, c =>
    match c.tokens with
    | .alias name :: rest => do
      let number ← c.anchors.lookup name
      return (number, { c with tokens := rest })
    | _ => do
      let (found, c) := c.properties
      let tag ← match found.tag with
        | some name => (c.fullName? name).map some
        | none => some none
      let bare := found.anchor.isNone && found.tag.isNone
      match ← c.peek?, context with
      | .blockEntry, .mappingPart =>
        let (slot, c) ← c.startSequence? found.anchor tag
        looseItems? slot [] fuel c
      | .scalar text plain, _ =>
        c.next.addAnchored? found.anchor ⟨scalarTag tag text plain, .scalar text⟩
      | .flowSequence, _ =>
        let (slot, c) ← c.next.startSequence? found.anchor tag
        flowItems? slot true [] fuel c
      | .flowMapping, _ =>
        let (slot, c) ← c.next.startMapping? found.anchor tag
        flowEntries? slot true [] fuel c
      | other, _ =>
        if context != .flow && other == .blockSequence then
          let (slot, c) ← c.next.startSequence? found.anchor tag
          blockItems? slot [] fuel c
        else if context != .flow && other == .blockMapping then
          let (slot, c) ← c.next.startMapping? found.anchor tag
          blockEntries? slot [] fuel c
        else if bare then none
        else c.addAnchored? found.anchor ⟨emptyTag tag, .scalar ""⟩

/-- A node, or an empty one before one of the tokens that can end it. -/
def nodeUnless? (context : Context) (ends : List Token) :
    Nat → Composer → Option (Nat × Composer)
  | 0, _ => none
  | fuel + 1, c =>
    if c.tokens.isEmpty then none
    else if isLeftOut ends c then some c.addEmpty
    else node? context fuel c

/-- The items of an indented sequence; `items` holds the earlier ones in reverse. -/
def blockItems? (slot : Slot) (items : List Nat) :
    Nat → Composer → Option (Nat × Composer)
  | 0, _ => none
  | fuel + 1, c =>
    match c.tokens with
    | .blockEntry :: rest => do
      let (item, c) ← nodeUnless? .block [.blockEntry, .blockEnd] fuel { c with tokens := rest }
      blockItems? slot (item :: items) fuel c
    | .blockEnd :: _ => some (c.next.endSequence slot items)
    | _ => none

/-- The items of a sequence without an indentation of its own. -/
def looseItems? (slot : Slot) (items : List Nat) :
    Nat → Composer → Option (Nat × Composer)
  | 0, _ => none
  | fuel + 1, c =>
    match c.tokens with
    | .blockEntry :: rest => do
      let (item, c) ←
        nodeUnless? .block [.blockEntry, .key, .value, .blockEnd] fuel { c with tokens := rest }
      looseItems? slot (item :: items) fuel c
    | [] => none
    | _ => some (c.endSequence slot items)

/-- The value after a key of an indented mapping. -/
def blockValue? : Nat → Composer → Option (Nat × Composer)
  | 0, _ => none
  | fuel + 1, c =>
    match c.tokens with
    | .value :: rest =>
      nodeUnless? .mappingPart [.key, .value, .blockEnd] fuel { c with tokens := rest }
    | [] => none
    | _ => some c.addEmpty

def blockEntries? (slot : Slot) (entries : List (Nat × Nat)) :
    Nat → Composer → Option (Nat × Composer)
  | 0, _ => none
  | fuel + 1, c =>
    match c.tokens with
    | .key :: rest => do
      let (key, c) ←
        nodeUnless? .mappingPart [.key, .value, .blockEnd] fuel { c with tokens := rest }
      let (v, c) ← blockValue? fuel c
      blockEntries? slot ((key, v) :: entries) fuel c
    | .blockEnd :: _ => some (c.next.endMapping slot entries)
    | _ => none

/-- The value after a key inside brackets. -/
def flowValue? (ends : List Token) : Nat → Composer → Option (Nat × Composer)
  | 0, _ => none
  | fuel + 1, c =>
    match c.tokens with
    | .value :: rest => nodeUnless? .flow ends fuel { c with tokens := rest }
    | [] => none
    | _ => some c.addEmpty

/-- A single entry in a sequence, after the token for its key. A key that is left out takes
the next token with it. -/
def singleEntry? : Nat → Composer → Option (Nat × Composer)
  | 0, _ => none
  | fuel + 1, c =>
    if c.tokens.isEmpty then none
    else do
      let (number, c) := c.add ⟨.map, .mapping []⟩
      let (key, c) ←
        if isLeftOut [.value, .flowEntry, .flowSequenceEnd] c then some c.next.addEmpty
        else node? .flow fuel c
      let (v, c) ← flowValue? [.flowEntry, .flowSequenceEnd] fuel c
      return (number, c.set number ⟨.map, .mapping [(key, v)]⟩)

/-- The items of a sequence in brackets, with commas between them. -/
def flowItems? (slot : Slot) (first : Bool) (items : List Nat) :
    Nat → Composer → Option (Nat × Composer)
  | 0, _ => none
  | fuel + 1, c =>
    let finish (c : Composer) := some (c.next.endSequence slot items)
    if c.peek? == some .flowSequenceEnd then finish c
    else if !first && c.peek? != some .flowEntry then none
    else
      let c := if first then c else c.next
      match c.tokens with
      | .flowSequenceEnd :: _ => finish c
      | .key :: rest => do
        let (item, c) ← singleEntry? fuel { c with tokens := rest }
        flowItems? slot false (item :: items) fuel c
      | _ => do
        let (item, c) ← node? .flow fuel c
        flowItems? slot false (item :: items) fuel c

/-- The entries of a mapping in braces, with commas between them. -/
def flowEntries? (slot : Slot) (first : Bool) (entries : List (Nat × Nat)) :
    Nat → Composer → Option (Nat × Composer)
  | 0, _ => none
  | fuel + 1, c =>
    let finish (c : Composer) := some (c.next.endMapping slot entries)
    if c.peek? == some .flowMappingEnd then finish c
    else if !first && c.peek? != some .flowEntry then none
    else
      let c := if first then c else c.next
      match c.tokens with
      | .flowMappingEnd :: _ => finish c
      | .key :: rest => do
        let ends := [.flowEntry, .flowMappingEnd]
        let (key, c) ← nodeUnless? .flow (.value :: ends) fuel { c with tokens := rest }
        let (v, c) ← flowValue? ends fuel c
        flowEntries? slot false ((key, v) :: entries) fuel c
      | _ => do
        let (key, c) ← node? .flow fuel c
        let (v, c) := c.addEmpty
        flowEntries? slot false ((key, v) :: entries) fuel c

end

end Composer

/-- A document: its nodes and the number of the outermost one. -/
structure Graph where
  nodes : Nodes
  root : Nat

/-- Handles of tags that every document knows. -/
def standardHandles : List (String × String) := [("!", "!"), ("!!", Tag.corePrefix)]

/-- Reads directives: at most one version, and every handle only once. -/
def directives? (versioned : Bool) (handles : List (String × String)) :
    List Token → Option (List (String × String) × List Token)
  | .version major minor :: rest =>
    if versioned || major != 1 || (minor != 1 && minor != 2) then none
    else directives? true handles rest
  | .tagHandle handle start :: rest =>
    if (handles.lookup handle).isSome then none
    else directives? versioned ((handle, start) :: handles) rest
  | rest => some (handles, rest)

/-- Whether a token cannot be the first one of a document's content. -/
def isBeforeContent : Token → Bool
  | .version .. | .tagHandle .. | .documentStart | .documentEnd | .streamEnd => true
  | _ => false

/-- Reads the content of a document, which may be left out after a mark of its start, and
the mark of its end. Another token must follow. -/
def content? (marked : Bool) (handles : List (String × String)) (tokens : List Token) :
    Option (Graph × List Token) := do
  let c : Composer := { tokens, handles := handles ++ standardHandles }
  let left := marked && isBeforeContent (← c.peek?)
  let (root, c) ← if left then some c.addEmpty else c.node? .block (4 * tokens.length + 4)
  let graph : Graph := ⟨c.nodes, root⟩
  match c.tokens with
  | [] => none
  | .documentEnd :: rest => return (graph, rest)
  | rest => return (graph, rest)

/-- Reads the next document. The first one need not have a mark of its start. -/
def document? (first : Bool) (tokens : List Token) : Option (Option (Graph × List Token)) := do
  let tokens := if first then tokens else tokens.dropWhile (· == .documentEnd)
  let next ← tokens.head?
  if next == .streamEnd then return none
  else if first && (next == .documentEnd || !isBeforeContent next) then
    (content? false [] tokens).map some
  else
    let (handles, rest) ← directives? false [] tokens
    match rest with
    | .documentStart :: rest => (content? true handles rest).map some
    | _ => none

end PostfixCalculator.Document.Yaml
