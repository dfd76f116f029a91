import PostfixCalculator.Document.Yaml.Meaning
import PostfixCalculator.Document.Yaml.Source

/-!
# The values of YAML documents

The nodes of a document are visited level by level, and the first fault on this way is the
fault of the document. On the way entries that are merged into a mapping are put in front of
its own entries. A document without fault has a value.
-/
namespace PostfixCalculator.Document.Yaml

namespace Tag

/-- Whether a node of this type is a collection, which is visited later. -/
def isCollection : Tag → Bool
  | seq | map | omap | pairs | set => true
  | _ => false

/-- Whether the values of this type can be changed, so that they cannot be keys. -/
def isMutable (t : Tag) : Bool := t.isCollection

end Tag

def contentAt? (nodes : Nodes) (number : Nat) : Option Content := nodes[number]?.map (·.content)

def tagAt (nodes : Nodes) (number : Nat) : Tag := (nodes[number]?.map (·.tag)).getD .other

/-- The text of a node as a scalar; a mapping has the text of its entry for `=`. -/
def scalarText? (nodes : Nodes) : Nat → Nat → Option String
  | 0, _ => none
  | fuel + 1, number =>
    match contentAt? nodes number with
    | some (.scalar text) => some text
    | some (.mapping entries) =>
      match entries.find? fun (key, _) => tagAt nodes key == .value with
      | some (_, value) => scalarText? nodes fuel value
      | none => none
    | _ => none

/-- The value of a node that is no collection. -/
def plainValue (nodes : Nodes) (number : Nat) : Except Fault Value :=
  match scalarText? nodes (nodes.size + 1) number with
  | some text => scalarValue (tagAt nodes number) text
  | none => .error .malformed

/-- The entries of a mapping. -/
def entriesAt? (nodes : Nodes) (number : Nat) : Option (List (Nat × Nat)) :=
  match contentAt? nodes number with
  | some (.mapping entries) => some entries
  | _ => none

def itemsAt? (nodes : Nodes) (number : Nat) : Option (List Nat) :=
  match contentAt? nodes number with
  | some (.sequence items) => some items
  | _ => none

def setEntries (nodes : Nodes) (number : Nat) (entries : List (Nat × Nat)) : Nodes :=
  nodes.modify number fun node => { node with content := .mapping entries }

/-- The mappings that a merge key names. -/
def mergedMappings? (nodes : Nodes) (value : Nat) : Option (List Nat) :=
  match contentAt? nodes value with
  | some (.mapping _) => some [value]
  | some (.sequence items) => some items
  | _ => none

mutual

/-- Merges into a mapping what its merge keys name, and makes its keys `=` texts. -/
def flatten? : Nat → Nodes → Nat → Option Nodes
  | 0, _, _ => none
  | fuel + 1, nodes, number => do
    let entries ← entriesAt? nodes number
    let (nodes, merged) ← flattenEntries? fuel nodes number [] [] entries
    let own ← entriesAt? nodes number
    return setEntries nodes number (merged ++ own)

/-- Goes through the entries of a mapping; `kept` holds those before in reverse, and `merged`
what was merged so far. -/
def flattenEntries? : Nat → Nodes → Nat → List (Nat × Nat) → List (Nat × Nat) →
    List (Nat × Nat) → Option (Nodes × List (Nat × Nat))
  | 0, _, _, _, _, _ => none
  | _, nodes, _, _, merged, [] => some (nodes, merged)
  | fuel + 1, nodes, number, kept, merged, (key, value) :: rest =>
    match tagAt nodes key with
    | .merge => do
      let nodes := setEntries nodes number (kept.reverse ++ rest)
      let sources ← mergedMappings? nodes value
      let (nodes, found) ← mergeAll? fuel nodes [] sources
      flattenEntries? fuel nodes number kept (merged ++ found) rest
    | .value =>
      let nodes := nodes.modify key fun node => { node with tag := .str }
      flattenEntries? fuel nodes number ((key, value) :: kept) merged rest
    | _ => flattenEntries? fuel nodes number ((key, value) :: kept) merged rest

/-- The entries of mappings that are merged; those of a later mapping come first. -/
def mergeAll? : Nat → Nodes → List (Nat × Nat) → List Nat →
    Option (Nodes × List (Nat × Nat))
  | 0, _, _, _ => none
  | _, nodes, found, [] => some (nodes, found)
  | fuel + 1, nodes, found, source :: rest => do
    let nodes ← flatten? fuel nodes source
    let entries ← entriesAt? nodes source
    mergeAll? fuel nodes (entries ++ found) rest

end

/-- The nodes on the way, those that were visited, and the collections that are still to be
gone through. -/
structure Visit where
  nodes : Nodes
  visited : List Nat := []
  waiting : List Nat := []

namespace Visit

/-- Visits a node for the first time. -/
def node (v : Visit) (number : Nat) : Except Fault Visit :=
  if v.visited.contains number then .ok v
  else
    let v := { v with visited := number :: v.visited }
    if (tagAt v.nodes number).isCollection then .ok { v with waiting := v.waiting ++ [number] }
    else (plainValue v.nodes number).map fun _ => v

/-- Visits a key, which must not be a value that can be changed. -/
def key (v : Visit) (number : Nat) : Except Fault Visit := do
  let v ← v.node number
  if (tagAt v.nodes number).isMutable then throw .malformed
  return v

def single (v : Visit) (number : Nat) : Except Fault Visit :=
  match entriesAt? v.nodes number with
  | some [(key, value)] => do (← v.node key).node value
  | _ => .error .malformed

/-- Visits the parts of a collection. -/
def parts (v : Visit) (number : Nat) : Except Fault Visit :=
  match tagAt v.nodes number with
  | .seq =>
    match itemsAt? v.nodes number with
    | some items => items.foldlM node v
    | none => .error .malformed
  | .omap | .pairs =>
    match itemsAt? v.nodes number with
    | some items => items.foldlM single v
    | none => .error .malformed
  | _ =>
    match flatten? (2 * v.nodes.size * v.nodes.size + 8) v.nodes number with
    | none => .error .malformed
    | some nodes =>
      let entries := (entriesAt? nodes number).getD []
      entries.foldlM (fun v (key, value) => do (← v.key key).node value) { v with nodes := nodes }

def run (v : Visit) : Nat → Except Fault Visit
  | 0 => .ok v
  | fuel + 1 =>
    match v.waiting with
    | [] => .ok v
    | number :: rest => do (← { v with waiting := rest }.parts number).run fuel

end Visit

/-- Whether two values are the same key. Numbers are compared by value, whatever their kind. -/
def sameNumber (a b : Value) : Option Bool :=
  let number? : Value → Option Value
    | .bool b => some (.int (if b then 1 else 0))
    | .int n => some (.int n)
    | .float x => some (.float x)
    | _ => none
  let equal (n : Int) (x : Float) : Bool :=
    match Number.exact x with
    | .finite negative mantissa exponent =>
      let size : Int := mantissa
      let signed := if negative then -size else size
      signed * Int.pow 2 exponent.toNat == n * Int.pow 2 (-exponent).toNat
    | _ => false
  match number? a, number? b with
  | some (.int m), some (.int n) => some (m == n)
  | some (.int n), some (.float x) | some (.float x), some (.int n) => some (equal n x)
  | some (.float x), some (.float y) => some (Number.canonicalBits x == Number.canonicalBits y)
  | _, _ => none

def sameKey (a b : Value) : Bool :=
  match sameNumber a b with
  | some same => same
  | none =>
    match a, b with
    | .null, .null => true
    | .text s, .text t => s == t
    | .bytes x, .bytes y => x == y
    | .date x, .date y => x == y
    | .moment x, .moment y => x.isSame y
    | _, _ => false

/-- Puts an entry in place of an earlier one with the same key, or at the end. -/
def putEntry (entries : List (Value × Value)) (key value : Value) : List (Value × Value) :=
  match entries with
  | [] => [(key, value)]
  | (k, v) :: rest =>
    if sameKey k key then (k, value) :: rest else (k, v) :: putEntry rest key value

/-- The brackets around an ellipsis that stands for a collection. -/
def brackets : Tag → String
  | .map => "\x7b...\x7d"
  | .set => "set(...)"
  | _ => "[...]"

/-- The value of a node; `above` holds the nodes around it, innermost first, with nothing
for a pair in an ordered mapping. -/
def build (nodes : Nodes) : Nat → List (Option Nat) → Nat → Value
  | 0, _, _ => .null
  | fuel + 1, above, number =>
    let inside := some number :: above
    let entries := (entriesAt? nodes number).getD []
    let items := (itemsAt? nodes number).getD []
    match above.idxOf? (some number) with
    | some index => .loop (index + 1) (brackets (tagAt nodes number))
    | none =>
      match tagAt nodes number with
      | .seq => .list (items.map (build nodes fuel inside))
      | .omap | .pairs =>
        .list ((items.filterMap fun item => (entriesAt? nodes item).bind List.head?).map
          fun (key, value) => .tuple [build nodes fuel (none :: inside) key,
            build nodes fuel (none :: inside) value])
      | .map =>
        .dict (entries.foldl (fun found (key, value) =>
          putEntry found (build nodes fuel inside key) (build nodes fuel inside value)) [])
      | .set =>
        .set ((entries.foldl (fun found (key, _) =>
          putEntry found (build nodes fuel inside key) .null) []).map (·.1))
      | _ => (plainValue nodes number).toOption.getD .null

/-- The value of a document. -/
def Graph.value (g : Graph) : Except Fault Value := do
  let v ← Visit.node { nodes := g.nodes } g.root
  let v ← v.run (g.nodes.size + 1)
  return build v.nodes (v.nodes.size + 1) [] g.root

/-- The values of the documents, one after the other up to the first fault. -/
def valuesFrom (first : Bool) : Nat → List Token → Except Fault (List Value)
  | 0, _ => .error .malformed
  | fuel + 1, tokens =>
    match document? first tokens with
    | none => .error .malformed
    | some none => .ok []
    | some (some (graph, rest)) => do
      let v ← graph.value
      return v :: (← valuesFrom false fuel rest)

/-- Reads a stream of documents. -/
def read (bytes : List UInt8) : Except Fault (List Value) :=
  match chars? bytes with
  | none => .error .malformed
  | some text =>
    let found := tokens text
    valuesFrom true (found.length + 2) found

end PostfixCalculator.Document.Yaml
