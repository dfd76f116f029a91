import PostfixCalculator.Document.Calendar
import PostfixCalculator.Fault
import PostfixCalculator.Text.Utf8

/-!
# Values of structured documents

What a document of nested data can hold. A collection that contains itself holds a `loop`
in that place, which names the collection by the number of levels above.
-/
namespace PostfixCalculator.Document

/-- The largest number of digits of a whole number in decimal notation. -/
def digitLimit : Nat := 4300

/-- Whether a whole number has too many digits to be written. -/
def isOverLimit (n : Int) : Bool := Nat.pow 10 digitLimit ≤ n.natAbs

/-- Says that a whole number has too many digits, and what is known of their number. -/
def limitMessage (detail : String) : String :=
  s!"Exceeds the limit ({digitLimit} digits) for integer string conversion{detail}; " ++
    "use sys.set_int_max_str_digits() to increase the limit"

inductive Value where
  | null
  | bool (b : Bool)
  | int (n : Int)
  | float (x : Float)
  | text (s : String)
  | bytes (data : List UInt8)
  | date (d : Date)
  | moment (m : Moment)
  | list (items : List Value)
  | tuple (items : List Value)
  | set (items : List Value)
  | dict (entries : List (Value × Value))
  | loop (levels : Nat) (brackets : String)

namespace Value

/-- The name of the kind of a value. -/
def kind : Value → String
  | null => "NoneType"
  | bool _ => "bool"
  | int _ => "int"
  | float _ => "float"
  | text _ => "str"
  | bytes _ => "bytes"
  | date _ => "date"
  | moment _ => "datetime"
  | list _ => "list"
  | tuple _ => "tuple"
  | set _ => "set"
  | dict _ => "dict"
  | loop _ _ => "list"

def byteChar (mark : Char) (b : UInt8) : List Char :=
  let c := Char.ofNat b.toNat
  if c == mark || c == '\\' then ['\\', c]
  else if c == '\n' then ['\\', 'n']
  else if c == '\r' then ['\\', 'r']
  else if c == '\t' then ['\\', 't']
  else if 32 ≤ b.toNat && b.toNat < 127 then [c]
  else Text.escapeCode c

def bytesText (data : List UInt8) : String :=
  let mark := Text.quoteMark (data.map fun b => Char.ofNat b.toNat)
  "b" ++ String.ofList (mark :: data.flatMap (byteChar mark) ++ [mark])

def tupleText : List String → String
  | [item] => "(" ++ item ++ ",)"
  | items => "(" ++ ", ".intercalate items ++ ")"

def setText (items : List String) : String :=
  if items.isEmpty then "set()" else "\x7b" ++ ", ".intercalate items ++ "\x7d"

mutual

/-- The text of a value `depth` levels inside the one that is shown. A loop to a level
that is being shown is an ellipsis in the brackets of its kind; one that leads further out
is shown as `outside`. -/
def showIn (outside : String) (depth : Nat) : Value → String
  | null => "None"
  | bool true => "True"
  | bool false => "False"
  | int n => toString n
  | float x => Number.text x
  | text s => Text.quote s
  | bytes data => bytesText data
  | date d => d.text
  | moment m => m.text
  | list items => listText (showAll outside (depth + 1) items)
  | tuple items => tupleText (showAll outside (depth + 1) items)
  | set items => setText (showAll outside (depth + 1) items)
  | dict entries =>
    "\x7b" ++ ", ".intercalate (showEntries outside (depth + 1) entries) ++ "\x7d"
  | loop levels brackets => if levels ≤ depth then brackets else outside

def showAll (outside : String) (depth : Nat) : List Value → List String
  | [] => []
  | item :: rest => showIn outside depth item :: showAll outside depth rest

def showEntries (outside : String) (depth : Nat) : List (Value × Value) → List String
  | [] => []
  | (key, value) :: rest =>
    (showIn outside depth key ++ ": " ++ showIn outside depth value) ::
      showEntries outside depth rest

end

mutual

/-- Whether a whole number with too many digits is in the text of a value that is shown as by
`showIn`; `outside` tells this of the text that a loop further out is shown as. -/
def isTooLong (outside : Bool) (depth : Nat) : Value → Bool
  | int n => isOverLimit n
  | list items | tuple items | set items => isAnyTooLong outside (depth + 1) items
  | dict entries => isEntryTooLong outside (depth + 1) entries
  | loop levels _ => depth < levels && outside
  | _ => false

def isAnyTooLong (outside : Bool) (depth : Nat) : List Value → Bool
  | [] => false
  | item :: rest => isTooLong outside depth item || isAnyTooLong outside depth rest

def isEntryTooLong (outside : Bool) (depth : Nat) : List (Value × Value) → Bool
  | [] => false
  | (key, value) :: rest =>
    isTooLong outside depth key || isTooLong outside depth value ||
      isEntryTooLong outside depth rest

end

def «show» (v : Value) : String := v.showIn "[...]" 0

/-- The text of the item at an index of a list, which may contain the list itself. -/
def showItem (items : List Value) (index : Nat) (item : Value) : String :=
  let others := items.map (showIn "[...]" 0)
  let ellipsis := match item with
    | dict _ => "\x7b...\x7d"
    | list _ => "[...]"
    | other => other.show
  item.showIn (listText (others.set index ellipsis)) 0

/-- Whether the text of the item at an index of a list has a whole number with too many digits. -/
def isItemTooLong (items : List Value) (index : Nat) (item : Value) : Bool :=
  item.isTooLong ((items.eraseIdx index).any (isTooLong false 0)) 0

end Value

end PostfixCalculator.Document
