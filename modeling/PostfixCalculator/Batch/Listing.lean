import PostfixCalculator.Document.Value
import PostfixCalculator.Text.Line

/-!
# Lists of expressions

A plain text lists one expression a line; lines that are blank or start with a number sign
are left out. A document lists expressions if it is a text or a list of texts.
-/
namespace PostfixCalculator.Batch

open Document

/-- Whether a line holds no expression. -/
def isSkipped (line : List Char) : Bool :=
  let rest := Text.dropBlank line
  rest.isEmpty || rest.head? == some '#'

/-- The expressions that a plain text lists. A carriage return that ends no line is a blank, so it
is removed from the ends of an expression, but not from within. -/
def textExpressions (mode : Text.LineMode) (text : List Char) : List String :=
  ((mode.lines text).filter fun line => !isSkipped line).map fun line =>
    String.ofList (Text.trimBlank line)

/-- Why a document lists no expressions: the first item that is no text, as it is shown, or
the kind of a document that is no list. An item that cannot be shown, because of a whole number
with too many digits, is not named. -/
inductive ShapeFault where
  | item (index : Nat) (shown : String)
  | tooLong
  | kind (name : String)
  deriving DecidableEq, Repr

def ShapeFault.message : ShapeFault → String
  | item index shown => s!"item {index} is {shown}, not an expression string"
  | tooLong => limitMessage ""
  | kind name =>
    "expected an expression string or a list of expression strings, instead found " ++ name

/-- What is said of the item at an index of a list, if it is no text. -/
def itemFault (items : List Value) (index : Nat) (item : Value) : ShapeFault :=
  if Value.isItemTooLong items index item then .tooLong
  else .item index (Value.showItem items index item)

/-- The texts of a list whose first items are `all` up to an index. -/
def textsFrom (all : List Value) (index : Nat) : List Value → Except ShapeFault (List String)
  | [] => .ok []
  | .text s :: rest => (textsFrom all (index + 1) rest).map (s :: ·)
  | item :: _ => .error (itemFault all index item)

/-- The expressions that a document lists. -/
def documentExpressions : Value → Except ShapeFault (List String)
  | .text s => .ok [s]
  | .list items => textsFrom items 0 items
  | document => .error (.kind document.kind)

/-- The expressions of a sequence of documents; a document without content is left out. -/
def documentsExpressions : List Value → Except ShapeFault (List String)
  | [] => .ok []
  | .null :: rest => documentsExpressions rest
  | document :: rest => do
    let found ← documentExpressions document
    return found ++ (← documentsExpressions rest)

end PostfixCalculator.Batch
