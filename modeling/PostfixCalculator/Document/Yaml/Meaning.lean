import PostfixCalculator.Document.Json
import PostfixCalculator.Document.Value
import PostfixCalculator.Document.Yaml.Base64
import PostfixCalculator.Document.Yaml.Node
import PostfixCalculator.Number.Reading
import PostfixCalculator.Text.Lowercase

/-!
# The meaning of YAML scalars

The value of a scalar of a given type. A stated type can be wrong for the text.
-/
namespace PostfixCalculator.Document.Yaml

/-- What is wrong with a stream: its form, a date out of range, or a text of a wrong form for
its type. -/
inductive Fault where
  | malformed
  | calendar (problem : CalendarError)
  | notInteger (base : Nat) (text : String)
  | tooManyDigits (count : Nat)
  | notFloat (text : String)
  | notTruth (text : String)
  | emptyNumber
  | notTimestamp
  deriving DecidableEq, Repr

/-- The text of a whole number that is too long, as far as a message shows it. -/
def shownNumber (text : String) : String := String.ofList ((Text.quoted text.toList).take 200)

def Fault.message : Fault → String
  | malformed => "<syntax>"
  | calendar problem => problem.message
  | notInteger base text =>
    s!"invalid literal for int() with base {base}: {shownNumber text}"
  | tooManyDigits count => Json.digitsMessage count
  | notFloat text => s!"could not convert string to float: {Text.quote text}"
  | notTruth text => Text.quote text
  | emptyNumber => "string index out of range"
  | notTimestamp => "'NoneType' object has no attribute 'groupdict'"

/-- A whole number in a base. In base ten it must not have too many digits. -/
def integer (base : Nat) (text : List Char) : Except Fault Int :=
  match Number.readInt? base text with
  | none => .error (.notInteger base (String.ofList text))
  | some n =>
    let count := (text.filter Text.isAnyDigit).length
    if base == 10 && digitLimit < count then .error (.tooManyDigits count) else .ok n

/-- A minus sign in front, and what follows the sign. -/
def splitSign (text : List Char) : Bool × List Char :=
  (text.head? == some '-', dropSign text)

/-- The value of digits in base sixty, the most significant first. -/
def sexagesimal (digits : List Int) : Int := digits.foldl (fun total d => 60 * total + d) 0

def unsignedInt (text : List Char) : Except Fault Int :=
  match text with
  | ['0'] => .ok 0
  | '0' :: 'b' :: digits => integer 2 digits
  | '0' :: 'x' :: digits => integer 16 digits
  | '0' :: _ => integer 8 text
  | [] => .error .emptyNumber
  | _ =>
    if text.contains ':' then ((splitColons text).mapM (integer 10)).map sexagesimal
    else integer 10 text

def intValue (text : List Char) : Except Fault Value := do
  let text := text.filter (· != '_')
  if text.isEmpty then throw .emptyNumber
  let (negative, rest) := splitSign text
  let size ← unsignedInt rest
  return .int (if negative then -size else size)

def float (text : List Char) : Except Fault Float :=
  match Number.readFloat? text with
  | some x => .ok x
  | none => .error (.notFloat (String.ofList text))

/-- The value of digits in base sixty, added up from the least significant one. -/
def sexagesimalFloat (digits : List Float) : Float :=
  (digits.reverse.foldl (fun (total, base) d =>
    (total + d * (Number.ofInt? base).getD (Number.infinity false), base * 60)) (0, (1 : Int))).1

def unsignedFloat (text : List Char) : Except Fault Float :=
  if text == ".inf".toList then .ok (Number.infinity false)
  else if text == ".nan".toList then .ok Number.notNumber
  else if text.contains ':' then ((splitColons text).mapM float).map sexagesimalFloat
  else float text

def floatValue (text : List Char) : Except Fault Value := do
  let text := Text.toLower (text.filter (· != '_'))
  if text.isEmpty then throw .emptyNumber
  let (negative, rest) := splitSign text
  let size ← unsignedFloat rest
  return .float (if negative then -size else size)

def truthValue (text : List Char) : Except Fault Value :=
  let word := String.ofList (Text.toLower text)
  match truths.lookup word with
  | some b => .ok (.bool b)
  | none => .error (.notTruth word)

/-- The first six digits of a fraction of a second, filled up with zeros. -/
def microseconds (fraction : List Char) : Nat :=
  Text.ofDigits 10 ((fraction ++ ['0', '0', '0', '0', '0', '0']).take 6)

def stampValue (text : List Char) : Except Fault Value :=
  match stamp? (dropLineEnd text) with
  | none => .error .notTimestamp
  | some s =>
    match s.time with
    | none => (Date.make? s.year s.month s.day).mapError .calendar |>.map .date
    | some (hour, minute, second, fraction, zone) =>
      (Moment.make? s.year s.month s.day hour minute second (microseconds fraction) zone).mapError
        .calendar |>.map .moment

def bytesValue (text : List Char) : Except Fault Value :=
  match bytes? text with
  | some data => .ok (.bytes data)
  | none => .error .malformed

/-- The value of a text as a scalar of a type. -/
def scalarValue (tag : Tag) (text : String) : Except Fault Value :=
  match tag with
  | .null => .ok .null
  | .bool => truthValue text.toList
  | .int => intValue text.toList
  | .float => floatValue text.toList
  | .binary => bytesValue text.toList
  | .timestamp => stampValue text.toList
  | .str => .ok (.text text)
  | _ => .error .malformed

end PostfixCalculator.Document.Yaml
