import PostfixCalculator.Batch.Folder
import PostfixCalculator.Batch.Listing
import PostfixCalculator.Batch.Registry
import PostfixCalculator.Document.Json5
import PostfixCalculator.Document.Yaml.Construction

/-!
# Loading files of expressions

The content of a file is read in the format of its file type. Messages name the file by the
last part of its path.
-/
namespace PostfixCalculator.Batch

open Document

/-- Why the content of a file gives no expressions. -/
inductive ContentFault where
  | undecodable (e : Text.DecodeError)
  | json (problem : Json.Problem) (line column position : Nat)
  | tooManyDigits (count : Nat)
  | malformed
  | scalar (fault : Yaml.Fault)
  | shape (fault : ShapeFault)
  deriving DecidableEq, Repr

inductive LoadError where
  | access (path : String) (fault : AccessFault)
  | content (file : String) (fault : ContentFault)
  deriving DecidableEq, Repr

/-- The last part of a path. -/
def baseName (path : String) : String :=
  String.ofList (path.toList.reverse.takeWhile (· != '/')).reverse

def parsing (file problem : String) : String := s!"Error parsing {file}: {problem}"

def ContentFault.message (file : String) : ContentFault → String
  | undecodable e => e.message
  | json problem line column position =>
    parsing file s!"{problem.message}: line {line}, column {column} (char {position})"
  | tooManyDigits count => Json.digitsMessage count
  | malformed => parsing file "<syntax>"
  | scalar fault => fault.message
  | shape .tooLong => ShapeFault.tooLong.message
  | shape fault => parsing file fault.message

def LoadError.message : LoadError → String
  | access path fault => fault.message path
  | content file fault => fault.message file

/-- Whether a failure to load is reported, as all are but those of scalars that say nothing
about their file. -/
def LoadError.isReported : LoadError → Bool
  | content _ (.scalar (.notTruth _)) => false
  | content _ (.scalar .emptyNumber) => false
  | content _ (.scalar .notTimestamp) => false
  | _ => true

def jsonFault (text : List Char) : Json.Error → ContentFault
  | .syntaxAt problem position =>
    let (line, column) := lineAndColumn text position
    .json problem line column position
  | .digits count => .tooManyDigits count

def readJson (bytes : List UInt8) : Except ContentFault (List String) := do
  let text ← (Text.decode bytes).mapError .undecodable
  let text := Text.unifyLineEnds text
  let document ← (Json.read text).mapError (jsonFault text)
  (documentExpressions document).mapError .shape

def readJson5 (bytes : List UInt8) : Except ContentFault (List String) :=
  match (Text.decode bytes).toOption.bind fun text => Json5.read? (Text.unifyLineEnds text) with
  | some document => (documentExpressions document).mapError .shape
  | none => .error .malformed

def yamlFault : Yaml.Fault → ContentFault
  | .malformed => .malformed
  | fault => .scalar fault

def readYaml (bytes : List UInt8) : Except ContentFault (List String) := do
  let documents ← (Yaml.read bytes).mapError yamlFault
  (documentsExpressions documents).mapError .shape

def readText (bytes : List UInt8) : Except ContentFault (List String) :=
  (Text.decodeStream bytes).mapError .undecodable |>.map (textExpressions .universal)

/-- The expressions in a content of a format. -/
def Format.read : Format → List UInt8 → Except ContentFault (List String)
  | .text => readText
  | .json => readJson
  | .json5 => readJson5
  | .yaml => readYaml

/-- What gives the content of the file at a path. -/
abbrev FileReader := String → Except AccessFault (List UInt8)

/-- The expressions of the file at a path. -/
def loadFile (read : FileReader) (format : Format) (path : String) :
    Except LoadError (List String) := do
  let bytes ← (read path).mapError (.access path)
  (format.read bytes).mapError (.content (baseName path))

end PostfixCalculator.Batch
