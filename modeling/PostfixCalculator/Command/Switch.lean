import PostfixCalculator.Batch.Registry
import PostfixCalculator.Terminal.Record

/-!
# The options of the command

Every option has one or two names and may take a value. Of some groups of options only one
may be given.
-/
namespace PostfixCalculator.Command

open Batch Terminal

/-- What an option asks for; `media` stands for the type of a file by its short name. -/
inductive Request where
  | help
  | file
  | mediaType
  | media (name : String)
  | fromPostfix
  | toPostfix
  | showExpression
  | color
  | noColor
  | noStatus
  | logLevel
  | debug
  | quiet
  | version
  | dumpVersion
  deriving DecidableEq, Repr

/-- What follows an option: nothing, a text, or one of some texts. -/
inductive Takes where
  | nothing
  | text
  | oneOf (choices : List String)
  deriving DecidableEq, Repr

/-- An option with its names, the long one first unless it is for help. -/
structure Switch where
  names : List String
  request : Request
  takes : Takes
  deriving DecidableEq, Repr

/-- All names of an option. -/
def Switch.label (s : Switch) : String := "/".intercalate s.names

/-- The media types that can be asked for. -/
def mediaTypeChoices : List String := Registry.standard.byMediaType.map (·.1)

/-- The first media type of a file type by its short name. -/
def mediaTypeOf? (name : String) : Option String :=
  (Registry.builtIn.find? fun (_, _, n, _) => n == name).bind fun (_, _, _, types) => types.head?

/-- The options in the order in which an abbreviation is compared with them. -/
def switches : List Switch := [
  ⟨["-h", "--help"], .help, .nothing⟩,
  ⟨["--file", "-f"], .file, .text⟩,
  ⟨["--mime"], .mediaType, .oneOf mediaTypeChoices⟩,
  ⟨["--json"], .media "json", .nothing⟩,
  ⟨["--json5"], .media "json5", .nothing⟩,
  ⟨["--text"], .media "text", .nothing⟩,
  ⟨["--yaml"], .media "yaml", .nothing⟩,
  ⟨["--postfix", "-p"], .fromPostfix, .nothing⟩,
  ⟨["--rpn", "-r"], .toPostfix, .nothing⟩,
  ⟨["--show-expression", "-s"], .showExpression, .nothing⟩,
  ⟨["--color", "-c"], .color, .nothing⟩,
  ⟨["--no-color"], .noColor, .nothing⟩,
  ⟨["--no-status"], .noStatus, .nothing⟩,
  ⟨["--log-level"], .logLevel, .oneOf (Level.all.map Level.name)⟩,
  ⟨["--debug"], .debug, .nothing⟩,
  ⟨["--quiet"], .quiet, .nothing⟩,
  ⟨["--version", "-v"], .version, .nothing⟩,
  ⟨["-dumpversion"], .dumpVersion, .nothing⟩]

/-- Options that exclude each other. -/
def groups : List (List Request) := [
  [.mediaType, .media "json", .media "json5", .media "text", .media "yaml"],
  [.color, .noColor],
  [.logLevel, .debug, .quiet]]

/-- The other options of the group of an option. -/
def rivals (request : Request) : List Switch :=
  match groups.find? fun group => group.contains request with
  | some group =>
    (group.filter (· != request)).filterMap fun r => switches.find? fun s => s.request == r
  | none => []

/-- The names of options with their options, in order. -/
def namedSwitches : List (String × Switch) :=
  switches.flatMap fun s => s.names.map fun name => (name, s)

def findSwitch? (name : String) : Option Switch := namedSwitches.lookup name

end PostfixCalculator.Command
