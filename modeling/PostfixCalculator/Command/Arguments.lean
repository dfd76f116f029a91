import PostfixCalculator.Command.Switch
import PostfixCalculator.Text.Digit
import PostfixCalculator.Text.Quoted

/-!
# The arguments of the command

An argument is an option, the separator `--`, or a word. All arguments after the separator
are words. Names of options may be shortened as long as they stay unambiguous, options of
one letter may be joined, and a value may be joined to its option. The words of the
expression stand together; the first separator among them is dropped.
-/
namespace PostfixCalculator.Command

open Terminal

/-- Why arguments are refused. -/
inductive Refusal where
  | ambiguous (argument : String) (matching : List String)
  | ignoredValue (option value : String)
  | missingValue (option : String)
  | badChoice (option value : String) (choices : List String)
  | conflict (option other : String)
  | unrecognized (arguments : List String)
  deriving DecidableEq, Repr

def Refusal.message : Refusal → String
  | ambiguous argument matching =>
    let names := ", ".intercalate matching
    s!"ambiguous option: {argument} could match {names}"
  | ignoredValue option value =>
    s!"argument {option}: ignored explicit argument {Text.quote value}"
  | missingValue option => s!"argument {option}: expected one argument"
  | badChoice option value choices =>
    let quoted := ", ".intercalate (choices.map Text.quote)
    s!"argument {option}: invalid choice: {Text.quote value} (choose from {quoted})"
  | conflict option other => s!"argument {option}: not allowed with argument {other}"
  | unrecognized arguments =>
    let words := " ".intercalate arguments
    s!"unrecognized arguments: {words}"

/-- An option that was found in an argument, under one of its names, with a value that is
joined to it. -/
structure Found where
  switch : Switch
  name : String
  value : Option String
  deriving DecidableEq, Repr

/-- An argument by its kind. An option that nobody knows is kept as it is. -/
inductive Argument where
  | option (found : Found)
  | unknown (text : String)
  | separator
  | word (text : String)
  deriving DecidableEq, Repr

/-- The text before the first equals sign and the text after it. -/
def splitEquals? (text : String) : Option (String × String) :=
  let chars := text.toList
  if chars.contains '=' then
    let name := chars.takeWhile (· != '=')
    some (String.ofList name, String.ofList (chars.drop (name.length + 1)))
  else none

def startsWith (text start : String) : Bool := start.toList.isPrefixOf text.toList

/-- The options that an argument with two dashes can be short for. -/
def longCandidates (text : String) : List Found :=
  let (start, value) := match splitEquals? text with
    | some (name, value) => (name, some value)
    | none => (text, none)
  (namedSwitches.filter fun (name, _) => startsWith name start).map fun (name, s) =>
    ⟨s, name, value⟩

/-- The options that an argument with one dash can stand for: one of a letter with the rest
joined to it, or a longer one that the argument is short for. -/
def shortCandidates (text : String) : List Found :=
  let letter := String.ofList (text.toList.take 2)
  let rest := String.ofList (text.toList.drop 2)
  namedSwitches.filterMap fun (name, s) =>
    if name == letter then some ⟨s, name, some rest⟩
    else if startsWith name text then some ⟨s, name, none⟩
    else none

def candidates (text : String) : List Found :=
  if startsWith text "--" then longCandidates text else shortCandidates text

/-- A minus sign and digits of any script, with a point before the last ones or without. -/
def isNegativeNumber (text : String) : Bool :=
  let chars := text.toList
  let chars := if chars.getLast? == some '\n' then chars.dropLast else chars
  match chars with
  | '-' :: rest =>
    match rest.dropWhile Text.isAnyDigit with
    | [] => !rest.isEmpty
    | '.' :: digits => !digits.isEmpty && digits.all Text.isAnyDigit
    | _ => false
  | _ => false

/-- An exact name of an option, perhaps with a value after an equals sign. -/
def exactOption? (text : String) : Option Found :=
  match findSwitch? text with
  | some s => some ⟨s, text, none⟩
  | none => do
    let (name, value) ← splitEquals? text
    let s ← findSwitch? name
    return ⟨s, name, some value⟩

def classify (text : String) : Except Refusal Argument :=
  if !startsWith text "-" || text == "-" then .ok (.word text)
  else
    match exactOption? text with
    | some found => .ok (.option found)
    | none =>
      match candidates text with
      | [found] => .ok (.option found)
      | [] =>
        .ok (if isNegativeNumber text || text.toList.contains ' ' then .word text else .unknown text)
      | several => .error (.ambiguous text (several.map (·.name)))

/-- The kinds of all arguments. -/
def classifyAll : List String → Except Refusal (List Argument)
  | [] => .ok []
  | text :: rest =>
    if text == "--" then .ok (.separator :: rest.map .word)
    else do
      let argument ← classify text
      return argument :: (← classifyAll rest)

/-- A request with the value that was given for it. -/
structure Given where
  switch : Switch
  value : Option String
  deriving DecidableEq, Repr

/-- The requests in options of one letter that are joined in one argument. An option that
takes a value takes all that is left, or the next argument. -/
def unjoin (s : Switch) (isLetter : Bool) : List Char → Except Refusal (List Given × Bool)
  | [] =>
    if s.takes == .nothing then .ok ([⟨s, none⟩], false) else .ok ([⟨s, none⟩], true)
  | letter :: rest =>
    if s.takes != .nothing then .ok ([⟨s, some (String.ofList (letter :: rest))⟩], false)
    else
      let refusal := Refusal.ignoredValue s.label (String.ofList (letter :: rest))
      if !isLetter then .error refusal
      else
        match findSwitch? (String.ofList ['-', letter]) with
        | none => .error refusal
        | some next => do
          let (given, needsValue) ← unjoin next true rest
          return (⟨s, none⟩ :: given, needsValue)

/-- The requests of an argument, and whether the last one needs the next argument as its
value. -/
def Found.given (f : Found) : Except Refusal (List Given × Bool) :=
  match f.value with
  | none => .ok ([⟨f.switch, none⟩], f.switch.takes != .nothing)
  | some value =>
    if value.isEmpty then
      if f.switch.takes == .nothing then .error (.ignoredValue f.switch.label "")
      else .ok ([⟨f.switch, some ""⟩], false)
    else unjoin f.switch (!startsWith f.name "--") value.toList

/-- What a run of the command was asked for. -/
structure Options where
  words : List String := []
  file : Option String := none
  mediaType : Option String := none
  fromPostfix : Bool := false
  toPostfix : Bool := false
  showExpression : Bool := false
  color : Option Bool := none
  noStatus : Bool := false
  logLevel : Level := .info
  quiet : Bool := false
  version : Bool := false
  dumpVersion : Bool := false
  deriving DecidableEq, Repr

/-- What the arguments ask for, if it is not to run. A separator that is joined to an option
as its value is lost, and no value is left. -/
inductive Stop where
  | help
  | refused (refusal : Refusal)
  | lostValue
  deriving DecidableEq, Repr

def Options.apply (o : Options) (request : Request) (value : String) : Options :=
  match request with
  | .help => o
  | .file => { o with file := some value }
  | .mediaType => { o with mediaType := some value }
  | .media name => { o with mediaType := mediaTypeOf? name }
  | .fromPostfix => { o with fromPostfix := true }
  | .toPostfix => { o with toPostfix := true }
  | .showExpression => { o with showExpression := true }
  | .color => { o with color := some true }
  | .noColor => { o with color := some false }
  | .noStatus => { o with noStatus := true }
  | .logLevel => { o with logLevel := (Level.ofName? value).getD .info }
  | .debug => { o with logLevel := .debug }
  | .quiet => { o with logLevel := .critical, quiet := true }
  | .version => { o with version := true }
  | .dumpVersion => { o with dumpVersion := true }

/-- The arguments that were read: the options, the requests seen, whether the words of the
expression were found, and the arguments that are left over. -/
structure Reading where
  options : Options := {}
  seen : List Request := []
  wordsFound : Bool := false
  extra : List String := []

namespace Reading

def checkValue (s : Switch) (value : String) : Except Stop Unit :=
  match s.takes with
  | .oneOf choices =>
    if choices.contains value then .ok ()
    else .error (.refused (.badChoice s.label value choices))
  | _ => .ok ()

def checkConflict (r : Reading) (s : Switch) : Except Stop Unit :=
  match (rivals s.request).find? fun rival => r.seen.contains rival.request with
  | some rival => .error (.refused (.conflict s.label rival.label))
  | none => .ok ()

def take (r : Reading) (given : Given) : Except Stop Reading := do
  if given.value == some "--" then throw .lostValue
  let value := given.value.getD ""
  if given.value.isSome then checkValue given.switch value
  r.checkConflict given.switch
  if given.switch.request == .help then throw .help
  return { r with
    options := r.options.apply given.switch.request value
    seen := given.switch.request :: r.seen }

/-- Takes words that stand together: as those of the expression, if it has none yet. -/
def takeWords (r : Reading) (texts : List String) : Reading :=
  if r.wordsFound then { r with extra := r.extra ++ texts }
  else { r with wordsFound := true, options := { r.options with words := texts.erase "--" } }

/-- Reads arguments in order; `run` holds the words that stand together before them. -/
def readFrom (r : Reading) (run : List String) : List Argument → Except Stop Reading
  | [] => .ok (r.takeWords run)
  | .word text :: rest => r.readFrom (run ++ [text]) rest
  | .separator :: rest => r.readFrom (run ++ ["--"]) rest
  | .unknown text :: rest =>
    let r := if run.isEmpty then r else r.takeWords run
    { r with extra := r.extra ++ [text] }.readFrom [] rest
  | .option found :: rest => do
    let r := if run.isEmpty then r else r.takeWords run
    let (given, needsValue) ← found.given.mapError .refused
    if needsValue then
      match rest with
      | .word value :: rest =>
        let last := given.getLast?.map fun g => { g with value := some value }
        let r ← (given.dropLast ++ last.toList).foldlM take r
        r.readFrom [] rest
      | _ =>
        let label := (given.getLast?.map fun g => g.switch.label).getD ""
        throw (.refused (.missingValue label))
    else
      let r ← given.foldlM take r
      r.readFrom [] rest

end Reading

/-- What a list of arguments asks for. -/
def readArguments (arguments : List String) : Except Stop Options := do
  let kinds ← (classifyAll arguments).mapError .refused
  let r ← Reading.readFrom {} [] kinds
  if r.extra.isEmpty then return r.options
  else throw (.refused (.unrecognized r.extra))

end PostfixCalculator.Command
