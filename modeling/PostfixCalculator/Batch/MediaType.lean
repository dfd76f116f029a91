import PostfixCalculator.Batch.MediaTable
import PostfixCalculator.Text.Line
import PostfixCalculator.Text.Lowercase
import PostfixCalculator.Text.Piece

/-!
# Media types of paths

The media type of a path follows from its extension. Some extensions stand for two others,
and one for a compression is ignored.
-/
namespace PostfixCalculator.Batch

/-- Media types by extension, and extensions that stand for others. -/
structure MediaTypes where
  types : List (String × String)
  suffixes : List (String × String)
  deriving DecidableEq, Repr

namespace MediaTypes

def standard : MediaTypes := ⟨standardTypes, standardSuffixes⟩

def typeOf? (m : MediaTypes) (extension : String) : Option String := m.types.lookup extension

def suffixOf? (m : MediaTypes) (extension : String) : Option String :=
  m.suffixes.lookup extension

/-- A later entry hides the earlier ones. -/
def addType (m : MediaTypes) (extension type : String) : MediaTypes :=
  { m with types := (extension, type) :: m.types }

def addSuffix (m : MediaTypes) (extension target : String) : MediaTypes :=
  { m with suffixes := (extension, target) :: m.suffixes }

/-- The words of a line of configuration, up to the first that starts a comment. -/
def lineWords (line : List Char) : List String :=
  ((Text.pieces line).map (·.text)).takeWhile (fun word => word.head? != some '#')
    |>.map String.ofList

/-- A line gives a media type and then its extensions without their dots. -/
def addLine (m : MediaTypes) (line : List Char) : MediaTypes :=
  match lineWords line with
  | [] => m
  | type :: extensions => extensions.foldl (fun m e => m.addType ("." ++ e) type) m

def addConfiguration (m : MediaTypes) (text : List Char) : MediaTypes :=
  (Text.lines text).foldl addLine m

/-- Makes both extensions of one format known if at most one is known, the unknown one
standing for the known one; and makes a third format known. Known extensions keep their
types. -/
def complete (m : MediaTypes) : MediaTypes :=
  let shortKnown := (m.typeOf? ".yml").isSome
  let longKnown := (m.typeOf? ".yaml").isSome
  let m :=
    if !shortKnown && !longKnown then
      (m.addType ".yml" "application/x-yaml").addSuffix ".yaml" ".yml"
    else if !shortKnown then m.addSuffix ".yml" ".yaml"
    else if !longKnown then m.addSuffix ".yaml" ".yml"
    else m
  if (m.typeOf? ".json5").isSome then m else m.addType ".json5" "application/json5"

end MediaTypes

/-- Splits off the extension of the last part of a path. Dots at the front of that part
start no extension. -/
def splitExtension (path : List Char) : List Char × List Char :=
  let lastPart := (path.reverse.takeWhile (· != '/')).reverse
  let body := lastPart.dropWhile (· == '.')
  if body.contains '.' then
    let stem := (body.reverse.dropWhile (· != '.')).length - 1
    let keep := path.length - body.length + stem
    (path.take keep, path.drop keep)
  else (path, [])

/-- The scheme in front of a path, in small letters, and what follows it. -/
def splitScheme? (path : List Char) : Option (List Char × List Char) :=
  let scheme := path.takeWhile fun c => c != '/' && c != ':'
  match path.drop scheme.length with
  | ':' :: rest => if scheme.isEmpty then none else some (Text.toLower scheme, rest)
  | _ => none

/-- The media type that a path with the scheme `data` states. -/
def statedType? (rest : List Char) : Option String :=
  if !rest.contains ',' then none
  else
    let head := rest.takeWhile (· != ',')
    let type := head.takeWhile (· != ';')
    some (if type.contains '=' || !type.contains '/' then "text/plain" else String.ofList type)

namespace MediaTypes

/-- Splits off the extension after replacing it while it stands for others. -/
def splitResolved (m : MediaTypes) (path : List Char) : Nat → List Char × List Char
  | 0 => splitExtension path
  | limit + 1 =>
    let (stem, extension) := splitExtension path
    match m.suffixOf? (String.ofList (Text.toLower extension)) with
    | some target => m.splitResolved (stem ++ target.toList) limit
    | none => (stem, extension)

/-- The media type of the extension of a path without scheme. -/
def typeOfExtension? (m : MediaTypes) (path : List Char) : Option String :=
  let (stem, extension) := m.splitResolved path m.suffixes.length
  let last := if encodingExtensions.contains (String.ofList extension) then
      (splitExtension stem).2
    else extension
  m.typeOf? (String.ofList (Text.toLower last))

def guess? (m : MediaTypes) (path : List Char) : Option String :=
  match splitScheme? path with
  | some (scheme, rest) =>
    if scheme == "data".toList then statedType? rest else m.typeOfExtension? rest
  | none => m.typeOfExtension? path

end MediaTypes

end PostfixCalculator.Batch
