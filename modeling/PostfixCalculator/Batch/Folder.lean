import PostfixCalculator.Text.Quoted
import PostfixCalculator.Text.Utf8

/-!
# A folder of files

The content of a folder by path. The folders around a file exist with it. Paths lead from
the folder itself; what lies outside of it cannot be read.
-/
namespace PostfixCalculator.Batch

inductive Entry where
  | file (bytes : List UInt8)
  | folder
  deriving DecidableEq, Repr

/-- Why a path cannot be opened as a file. -/
inductive AccessFault where
  | missing
  | notFolder
  | isFolder
  | nameTooLong
  | nulInPath
  deriving DecidableEq, Repr

/-- The number and name of a fault in the operating system's words. -/
def AccessFault.message (path : String) : AccessFault → String
  | missing => s!"[Errno 2] No such file or directory: {Text.quote path}"
  | notFolder => s!"[Errno 20] Not a directory: {Text.quote path}"
  | isFolder => s!"[Errno 21] Is a directory: {Text.quote path}"
  | nameTooLong => s!"[Errno 36] File name too long: {Text.quote path}"
  | nulInPath => "embedded null byte"

/-- The parts of a path between slashes. -/
def splitPath : List Char → List (List Char)
  | [] => [[]]
  | c :: rest =>
    match splitPath rest with
    | [] => [[c]]
    | part :: parts => if c == '/' then [] :: part :: parts else (c :: part) :: parts

/-- Whether a part of a path leads nowhere else. -/
def isIdlePart (part : List Char) : Bool := part.isEmpty || part == ['.']

/-- Files and folders by the parts of their paths. -/
structure Folder where
  entries : List (List (List Char) × Entry)

namespace Folder

def ofPaths (files : List (String × Entry)) : Folder :=
  ⟨files.map fun (path, entry) =>
    ((splitPath path.toList).filter fun part => !isIdlePart part, entry)⟩

/-- What is at a place; the place of a file's folders holds a folder. -/
def at? (f : Folder) (place : List (List Char)) : Option Entry :=
  if place.isEmpty then some .folder
  else
    match f.entries.lookup place with
    | some entry => some entry
    | none => if f.entries.any fun (p, _) => place.isPrefixOf p then some .folder else none

/-- Follows the parts of a path from a place. -/
def walk (f : Folder) (place : List (List Char)) :
    List (List Char) → Except AccessFault (List (List Char))
  | [] => .ok place
  | part :: rest =>
    match f.at? place with
    | some (.file _) => .error .notFolder
    | none => .error .missing
    | some .folder =>
      if isIdlePart part then f.walk place rest
      else if part == ['.', '.'] then
        if place.isEmpty then .error .missing else f.walk place.dropLast rest
      else if 255 < (Text.encode part).length then .error .nameTooLong
      else f.walk (place ++ [part]) rest

/-- The content of the file at a path. -/
def read (f : Folder) (path : String) : Except AccessFault (List UInt8) := do
  let chars := path.toList
  if chars.contains '\x00' then throw .nulInPath
  if chars.isEmpty then throw .missing
  if 4096 ≤ (Text.encode chars).length then throw .nameTooLong
  if chars.all fun c => c == '/' then throw .isFolder
  if chars.head? == some '/' then throw .missing
  let place ← f.walk [] (splitPath chars)
  match f.at? place with
  | some (.file bytes) => return bytes
  | some .folder => throw .isFolder
  | none => throw .missing

end Folder

end PostfixCalculator.Batch
