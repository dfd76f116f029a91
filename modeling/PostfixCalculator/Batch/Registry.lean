import PostfixCalculator.Batch.MediaType

/-!
# Registered file types

A file type is known by a short name and by its media types. The first registration of a
name or media type holds. A registration that meets a taken media type stops there and
leaves the media types before it bound; a taken name is noticed last.
-/
namespace PostfixCalculator.Batch

/-- How the content of a file is read. -/
inductive Format where
  | text
  | json
  | json5
  | yaml
  deriving DecidableEq, Repr

/-- A file type; one without a format cannot be loaded. -/
structure FileType where
  label : String
  format : Option Format
  deriving DecidableEq, Repr

def FileType.text (f : FileType) : String := f.label ++ "()"

structure Registry where
  byMediaType : List (String × FileType)
  byName : List (String × FileType)
  deriving DecidableEq, Repr

inductive Conflict where
  | mediaType (type : String) (holder : FileType)
  | name (taken : String) (holder : FileType)
  deriving DecidableEq, Repr

def Conflict.message : Conflict → String
  | .mediaType type holder => s!"MIME type {type} is already assigned to {holder.text}"
  | .name taken holder => s!"Type {taken} is already associated with Filetype {holder.text}"

namespace Registry

def empty : Registry := ⟨[], []⟩

/-- Binds media types in order up to the first that is taken. -/
def bindTypes (r : Registry) (fileType : FileType) : List String → Registry × Option Conflict
  | [] => (r, none)
  | type :: rest =>
    match r.byMediaType.lookup type with
    | some holder => (r, some (.mediaType type holder))
    | none =>
      bindTypes { r with byMediaType := r.byMediaType ++ [(type, fileType)] } fileType rest

def register (r : Registry) (fileType : FileType) (name : String) (types : List String) :
    Registry × Option Conflict :=
  match r.bindTypes fileType types with
  | (r, some conflict) => (r, some conflict)
  | (r, none) =>
    match r.byName.lookup name with
    | some holder => (r, some (.name name holder))
    | none => ({ r with byName := r.byName ++ [(name, fileType)] }, none)

/-- The built-in file types in order of registration: format, label, name, media types. -/
def builtIn : List (Format × String × String × List String) := [
    (.text, "TextFile", "text", ["text/plain"]),
    (.json, "JSON", "json", ["application/json", "text/json"]),
    (.json5, "JSON5", "json5", ["application/json5", "text/x-json5"]),
    (.yaml, "YAML", "yaml",
      ["application/x-yaml", "application/yaml", "text/yaml", "text/x-yaml"])]

def standard : Registry :=
  builtIn.foldl (fun r (format, label, name, types) =>
    (r.register ⟨label, some format⟩ name types).1) empty

end Registry

/-- Why no file type was found. -/
inductive LookupError where
  | nothingGiven
  | undetermined (path : String)
  | unsupported (type : String) (path : Option String)
  deriving DecidableEq, Repr

def LookupError.message : LookupError → String
  | nothingGiven => "get_filetype requires a path or a MIME type"
  | undetermined path => s!"Could not determine the filetype for {path}"
  | unsupported type path =>
    let place := path.getD "None"
    s!"Unsupported MIME type {type} for {place}"

/-- The file type of a media type, which is guessed from the path if it is not given. -/
def findFileType (registry : Registry) (media : MediaTypes) (path type : Option String) :
    Except LookupError FileType :=
  let find (type : String) : Except LookupError FileType :=
    match registry.byMediaType.lookup type with
    | some fileType => .ok fileType
    | none => .error (.unsupported type path)
  match type, path with
  | some type, _ => find type
  | none, none => .error .nothingGiven
  | none, some path =>
    match media.guess? path.toList with
    | some type => find type
    | none => .error (.undetermined path)

end PostfixCalculator.Batch
