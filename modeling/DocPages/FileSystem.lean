import DocPages.Path
import DocPages.Table
/-! # File systems

A tree of directories and files, kept as a table from locations to what is there.  A location is the
list of names that leads to it from the root.  A path is followed name by name: each name but the
last has to be a directory, and `..` leads from an existing directory to the one that holds it.  There
are no links, and what is there can be read; what a device refuses, its space and its permissions are
in `Device`. -/
set_option autoImplicit false
namespace DocPages

inductive OsError
  | missing
  | alreadyExists
  | isDirectory
  | notDirectory
  | nameTooLong
  | nullByte
  deriving DecidableEq

abbrev Location := List String

inductive Entry
  | file (content : ByteArray)
  | directory

structure FileSystem where
  working : Location
  entries : Table Location Entry

namespace FileSystem

def ancestors (loc : Location) : List Location :=
  (List.range loc.length).map fun n => loc.take (n + 1)

def new (working : Location) : FileSystem :=
  ⟨working, .ofList ((ancestors working).map fun loc => (loc, .directory))⟩

def workingPath (fs : FileSystem) : Path := Path.ofString ("/" ++ String.intercalate "/" fs.working)

def at? (fs : FileSystem) (loc : Location) : Option Entry :=
  if loc = [] then some .directory else fs.entries.find? loc

def set (fs : FileSystem) (loc : Location) (entry : Entry) : FileSystem :=
  { fs with entries := fs.entries.insert loc entry }

def maxNameBytes : Nat := 255

def maxPathBytes : Nat := 4095

def walk (fs : FileSystem) : Location → List String → Except OsError Location
  | loc, [] => .ok loc
  | loc, name :: rest =>
    match fs.at? loc with
    | none => .error .missing
    | some (.file _) => .error .notDirectory
    | some .directory =>
      if name = ".." then fs.walk loc.dropLast rest
      else if maxNameBytes < name.utf8ByteSize then .error .nameTooLong
      else fs.walk (loc ++ [name]) rest

/-- The location of a path.  There may be nothing at it, but it lies in a directory. -/
def locate (fs : FileSystem) (p : Path) : Except OsError Location :=
  if p.names.any fun name => name.toList.contains '\x00' then .error .nullByte
  else if maxPathBytes < p.toString.utf8ByteSize then .error .nameTooLong
  else fs.walk (if p.root = .none then fs.working else []) p.names

def entry (fs : FileSystem) (p : Path) : Except OsError Entry := do
  match fs.at? (← fs.locate p) with
  | none => .error .missing
  | some e => .ok e

def isDirectory (fs : FileSystem) (p : Path) : Bool :=
  match fs.entry p with
  | .ok .directory => true
  | _ => false

/-- Whether there is anything at a path; only a name that is too long is an error. -/
def holds (fs : FileSystem) (p : Path) : Except OsError Bool :=
  match fs.entry p with
  | .ok _ => .ok true
  | .error .nameTooLong => .error .nameTooLong
  | .error _ => .ok false

def read (fs : FileSystem) (p : Path) : Except OsError ByteArray := do
  match ← fs.entry p with
  | .file content => .ok content
  | .directory => .error .isDirectory

def withDirectory (fs : FileSystem) (p : Path) : Except OsError FileSystem := do
  let loc ← fs.locate p
  match fs.at? loc with
  | some _ => .error .alreadyExists
  | none => .ok (fs.set loc .directory)

def fileAt (fs : FileSystem) (p : Path) : Except OsError Location := do
  let loc ← fs.locate p
  match fs.at? loc with
  | some .directory => .error .isDirectory
  | _ => .ok loc

def withFile (fs : FileSystem) (p : Path) (content : ByteArray) : Except OsError FileSystem := do
  return fs.set (← fs.fileAt p) (.file content)

def filesBelow (fs : FileSystem) (base : Location) : List (String × ByteArray) :=
  let found := fs.entries.entries.filterMap fun e =>
    match e with
    | (loc, .file content) =>
      if base.isPrefixOf loc then
        some (String.intercalate "/" (loc.drop base.length), content)
      else none
    | (_, .directory) => none
  found.mergeSort fun a b => decide (a.1 ≤ b.1)

end FileSystem

end DocPages
