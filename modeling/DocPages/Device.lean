import DocPages.FileSystem
/-! # Devices

A file is written in three steps: opening empties it or makes it, the text is encoded, and the bytes
are put into it.  A device may fail at each of them although the files allow it, and what was done
before stays done. -/
set_option autoImplicit false
namespace DocPages

/-- Operations leave what they did behind when they fail. -/
abbrev DiskOn (ε : Type) := ExceptT ε (StateM FileSystem)

abbrev Disk := DiskOn OsError

/-- What may keep an operation from what the files allow. -/
structure Device (ε : Type) where
  told : OsError → ε
  refusesDirectory : FileSystem → Path → Option ε
  refusesFile : FileSystem → Path → Option ε
  /-- a text that has no encoding -/
  refusesText : String → Option ε
  /-- how many of the bytes get to the file before writing fails -/
  stops : FileSystem → Location → ByteArray → Option (Nat × ε)

namespace Device

def faultless : Device OsError where
  told e := e
  refusesDirectory _ _ := none
  refusesFile _ _ := none
  refusesText _ := none
  stops _ _ _ := none

variable {ε : Type} (w : Device ε)

def makeLast (p : Path) : DiskOn ε Unit := fun fs =>
  let failed (e : ε) : Except ε Unit × FileSystem :=
    if fs.isDirectory p then (.ok (), fs) else (.error e, fs)
  match w.refusesDirectory fs p with
  | some e => failed e
  | none =>
    match fs.withDirectory p with
    | .ok after => (.ok (), after)
    | .error e => failed (w.told e)

def lacksParent (fs : FileSystem) (p : Path) : Bool :=
  match w.refusesDirectory fs p, fs.withDirectory p with
  | none, .error .missing => true
  | _, _ => false

/-- Makes a directory and, where they are missing, those that hold it.  A directory that is there
already is accepted. -/
def makeDirectories (p : Path) : DiskOn ε Unit := fun fs =>
  if _h : p.names ≠ [] ∧ w.lacksParent fs p = true then
    (makeDirectories p.parent >>= fun _ => w.makeLast p) fs
  else w.makeLast p fs
termination_by p.names.length
decreasing_by
  simp only [Path.parent, List.length_dropLast]
  have := List.length_pos_iff.2 _h.1
  omega

/-- Opens a file for writing, so that there is an empty one. -/
def openFile (p : Path) : DiskOn ε Location := fun fs =>
  match w.refusesFile fs p with
  | some e => (.error e, fs)
  | none =>
    match fs.fileAt p with
    | .ok loc => (.ok loc, fs.set loc (.file .empty))
    | .error e => (.error (w.told e), fs)

/-- Puts bytes into an open file, or as many of them as the device takes. -/
def put (loc : Location) (content : ByteArray) : DiskOn ε Unit := fun fs =>
  match w.stops fs loc content with
  | none => (.ok (), fs.set loc (.file content))
  | some (n, e) => (.error e, fs.set loc (.file (content.extract 0 n)))

def fill (loc : Location) (text : String) : DiskOn ε Unit := fun fs =>
  match w.refusesText text with
  | some e => (.error e, fs)
  | none => w.put loc text.toUTF8 fs

def writeFile (p : Path) (text : String) : DiskOn ε Unit := do
  let loc ← w.openFile p
  w.fill loc text

end Device

namespace Disk

def makeDirectories : Path → Disk Unit := Device.faultless.makeDirectories

def writeFile : Path → String → Disk Unit := Device.faultless.writeFile

end Disk
end DocPages
