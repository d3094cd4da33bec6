import Std.Time.Format
import DocPages.Command.Run
/-! # The command line program

The settings file is read into a file system of its own, the command runs on that, and the files that
it wrote there are written to the disk. -/
set_option autoImplicit false
namespace DocPages

def OsError.message : OsError → String
  | .missing => "no such file or directory"
  | .alreadyExists => "file exists"
  | .isDirectory => "is a directory"
  | .notDirectory => "not a directory"
  | .nameTooLong => "file name too long"
  | .nullByte => "embedded null byte"

def PageError.message : PageError → String
  | .component e => e.message
  | .fragment e => e.message

def BuildError.message : BuildError → String
  | .page e => e.message
  | .markup e => e.message
  | .os e => e.message

namespace Command

def RunError.message : RunError → String
  | .usage _ => "usage: pages generate [--page KEY] [--config FILE] [--output-dir DIR]\n"
      ++ "       pages list [--config FILE]"
  | .config (.os e) => e.message
  | .config e => e.message?.getD "the settings file cannot be read"
  | .lookup e => e.message
  | .build e => e.message

def RunError.exitCode : RunError → UInt32
  | .usage _ => 2
  | _ => 1

def before (working : Location) (config : Path) (content : Option ByteArray) : FileSystem :=
  let start := FileSystem.new working
  match content with
  | none => start
  | some bytes =>
    let (_, fs) := Disk.makeDirectories config.parent start
    (fs.withFile config bytes).toOption.getD fs

def newFiles (old new : FileSystem) : List (Location × ByteArray) :=
  new.entries.entries.filterMap fun e =>
    match e.2, old.at? e.1 with
    | .file content, some (.file given) => if content.data == given.data then none else some (e.1, content)
    | .file content, _ => some (e.1, content)
    | .directory, _ => none

def onDisk (loc : Location) : String := "/" ++ String.intercalate "/" loc

def instantNow : IO Instant := do
  let stamp ← Std.Time.Timestamp.now
  let t := Std.Time.PlainDateTime.ofWallTime (.ofTimestamp stamp .zero)
  return ⟨t.date.year.toNat, t.date.month.val.toNat, t.date.day.val.toNat, t.time.hour.val.toNat,
    t.time.minute.val.toNat, t.time.second.val.toNat, t.time.nanosecond.val.toNat / 1000⟩

def environment : IO Environment := do
  let given ← [Setting.page, .config, .outputDir].filterMapM fun setting => do
    return (← IO.getEnv setting.variable).map fun value => (setting.variable, value)
  return .ofList given

def settingsFile (arguments : List String) (environment : Environment) : IO (Path × Option ByteArray) :=
  match Arguments.read arguments with
  | .error _ => return (defaultConfig, none)
  | .ok a => do
    let path := (Request.ofArguments a environment).config
    let content ← try some <$> IO.FS.readBinFile path.toString catch _ => pure none
    return (path, content)

def execute (arguments : List String) : IO UInt32 := do
  let environment ← environment
  let working := (Path.ofString (← IO.currentDir).toString).names
  let (config, content) ← settingsFile arguments environment
  let old := before working config content
  let (result, session) := run arguments environment (← instantNow) ⟨old, ""⟩
  for (loc, content) in newFiles old session.files do
    IO.FS.createDirAll (onDisk loc.dropLast)
    IO.FS.writeBinFile (onDisk loc) content
  IO.print session.output
  match result with
  | .ok () => return 0
  | .error e =>
    IO.eprintln e.message
    return e.exitCode

end Command
end DocPages

def main (arguments : List String) : IO UInt32 := DocPages.Command.execute arguments
