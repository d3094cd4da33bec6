import DocPages.Context
import DocPages.Device
import DocPages.Document
import DocPages.Json.Write
import DocPages.Markup
import DocPages.Page.Basic
import DocPages.Site.Config
/-! # Building pages

A page is rendered in a context, set into the document shell, and written to the file that its route
names below the output directory.  Its descriptor is written beside it as a data file.  Nothing is
written before the whole document is there, but what is written then stays if a later step fails.  On
a platform any step may fail (`runOn`); `run` meets only what the files themselves forbid. -/
set_option autoImplicit false
namespace DocPages

inductive BuildError (ε : Type := OsError)
  | page (e : PageError)
  | markup (e : Markup.Error)
  | os (e : ε)
  deriving DecidableEq

def BuildError.map {ε ε' : Type} (f : ε → ε') : BuildError ε → BuildError ε'
  | .page e => .page e
  | .markup e => .markup e
  | .os e => .os (f e)

/-- A device, and the payloads that have no JSON text. -/
structure Platform (ε : Type) extends Device ε where
  refusesData : Data → Option ε

def Platform.faultless : Platform OsError := { Device.faultless with refusesData := fun _ => none }

structure PageBuild where
  page : Page
  site : SiteConfig
  context : Context
  outputDir : Path
  now : Instant

abbrev BuildingOn (ε : Type) := ExceptT (BuildError ε) (StateM FileSystem)

abbrev Building := BuildingOn OsError

namespace PageBuild

def new (page : Page) (site : SiteConfig) (context : Option Context) (outputDir : Option Path)
    (now : Instant) : PageBuild :=
  ⟨page, site, context.getD (.standard 0 site.outboundLinkLabel), outputDir.getD site.outputDir, now⟩

def outputPath (b : PageBuild) : Path := b.outputDir.join (.ofRoute b.page.descriptor.path)

def dataName (b : PageBuild) : String := ".rport-pages-" ++ b.page.key ++ "-data.json"

def dataPath (b : PageBuild) (directory : Path) : Path := directory.join (.ofString b.dataName)

def document (b : PageBuild) : Except BuildError Document := do
  let d := b.page.descriptor
  let tree ← (b.page.render b.context).mapError .page
  let content ← (Markup.render tree).mapError .markup
  return ⟨d.language, d.excerpt, b.site.documentTitle d.title, d.key, d.headers, content,
    b.site.siteName, b.now⟩

def render (b : PageBuild) : Except BuildError String := b.document.map Document.write

def data (b : PageBuild) : String := Json.document b.page.descriptor.toData

section Writing
variable {ε : Type}

def onDisk (action : DiskOn ε Unit) : BuildingOn ε Unit := fun fs =>
  match action fs with
  | (.ok (), fs) => (.ok (), fs)
  | (.error e, fs) => (.error (.os e), fs)

def dataOn (w : Platform ε) (b : PageBuild) : Except (BuildError ε) String :=
  match w.refusesData b.page.descriptor.toData with
  | some e => .error (.os e)
  | none => .ok b.data

def writeDataOn (w : Platform ε) (b : PageBuild) (directory : Path) : BuildingOn ε Path := do
  let data ← b.dataOn w
  onDisk (w.writeFile (b.dataPath directory) data)
  return b.dataPath directory

/-- Writes document and data file and returns the document's path. -/
def runOn (w : Platform ε) (b : PageBuild) : BuildingOn ε Path := do
  let html ← b.render.mapError (BuildError.map w.told)
  onDisk (w.makeDirectories b.outputPath.parent)
  onDisk (w.writeFile b.outputPath html)
  let _ ← b.writeDataOn w b.outputPath.parent
  return b.outputPath

end Writing

def writeData (b : PageBuild) (directory : Path) : Building Path := b.writeDataOn .faultless directory

def run (b : PageBuild) : Building Path := b.runOn .faultless

end PageBuild
end DocPages
