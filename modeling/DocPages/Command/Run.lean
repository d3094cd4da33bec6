import DocPages.Build
import DocPages.Command.Arguments
import DocPages.Page.Frontend
import DocPages.Site.Load
/-! # Running a command

What is not given as an option is taken from the environment.  Both actions read the site's settings
and select the same pages: those that the settings list, or all of the index.  `generate` looks up
every page before it writes the first; `list` prints a line for each until a key is unknown. -/
set_option autoImplicit false
namespace DocPages.Command

abbrev Environment := Table String String

structure Request where
  action : Action
  /-- the only page to generate -/
  page : Option String
  config : Path
  outputDir : Option Path

inductive RunError
  | usage (e : UsageError)
  | config (e : ConfigError)
  | lookup (e : LookupError)
  | build (e : BuildError)

/-- The files and what has been printed so far. -/
structure Session where
  files : FileSystem
  output : String

abbrev Running := ExceptT RunError (StateM Session)

def Setting.variable : Setting → String
  | .page => "INPUT_PAGE"
  | .config => "INPUT_CONFIG"
  | .outputDir => "INPUT_OUTPUT_DIR"

def defaultConfig : Path := Path.ofString "config/pages.yaml"

namespace Request

def value? (a : Arguments) (environment : Environment) (setting : Setting) : Option String :=
  (a.values.find? setting).or (environment.find? setting.variable)

/-- An empty page key asks for no page in particular. -/
def ofArguments (a : Arguments) (environment : Environment) : Request :=
  let value := value? a environment
  { action := a.action
    page := (value .page).filter fun key => !key.isEmpty
    config := ((value .config).map Path.ofString).getD defaultConfig
    outputDir := (value .outputDir).map Path.ofString }

/-- Only the usual settings file may be absent. -/
def site (r : Request) (files : FileSystem) : Except ConfigError SiteConfig := do
  if r.config = defaultConfig && !(← (files.holds r.config).mapError .os) then return {}
  else SiteConfig.load files r.config

end Request

def selectedKeys (index : PageIndex) (site : SiteConfig) : List String :=
  if site.pages.isEmpty then index.descriptors.map (·.key) else site.pages

def targets (index : PageIndex) (site : SiteConfig) (page : Option String) :
    Except LookupError (List Page) :=
  match page with
  | some key => (index.get key).map fun p => [p]
  | none => if site.pages.isEmpty then .ok index.pages else site.pages.mapM index.get

def listLine (d : Descriptor) : String := d.key ++ "\t" ++ d.path ++ "\t" ++ d.title

def writtenLine (path working : Path) : String := "wrote " ++ (path.display working).toString

def print (line : String) : Running Unit :=
  modify fun s => { s with output := s.output ++ line ++ "\n" }

def orFail {ε α : Type} (wrap : ε → RunError) (r : Except ε α) : Running α :=
  (r.mapError wrap : Except RunError α)

def onFiles {α : Type} (action : Building α) : Running α := fun s =>
  match action s.files with
  | (.ok a, files) => (.ok a, { s with files := files })
  | (.error e, files) => (.error (.build e), { s with files := files })

def generatePage (site : SiteConfig) (outputDir : Option Path) (now : Instant) (page : Page) :
    Running Unit := do
  let written ← onFiles (PageBuild.new page site none outputDir now).run
  print (writtenLine written (← get).files.workingPath)

def generate (index : PageIndex) (site : SiteConfig) (page : Option String)
    (outputDir : Option Path) (now : Instant) : Running Unit := do
  let pages ← orFail .lookup (targets index site page)
  pages.forM (generatePage site outputDir now)

def list (index : PageIndex) (site : SiteConfig) : Running Unit :=
  (selectedKeys index site).forM fun key => do
    let page ← orFail .lookup (index.get key)
    print (listLine page.descriptor)

def perform (index : PageIndex) (r : Request) (now : Instant) : Running Unit := do
  let site ← orFail .config (r.site (← get).files)
  match r.action with
  | .generate => generate index site r.page r.outputDir now
  | .list => list index site

def run (arguments : List String) (environment : Environment) (now : Instant) : Running Unit := do
  let a ← orFail .usage (Arguments.read arguments)
  perform Frontend.standardIndex (.ofArguments a environment) now

end DocPages.Command
