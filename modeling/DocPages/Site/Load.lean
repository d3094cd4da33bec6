import DocPages.FileSystem
import DocPages.Site.Config
import DocPages.Yaml.Read
/-! # Site settings from documents

The settings of a site are read from the document in a file.  Under `site` stand the settings of all
pages, under `pages` the keys of those to build.  Values that are not texts count by their texts, and
blanks around a setting do not count, except for the title separator. -/
set_option autoImplicit false
namespace DocPages

inductive ConfigError
  | missing (path : Path)
  | os (e : OsError)
  /-- the bytes of the file are no text -/
  | notText
  | document (e : Yaml.Error)
  | notAMapping
  | siteNotAMapping
  | emptyOutputDir
  | pagesNotAList
  /-- the output directory is a value of a kind that names no path -/
  | notAPath (kind : String)
  deriving DecidableEq

def ConfigError.message? : ConfigError → Option String
  | .missing path => some ("Configuration file '" ++ path.toString ++ "' not found.")
  | .os _ => none
  | .notText => none
  | .document e => e.message?
  | .notAMapping => some "Top-level YAML structure must be a mapping."
  | .siteNotAMapping => some "'site' must be a mapping."
  | .emptyOutputDir => some "'output_dir' must not be empty."
  | .pagesNotAList => some "'pages' must be a list of page keys."
  | .notAPath "bytes" =>
    some ("argument should be a str object or an os.PathLike object returning str, "
      ++ "not <class 'bytes'>")
  | .notAPath kind => some ("expected str, bytes or os.PathLike object, not " ++ kind)

namespace SiteConfig

def trimmed? : Yaml.Value → Option String
  | .null => none
  | v =>
    let text := Text.strip v.display
    if text.isEmpty then none else some text

/-- What is made of the text of a value, which has none if a number in it has too many digits. -/
def written {α : Type} (v : Yaml.Value) (made : α) : Except ConfigError α :=
  if v.isWritable then .ok made else .error (.document .tooManyDigitsToWrite)

def setting? (v : Yaml.Value) : Except ConfigError (Option String) := written v (trimmed? v)

/-- The entries of a mapping.  A value that is absent has none, and a mapping that contains itself is the
whole document. -/
def entries? (whole : List (Yaml.Value × Yaml.Value)) :
    Yaml.Value → Option (List (Yaml.Value × Yaml.Value))
  | .mapping es => some es
  | .ordered es => some es
  | .loop true => some whole
  | v => if v.isAbsent then some [] else none

def pageKeys : Yaml.Value → Except ConfigError (List String)
  | .null => .ok []
  | .text s => .ok (Text.words s)
  | .list items => return (← items.mapM setting?).filterMap id
  | _ => .error .pagesNotAList

def asPath : Yaml.Value → Except ConfigError Path
  | .text s => .ok (Path.ofString s)
  | v => .error (.notAPath v.kind)

def separatorOf : Yaml.Value → Except ConfigError String
  | .null => .ok ({} : SiteConfig).titleSeparator
  | v => written v v.display

def requireText : Option String → Except ConfigError Unit
  | none => .error .emptyOutputDir
  | some _ => .ok ()

def fieldOr (entries : List (Yaml.Value × Yaml.Value)) (name : String) (usual : Yaml.Value) :
    Yaml.Value :=
  (Yaml.Value.field? entries name).getD usual

def ofEntries (top site : List (Yaml.Value × Yaml.Value)) : Except ConfigError SiteConfig := do
  let usual : SiteConfig := {}
  let directory := fieldOr site "output_dir" (.text usual.outputDir.toString)
  requireText (← setting? directory)
  let label ← setting? (fieldOr site "outbound_link_label" .null)
  let siteName ← setting? (fieldOr site "site_name" (.text usual.siteName))
  return {
    siteName := siteName.getD ""
    outputDir := ← asPath directory
    pages := ← pageKeys (fieldOr top "pages" .null)
    outboundLinkLabel := label.getD usual.outboundLinkLabel
    titleSeparator := ← separatorOf (fieldOr site "title_separator" .null) }

def ofValue (document : Yaml.Value) : Except ConfigError SiteConfig := do
  let some top := entries? [] document | .error .notAMapping
  let some site := entries? top (fieldOr top "site" .null) | .error .siteNotAMapping
  ofEntries top site

abbrev Reader := String → Except Yaml.Error Yaml.Value

def ofBytes (content : ByteArray) (read : Reader := Yaml.read) : Except ConfigError SiteConfig := do
  let some text := String.fromUTF8? content | .error .notText
  ofValue (← (read text).mapError .document)

/-- The settings in a file.  Nothing depends on how a document is read but its value. -/
def load (files : FileSystem) (path : Path) (read : Reader := Yaml.read) :
    Except ConfigError SiteConfig := do
  if !(← (files.holds path).mapError .os) then .error (.missing path)
  ofBytes (← (files.read path).mapError .os) read

end SiteConfig
end DocPages
