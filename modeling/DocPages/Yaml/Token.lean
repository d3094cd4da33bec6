import DocPages.Yaml.Error
import DocPages.Yaml.Source
/-! # Tokens of a document

The indentation of the block style shows up as explicit start and end tokens, and a key is marked
before its first token even where the text has no mark. -/
set_option autoImplicit false
namespace DocPages.Yaml

inductive Directive
  | version (major minor : Nat)
  | tag (handle tagStart : String)
  | other
  deriving DecidableEq

inductive Token
  | directive (d : Directive)
  | documentStart
  | documentEnd
  | blockSequenceStart
  | blockMappingStart
  | blockEnd
  | flowSequenceStart
  | flowSequenceEnd
  | flowMappingStart
  | flowMappingEnd
  | blockEntry
  | flowEntry
  | key
  | value
  | alias (name : String)
  | anchor (name : String)
  | tag (handle : Option String) (suffix : String)
  | scalar (text : String) (plain : Bool)
  deriving DecidableEq

end DocPages.Yaml
