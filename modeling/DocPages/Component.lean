import DocPages.Node.Basic
import DocPages.Text.Quoted
/-! # Shared components

A component has a name and renders to a tree.  The one that comes with the library marks links that
leave the site: an icon and a label for screen readers. -/
set_option autoImplicit false
namespace DocPages

structure Component where
  identity : Identity
  name : String
  body : Node
  deriving Inhabited

def Component.node (c : Component) : Node := .component c.identity c.name c.body

structure OutboundLink where
  label : String

namespace OutboundLink

def name : String := "OutboundLink"

def defaultLabel : String := "open in new window"

def iconPath : String :=
  "M18.8,85.1h56l0,0c2.3,0,4.2-1.9,4.2-4.2l0,0V56.9l0,0c0-2.3-1.9-4.2-4.2-4.2"
    ++ "l0,0c-2.3,0-4.2,1.9-4.2,4.2v24.2H23V28.6h24.2c2.3,0,4.2-1.9,4.2-4.2l0,0"
    ++ "c0-2.3-1.9-4.2-4.2-4.2l0,0H18.8c-2.3,0-4.2,1.9-4.2,4.2v56"
    ++ "C14.6,83.2,16.5,85.1,18.8,85.1z"

def iconPoints : String :=
  "45.7,48.7 51.3,54.3 77.2,28.5 77.2,37.2 85.2,37.2 85.2,14.9 "
    ++ "62.8,14.9 62.8,22.9 71.5,22.9"

def icon : Node :=
  .element "svg"
    [("class", "external-link-icon"), ("xmlns", "http://www.w3.org/2000/svg"),
      ("aria-hidden", "true"), ("focusable", "false"), ("x", "0px"), ("y", "0px"),
      ("viewBox", "0 0 100 100"), ("width", "15"), ("height", "15")]
    [.element "path" [("fill", "currentColor"), ("d", iconPath)] [],
      .element "polygon" [("fill", "currentColor"), ("points", iconPoints)] []]

def node (link : OutboundLink) : Node :=
  .element "span" []
    [icon, .element "span" [("class", "external-link-icon-sr-only")] [.text link.label]]

def component (identity : Identity) (link : OutboundLink) : Component :=
  ⟨identity, name, link.node⟩

def description (link : OutboundLink) : String :=
  "OutboundLink(sr_label=" ++ Text.quoted link.label ++ ")"

end OutboundLink
end DocPages
