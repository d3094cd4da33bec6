import DocPages.Page.Index
/-! # The frontend page

The page that comes with the library.  Its parts without links to other sites are static fragments,
built once in a cache; the warning and the download list hold the outbound-link marker of the context
and are made anew at each rendering. -/
set_option autoImplicit false
namespace DocPages.Frontend

def licenseUrl : String := "https://downloads.rport.io/frontend/license.html"

def downloadUrl : String := "https://downloads.rport.io/frontend/stable/?sort=time&order=desc"

def apiAuthenticationUrl : String :=
  "https://github.com/cloudradar-monitoring/rport/blob/master/docs/api-auth.md"

def fields : PageFields where
  key := "v-79a3b5bd"
  path := "/docs/no07-frontend.html"
  title := "Rport Frontend"
  language := "en-DE"
  headers := [⟨2, "Installing the frontend", "installing-the-frontend", []⟩]
  sourcePath := "docs/no07-frontend.md"

def descriptor : Descriptor :=
  { fields with
    nodup_slugs := by simp [fields, Header.slugs, Header.walkAll, Header.walk] }

/-! ## Static parts -/

def heading : Node :=
  .element "h1" [("id", "rport-frontend")]
    [.element "a" [("class", "header-anchor"), ("href", "#rport-frontend")] [.text "#"],
      .text " Rport Frontend"]

def intro : Node :=
  .element "p" []
    [.text ("Rport comes with a web-based graphical user interface (frontend) "
      ++ "which is distributed as a separate bundle.")]

def warningTitle : Node :=
  .element "p" [("class", "custom-container-title")] [.text "WARNING"]

def licenseNotice : Node :=
  .element "p" []
    [.text ("Only the rport command-line tools – rport server and rport client – are "
      ++ "released under the open-source MIT license. The optional graphical user "
      ++ "interface "),
      .element "strong" [] [.text "is NOT open-source"],
      .text ", and free to use only under certain circumstances."]

def commercialUses : Node :=
  .element "ul" []
    [.element "li" []
      [.text ("Building a SaaS product or offering a hosted version of rport, "
        ++ "either paid or free.")],
      .element "li" []
        [.text ("Running rport and the UI and granting customers access to it, "
          ++ "either paid or free.")]]

def installationHtml : String :=
  "<h2 id=\"installing-the-frontend\"><a class=\"header-anchor\" "
    ++ "href=\"#installing-the-frontend\">#</a> Installing the frontend</h2>"
    ++ "<p>The frontend comes as a minified and compressed bundle of Javascript "
    ++ "files and all needed assets. The frontend does not require any "
    ++ "server-side scripting support. The rport server provides static file "
    ++ "serving for that purpose.</p>"
    ++ "<p>Make sure you have the below options enabled in <code>[api]</code> "
    ++ "section of the <code>rportd.conf</code>.</p>"
    ++ "<div class=\"language-text ext-text line-numbers-mode\">"
    ++ "<pre class=\"language-text\"><code>doc_root = &quot;/var/lib/rport/docroot&quot;\n"
    ++ "</code></pre><div class=\"line-numbers\"><span class=\"line-number\">1</span>"
    ++ "<br></div></div>"

def installation : Node := .static installationHtml 4

def unpackStep : Node :=
  .element "li" []
    [.text "Unpack to the ", .element "code" [] [.text "doc_root"], .text " folder."]

def openStep : Node := .element "li" [] [.text "Open the API-URL in a browser."]

def closing : Node := .element "p" [] [.text "You are done."]

def making (node : Node) : Builder := fun call => .ok ⟨call.fresh, node⟩

def builders : Table String Builder :=
  .ofList [("heading", making heading), ("intro", making intro),
    ("warning-title", making warningTitle), ("license-notice", making licenseNotice),
    ("commercial-uses", making commercialUses), ("installation", making installation),
    ("unpack-step", making unpackStep), ("open-step", making openStep), ("closing", making closing)]

def newCache : FragmentCache := .new builders 0

/-! ## Parts around the marker -/

def outbound (href label : String) (marker : Component) : Node :=
  .element "a" [("href", href), ("target", "_blank"), ("rel", "noopener noreferrer")]
    [.text label, marker.node]

def coverage (marker : Component) : Node :=
  .element "p" []
    [.text "In short, the following is not covered by the ",
      outbound licenseUrl "license" marker,
      .text " and requires acquiring a commercial license."]

def companyUse (marker : Component) : Node :=
  .element "p" []
    [.text ("Free usage in a company is allowed, as long as only employees of the "
      ++ "company have access to rport. "),
      outbound licenseUrl "Read the full license" marker,
      .text ". The uncompressed source code is not published."]

def downloadStep (marker : Component) : Node :=
  .element "li" []
    [.text "Download the latest release of the frontend from ",
      outbound downloadUrl "https://downloads.rport.io/frontend/stable" marker,
      .text "."]

def loginStep (marker : Component) : Node :=
  .element "li" []
    [.text "Log in with a username and password specified for the ",
      outbound apiAuthenticationUrl "API authentication" marker,
      .text "."]

/-! ## Rendering -/

/-- A node in which the identities of its object and, for an element, of its children are kept. -/
inductive Tracked
  | object (o : Object)
  | element (identity : Identity) (tag : String) (attributes : Attributes) (children : List Object)

def Tracked.identity : Tracked → Identity
  | .object o => o.identity
  | .element i _ _ _ => i

def Tracked.node : Tracked → Node
  | .object o => o.node
  | .element _ tag attributes children => .element tag attributes (children.map Object.node)

def Tracked.children : Tracked → List Object
  | .object _ => []
  | .element _ _ _ children => children

abbrev Rendering := ExceptT PageError (StateM FragmentCache)

def fragment (name : String) : Rendering Object := fun cache =>
  match cache.get name with
  | (cache, .ok o) => (.ok o, cache)
  | (cache, .error e) => (.error (.fragment e), cache)

def fresh : Rendering Identity := fun cache =>
  (.ok cache.nextIdentity, { cache with nextIdentity := cache.nextIdentity + 1 })

def newObject (node : Node) : Rendering Object := do
  let identity ← fresh
  return ⟨identity, node⟩

def warning (marker : Component) : Rendering Tracked := do
  let title ← fragment "warning-title"
  let notice ← fragment "license-notice"
  let coverage ← newObject (coverage marker)
  let uses ← fragment "commercial-uses"
  let company ← newObject (companyUse marker)
  let identity ← fresh
  return .element identity "div" [("class", "custom-container warning")]
    [title, notice, coverage, uses, company]

def downloadSteps (marker : Component) : Rendering Tracked := do
  let download ← newObject (downloadStep marker)
  let unpack ← fragment "unpack-step"
  let openUrl ← fragment "open-step"
  let login ← newObject (loginStep marker)
  let identity ← fresh
  return .element identity "ul" [] [download, unpack, openUrl, login]

/-- The top-level nodes in authored order.  Nothing is built when the context lacks the marker. -/
def renderTracked (context : Context) : Rendering (List Tracked) := do
  let marker ← (match context.resolve OutboundLink.name with
    | .ok marker => pure marker
    | .error e => throw (.component e) : Rendering Component)
  let heading ← fragment "heading"
  let intro ← fragment "intro"
  let warning ← warning marker
  let installation ← fragment "installation"
  let steps ← downloadSteps marker
  let closing ← fragment "closing"
  return [.object heading, .object intro, warning, .object installation, steps, .object closing]

def treeOf (nodes : List Tracked) : Node := .fragment (nodes.map Tracked.node)

def render (context : Context) : Except PageError Node :=
  ((renderTracked context).run newCache).1.map treeOf

def page : Page := ⟨0, descriptor, render⟩

def standardIndex : PageIndex :=
  ⟨.ofList [(page.key, page)], .ofList [(page.descriptor.path, page)]⟩

end DocPages.Frontend
