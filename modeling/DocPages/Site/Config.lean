import DocPages.Component
import DocPages.Path
/-! # Site settings

What the pages of a site have in common: its name, where documents go, which pages are built, and the
texts around links and titles. -/
set_option autoImplicit false
namespace DocPages

structure SiteConfig where
  siteName : String := "Rport"
  outputDir : Path := Path.ofString "public"
  /-- keys of the pages to build; empty means every page of the index -/
  pages : List String := []
  outboundLinkLabel : String := OutboundLink.defaultLabel
  titleSeparator : String := " | "

/-- The title of a document: that of the page, and the site's name behind it unless that is empty. -/
def SiteConfig.documentTitle (site : SiteConfig) (title : String) : String :=
  if site.siteName.isEmpty then title else title ++ site.titleSeparator ++ site.siteName

end DocPages
