import DocPages.Proofs.Action
import DocPages.Proofs.Site.Errors
import DocPages.Proofs.Text.Words
/-! # The normal form of settings

Settings that were read have no blanks around them (`isNormal_of_taken`), so a document in which they
are written down is read as the same settings (`ofValue_of_restates`).  What a text under `pages` counts
for is the list of its words (`ofValue_withField_pages`). -/
set_option autoImplicit false
namespace DocPages
open Yaml (Value)

namespace SiteConfig

/-- Settings that were read have no blanks around them, and neither the label nor a key is empty. -/
structure IsNormal (c : SiteConfig) : Prop where
  siteName : Text.strip c.siteName = c.siteName
  label : Text.IsTrimmed c.outboundLinkLabel
  pages : ∀ key ∈ c.pages, Text.IsTrimmed key

/-! ## Where settings come from -/

/-- The values that settings are taken from, and what they are taken to be. -/
structure Taken (top site : Entries) (c : SiteConfig) : Prop where
  directory : ∃ text, setting? (directoryOf site) = .ok (some text)
  label : ∃ given, setting? (labelOf site) = .ok given ∧
    c.outboundLinkLabel = given.getD OutboundLink.defaultLabel
  siteName : ∃ given, setting? (siteNameOf site) = .ok given ∧ c.siteName = given.getD ""
  outputDir : asPath (directoryOf site) = .ok c.outputDir
  pages : pageKeys (pagesOf top) = .ok c.pages
  separator : separatorOf (titleSeparatorOf site) = .ok c.titleSeparator

section Entries
variable {top site : Entries} {c : SiteConfig} {v : Value}

theorem ofEntries_eq_ok_iff : ofEntries top site = .ok c ↔ Taken top site c := by
  constructor
  · intro taken
    unfold ofEntries at taken
    obtain ⟨directory, set, taken⟩ := Action.bind_result_eq_ok taken
    obtain ⟨_, given, taken⟩ := Action.bind_result_eq_ok taken
    obtain ⟨label, setLabel, taken⟩ := Action.bind_result_eq_ok taken
    obtain ⟨siteName, setSiteName, taken⟩ := Action.bind_result_eq_ok taken
    obtain ⟨outputDir, path, taken⟩ := Action.bind_result_eq_ok taken
    obtain ⟨pages, keys, taken⟩ := Action.bind_result_eq_ok taken
    obtain ⟨separator, separates, taken⟩ := Action.bind_result_eq_ok taken
    cases taken
    cases directory with
    | none => cases given
    | some text =>
      exact ⟨⟨text, set⟩, ⟨label, setLabel, rfl⟩, ⟨siteName, setSiteName, rfl⟩, path, keys, separates⟩
  · rintro ⟨⟨text, set⟩, ⟨label, setLabel, labelled⟩, ⟨siteName, setSiteName, named⟩, path, keys,
      separates⟩
    rw [directoryOf] at set path
    rw [labelOf] at setLabel
    rw [siteNameOf] at setSiteName
    rw [pagesOf] at keys
    rw [titleSeparatorOf] at separates
    unfold ofEntries
    simp only [set, setLabel, setSiteName, path, keys, separates, bind, Except.bind, requireText]
    cases c
    subst labelled named
    rfl

theorem ofValue_eq_ok_iff : ofValue v = .ok c ↔ (entries? [] v).isSome ∧
    ∃ site, entries? (entriesOf v) (siteOf v) = some site ∧ Taken (entriesOf v) site c := by
  unfold ofValue
  cases found : entries? [] v with
  | none => simp
  | some top =>
    cases entries?_eq_entriesOf found
    dsimp only [siteOf]
    cases entries? (entriesOf v) (fieldOr (entriesOf v) "site" .null) with
    | none => simp
    | some site => simp [ofEntries_eq_ok_iff]

end Entries

/-! ## Settings that were read -/

section Read
variable {v : Value} {text : String}

theorem isTrimmed_of_trimmed? (some : trimmed? v = some text) : Text.IsTrimmed text := by
  unfold trimmed? at some
  split at some
  next => cases some
  next =>
    dsimp only at some
    split at some
    next => cases some
    next nonempty =>
      cases some
      exact ⟨by simpa using nonempty, Text.strip_strip _⟩

theorem mapM_setting?_eq_ok {items : List Value} {found : List (Option String)}
    (all : items.mapM setting? = .ok found) : found = items.map trimmed? := by
  induction items generalizing found with
  | nil =>
    cases all
    rfl
  | cons item items ih =>
    obtain ⟨given, rest, first, later, rfl⟩ := Action.mapM_cons_eq_ok all
    rw [eq_of_written first, ih later, List.map_cons]

theorem isTrimmed_of_pageKeys {keys : List String} (read : pageKeys v = .ok keys) :
    ∀ key ∈ keys, Text.IsTrimmed key := by
  intro key mem
  unfold pageKeys at read
  split at read
  next =>
    cases read
    cases mem
  next =>
    cases read
    exact Text.isTrimmed_of_mem_words mem
  next items =>
    obtain ⟨found, all, taken⟩ := Action.bind_result_eq_ok read
    cases taken
    rw [mapM_setting?_eq_ok all, List.filterMap_map] at mem
    obtain ⟨item, _, some⟩ := List.mem_filterMap.1 mem
    exact isTrimmed_of_trimmed? some
  next => cases read

theorem isNormal_of_taken {top site : Entries} {c : SiteConfig} (taken : Taken top site c) :
    c.IsNormal where
  siteName := by
    obtain ⟨given, read, named⟩ := taken.siteName
    rw [named]
    cases given with
    | none => rfl
    | some name => exact (isTrimmed_of_trimmed? (eq_of_written read).symm).2
  label := by
    obtain ⟨given, read, labelled⟩ := taken.label
    rw [labelled]
    cases given with
    | none => exact ⟨by decide +kernel, by decide +kernel⟩
    | some label => exact isTrimmed_of_trimmed? (eq_of_written read).symm
  pages := isTrimmed_of_pageKeys taken.pages

end Read

/-! ## Settings that are written down -/

section Restated
variable {keys : List String}

theorem setting?_text (s : String) :
    setting? (.text s) = .ok (if Text.strip s = "" then none else some (Text.strip s)) := by
  have writable : (Value.text s).isWritable = true := rfl
  rw [setting?, written, if_pos writable, trimmed?]
  · simp [Value.display]
  · simp

theorem setting?_trimmed {s : String} (trimmed : Text.IsTrimmed s) :
    setting? (.text s) = .ok (some s) := by
  rw [setting?_text, trimmed.2, if_neg trimmed.1]

theorem pageKeys_texts (trimmed : ∀ key ∈ keys, Text.IsTrimmed key) :
    pageKeys (.list (keys.map .text)) = .ok keys := by
  have each : (keys.map Value.text).map setting? = (keys.map some).map .ok := by
    rw [List.map_map, List.map_map]
    apply List.map_congr_left
    intro key mem
    exact setting?_trimmed (trimmed key mem)
  rw [pageKeys, Action.mapM_of_map each]
  simp [bind, Except.bind, pure, Except.pure]

/-- The entries of a site under which these settings stand, and a text for the output directory. -/
structure RestatesSite (c : SiteConfig) (directory : String) (site : Entries) : Prop where
  siteName : siteNameOf site = .text c.siteName
  label : labelOf site = .text c.outboundLinkLabel
  separator : titleSeparatorOf site = .text c.titleSeparator
  directory : directoryOf site = .text directory

/-- A mapping in which these settings stand, the keys in a list. -/
structure Restates (c : SiteConfig) (directory : String) (document : Value) : Prop where
  mapping : document.isMapping = true
  site : ∃ site, entries? (entriesOf document) (siteOf document) = some site ∧
    RestatesSite c directory site
  pages : pagesOf (entriesOf document) = .list (c.pages.map .text)

theorem ofValue_of_restates {c : SiteConfig} {directory : String} {document : Value}
    (normal : c.IsNormal) (valid : Text.strip directory ≠ "") (restates : Restates c directory document) :
    ofValue document = .ok { c with outputDir := .ofString directory } := by
  obtain ⟨top, found⟩ := exists_entries? [] restates.mapping
  obtain ⟨site, sited, restated⟩ := restates.site
  rw [ofValue_eq_ok_iff]
  refine ⟨by rw [found]; rfl, site, sited, ?_⟩
  constructor
  case directory =>
    rw [restated.directory, setting?_text, if_neg valid]
    exact ⟨_, rfl⟩
  case label =>
    rw [restated.label]
    exact ⟨_, setting?_trimmed normal.label, rfl⟩
  case siteName =>
    rw [restated.siteName]
    refine ⟨_, setting?_text _, ?_⟩
    rw [normal.siteName]
    split
    next empty => exact empty
    next => rfl
  case outputDir =>
    rw [restated.directory]
    rfl
  case pages =>
    rw [restates.pages]
    exact pageKeys_texts normal.pages
  case separator =>
    rw [restated.separator]
    rfl

end Restated

end SiteConfig

/-! ## Keys in one text -/

namespace Yaml.Value

def withField : Value → String → Value → Value
  | .mapping es, name, field => .mapping (putEntry (.text name) field es)
  | .ordered es, name, field => .ordered (putEntry (.text name) field es)
  | v, _, _ => v

theorem sameKey_text_iff {k : Value} {name : String} :
    k.sameKey (.text name) = true ↔ k = .text name := by
  cases k <;> simp [sameKey, sameNumber]

theorem sameKey_texts (name other : String) :
    (Value.text name).sameKey (.text other) = (name == other) := by
  rw [sameKey]

theorem field?_cons (k v : Value) (es : List (Value × Value)) (name : String) :
    field? ((k, v) :: es) name = if k.sameKey (.text name) then some v else field? es name := by
  unfold field?
  rw [List.find?_cons]
  cases k.sameKey (.text name) <;> rfl

theorem field?_putEntry (es : List (Value × Value)) (name other : String) (v : Value) :
    field? (putEntry (.text name) v es) other =
      if other = name then some v else field? es other := by
  induction es with
  | nil =>
    rw [putEntry, field?_cons, sameKey_texts]
    by_cases here : other = name
    · simp [here]
    · simp [here, Ne.symm here]
  | cons e es ih =>
    obtain ⟨k, w⟩ := e
    rw [putEntry]
    cases same : k.sameKey (.text name) with
    | true =>
      rw [if_pos rfl, field?_cons, field?_cons, sameKey_text_iff.1 same, sameKey_texts]
      by_cases here : other = name
      · simp [here]
      · simp [here, Ne.symm here]
    | false =>
      rw [if_neg Bool.false_ne_true, field?_cons, field?_cons, ih]
      by_cases here : other = name
      · rw [here, same]
        simp
      · simp [here]

end Yaml.Value

namespace SiteConfig

theorem pageKeys_text (s : String) : pageKeys (.text s) = pageKeys (.list ((Text.words s).map .text)) := by
  rw [pageKeys_texts fun key mem => Text.isTrimmed_of_mem_words mem]
  rfl

section Entries
variable {top top' site site' : Entries}

theorem fieldOr_putEntry (es : Entries) (name other : String) (v usual : Value) :
    fieldOr (Value.putEntry (.text name) v es) other usual =
      if other = name then v else fieldOr es other usual := by
  rw [fieldOr, Value.field?_putEntry]
  split <;> rfl

theorem ofEntries_congr (keys : pageKeys (pagesOf top) = pageKeys (pagesOf top'))
    (fields : ∀ name ≠ "pages", ∀ usual, fieldOr site name usual = fieldOr site' name usual) :
    ofEntries top site = ofEntries top' site' := by
  unfold pagesOf at keys
  unfold ofEntries
  rw [keys]
  simp only [fields _ (by decide : "output_dir" ≠ "pages"),
    fields _ (by decide : "outbound_link_label" ≠ "pages"),
    fields _ (by decide : "site_name" ≠ "pages"), fields _ (by decide : "title_separator" ≠ "pages")]

def ofTop (top : Entries) : Except ConfigError SiteConfig :=
  match entries? top (fieldOr top "site" .null) with
  | some site => ofEntries top site
  | none => .error .siteNotAMapping

theorem ofValue_of_entries {v : Value} (found : entries? [] v = some top) : ofValue v = ofTop top := by
  unfold ofValue ofTop
  rw [found]
  dsimp only
  cases entries? top (fieldOr top "site" .null) <;> rfl

theorem ofTop_putEntry_pages {v v' : Value} (keys : pageKeys v = pageKeys v') (es : Entries) :
    ofTop (Value.putEntry (.text "pages") v es) = ofTop (Value.putEntry (.text "pages") v' es) := by
  have pages : ∀ w, pagesOf (Value.putEntry (.text "pages") w es) = w := fun w => by
    rw [pagesOf, fieldOr_putEntry, if_pos rfl]
  have keys' : pageKeys (pagesOf (Value.putEntry (.text "pages") v es)) =
      pageKeys (pagesOf (Value.putEntry (.text "pages") v' es)) := by rw [pages, pages, keys]
  have others : ∀ w, ∀ name ≠ "pages", ∀ usual,
      fieldOr (Value.putEntry (.text "pages") w es) name usual = fieldOr es name usual :=
    fun w name other usual => by rw [fieldOr_putEntry, if_neg other]
  have same : ∀ site, ofEntries (Value.putEntry (.text "pages") v es) site =
      ofEntries (Value.putEntry (.text "pages") v' es) site := fun site =>
    ofEntries_congr keys' fun _ _ _ => rfl
  unfold ofTop
  rw [others v _ (by decide), others v' _ (by decide)]
  cases fieldOr es "site" .null with
  | loop isMapping =>
    cases isMapping with
    | false => rfl
    | true =>
      exact ofEntries_congr keys' fun name other usual =>
        (others v name other usual).trans (others v' name other usual).symm
  | mapping site => exact same site
  | ordered site => exact same site
  | _ =>
    dsimp only [entries?]
    split
    next => exact same _
    next => rfl

end Entries

theorem ofValue_withField_pages (document : Value) (s : String) :
    ofValue (document.withField "pages" (.text s)) =
      ofValue (document.withField "pages" (.list ((Text.words s).map .text))) := by
  have keys := pageKeys_text s
  cases document with
  | mapping es =>
    exact (ofValue_of_entries rfl).trans
      ((ofTop_putEntry_pages keys es).trans (ofValue_of_entries rfl).symm)
  | ordered es =>
    exact (ofValue_of_entries rfl).trans
      ((ofTop_putEntry_pages keys es).trans (ofValue_of_entries rfl).symm)
  | _ => rfl

/-- Settings that are taken from a document have no blanks around them, and a mapping in which they are
written down is read as the same settings.  Keys may be given in one text, as the list of the words that
it is made of. -/
theorem settings_in_normal_form (v : Value) (c : SiteConfig) (taken : ofValue v = .ok c) :
    (∀ read files path, Describes files path v read → load files path read = .ok c) ∧
    c.IsNormal ∧
    (∀ directory document, Text.strip directory ≠ "" → Restates c directory document →
      ofValue document = .ok { c with outputDir := .ofString directory }) ∧
    ∀ s : String, (∃ words : List String, Text.Spaced s.toList (words.map String.toList)) ∧
      ∀ words : List String, Text.Spaced s.toList (words.map String.toList) → ∀ document : Value,
        ofValue (document.withField "pages" (.text s)) =
          ofValue (document.withField "pages" (.list (words.map .text))) := by
  obtain ⟨_, site, _, given⟩ := ofValue_eq_ok_iff.1 taken
  have normal := isNormal_of_taken given
  refine ⟨?load, normal, ?again, ?words⟩
  case load =>
    intro read files path described
    rw [load_of_describes described, taken]
  case again =>
    intro directory document valid restates
    exact ofValue_of_restates normal valid restates
  case words =>
    intro s
    refine ⟨⟨_, Text.words_eq_iff.1 rfl⟩, fun words spaced document => ?_⟩
    rw [ofValue_withField_pages, Text.words_eq_iff.2 spaced]

/-- A document with blanks, a number and lists for its settings, the same settings written down, and its
keys in one text. -/
theorem settings_in_normal_form_mixed :
    let text := "site:\n  site_name: ' Docs\u2003'\n  title_separator: 5\n" ++
      "  outbound_link_label: [a, null]\npages: [' k ', null, [2]]\n"
    let again : Value := .mapping [
      (.text "pages", .list [.text "k", .text "[2]"]),
      (.text "site", .mapping [(.text "output_dir", .text " out "), (.text "title_separator", .text "5"),
        (.text "site_name", .text "Docs"), (.text "outbound_link_label", .text "['a', None]")])]
    ∃ v c, ofValue v = .ok c ∧ Describes (holding text) settingsPath v ∧
      load (holding text) settingsPath = .ok c ∧ c.IsNormal ∧ Restates c " out " again ∧
      ofValue again = .ok { c with outputDir := .ofString " out " } ∧
      Text.Spaced " k\u3000[2]\n".toList (["k", "[2]"].map String.toList) ∧
      ofValue (again.withField "pages" (.text " k\u3000[2]\n")) =
        ofValue (again.withField "pages" (.list [.text "k", .text "[2]"])) := by
  intro text again
  obtain ⟨v, described, read⟩ := exists_described text
    (p := fun v => ∃ c ∈ (ofValue v).toOption, c.siteName = "Docs" ∧ c.titleSeparator = "5" ∧
      c.outboundLinkLabel = "['a', None]" ∧ c.pages = ["k", "[2]"]) (by decide +kernel)
  obtain ⟨c, some, siteName, separator, label, pages⟩ := read
  have taken : ofValue v = .ok c := by
    cases result : ofValue v with
    | error e =>
      rw [result] at some
      cases some
    | ok _ =>
      rw [result] at some
      cases some
      rfl
  have restates : Restates c " out " again := by
    constructor
    case mapping => rfl
    case site => exact ⟨_, rfl, by rw [siteName]; rfl, by rw [label]; rfl, by rw [separator]; rfl, rfl⟩
    case pages =>
      rw [pages]
      rfl
  have spaced : Text.Spaced " k\u3000[2]\n".toList (["k", "[2]"].map String.toList) :=
    Text.words_eq_iff.1 (by decide +kernel)
  obtain ⟨loaded, normal, same, split⟩ := settings_in_normal_form v c taken
  exact ⟨v, c, taken, described, loaded Yaml.read _ _ described, normal, restates,
    same " out " again (by decide +kernel) restates, spaced, (split _).2 _ spaced again⟩

end SiteConfig
end DocPages
