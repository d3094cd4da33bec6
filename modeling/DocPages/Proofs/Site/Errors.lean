import Mathlib.Tactic.MkIffOfInductiveProp
import DocPages.Proofs.Action
import DocPages.Proofs.Site.Faults
/-! # Which errors a document of settings has

An error of kind is meant for a document that is no mapping.  A mapping has an invalid setting at most,
and a site that is no mapping is told as such.  That holds of a document exactly if neither it nor its
site is taken for null without being it, its output directory is a text or blank, and no number that is
needed is too long for a text (`errorsFitKinds_iff_orderly`). -/
set_option autoImplicit false
namespace DocPages
open Yaml (Value)

def ConfigError.isOfKind : ConfigError → Bool
  | .notAMapping => true
  | .notAPath _ => true
  | .document (.unhashable _) => true
  | _ => false

def ConfigError.isOfSetting : ConfigError → Bool
  | .siteNotAMapping => true
  | .emptyOutputDir => true
  | .pagesNotAList => true
  | _ => false

namespace Yaml.Value

def isMapping : Value → Bool
  | .mapping _ => true
  | .ordered _ => true
  | .loop isMapping => isMapping
  | _ => false

def isNullOrMapping : Value → Bool
  | .null => true
  | v => v.isMapping

def isText : Value → Bool
  | .text _ => true
  | _ => false

end Yaml.Value

namespace SiteConfig

/-- Errors of kind are those of documents that are no mapping, a mapping has at most an invalid setting,
and a site that is given and no mapping is told as such. -/
structure ErrorsFitKinds (document : Value) (outcome : Except ConfigError SiteConfig) : Prop where
  kind : (∃ e, outcome = .error e ∧ e.isOfKind = true) ↔ document.isNullOrMapping = false
  settled : document.isMapping = true →
    (∃ settings, outcome = .ok settings) ∨ ∃ e, outcome = .error e ∧ e.isOfSetting = true
  site : document.isMapping = true → (siteOf document).isNullOrMapping = false →
    outcome = .error .siteNotAMapping

def listsPages : Value → Bool
  | .null => true
  | .text _ => true
  | .list _ => true
  | _ => false

def itemsWritable : Value → Bool
  | .list items => items.all Value.isWritable
  | _ => true

/-- The output directory is blank, or it is a text and all settings that are needed have texts. -/
@[mk_iff]
structure Answerable (top site : Entries) : Prop where
  directory : (directoryOf site).isWritable = true
  given : (trimmed? (directoryOf site)).isNone = false → (directoryOf site).isText = true ∧
    (labelOf site).isWritable = true ∧ (siteNameOf site).isWritable = true ∧
    itemsWritable (pagesOf top) = true ∧
    (listsPages (pagesOf top) = true → (titleSeparatorOf site).isWritable = true)

/-- Neither the document nor its site is taken for null without being it, and the settings can be
answered. -/
@[mk_iff]
structure Orderly (document : Value) : Prop where
  whole : document.isAbsent = true → document.isNullOrMapping = true
  site : document.isMapping = true → (siteOf document).isAbsent = true →
    (siteOf document).isNullOrMapping = true
  settings : document.isMapping = true →
    ∀ site ∈ entries? (entriesOf document) (siteOf document), Answerable (entriesOf document) site

instance (top site : Entries) : Decidable (Answerable top site) :=
  decidable_of_iff' _ (answerable_iff top site)

instance (document : Value) : Decidable (Orderly document) :=
  decidable_of_iff' _ (orderly_iff document)

/-- The first of the faults, if there is one, is an invalid setting. -/
def FirstOfSetting (faults : List ConfigError) : Prop :=
  ∀ e, faults.head? = some e → e.isOfSetting = true

section First
variable (v : Value) (faults later : List ConfigError)

theorem firstOfSetting_append : FirstOfSetting (faults ++ later) ↔
    FirstOfSetting faults ∧ (faults = [] → FirstOfSetting later) := by
  cases faults with
  | nil => simp [FirstOfSetting]
  | cons e rest => simp [FirstOfSetting]

theorem textFaults_eq_nil_iff : textFaults v = [] ↔ v.isWritable = true := by
  simp [textFaults]

theorem firstOfSetting_textFaults : FirstOfSetting (textFaults v) ↔ v.isWritable = true := by
  unfold textFaults
  split
  next writable => simp [FirstOfSetting, writable]
  next long => simp [FirstOfSetting, ConfigError.isOfSetting, long]

theorem blankFaults_eq_nil_iff : blankFaults v = [] ↔ (trimmed? v).isNone = false := by
  cases blank : trimmed? v <;> simp [blankFaults, blank]

theorem firstOfSetting_blankFaults : FirstOfSetting (blankFaults v) := by
  unfold blankFaults
  split <;> simp [FirstOfSetting, ConfigError.isOfSetting]

theorem pathFaults_eq_nil_iff : pathFaults v = [] ↔ v.isText = true := by
  cases v <;> simp [pathFaults, Value.isText]

theorem firstOfSetting_pathFaults : FirstOfSetting (pathFaults v) ↔ v.isText = true := by
  cases v <;> simp [pathFaults, Value.isText, FirstOfSetting, ConfigError.isOfSetting]

theorem pagesFaults_eq_nil_iff :
    pagesFaults v = [] ↔ itemsWritable v = true ∧ listsPages v = true := by
  cases v <;> simp [pagesFaults, itemsWritable, listsPages, textFaults_eq_nil_iff]

theorem firstOfSetting_itemFaults (items : List Value) :
    FirstOfSetting (items.flatMap textFaults) ↔ items.all Value.isWritable = true := by
  induction items with
  | nil => simp [FirstOfSetting]
  | cons item items ih =>
    rw [List.flatMap_cons, firstOfSetting_append, firstOfSetting_textFaults, textFaults_eq_nil_iff, ih,
      List.all_cons, Bool.and_eq_true, and_congr_right_iff]
    exact fun writable => ⟨fun rest => rest writable, fun rest _ => rest⟩

theorem firstOfSetting_pagesFaults : FirstOfSetting (pagesFaults v) ↔ itemsWritable v = true := by
  cases v with
  | list items => exact firstOfSetting_itemFaults items
  | _ => simp [pagesFaults, itemsWritable, FirstOfSetting, ConfigError.isOfSetting]

theorem firstOfSetting_settingsFaults (top site : Entries) :
    FirstOfSetting (settingsFaults top site) ↔ Answerable top site := by
  simp only [settingsFaults, firstOfSetting_append, firstOfSetting_textFaults, textFaults_eq_nil_iff,
    firstOfSetting_blankFaults, blankFaults_eq_nil_iff, firstOfSetting_pathFaults,
    pathFaults_eq_nil_iff, firstOfSetting_pagesFaults, pagesFaults_eq_nil_iff]
  constructor
  · rintro ⟨directory, rest⟩
    refine ⟨directory, fun given => ?_⟩
    obtain ⟨label, rest⟩ := (rest directory).2 given
    obtain ⟨siteName, rest⟩ := rest label
    obtain ⟨text, rest⟩ := rest siteName
    obtain ⟨items, rest⟩ := rest text
    exact ⟨text, label, siteName, items, fun lists => rest ⟨items, lists⟩⟩
  · rintro ⟨directory, rest⟩
    refine ⟨directory, fun _ => ⟨trivial, fun given => ?_⟩⟩
    obtain ⟨text, label, siteName, items, separator⟩ := rest given
    exact ⟨label, fun _ => ⟨siteName, fun _ => ⟨text, fun _ => ⟨items, fun pages =>
      separator pages.2⟩⟩⟩⟩

end First

/-! ## Which documents have errors that fit -/

theorem isNullOrMapping_of_isMapping {v : Value} (mapping : v.isMapping = true) :
    v.isNullOrMapping = true := by
  cases v <;> first | rfl | exact mapping

section Entries
variable {v : Value}

theorem exists_entries? (whole : Entries) (mapping : v.isMapping = true) :
    ∃ entries, entries? whole v = some entries := by
  cases v with
  | mapping es => exact ⟨es, rfl⟩
  | ordered es => exact ⟨es, rfl⟩
  | loop isMapping =>
    cases mapping
    exact ⟨whole, rfl⟩
  | _ => cases mapping

theorem entries?_of_other (whole : Entries) (other : v.isMapping = false) :
    entries? whole v = if v.isAbsent then some [] else none := by
  cases v with
  | mapping es => cases other
  | ordered es => cases other
  | loop isMapping =>
    cases other
    rfl
  | _ => rfl

theorem isNullOrMapping_of_present (present : v.isAbsent = false) :
    v.isNullOrMapping = v.isMapping := by
  cases v <;> first | rfl | cases present

theorem entries?_eq_none_iff {whole : Entries} :
    entries? whole v = none ↔ v.isAbsent = false ∧ v.isNullOrMapping = false := by
  cases mapping : v.isMapping with
  | true =>
    obtain ⟨entries, found⟩ := exists_entries? whole mapping
    simp [found, isNullOrMapping_of_isMapping mapping]
  | false =>
    rw [entries?_of_other whole mapping]
    cases absent : v.isAbsent with
    | true => simp
    | false => simp [isNullOrMapping_of_present absent, mapping]

theorem ofValue_of_absent (absent : v.isAbsent = true) (other : v.isMapping = false) :
    ofValue v = .ok {} := by
  unfold ofValue
  rw [entries?_of_other [] other, if_pos absent]
  rfl

theorem ofValue_of_other (present : v.isAbsent = false) (other : v.isNullOrMapping = false) :
    ofValue v = .error .notAMapping := by
  unfold ofValue
  rw [entries?_eq_none_iff.2 ⟨present, other⟩]

theorem faults_of_mapping (mapping : v.isMapping = true) : faults v =
    match entries? (entriesOf v) (siteOf v) with
    | none => [.siteNotAMapping]
    | some site => settingsFaults (entriesOf v) site := by
  obtain ⟨top, found⟩ := exists_entries? [] mapping
  rw [faults, found]
  rfl

end Entries

theorem siteNotAMapping_notMem (top site : Entries) :
    ConfigError.siteNotAMapping ∉ settingsFaults top site := by
  have text : ∀ v, ConfigError.siteNotAMapping ∉ textFaults v := by
    intro v
    unfold textFaults
    split <;> simp
  have blank : ∀ v, ConfigError.siteNotAMapping ∉ blankFaults v := by
    intro v
    unfold blankFaults
    split <;> simp
  have path : ∀ v, ConfigError.siteNotAMapping ∉ pathFaults v := by
    intro v
    cases v <;> simp [pathFaults]
  have pages : ∀ v, ConfigError.siteNotAMapping ∉ pagesFaults v := by
    intro v
    cases v <;> simp [pagesFaults, text]
  simp [settingsFaults, text, blank, path, pages]

theorem isOfKind_of_isOfSetting {e : ConfigError} (setting : e.isOfSetting = true) :
    e.isOfKind = false := by
  cases e <;> first | rfl | cases setting

section Mapping
variable {v : Value} (mapping : v.isMapping = true)
include mapping

theorem errorsFitKinds_iff_of_mapping : ErrorsFitKinds v (ofValue v) ↔ FirstOfSetting (faults v) ∧
    ((siteOf v).isNullOrMapping = false → ofValue v = .error .siteNotAMapping) := by
  have reports := reports_faults v
  constructor
  · rintro ⟨_, settled, told⟩
    refine ⟨fun e first => ?_, told mapping⟩
    rcases settled mapping with ⟨settings, done⟩ | ⟨e', failed, setting⟩
    · cases done.symm.trans ((reports e).2 first)
    · cases failed.symm.trans ((reports e).2 first)
      exact setting
  · rintro ⟨first, told⟩
    have setting : ∀ e, ofValue v = .error e → e.isOfSetting = true := fun e failed =>
      first e ((reports e).1 failed)
    refine ⟨⟨?_, fun other => ?_⟩, fun _ => ?_, fun _ => told⟩
    · rintro ⟨e, failed, kind⟩
      rw [isOfKind_of_isOfSetting (setting e failed)] at kind
      cases kind
    · rw [isNullOrMapping_of_isMapping mapping] at other
      cases other
    · cases outcome : ofValue v with
      | ok settings => exact Or.inl ⟨settings, rfl⟩
      | error e => exact Or.inr ⟨e, rfl, setting e outcome⟩

theorem orderly_iff_of_mapping : Orderly v ↔ FirstOfSetting (faults v) ∧
    ((siteOf v).isNullOrMapping = false → ofValue v = .error .siteNotAMapping) := by
  have reports := reports_faults v .siteNotAMapping
  rw [faults_of_mapping mapping] at reports ⊢
  cases found : entries? (entriesOf v) (siteOf v) with
  | none =>
    obtain ⟨present, other⟩ := entries?_eq_none_iff.1 found
    rw [found] at reports
    refine iff_of_true ⟨?_, ?_, ?_⟩ ⟨?_, fun _ => reports.2 rfl⟩
    · exact fun _ => isNullOrMapping_of_isMapping mapping
    · intro _ absent
      rw [present] at absent
      cases absent
    · intro _ site found'
      cases found.symm.trans found'
    · simp [FirstOfSetting, ConfigError.isOfSetting]
  | some site =>
    rw [found] at reports
    have untold : ofValue v ≠ .error .siteNotAMapping := fun failed =>
      siteNotAMapping_notMem _ site (List.mem_of_head? (reports.1 failed))
    dsimp only
    rw [firstOfSetting_settingsFaults]
    constructor
    · rintro ⟨_, sited, settings⟩
      refine ⟨settings mapping site found, fun other => ?_⟩
      cases absent : (siteOf v).isAbsent with
      | true =>
        rw [sited mapping absent] at other
        cases other
      | false =>
        rw [entries?_eq_none_iff.2 ⟨absent, other⟩] at found
        cases found
    · rintro ⟨answerable, told⟩
      refine ⟨fun _ => isNullOrMapping_of_isMapping mapping, fun _ _ => ?_, ?_⟩
      · cases fits : (siteOf v).isNullOrMapping with
        | true => rfl
        | false => exact absurd (told fits) untold
      · intro _ site' found'
        cases found.symm.trans found'
        exact answerable

end Mapping

theorem errorsFitKinds_iff_orderly (v : Value) : ErrorsFitKinds v (ofValue v) ↔ Orderly v := by
  cases mapping : v.isMapping with
  | true => rw [errorsFitKinds_iff_of_mapping mapping, orderly_iff_of_mapping mapping]
  | false =>
    cases absent : v.isAbsent with
    | false =>
      have other : v.isNullOrMapping = false := by rw [isNullOrMapping_of_present absent, mapping]
      rw [ofValue_of_other absent other]
      refine iff_of_true ⟨⟨fun _ => other, fun _ => ⟨_, rfl, rfl⟩⟩, ?_, ?_⟩ ⟨?_, ?_, ?_⟩ <;>
        simp [mapping, absent]
    | true =>
      rw [ofValue_of_absent absent mapping]
      constructor
      · rintro ⟨kind, _, _⟩
        refine ⟨fun _ => ?_, by simp [mapping], by simp [mapping]⟩
        cases fits : v.isNullOrMapping with
        | true => rfl
        | false =>
          obtain ⟨e, failed, _⟩ := kind.2 fits
          cases failed
      · rintro ⟨whole, _, _⟩
        refine ⟨?_, by simp [mapping], by simp [mapping]⟩
        simp [whole absent]

/-! ## Documents in files -/

/-- A file is there, and a reader finds this value in its text. -/
def Describes (files : FileSystem) (path : Path) (v : Value) (read : Reader := Yaml.read) : Prop :=
  ∃ text : String, files.read path = .ok text.toUTF8 ∧ read text = .ok v

theorem load_of_describes {files : FileSystem} {path : Path} {v : Value} {reader : Reader}
    (described : Describes files path v reader) : load files path reader = ofValue v := by
  obtain ⟨text, read, value⟩ := described
  have there : files.holds path = .ok true := by
    unfold FileSystem.read at read
    unfold FileSystem.holds
    cases found : files.entry path with
    | ok entry => rfl
    | error e =>
      rw [found] at read
      cases read
  have decoded : String.fromUTF8? text.toUTF8 = some text := dif_pos text.isValidUTF8
  unfold load
  rw [there, read]
  simp only [Action.mapError_ok, bind, Except.bind, Bool.not_true]
  unfold ofBytes
  simp only [decoded, value, Action.mapError_ok, bind, Except.bind]
  rfl

def settingsPath : Path := .ofString "pages.yaml"

def holding (text : String) : FileSystem :=
  (FileSystem.new []).set ["pages.yaml"] (.file text.toUTF8)

theorem describes_holding {text : String} {v : Value} (value : Yaml.read text = .ok v) :
    Describes (holding text) settingsPath v := by
  refine ⟨text, ?_, value⟩
  rw [holding]
  generalize text.toUTF8 = content
  rfl

theorem exists_described (text : String) {p : Value → Prop} [DecidablePred p]
    (checked : (Yaml.read text).toOption.any (fun v => decide (p v)) = true) :
    ∃ v, Describes (holding text) settingsPath v ∧ p v := by
  cases value : Yaml.read text with
  | error e =>
    rw [value] at checked
    cases checked
  | ok v =>
    rw [value] at checked
    exact ⟨v, describes_holding value, of_decide_eq_true checked⟩

/-- A document that is there gives settings or its first fault, whatever reader finds its value.  Its
errors fit what is wrong with it exactly if it is orderly. -/
theorem load_errors_fit_kinds_iff (read : Reader) (files : FileSystem) (path : Path) (v : Value)
    (described : Describes files path v read) :
    (∀ e, load files path read = .error e ↔ (faults v).head? = some e) ∧
    ((∃ settings, load files path read = .ok settings) ↔ faults v = []) ∧
    (ErrorsFitKinds v (load files path read) ↔ Orderly v) := by
  rw [load_of_describes described]
  exact ⟨reports_faults v, (reports_faults v).exists_ok_iff, errorsFitKinds_iff_orderly v⟩

/-- Settings of several kinds are taken, and of two faults the one that is read first is told. -/
theorem load_errors_fit_kinds_iff_mixed :
    let taken (text : String) := ∃ v settings, Describes (holding text) settingsPath v ∧ Orderly v ∧
      ErrorsFitKinds v (load (holding text) settingsPath) ∧
      load (holding text) settingsPath = .ok settings
    let refused (text : String) := ∃ v, Describes (holding text) settingsPath v ∧
      faults v = [.emptyOutputDir, .pagesNotAList] ∧
      load (holding text) settingsPath = .error .emptyOutputDir
    taken "site:\n  site_name: 1e3\n  output_dir: dist\npages: [a, null, [2]]\n" ∧
      refused "pages:\n  a: b\nsite:\n  output_dir: ' '\n  title_separator: 5\n" := by
  refine ⟨?taken, ?refused⟩
  case taken =>
    obtain ⟨v, described, orderly, faultless⟩ := exists_described
      "site:\n  site_name: 1e3\n  output_dir: dist\npages: [a, null, [2]]\n"
      (p := fun v => Orderly v ∧ faults v = []) (by decide +kernel)
    obtain ⟨_, taken, fit⟩ := load_errors_fit_kinds_iff Yaml.read _ _ v described
    obtain ⟨settings, done⟩ := taken.2 faultless
    exact ⟨v, settings, described, orderly, fit.2 orderly, done⟩
  case refused =>
    obtain ⟨v, described, listed⟩ := exists_described
      "pages:\n  a: b\nsite:\n  output_dir: ' '\n  title_separator: 5\n"
      (p := fun v => faults v = [.emptyOutputDir, .pagesNotAList]) (by decide +kernel)
    refine ⟨v, described, listed, ((load_errors_fit_kinds_iff Yaml.read _ _ v described).1 _).2 ?_⟩
    rw [listed]
    rfl

/-- An empty list is taken for an empty document and a truth value for an empty site, and a number for
the output directory is an error of kind. -/
theorem load_errors_unfit :
    (Describes (holding "[]\n") settingsPath (.list []) ∧
      load (holding "[]\n") settingsPath = .ok {} ∧
      ¬ ErrorsFitKinds (.list []) (load (holding "[]\n") settingsPath)) ∧
    (∃ v settings, Describes (holding "site: false\n") settingsPath v ∧ v.isMapping = true ∧
      (siteOf v).isNullOrMapping = false ∧
      load (holding "site: false\n") settingsPath = .ok settings ∧
      ¬ ErrorsFitKinds v (load (holding "site: false\n") settingsPath)) ∧
    ∃ v, Describes (holding "site:\n  output_dir: 5\n") settingsPath v ∧ v.isMapping = true ∧
      load (holding "site:\n  output_dir: 5\n") settingsPath = .error (.notAPath "int") ∧
      ¬ ErrorsFitKinds v (load (holding "site:\n  output_dir: 5\n") settingsPath) := by
  refine ⟨?list, ?site, ?directory⟩
  case list =>
    have described : Describes (holding "[]\n") settingsPath (.list []) := by
      obtain ⟨v, described, kind, empty⟩ := exists_described "[]\n"
        (p := fun v => v.kind = "list" ∧ v.isAbsent = true) (by decide +kernel)
      cases v with
      | list items =>
        cases List.isEmpty_iff.1 empty
        exact described
      | loop isMapping => cases empty
      | _ => simp [Value.kind] at kind
    rw [load_of_describes described]
    refine ⟨described, rfl, fun fit => ?_⟩
    obtain ⟨e, failed, _⟩ := fit.kind.2 rfl
    cases failed
  case site =>
    obtain ⟨v, described, mapping, other, faultless⟩ := exists_described "site: false\n"
      (p := fun v => v.isMapping = true ∧ (siteOf v).isNullOrMapping = false ∧ faults v = [])
      (by decide +kernel)
    obtain ⟨settings, taken⟩ := (reports_faults v).exists_ok_iff.2 faultless
    rw [load_of_describes described]
    refine ⟨v, settings, described, mapping, other, taken, fun fit => ?_⟩
    cases taken.symm.trans (fit.site mapping other)
  case directory =>
    obtain ⟨v, described, mapping, first⟩ := exists_described "site:\n  output_dir: 5\n"
      (p := fun v => v.isMapping = true ∧ (faults v).head? = some (.notAPath "int"))
      (by decide +kernel)
    have failed := (reports_faults v _).2 first
    rw [load_of_describes described]
    refine ⟨v, described, mapping, failed, fun fit => ?_⟩
    have other := fit.kind.1 ⟨_, failed, rfl⟩
    rw [isNullOrMapping_of_isMapping mapping] at other
    cases other

end SiteConfig
end DocPages
