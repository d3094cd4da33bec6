import DocPages.Site.Load
/-! # What is wrong with the settings of a document

The faults of a document are all that is wrong with its settings, in the order in which the settings are
read.  A document without faults gives settings, any other fails with its first fault
(`reports_faults`). -/
set_option autoImplicit false
namespace DocPages
open Yaml (Value)

/-- A result that fails with the first of the faults, and succeeds if there is none. -/
def Reports {ε α : Type} (result : Except ε α) (faults : List ε) : Prop :=
  ∀ e, result = .error e ↔ faults.head? = some e

namespace Reports
section
variable {ε α β : Type} {result : Except ε α} {next : α → Except ε β} {faults later : List ε}

theorem value (a : α) : Reports (.ok a : Except ε α) [] := fun e => by simp

theorem fault (e : ε) : Reports (.error e : Except ε α) [e] := fun e' => by simp

theorem exists_ok_iff (reports : Reports result faults) : (∃ a, result = .ok a) ↔ faults = [] := by
  cases result with
  | ok a =>
    cases faults with
    | nil => simp
    | cons e rest => exact absurd ((reports e).2 rfl) (by simp)
  | error e =>
    have first := (reports e).1 rfl
    have some : faults ≠ [] := by
      rintro rfl
      cases first
    simp [some]

theorem bind (first : Reports result faults) (rest : ∀ a, result = .ok a → Reports (next a) later) :
    Reports (result >>= next) (faults ++ later) := by
  cases ran : result with
  | ok a =>
    have none : faults = [] := first.exists_ok_iff.1 ⟨a, ran⟩
    rw [none, List.nil_append]
    exact rest a ran
  | error e =>
    intro e'
    rw [List.head?_append, (first e).1 ran]
    simp [Bind.bind, Except.bind]

theorem mapM {f : α → Except ε β} {faultsOf : α → List ε}
    (each : ∀ a, Reports (f a) (faultsOf a)) (l : List α) :
    Reports (l.mapM f) (l.flatMap faultsOf) := by
  induction l with
  | nil => exact value []
  | cons a l ih =>
    rw [List.mapM_cons, List.flatMap_cons]
    refine (each a).bind fun b _ => ?_
    rw [← List.append_nil (l.flatMap faultsOf)]
    exact ih.bind fun bs _ => value _

end
end Reports

namespace SiteConfig

/-! ## Faults -/

def textFaults (v : Value) : List ConfigError :=
  if v.isWritable then [] else [.document .tooManyDigitsToWrite]

def blankFaults (v : Value) : List ConfigError :=
  if (trimmed? v).isNone then [.emptyOutputDir] else []

def pathFaults : Value → List ConfigError
  | .text _ => []
  | v => [.notAPath v.kind]

def pagesFaults : Value → List ConfigError
  | .null => []
  | .text _ => []
  | .list items => items.flatMap textFaults
  | _ => [.pagesNotAList]

abbrev Entries := List (Value × Value)

/-! The values that stand for the settings, also where the document does not give them. -/

def directoryOf (site : Entries) : Value :=
  fieldOr site "output_dir" (.text ({} : SiteConfig).outputDir.toString)

def labelOf (site : Entries) : Value := fieldOr site "outbound_link_label" .null

def siteNameOf (site : Entries) : Value := fieldOr site "site_name" (.text ({} : SiteConfig).siteName)

def pagesOf (top : Entries) : Value := fieldOr top "pages" .null

def titleSeparatorOf (site : Entries) : Value := fieldOr site "title_separator" .null

def entriesOf : Value → Entries
  | .mapping es => es
  | .ordered es => es
  | _ => []

def siteOf (document : Value) : Value := fieldOr (entriesOf document) "site" .null

def settingsFaults (top site : Entries) : List ConfigError :=
  textFaults (directoryOf site) ++ (blankFaults (directoryOf site) ++ (textFaults (labelOf site) ++
    (textFaults (siteNameOf site) ++ (pathFaults (directoryOf site) ++ (pagesFaults (pagesOf top) ++
      textFaults (titleSeparatorOf site))))))

def faults (document : Value) : List ConfigError :=
  if (entries? [] document).isNone then [.notAMapping]
  else
    match entries? (entriesOf document) (siteOf document) with
    | none => [.siteNotAMapping]
    | some site => settingsFaults (entriesOf document) site

theorem reports_written {α : Type} (v : Value) (made : α) :
    Reports (written v made) (textFaults v) := by
  unfold written textFaults
  split
  · exact .value made
  · exact .fault _

theorem eq_of_written {α : Type} {v : Value} {made a : α} (done : written v made = .ok a) :
    a = made := by
  unfold written at done
  split at done
  · cases done
    rfl
  · cases done

theorem reports_requireText (v : Value) : Reports (requireText (trimmed? v)) (blankFaults v) := by
  unfold blankFaults
  cases trimmed? v with
  | none => exact .fault _
  | some text => exact .value ()

theorem reports_asPath (v : Value) : Reports (asPath v) (pathFaults v) := by
  unfold asPath
  split
  next text => exact .value _
  next other =>
    rw [pathFaults]
    · exact .fault _
    · exact other

theorem reports_pageKeys (v : Value) : Reports (pageKeys v) (pagesFaults v) := by
  unfold pageKeys
  split
  next => exact .value _
  next words => exact .value _
  next items =>
    rw [pagesFaults, ← List.append_nil (items.flatMap textFaults)]
    exact (Reports.mapM (fun item => reports_written item _) items).bind fun _ _ => .value _
  next notNull notText notList =>
    rw [pagesFaults]
    · exact .fault _
    · exact notNull
    · exact notText
    · exact notList

theorem reports_separatorOf (v : Value) : Reports (separatorOf v) (textFaults v) := by
  unfold separatorOf
  split
  · exact .value _
  · exact reports_written _ _

theorem reports_settingsFaults (top site : Entries) :
    Reports (ofEntries top site) (settingsFaults top site) := by
  unfold ofEntries settingsFaults
  refine (reports_written _ _).bind fun given made => ?_
  rw [eq_of_written made]
  refine (reports_requireText _).bind fun _ _ => ?_
  refine (reports_written _ _).bind fun label _ => (reports_written _ _).bind fun siteName _ => ?_
  refine (reports_asPath _).bind fun outputDir _ => (reports_pageKeys _).bind fun pages _ => ?_
  rw [← List.append_nil (textFaults _)]
  exact (reports_separatorOf _).bind fun separator _ => .value _

theorem entries?_eq_entriesOf {document : Value} {top : Entries}
    (found : entries? [] document = some top) : top = entriesOf document := by
  unfold entries? at found
  split at found
  · cases found
    rfl
  · cases found
    rfl
  · cases found
    rfl
  next v notMapping notOrdered _ =>
    rw [entriesOf]
    · split at found
      · cases found
        rfl
      · cases found
    · exact notMapping
    · exact notOrdered

theorem reports_faults (document : Value) : Reports (ofValue document) (faults document) := by
  unfold ofValue faults
  cases found : entries? [] document with
  | none => exact .fault _
  | some top =>
    cases entries?_eq_entriesOf found
    dsimp only [siteOf]
    cases entries? (entriesOf document) (fieldOr (entriesOf document) "site" .null) with
    | none => exact .fault _
    | some site => exact reports_settingsFaults _ site

end SiteConfig
end DocPages
