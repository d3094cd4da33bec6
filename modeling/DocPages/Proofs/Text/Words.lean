import Mathlib.Data.List.DropRight
import DocPages.Text.Blank
/-! # Stripped texts and words

A text that was stripped starts and ends with characters that are not blank, so stripping it again
changes nothing (`strip_strip`).  The words of a text are the pieces that blanks leave of it: a text is
made of its words, of blanks around them and of at least one blank between two (`words_eq_iff`). -/
set_option autoImplicit false
namespace DocPages.Text

theorem toList_strip (s : String) : (strip s).toList = stripEnd (stripStart s.toList) :=
  String.toList_ofList

theorem stripEnd_eq_rdropWhile (cs : List Char) : stripEnd cs = cs.rdropWhile isBlank := rfl

theorem stripStart_stripEnd {cs : List Char} (start : stripStart cs = cs) :
    stripStart (stripEnd cs) = stripEnd cs := by
  apply stripStart_eq_self
  intro c first
  obtain ⟨rest, split⟩ := List.rdropWhile_prefix isBlank cs
  rw [← start] at split
  apply head?_stripStart cs c
  rw [← split, ← stripEnd_eq_rdropWhile, List.head?_append, start, first, Option.some_or]

theorem strip_strip (s : String) : strip (strip s) = strip s := by
  have start : stripStart (stripStart s.toList) = stripStart s.toList :=
    List.dropWhile_idempotent isBlank s.toList
  have ending := List.rdropWhile_idempotent isBlank (stripStart s.toList)
  rw [strip, toList_strip, stripStart_stripEnd start, stripEnd_eq_rdropWhile, stripEnd_eq_rdropWhile,
    ending]
  rfl

theorem strip_of_plain {s : String} (plain : ∀ c ∈ s.toList, isBlank c = false) : strip s = s := by
  have start : stripStart s.toList = s.toList :=
    stripStart_eq_self fun c first => plain c (List.mem_of_mem_head? first)
  have ending : stripEnd s.toList = s.toList := by
    rw [stripEnd_eq_rdropWhile, List.rdropWhile_eq_self_iff]
    intro nonempty
    rw [plain _ (List.getLast_mem nonempty)]
    exact Bool.false_ne_true
  rw [strip, start, ending, String.ofList_toList]

/-! ## Words -/

/-- A text that is made of these words, with blanks around them and between two of them. -/
inductive Spaced : List Char → List (List Char) → Prop
  | nothing : Spaced [] []
  | blank {c : Char} {cs : List Char} {words : List (List Char)} (blank : isBlank c = true)
      (rest : Spaced cs words) : Spaced (c :: cs) words
  | word {word cs : List Char} {words : List (List Char)} (nonempty : word ≠ [])
      (plain : ∀ c ∈ word, isBlank c = false) (apart : ∀ c ∈ cs.head?, isBlank c = true)
      (rest : Spaced cs words) : Spaced (word ++ cs) (word :: words)

theorem pieces_cons_blank {c : Char} (blank : isBlank c = true) (cs : List Char) :
    pieces (c :: cs) = [] :: pieces cs := by
  rw [pieces, if_pos blank]

theorem pieces_append {word cs : List Char} (plain : ∀ c ∈ word, isBlank c = false)
    (apart : ∀ c ∈ cs.head?, isBlank c = true) :
    pieces (word ++ cs) = word :: (pieces cs).tail := by
  induction word with
  | nil =>
    cases cs with
    | nil => rfl
    | cons c cs =>
      rw [List.nil_append, pieces_cons_blank (apart c rfl)]
      rfl
  | cons c word ih =>
    have letter : isBlank c = false := plain c List.mem_cons_self
    rw [List.cons_append, pieces, letter, if_neg Bool.false_ne_true,
      ih fun d mem => plain d (List.mem_cons_of_mem _ mem)]

theorem wordLists_cons_blank {c : Char} (blank : isBlank c = true) (cs : List Char) :
    wordLists (c :: cs) = wordLists cs := by
  rw [wordLists, pieces_cons_blank blank]
  rfl

theorem wordLists_append {word cs : List Char} (nonempty : word ≠ [])
    (plain : ∀ c ∈ word, isBlank c = false) (apart : ∀ c ∈ cs.head?, isBlank c = true) :
    wordLists (word ++ cs) = word :: wordLists cs := by
  have first : (pieces cs).head? = some [] := by
    cases cs with
    | nil => rfl
    | cons c cs =>
      rw [pieces_cons_blank (apart c rfl)]
      rfl
  obtain ⟨tail, split⟩ := List.head?_eq_some_iff.1 first
  rw [wordLists, pieces_append plain apart, wordLists, split]
  simp [nonempty]

theorem Spaced.wordLists_eq {cs : List Char} {words : List (List Char)} (spaced : Spaced cs words) :
    wordLists cs = words := by
  induction spaced with
  | nothing => rfl
  | blank blank _ ih => rw [wordLists_cons_blank blank, ih]
  | word nonempty plain apart _ ih => rw [wordLists_append nonempty plain apart, ih]

theorem spaced_wordLists (cs : List Char) : Spaced cs (wordLists cs) := by
  induction size : cs.length using Nat.strongRecOn generalizing cs with
  | ind n ih =>
    cases cs with
    | nil => exact .nothing
    | cons c rest =>
      rw [List.length_cons] at size
      by_cases blank : isBlank c = true
      · rw [wordLists_cons_blank blank]
        exact .blank blank (ih _ (by omega) rest rfl)
      · have plain : ∀ d ∈ c :: rest.takeWhile (!isBlank ·), isBlank d = false := by
          intro d mem
          rcases List.mem_cons.1 mem with rfl | mem
          · exact Bool.eq_false_iff.2 blank
          · simpa using List.mem_takeWhile_imp mem
        have apart : ∀ d ∈ (rest.dropWhile (!isBlank ·)).head?, isBlank d = true := by
          intro d first
          have stopped := List.head?_dropWhile_not (!isBlank ·) rest
          rw [first] at stopped
          simpa using stopped
        have shorter := (List.dropWhile_sublist (!isBlank ·) (l := rest)).length_le
        have split : c :: rest = (c :: rest.takeWhile (!isBlank ·)) ++ rest.dropWhile (!isBlank ·) := by
          rw [List.cons_append, List.takeWhile_append_dropWhile]
        rw [split, wordLists_append (List.cons_ne_nil _ _) plain apart]
        exact .word (List.cons_ne_nil _ _) plain apart (ih _ (by omega) _ rfl)

/-- The words of a text are those that it is made of. -/
theorem words_eq_iff {s : String} {found : List String} :
    words s = found ↔ Spaced s.toList (found.map String.toList) := by
  have lists : (words s).map String.toList = wordLists s.toList := by
    rw [words, List.map_map]
    exact (List.map_congr_left fun cs _ => String.toList_ofList).trans (List.map_id _)
  constructor
  · rintro rfl
    rw [lists]
    exact spaced_wordLists s.toList
  · intro spaced
    rw [spaced.wordLists_eq] at lists
    exact List.map_injective_iff.2 (fun _ _ => String.toList_inj.1) lists

theorem Spaced.plain {cs : List Char} {words : List (List Char)} (spaced : Spaced cs words) :
    ∀ word ∈ words, word ≠ [] ∧ ∀ c ∈ word, isBlank c = false := by
  induction spaced with
  | nothing => simp
  | blank _ _ ih => exact ih
  | word nonempty plain _ _ ih => exact List.forall_mem_cons.2 ⟨⟨nonempty, plain⟩, ih⟩

def IsTrimmed (s : String) : Prop := s ≠ "" ∧ strip s = s

theorem isTrimmed_of_mem_words {s word : String} (mem : word ∈ words s) : IsTrimmed word := by
  obtain ⟨cs, listed, rfl⟩ := List.mem_map.1 mem
  obtain ⟨nonempty, plain⟩ := (spaced_wordLists s.toList).plain cs listed
  refine ⟨fun empty => nonempty ?_, strip_of_plain (by rwa [String.toList_ofList])⟩
  rw [← String.toList_ofList (l := cs), empty]
  rfl

end DocPages.Text
