import DocPages.Text.Escape
/-! # Reading character references

One reader serves all tables of references: it knows every reference that some table writes and leaves
all other characters alone.  A table that the reader undoes character by character (`Undone`) is undone
on whole texts, whatever follows them, so different texts are never written alike. -/
set_option autoImplicit false
namespace DocPages.Text.References

def read : List Char → List Char
  | [] => []
  | '&' :: 'a' :: 'm' :: 'p' :: ';' :: cs => '&' :: read cs
  | '&' :: 'l' :: 't' :: ';' :: cs => '<' :: read cs
  | '&' :: 'g' :: 't' :: ';' :: cs => '>' :: read cs
  | '&' :: 'q' :: 'u' :: 'o' :: 't' :: ';' :: cs => '"' :: read cs
  | '&' :: '#' :: 'x' :: '2' :: '7' :: ';' :: cs => '\'' :: read cs
  | '&' :: '#' :: '3' :: '4' :: ';' :: cs => '"' :: read cs
  | '&' :: '#' :: '3' :: '9' :: ';' :: cs => '\'' :: read cs
  | c :: cs => c :: read cs

def Undone (table : References) : Prop := ∀ c rest, read (table c ++ rest) = c :: read rest

theorem read_plain {c : Char} (h : c ≠ '&') (rest : List Char) :
    read (c :: rest) = c :: read rest := by
  rw [read.eq_def]
  split <;> simp_all

theorem undone_text : Undone text := by
  intro c rest
  unfold text
  split
  · rfl
  · rfl
  · rfl
  next amp _ _ => exact read_plain amp rest

theorem undone_attributeValue : Undone attributeValue := by
  intro c rest
  unfold attributeValue
  split
  · rfl
  · rfl
  · exact undone_text c rest

theorem undone_hole : Undone hole := by
  intro c rest
  unfold hole
  split
  · rfl
  · rfl
  · exact undone_text c rest

theorem Undone.read_append {table : References} (h : Undone table) (s : String)
    (rest : List Char) : read (table.write s ++ rest) = s.toList ++ read rest := by
  unfold write
  induction s.toList with
  | nil => rfl
  | cons c cs ih =>
    rw [List.flatMap_cons, List.append_assoc, h, ih]
    rfl

theorem Undone.read_write {table : References} (h : Undone table) (s : String) :
    read (table.write s) = s.toList := by
  simpa [read] using h.read_append s []

theorem Undone.write_injective {table : References} (h : Undone table) {s t : String}
    (e : table.write s = table.write t) : s = t := by
  have same : s.toList = t.toList := by rw [← h.read_write s, e, h.read_write]
  exact String.toList_inj.1 same

/-! ## Characters that a written text cannot hold -/

theorem mem_text {c d : Char} (h : d ∈ text c) : d ≠ '<' ∧ d ≠ '>' ∧ (d = '"' → c = '"') := by
  unfold text at h
  split at h
  · exact (by simp : ∀ d ∈ "&amp;".toList, d ≠ '<' ∧ d ≠ '>' ∧ (d = '"' → '&' = '"')) d h
  · exact (by simp : ∀ d ∈ "&lt;".toList, d ≠ '<' ∧ d ≠ '>' ∧ (d = '"' → '<' = '"')) d h
  · exact (by simp : ∀ d ∈ "&gt;".toList, d ≠ '<' ∧ d ≠ '>' ∧ (d = '"' → '>' = '"')) d h
  next lt gt =>
    obtain rfl := List.mem_singleton.1 h
    exact ⟨lt, gt, id⟩

theorem mem_attributeValue {c d : Char} (h : d ∈ attributeValue c) :
    d ≠ '<' ∧ d ≠ '>' ∧ d ≠ '"' := by
  unfold attributeValue at h
  split at h
  · exact (by simp : ∀ d ∈ "&quot;".toList, d ≠ '<' ∧ d ≠ '>' ∧ d ≠ '"') d h
  · exact (by simp : ∀ d ∈ "&#x27;".toList, d ≠ '<' ∧ d ≠ '>' ∧ d ≠ '"') d h
  next quote _ =>
    obtain ⟨lt, gt, source⟩ := mem_text h
    exact ⟨lt, gt, fun e => quote (source e)⟩

theorem mem_hole {c d : Char} (h : d ∈ hole c) : d ≠ '<' ∧ d ≠ '>' ∧ d ≠ '"' := by
  unfold hole at h
  split at h
  · exact (by simp : ∀ d ∈ "&#34;".toList, d ≠ '<' ∧ d ≠ '>' ∧ d ≠ '"') d h
  · exact (by simp : ∀ d ∈ "&#39;".toList, d ≠ '<' ∧ d ≠ '>' ∧ d ≠ '"') d h
  next quote _ =>
    obtain ⟨lt, gt, source⟩ := mem_text h
    exact ⟨lt, gt, fun e => quote (source e)⟩

theorem notMem_write {table : References} {d : Char} (h : ∀ c, d ∉ table c) (s : String) :
    d ∉ table.write s := by
  intro hd
  obtain ⟨c, _, hc⟩ := List.mem_flatMap.1 hd
  exact h c hc

end DocPages.Text.References
