/-! # Tables in insertion order

A finite map that remembers the order in which its keys came in.  Writing to a key that is present
replaces the value and keeps the place (`keys_insert`); reading after a write sees the write and
nothing else (`find?_insert`). -/
set_option autoImplicit false
namespace DocPages

structure Table (κ α : Type) where
  entries : List (κ × α)
  nodup : (entries.map Prod.fst).Nodup

namespace Table
variable {κ α : Type} [DecidableEq κ]

def empty {κ α : Type} : Table κ α := ⟨[], List.nodup_nil⟩

instance {κ α : Type} : Inhabited (Table κ α) := ⟨empty⟩

def keys {κ α : Type} (t : Table κ α) : List κ := t.entries.map Prod.fst

def values {κ α : Type} (t : Table κ α) : List α := t.entries.map Prod.snd

def size {κ α : Type} (t : Table κ α) : Nat := t.entries.length

def find? (t : Table κ α) (k : κ) : Option α := t.entries.lookup k

def contains (t : Table κ α) (k : κ) : Bool := t.keys.contains k

def put (k : κ) (v : α) : List (κ × α) → List (κ × α)
  | [] => [(k, v)]
  | (k', v') :: rest => if k' = k then (k', v) :: rest else (k', v') :: put k v rest

theorem keys_put (k : κ) (v : α) (l : List (κ × α)) :
    (put k v l).map Prod.fst =
      if k ∈ l.map Prod.fst then l.map Prod.fst else l.map Prod.fst ++ [k] := by
  induction l with
  | nil => simp [put]
  | cons e rest ih =>
    obtain ⟨k', v'⟩ := e
    by_cases h : k' = k
    · subst h; simp [put]
    · have h' : k ≠ k' := fun e => h e.symm
      by_cases hm : k ∈ rest.map Prod.fst
      · rw [if_pos hm] at ih
        rw [if_pos (by simp only [List.map_cons, List.mem_cons]; exact Or.inr hm)]
        simp only [put, h, if_false, List.map_cons, ih]
      · rw [if_neg hm] at ih
        rw [if_neg (by simp only [List.map_cons, List.mem_cons]; exact fun c => c.elim h' hm)]
        simp only [put, h, if_false, List.map_cons, ih, List.cons_append]

theorem nodup_put (k : κ) (v : α) {l : List (κ × α)} (h : (l.map Prod.fst).Nodup) :
    ((put k v l).map Prod.fst).Nodup := by
  rw [keys_put]
  by_cases hm : k ∈ l.map Prod.fst
  · rwa [if_pos hm]
  · rw [if_neg hm]
    refine List.nodup_append.2 ⟨h, by simp, ?_⟩
    intro a ha b hb e
    rw [List.mem_singleton] at hb
    subst hb
    subst e
    exact hm ha

def insert (t : Table κ α) (k : κ) (v : α) : Table κ α :=
  ⟨put k v t.entries, nodup_put k v t.nodup⟩

/-- The entries of a list in which a repeated key keeps its first place and takes its last value. -/
def ofList (l : List (κ × α)) : Table κ α := l.foldl (fun t e => t.insert e.1 e.2) empty

theorem lookup_put (k k' : κ) (v : α) (l : List (κ × α)) :
    (put k v l).lookup k' = if k' = k then some v else l.lookup k' := by
  induction l with
  | nil =>
    by_cases h : k' = k
    · simp [put, h]
    · have hb : (k' == k) = false := by simpa using h
      simp [put, h, List.lookup_cons, hb]
  | cons e rest ih =>
    obtain ⟨k₁, v₁⟩ := e
    by_cases h₁ : k₁ = k
    · subst h₁
      by_cases h : k' = k₁
      · simp [put, h]
      · have hb : (k' == k₁) = false := by simpa using h
        simp [put, h, List.lookup_cons, hb]
    · by_cases h : k' = k₁
      · have hk : ¬ k' = k := fun e => h₁ (h.symm.trans e)
        have hb : (k' == k₁) = true := by simpa using h
        simp [put, h₁, hk, List.lookup_cons, hb]
      · have hb : (k' == k₁) = false := by simpa using h
        simp [put, h₁, List.lookup_cons, hb, ih]

theorem keys_insert (t : Table κ α) (k : κ) (v : α) :
    (t.insert k v).keys = if k ∈ t.keys then t.keys else t.keys ++ [k] :=
  keys_put k v t.entries

theorem find?_insert (t : Table κ α) (k k' : κ) (v : α) :
    (t.insert k v).find? k' = if k' = k then some v else t.find? k' :=
  lookup_put k k' v t.entries

theorem contains_iff (t : Table κ α) (k : κ) : t.contains k = true ↔ k ∈ t.keys :=
  List.contains_iff_mem

theorem find?_eq_none_iff (t : Table κ α) (k : κ) : t.find? k = none ↔ k ∉ t.keys := by
  rw [find?, List.lookup_eq_none_iff, keys, List.mem_map]
  constructor
  · rintro unlike ⟨e, he, rfl⟩
    simpa using unlike e he
  · intro absent e he
    simpa using fun same : k = e.1 => absent ⟨e, he, same.symm⟩

theorem find?_eq_some_iff (t : Table κ α) (k : κ) (v : α) :
    t.find? k = some v ↔ (k, v) ∈ t.entries := by
  rw [find?, List.lookup_eq_some_iff]
  constructor
  · rintro ⟨before, after, split, _⟩
    rw [split]
    exact List.mem_append_right _ List.mem_cons_self
  · intro mem
    obtain ⟨before, after, split⟩ := List.append_of_mem mem
    refine ⟨before, after, split, fun e he => ?_⟩
    have distinct := t.nodup
    rw [split, List.map_append, List.map_cons, List.nodup_append] at distinct
    have unlike := distinct.2.2 e.1 (List.mem_map_of_mem he) k List.mem_cons_self
    simpa using unlike.symm

theorem mem_keys_of_find? {t : Table κ α} {k : κ} {v : α} (found : t.find? k = some v) :
    k ∈ t.keys :=
  List.mem_map_of_mem ((find?_eq_some_iff t k v).1 found)

theorem put_of_notMem {k : κ} {l : List (κ × α)} (absent : k ∉ l.map Prod.fst) (v : α) :
    put k v l = l ++ [(k, v)] := by
  induction l with
  | nil => rfl
  | cons e rest ih =>
    rw [List.map_cons, List.mem_cons, not_or] at absent
    rw [put, if_neg (Ne.symm absent.1), ih absent.2, List.cons_append]

theorem entries_insert_of_notMem {t : Table κ α} {k : κ} (absent : k ∉ t.keys) (v : α) :
    (t.insert k v).entries = t.entries ++ [(k, v)] :=
  put_of_notMem absent v

theorem entries_ofList {l : List (κ × α)} (distinct : (l.map Prod.fst).Nodup) :
    (ofList l).entries = l := by
  have from_any : ∀ (t : Table κ α) (l : List (κ × α)), (t.keys ++ l.map Prod.fst).Nodup →
      (l.foldl (fun t e => t.insert e.1 e.2) t).entries = t.entries ++ l := by
    intro t l distinct
    induction l generalizing t with
    | nil => exact (List.append_nil _).symm
    | cons e rest ih =>
      have absent : e.1 ∉ t.keys := by
        intro mem
        exact (List.nodup_append.1 distinct).2.2 e.1 mem e.1 List.mem_cons_self rfl
      have written := entries_insert_of_notMem absent e.2
      rw [List.foldl_cons, ih, written, List.append_assoc]
      · rfl
      · rw [keys, written, List.map_append, List.append_assoc]
        exact distinct
  exact from_any empty l distinct

theorem put_of_lookup {k : κ} {v : α} {l : List (κ × α)} (there : l.lookup k = some v) :
    put k v l = l := by
  induction l with
  | nil => cases there
  | cons e rest ih =>
    obtain ⟨k', v'⟩ := e
    rw [List.lookup_cons] at there
    by_cases same : k' = k
    · subst same
      rw [beq_self_eq_true] at there
      cases there
      rw [put, if_pos rfl]
    · have other : (k == k') = false := by simpa using Ne.symm same
      rw [other] at there
      rw [put, if_neg same, ih there]

theorem put_put (k : κ) (v w : α) (l : List (κ × α)) : put k w (put k v l) = put k w l := by
  induction l with
  | nil => simp [put]
  | cons e rest ih =>
    obtain ⟨k', v'⟩ := e
    by_cases same : k' = k
    · simp [put, same]
    · simp [put, same, ih]

theorem eq_of_entries {κ α : Type} {t t' : Table κ α} (same : t.entries = t'.entries) : t = t' := by
  cases t
  cases t'
  cases same
  rfl

theorem insert_of_find? {t : Table κ α} {k : κ} {v : α} (there : t.find? k = some v) :
    t.insert k v = t :=
  eq_of_entries (put_of_lookup there)

theorem insert_insert (t : Table κ α) (k : κ) (v w : α) : (t.insert k v).insert k w = t.insert k w :=
  eq_of_entries (put_put k v w t.entries)

end Table
end DocPages
