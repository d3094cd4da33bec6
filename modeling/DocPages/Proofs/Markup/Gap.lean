import DocPages.Markup
/-! # Markup around a component

A tree that holds one component, at any number of places, has markup in which only the component's own
markup is not fixed: cut at the components, the markup of the tree is a list of stretches that do not
depend on what the component renders to (`write_eq_map_fill`).  A component that cannot be rendered
passes its error on. -/
set_option autoImplicit false
namespace DocPages.Markup

/-- Markup with gaps: a first stretch, and behind each gap another one. -/
structure Gapped where
  first : List Char
  behind : List (List Char)

namespace Gapped

def empty : Gapped := ⟨[], []⟩

def prepend (cs : List Char) (g : Gapped) : Gapped := ⟨cs ++ g.first, g.behind⟩

def gapBefore (g : Gapped) : Gapped := ⟨[], g.first :: g.behind⟩

def fill (g : Gapped) (inside : List Char) : List Char :=
  g.first ++ g.behind.flatMap (inside ++ ·)

theorem fill_empty (inside : List Char) : empty.fill inside = [] := rfl

theorem fill_prepend (cs : List Char) (g : Gapped) (inside : List Char) :
    (g.prepend cs).fill inside = cs ++ g.fill inside :=
  List.append_assoc cs g.first _

theorem fill_gapBefore (g : Gapped) (inside : List Char) :
    g.gapBefore.fill inside = inside ++ g.fill inside := by
  rw [fill, gapBefore, List.flatMap_cons, List.nil_append, List.append_assoc, fill]

theorem prepend_prepend (cs cs' : List Char) (g : Gapped) :
    (g.prepend cs').prepend cs = g.prepend (cs ++ cs') := by
  rw [prepend, prepend, prepend, List.append_assoc]

end Gapped

mutual
/-- The markup of a tree with a gap for each of its components, in front of what follows. -/
def gapped : Node → Gapped → Gapped
  | .text s, after => after.prepend (Text.References.text.write s)
  | .static html _, after => after.prepend html.toList
  | .component _ _ _, after => after.gapBefore
  | .foreign _, after => after
  | .fragment children, after => gappedAll children after
  | .element tag attributes children, after =>
    if isVoid tag then after.prepend (startTag tag attributes)
    else (gappedAll children (after.prepend (endTag tag))).prepend (startTag tag attributes)

def gappedAll : List Node → Gapped → Gapped
  | [], after => after
  | n :: ns, after => gapped n (gappedAll ns after)
end

mutual
/-- Every component of the tree renders to `body`, and all that is in it are nodes. -/
def Around (body : Node) : Node → Prop
  | .text _ => True
  | .static _ _ => True
  | .component _ _ inside => inside = body
  | .foreign _ => False
  | .fragment children => AroundAll body children
  | .element _ _ children => AroundAll body children

def AroundAll (body : Node) : List Node → Prop
  | [] => True
  | n :: ns => Around body n ∧ AroundAll body ns
end

section Filling
variable {body : Node}

mutual
theorem fill_gapped {inside : List Char} (wrote : write body = .ok inside) :
    ∀ n : Node, Around body n → ∃ cs, write n = .ok cs ∧
      ∀ after, (gapped n after).fill inside = cs ++ after.fill inside
  | .text s, _ => ⟨_, rfl, fun after => Gapped.fill_prepend _ after inside⟩
  | .static html _, _ => ⟨_, rfl, fun after => Gapped.fill_prepend _ after inside⟩
  | .component _ _ _, rfl => ⟨inside, wrote, fun after => after.fill_gapBefore inside⟩
  | .foreign _, h => absurd h id
  | .fragment children, h => fill_gappedAll wrote children h
  | .element tag attributes children, h => by
    obtain ⟨cs, written, filled⟩ := fill_gappedAll wrote children h
    by_cases void : isVoid tag
    · refine ⟨startTag tag attributes, write_of_void void, fun after => ?_⟩
      rw [gapped, if_pos void, Gapped.fill_prepend]
    · refine ⟨startTag tag attributes ++ cs ++ endTag tag, write_of_children void written,
        fun after => ?_⟩
      rw [gapped, if_neg void, Gapped.fill_prepend, filled, Gapped.fill_prepend,
        List.append_assoc, List.append_assoc]

theorem fill_gappedAll {inside : List Char} (wrote : write body = .ok inside) :
    ∀ ns : List Node, AroundAll body ns → ∃ cs, writeAll ns = .ok cs ∧
      ∀ after, (gappedAll ns after).fill inside = cs ++ after.fill inside
  | [], _ => ⟨[], rfl, fun after => rfl⟩
  | n :: ns, h => by
    obtain ⟨first, firstWritten, firstFilled⟩ := fill_gapped wrote n h.1
    obtain ⟨rest, restWritten, restFilled⟩ := fill_gappedAll wrote ns h.2
    refine ⟨first ++ rest, writeAll_of_ok firstWritten restWritten, fun after => ?_⟩
    rw [gappedAll, firstFilled, restFilled, List.append_assoc]
end

mutual
theorem gapped_of_error {e : Error} (failed : write body = .error e) :
    ∀ n : Node, Around body n → write n = .error e ∨
      ∃ cs, write n = .ok cs ∧ ∀ after, gapped n after = after.prepend cs
  | .text s, _ => Or.inr ⟨_, rfl, fun _ => rfl⟩
  | .static html _, _ => Or.inr ⟨_, rfl, fun _ => rfl⟩
  | .component _ _ _, rfl => Or.inl failed
  | .foreign _, h => absurd h id
  | .fragment children, h => gappedAll_of_error failed children h
  | .element tag attributes children, h => by
    by_cases void : isVoid tag
    · refine Or.inr ⟨startTag tag attributes, write_of_void void, fun after => ?_⟩
      rw [gapped, if_pos void]
    · rcases gappedAll_of_error failed children h with stopped | ⟨cs, written, same⟩
      · exact Or.inl (write_of_children_error void stopped)
      · refine Or.inr ⟨startTag tag attributes ++ cs ++ endTag tag,
          write_of_children void written, fun after => ?_⟩
        rw [gapped, if_neg void, same, Gapped.prepend_prepend, Gapped.prepend_prepend]

theorem gappedAll_of_error {e : Error} (failed : write body = .error e) :
    ∀ ns : List Node, AroundAll body ns → writeAll ns = .error e ∨
      ∃ cs, writeAll ns = .ok cs ∧ ∀ after, gappedAll ns after = after.prepend cs
  | [], _ => Or.inr ⟨[], rfl, fun _ => rfl⟩
  | n :: ns, h => by
    rcases gapped_of_error failed n h.1 with stopped | ⟨first, firstWritten, firstSame⟩
    · exact Or.inl (writeAll_of_error stopped)
    · rcases gappedAll_of_error failed ns h.2 with stopped | ⟨rest, restWritten, restSame⟩
      · exact Or.inl (writeAll_of_later_error firstWritten stopped)
      · refine Or.inr ⟨first ++ rest, writeAll_of_ok firstWritten restWritten, fun after => ?_⟩
        rw [gappedAll, restSame, firstSame, Gapped.prepend_prepend]
end

/-- Where there is a component, the tree is rendered as far as the component is. -/
theorem write_eq_map_fill {n : Node} (around : Around body n)
    (gap : (gapped n .empty).behind ≠ []) :
    write n = (write body).map (gapped n .empty).fill := by
  cases wrote : write body with
  | ok inside =>
    obtain ⟨cs, written, filled⟩ := fill_gapped wrote n around
    rw [written, Except.map, filled, Gapped.fill_empty, List.append_nil]
  | error e =>
    rcases gapped_of_error wrote n around with stopped | ⟨cs, _, same⟩
    · rw [stopped]
      rfl
    · rw [same] at gap
      exact absurd rfl gap

end Filling
end DocPages.Markup
