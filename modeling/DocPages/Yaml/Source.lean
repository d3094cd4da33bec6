/-! # Positions in a source text

A cursor is the part of a text that is still to be read, and where that part begins.  Line ends have
been unified before: a line ends at a line feed, at the next-line control, or at one of the two
Unicode separators. -/
set_option autoImplicit false
namespace DocPages.Yaml

/-- Which edition of the language governs a document. -/
inductive Version
  | v11
  | v12
  deriving DecidableEq

structure Cursor where
  rest : List Char
  index : Nat
  line : Nat
  column : Nat

def isBreak (c : Char) : Bool :=
  c == '\n' || c == '\x85' || c == '\u2028' || c == '\u2029'

def endsLine : Option Char → Bool
  | none => true
  | some c => c == '\n' || c == '\x85'

def endsWord : Option Char → Bool
  | none => true
  | some c => c == ' ' || c == '\t' || c == '\n' || c == '\x85'

def endsToken : Option Char → Bool
  | none => true
  | some c => c == ' ' || isBreak c

def breaks : Option Char → Bool
  | none => false
  | some c => isBreak c

namespace Cursor

def ofList (cs : List Char) : Cursor := ⟨cs, 0, 0, 0⟩

def peek (c : Cursor) : Option Char := c.rest.head?

def peekAt (c : Cursor) (n : Nat) : Option Char := c.rest[n]?

def next (c : Cursor) : Cursor :=
  match c.rest with
  | [] => c
  | ch :: rest =>
    if isBreak ch then ⟨rest, c.index + 1, c.line + 1, 0⟩
    else ⟨rest, c.index + 1, c.line, if ch == '\ufeff' then c.column else c.column + 1⟩

def skip (c : Cursor) : Nat → Cursor
  | 0 => c
  | n + 1 => c.next.skip n

def span (c : Cursor) (p : Char → Bool) : List Char × Cursor :=
  let run := c.rest.takeWhile p
  (run, c.skip run.length)

/-- Reads one line end; those of ordinary lines all count as a line feed. -/
def lineBreak (c : Cursor) : List Char × Cursor :=
  match c.peek with
  | some ch =>
    if ch == '\n' || ch == '\x85' then (['\n'], c.next)
    else if isBreak ch then ([ch], c.next)
    else ([], c)
  | none => ([], c)

def atMarker (c : Cursor) : Bool :=
  (c.rest.take 3 == ['-', '-', '-'] || c.rest.take 3 == ['.', '.', '.']) && endsWord (c.peekAt 3)

end Cursor
end DocPages.Yaml
