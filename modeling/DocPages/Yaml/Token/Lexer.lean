import DocPages.Yaml.Token.Scalar
/-! # Cutting a document into tokens

The lexer keeps the columns of the open block collections and the places at which a key may have
begun.  A value indicator turns the latest such place into a key; a place is given up when its line
ends or after 1024 characters, and giving up one that had to be a key is an error. -/
set_option autoImplicit false
namespace DocPages.Yaml

inductive Bracket
  | sequence
  | mapping
  deriving DecidableEq

/-- A token that turns out to begin a key if a value indicator follows on its line. -/
structure KeyCandidate where
  depth : Nat
  /-- how many tokens stand before it -/
  place : Nat
  required : Bool
  index : Nat
  line : Nat
  column : Nat

structure Lexer where
  cursor : Cursor
  tokens : Array Token
  /-- the open brackets, innermost first -/
  flow : List Bracket
  /-- the columns of the open block collections, innermost first -/
  indents : List Nat
  keyAllowed : Bool
  candidates : List KeyCandidate
  version : Version

namespace Lexer

abbrev Step := Except Error Lexer

def start (cs : List Char) (version : Version) : Lexer :=
  ⟨.ofList cs, #[], [], [], true, [], version⟩

def inFlow (s : Lexer) : Bool := !s.flow.isEmpty

def emit (s : Lexer) (t : Token) : Lexer := { s with tokens := s.tokens.push t }

def advance (s : Lexer) (n : Nat) : Lexer := { s with cursor := s.cursor.skip n }

def allowKey (s : Lexer) (allowed : Bool) : Lexer := { s with keyAllowed := allowed }

def skipToToken : Nat → Lexer → Lexer
  | 0, s => s
  | fuel + 1, s =>
    let (_, c) := s.cursor.span fun ch => ch == ' ' || ch == '\t' && s.inFlow
    let c := if c.peek == some '#' then (c.span fun ch => !endsLine (some ch)).2 else c
    if breaks c.peek then
      skipToToken fuel { s with cursor := c.lineBreak.2, keyAllowed := s.keyAllowed || !s.inFlow }
    else { s with cursor := c }

/-- Closes the block collections that are indented deeper than `column`; all of them if there is
no column. -/
def unwind (s : Lexer) (column : Option Nat) : Lexer :=
  if s.inFlow then s
  else
    let deeper (i : Nat) : Bool := match column with
      | some c => c < i
      | none => true
    let closed := (s.indents.takeWhile deeper).length
    { s with
      indents := s.indents.drop closed
      tokens := s.tokens ++ (Array.replicate closed Token.blockEnd) }

def openBlock (s : Lexer) (column place : Nat) (t : Token) : Lexer :=
  if s.indents.all (· < column) then
    { s with indents := column :: s.indents, tokens := s.tokens.insertIdxIfInBounds place t }
  else s

def stale (c : Cursor) (k : KeyCandidate) : Bool := k.line != c.line || 1024 < c.index - k.index

def dropStale (s : Lexer) : Step :=
  if s.candidates.any fun k => stale s.cursor k && k.required then .error .malformed
  else .ok { s with candidates := s.candidates.filter fun k => !stale s.cursor k }

def candidate? (s : Lexer) : Option KeyCandidate :=
  s.candidates.find? fun k => k.depth == s.flow.length

def withoutCandidate (s : Lexer) : Lexer :=
  { s with candidates := s.candidates.filter fun k => k.depth != s.flow.length }

def dropCandidate (s : Lexer) : Step :=
  match s.candidate? with
  | some k => if k.required then .error .malformed else .ok s.withoutCandidate
  | none => .ok s

def saveCandidate (s : Lexer) : Step :=
  if s.keyAllowed then do
    let required := !s.inFlow && s.indents.head? == some s.cursor.column
    let s ← s.dropCandidate
    let k : KeyCandidate :=
      ⟨s.flow.length, s.tokens.size, required, s.cursor.index, s.cursor.line, s.cursor.column⟩
    return { s with candidates := k :: s.candidates }
  else .ok s

/-! ## Directives and document markers -/

def isWordChar (c : Char) : Bool := c.isAlphanum || c == '-' || c == '_'

def number (c : Cursor) : Except Error (Nat × Cursor) :=
  let (ds, c) := c.span Decimal.isDigit
  match Decimal.readNat 10 ds with
  | some n => .ok (n, c)
  | none => .error .malformed

def skipSpaces (c : Cursor) : Cursor := (c.span (· == ' ')).2

def isUriChar (version : Version) (c : Char) : Bool :=
  c.isAlphanum || "-;/?:@&=+$,_.!~*'()[]%".toList.contains c || c == '#' && version != .v11

def escapedBytes : Nat → List UInt8 → Cursor → Except Error (List UInt8 × Cursor)
  | 0, found, c => .ok (found, c)
  | fuel + 1, found, c =>
    match c.rest with
    | '%' :: a :: b :: _ =>
      match Decimal.readNat 16 [a, b] with
      | some n => escapedBytes fuel (found ++ [UInt8.ofNat n]) (c.skip 3)
      | none => .error .malformed
    | '%' :: _ => .error .malformed
    | _ => .ok (found, c)

def uriFrom (version : Version) : Nat → List Char → Cursor → Except Error (List Char × Cursor)
  | 0, found, c => .ok (found, c)
  | fuel + 1, found, c =>
    let (run, c) := c.span fun ch => isUriChar version ch && ch != '%'
    let found := found ++ run
    if c.peek == some '%' then do
      let (bytes, c) ← escapedBytes (c.rest.length + 1) [] c
      match String.fromUTF8? ⟨bytes.toArray⟩ with
      | some text => uriFrom version fuel (found ++ text.toList) c
      | none => .error .malformed
    else .ok (found, c)

def uri (version : Version) (c : Cursor) : Except Error (String × Cursor) := do
  let (text, c) ← uriFrom version (c.rest.length + 1) [] c
  if text.isEmpty then .error .malformed else return (String.ofList text, c)

def tagHandle (c : Cursor) : Except Error (String × Cursor) :=
  if c.peek != some '!' then .error .malformed
  else
    let c := c.next
    if c.peek == some ' ' then .ok ("!", c)
    else
      let (word, c) := c.span isWordChar
      if c.peek == some '!' then .ok (String.ofList ('!' :: word ++ ['!']), c.next)
      else .error .malformed

def directive (version : Version) (c : Cursor) : Except Error (Directive × Cursor) := do
  let (name, c) := c.next.span fun ch => isWordChar ch || ch == ':' || ch == '.'
  if name.isEmpty || !endsToken c.peek then .error .malformed
  let (d, c) ← match String.ofList name with
    | "YAML" => do
      let (major, c) ← number (skipSpaces c)
      if c.peek != some '.' then .error .malformed
      let (minor, c) ← number c.next
      if !endsToken c.peek then .error .malformed
      pure (Directive.version major minor, c)
    | "TAG" => do
      let (handle, c) ← tagHandle (skipSpaces c)
      if c.peek != some ' ' then .error .malformed
      let (tagStart, c) ← uri version (skipSpaces c)
      if !endsToken c.peek then .error .malformed
      pure (Directive.tag handle tagStart, c)
    | _ => pure (Directive.other, (c.span fun ch => !endsLine (some ch)).2)
  return (d, ← Scalar.ignoredLine c)

def editionOf (current : Version) : Directive → Version
  | .version 1 1 => .v11
  | .version 1 2 => .v12
  | _ => current

def lexDirective (s : Lexer) : Step := do
  let s ← (s.unwind none).dropCandidate
  let (d, c) ← directive s.version s.cursor
  return { s.emit (.directive d) with
    keyAllowed := false
    cursor := c
    version := editionOf s.version d }

def lexMarker (s : Lexer) (t : Token) : Step := do
  let s ← (s.unwind none).dropCandidate
  return ((s.emit t).advance 3).allowKey false

/-! ## Collections -/

def openFlow (s : Lexer) (b : Bracket) (t : Token) : Step := do
  let s ← s.saveCandidate
  return ({ s.emit t with flow := b :: s.flow }.advance 1).allowKey true

def closeFlow (s : Lexer) (t : Token) : Step := do
  let s ← s.dropCandidate
  return ({ s.emit t with flow := s.flow.drop 1 }.advance 1).allowKey false

def lexFlowEntry (s : Lexer) : Step := do
  let s ← s.dropCandidate
  return ((s.emit .flowEntry).advance 1).allowKey true

def startBlock (s : Lexer) (t : Token) : Step :=
  if s.inFlow then .ok s
  else if s.keyAllowed then .ok (s.openBlock s.cursor.column s.tokens.size t)
  else .error .malformed

def lexBlockEntry (s : Lexer) : Step := do
  let s ← s.startBlock .blockSequenceStart
  let s ← s.dropCandidate
  return ((s.emit .blockEntry).advance 1).allowKey true

def lexKey (s : Lexer) : Step := do
  let s ← s.startBlock .blockMappingStart
  let s ← s.dropCandidate
  return ((s.emit .key).advance 1).allowKey (!s.inFlow)

def lexValue (s : Lexer) : Step :=
  match s.candidate? with
  | some k =>
    let s := s.withoutCandidate
    let s := { s with tokens := s.tokens.insertIdxIfInBounds k.place .key }
    let s := if s.inFlow then s else s.openBlock k.column k.place .blockMappingStart
    .ok (((s.emit .value).advance 1).allowKey false)
  | none => do
    let s ← s.startBlock .blockMappingStart
    let s ← s.dropCandidate
    return ((s.emit .value).advance 1).allowKey (!s.inFlow)

/-! ## Scalars and their properties -/

def isAnchorChar (c : Char) : Bool :=
  let n := c.toNat
  !([',', '[', ']', '\x7b', '\x7d'].contains c) &&
    (0x21 ≤ n && n ≤ 0x7e || 0xa0 ≤ n && n ≤ 0xfffd && c != '\ufeff' || 0x10000 ≤ n)

def endsAnchor : Option Char → Bool
  | none => true
  | some c =>
    endsToken (some c)
      || ['\t', '?', ':', ',', '[', ']', '\x7b', '\x7d', '%', '@', '\x60'].contains c

def lexAnchor (s : Lexer) (make : String → Token) : Step := do
  let s ← s.saveCandidate
  let (name, c) := s.cursor.next.span isAnchorChar
  if name.isEmpty || !endsAnchor c.peek then .error .malformed
  return ({ s.emit (make (String.ofList name)) with cursor := c }).allowKey false

def tag (version : Version) (c : Cursor) : Except Error (Token × Cursor) := do
  let (t, c) ←
    if c.peekAt 1 == some '<' then do
      let (suffix, c) ← uri version (c.skip 2)
      if c.peek != some '>' then .error .malformed
      pure (Token.tag none suffix, c.next)
    else if endsWord (c.peekAt 1) then pure (Token.tag none "!", c.next)
    else do
      let word := (c.rest.drop 1).takeWhile fun ch => !endsToken (some ch)
      let (handle, c) ← if word.contains '!' then tagHandle c else pure ("!", c.next)
      let (suffix, c) ← uri version c
      pure (Token.tag (some handle) suffix, c)
  if endsToken c.peek then return (t, c) else .error .malformed

def lexTag (s : Lexer) : Step := do
  let s ← s.saveCandidate
  let (t, c) ← tag s.version s.cursor
  return ({ s.emit t with cursor := c }).allowKey false

def scalarToken (text : List Char) (plain : Bool) : Token := .scalar (String.ofList text) plain

def contentIndent (s : Lexer) : Nat :=
  match s.indents.head? with
  | some i => i + 1
  | none => 0

def lexBlockScalar (s : Lexer) (folded : Bool) : Step := do
  let s ← s.dropCandidate
  let (text, c) ← Scalar.block folded s.contentIndent s.cursor
  return ({ s.emit (scalarToken text false) with cursor := c }).allowKey true

def lexQuoted (s : Lexer) (quote : Char) : Step := do
  let s ← s.saveCandidate
  let (text, c) ← Scalar.quoted quote s.cursor
  return ({ s.emit (scalarToken text false) with cursor := c }).allowKey false

def lexPlain (s : Lexer) : Step := do
  let s ← s.saveCandidate
  let (text, broken, c) := Scalar.plain ⟨s.inFlow, s.version, s.contentIndent⟩ s.cursor
  return ({ s.emit (scalarToken text true) with cursor := c }).allowKey broken

/-! ## Choosing by the next character -/

/-- Whether a colon at the cursor marks a value.  `adjacent` says that a value indicator was the last
token and that no other token has been handed on since. -/
def marksValue (s : Lexer) (adjacent : Bool) : Bool :=
  match s.flow with
  | [] => endsWord (s.cursor.peekAt 1)
  | b :: _ =>
    s.version == .v11 || (b == .mapping && !adjacent) || endsWord (s.cursor.peekAt 1)

def indicators : List Char :=
  ['-', '?', ':', ',', '[', ']', '\x7b', '\x7d', '#', '&', '*', '!', '|', '>', '\'', '"', '%', '@',
    '\x60', ' ', '\t']

def startsPlain (s : Lexer) (c : Char) : Bool :=
  let next := s.cursor.peekAt 1
  if !(indicators.contains c || isBreak c) then true
  else if s.version == .v11 then !endsWord next && (c == '-' || !s.inFlow && (c == '?' || c == ':'))
  else
    c == '-' && !endsWord next
      || c == ':' && s.inFlow && next != some ' ' && next != some '\t'
      || !endsWord next && s.inFlow && (c == '?' || c == ':')

def lexToken (s : Lexer) (adjacent : Bool) (ch : Char) : Step :=
  let c := s.cursor
  if ch == '%' && c.column = 0 then s.lexDirective
  else if c.column = 0 && c.atMarker then
    s.lexMarker (if ch == '-' then .documentStart else .documentEnd)
  else if ch == '[' then s.openFlow .sequence .flowSequenceStart
  else if ch == '\x7b' then s.openFlow .mapping .flowMappingStart
  else if ch == ']' then s.closeFlow .flowSequenceEnd
  else if ch == '\x7d' then s.closeFlow .flowMappingEnd
  else if ch == ',' then s.lexFlowEntry
  else if ch == '-' && endsWord (c.peekAt 1) then s.lexBlockEntry
  else if ch == '?' && (s.inFlow || endsWord (c.peekAt 1)) then s.lexKey
  else if ch == ':' && s.marksValue adjacent then s.lexValue
  else if ch == '*' then s.lexAnchor .alias
  else if ch == '&' then s.lexAnchor .anchor
  else if ch == '!' then s.lexTag
  else if ch == '|' && !s.inFlow then s.lexBlockScalar false
  else if ch == '>' && !s.inFlow then s.lexBlockScalar true
  else if ch == '\'' || ch == '"' then s.lexQuoted ch
  else if s.startsPlain ch then s.lexPlain
  else .error .malformed

def run : Nat → Lexer → Except Error (List Token)
  | 0, _ => .error .malformed
  | fuel + 1, s => do
    let s ← s.dropStale
    let adjacent := !s.candidates.isEmpty && s.tokens.back? == some .value
    let s := s.skipToToken (s.cursor.rest.length + 1)
    let s ← s.dropStale
    let s := s.unwind (some s.cursor.column)
    match s.cursor.peek with
    | none => do
      let s ← (s.unwind none).dropCandidate
      return s.tokens.toList
    | some ch => do
      let s ← s.lexToken adjacent ch
      run fuel s

end Lexer

def isPrintable (c : Char) : Bool :=
  let n := c.toNat
  c == '\t' || c == '\n' || 0x20 ≤ n && n ≤ 0x7e || n == 0x85 || 0xa0 ≤ n && n ≤ 0xd7ff
    || 0xe000 ≤ n && n ≤ 0xfffd || 0x10000 ≤ n

def Token.ofText (cs : List Char) : Except Error (List Token) :=
  if cs.all isPrintable then
    let cs := if cs.head? == some '\ufeff' then cs.drop 1 else cs
    Lexer.run (cs.length + 2) (.start cs .v12)
  else .error .malformed

end DocPages.Yaml
