import DocPages.Yaml.Token
import DocPages.Decimal.Read
/-! # Scalars in the text

The three ways to write a scalar: plain, in quotes, and as a block of lines.  In the first two a line
end becomes a blank and further empty lines become line feeds; a block keeps its lines or folds
them. -/
set_option autoImplicit false
namespace DocPages.Yaml.Scalar

abbrev Lexed := Except Error (List Char × Cursor)

/-! ## Plain scalars -/

structure PlainStyle where
  flow : Bool
  version : Version
  /-- the least column at which a continuation line may start -/
  indent : Nat

def flowMarks : List Char := [',', ':', '?', '[', ']', '\x7b', '\x7d']

def plainLength (style : PlainStyle) : List Char → Nat
  | [] => 0
  | c :: rest =>
    if c == ':' && !endsWord rest.head? then plainLength style rest + 1
    else if c == '?' && style.version != .v11 then plainLength style rest + 1
    else if endsWord (some c) || c == ':' && !style.flow || style.flow && flowMarks.contains c then 0
    else plainLength style rest + 1

/-- Line ends and the blanks before them, up to the next text or a document marker.  The flag says
whether no marker was met. -/
def emptyLines : Nat → List Char → Cursor → List Char × Bool × Cursor
  | 0, found, c => (found, true, c)
  | fuel + 1, found, c =>
    if c.peek == some ' ' then emptyLines fuel found c.next
    else if breaks c.peek then
      let (b, c) := c.lineBreak
      if c.atMarker then (found, false, c) else emptyLines fuel (found ++ b) c
    else (found, true, c)

/-- A line end followed by empty lines: alone it counts as a blank. -/
def fold (lineBreak more : List Char) : List Char :=
  if lineBreak != ['\n'] then lineBreak ++ more
  else if more.isEmpty then [' ']
  else more

def plainGap (c : Cursor) : List Char × Bool × Cursor :=
  let (blanks, c) := c.span (· == ' ')
  if breaks c.peek then
    let (b, c) := c.lineBreak
    if c.atMarker then ([], true, c)
    else
      let (more, unmarked, c) := emptyLines (c.rest.length + 1) [] c
      if unmarked then (fold b more, true, c) else ([], true, c)
  else (blanks, false, c)

def plainFrom (style : PlainStyle) :
    Nat → List Char → List Char → Bool → Cursor → List Char × Bool × Cursor
  | 0, text, _, broken, c => (text, broken, c)
  | fuel + 1, text, gap, broken, c =>
    if c.peek == some '#' then (text, broken, c)
    else
      let n := plainLength style c.rest
      if n = 0 then (text, broken, c)
      else
        let text := text ++ gap ++ c.rest.take n
        let (gap, broken, c) := plainGap (c.skip n)
        if gap.isEmpty || c.peek == some '#' || !style.flow && c.column < style.indent then
          (text, broken, c)
        else plainFrom style fuel text gap broken c

def plain (style : PlainStyle) (c : Cursor) : List Char × Bool × Cursor :=
  plainFrom style (c.rest.length + 1) [] [] false c

/-! ## Quoted scalars -/

def simpleEscapes : List (Char × Char) :=
  [('0', '\x00'), ('a', '\x07'), ('b', '\x08'), ('t', '\t'), ('\t', '\t'), ('n', '\n'),
    ('v', '\x0b'), ('f', '\x0c'), ('r', '\r'), ('e', '\x1b'), (' ', ' '), ('"', '"'), ('/', '/'),
    ('\\', '\\'), ('N', '\x85'), ('_', '\xa0'), ('L', '\u2028'), ('P', '\u2029')]

def escapeWidth : Char → Nat
  | 'x' => 2
  | 'u' => 4
  | 'U' => 8
  | _ => 0

def lowSurrogate (high : Nat) (c : Cursor) : Except Error (Char × Cursor) :=
  match c.rest with
  | '\\' :: 'u' :: more =>
    match Decimal.readNat 16 (more.take 4) with
    | some low =>
      if (more.take 4).length = 4 ∧ 0xdc00 ≤ low ∧ low < 0xe000 then
        .ok (Char.ofNat (0x10000 + (high - 0xd800) * 0x400 + (low - 0xdc00)), c.skip 6)
      else .error .malformed
    | none => .error .malformed
  | _ => .error .malformed

def codePoint (width : Nat) (c : Cursor) : Except Error (Char × Cursor) :=
  let ds := c.rest.take width
  match Decimal.readNat 16 ds with
  | some n =>
    if ds.length < width then .error .malformed
    else if 0xd800 ≤ n ∧ n < 0xdc00 then lowSurrogate n (c.skip width)
    else if Nat.isValidChar n then .ok (Char.ofNat n, c.skip width)
    else .error .malformed
  | none => .error .malformed

def quotedBreaks : Nat → List Char → Cursor → Lexed
  | 0, _, _ => .error .malformed
  | fuel + 1, found, c =>
    if c.atMarker then .error .malformed
    else
      let (_, c) := c.span fun ch => ch == ' ' || ch == '\t'
      if breaks c.peek then
        let (b, c) := c.lineBreak
        quotedBreaks fuel (found ++ b) c
      else .ok (found, c)

def quotedStops : List Char := [' ', '\n', '\'', '"', '\\', '\t', '\x85', '\u2028', '\u2029']

def quotedWord (double : Bool) : Nat → List Char → Cursor → Lexed
  | 0, _, _ => .error .malformed
  | fuel + 1, found, c =>
    let (run, c) := c.span fun ch => !quotedStops.contains ch
    let found := found ++ run
    match c.peek with
    | none => .ok (found, c)
    | some ch =>
      if !double && ch == '\'' && c.peekAt 1 == some '\'' then
        quotedWord double fuel (found ++ ['\'']) (c.skip 2)
      else if double && ch == '\'' || !double && (ch == '"' || ch == '\\') then
        quotedWord double fuel (found ++ [ch]) c.next
      else if double && ch == '\\' then
        let c := c.next
        match c.peek with
        | none => .error .malformed
        | some e =>
          match simpleEscapes.lookup e with
          | some ch => quotedWord double fuel (found ++ [ch]) c.next
          | none =>
            if escapeWidth e ≠ 0 then do
              let (ch, c) ← codePoint (escapeWidth e) c.next
              quotedWord double fuel (found ++ [ch]) c
            else if isBreak e then do
              let (more, c) ← quotedBreaks (c.rest.length + 1) [] c.lineBreak.2
              quotedWord double fuel (found ++ more) c
            else .error .malformed
      else .ok (found, c)

def quotedGap (c : Cursor) : Lexed :=
  let (blanks, c) := c.span fun ch => ch == ' ' || ch == '\t'
  match c.peek with
  | none => .error .malformed
  | some ch =>
    if isBreak ch then do
      let (b, c) := c.lineBreak
      let (more, c) ← quotedBreaks (c.rest.length + 1) [] c
      return (fold b more, c)
    else .ok (blanks, c)

def quotedFrom (quote : Char) : Nat → List Char → Cursor → Lexed
  | 0, _, _ => .error .malformed
  | fuel + 1, found, c =>
    if c.peek == some quote then .ok (found, c.next)
    else do
      let (gap, c) ← quotedGap c
      let (word, c) ← quotedWord (quote == '"') (c.rest.length + 1) [] c
      quotedFrom quote fuel (found ++ gap ++ word) c

def quoted (quote : Char) (c : Cursor) : Lexed := do
  let (word, c) ← quotedWord (quote == '"') (c.rest.length + 1) [] c.next
  quotedFrom quote (c.rest.length + 1) word c

/-! ## Block scalars -/

inductive Chomping
  | strip
  | clip
  | keep
  deriving DecidableEq

def chomping? : Option Char → Option Chomping
  | some '+' => some .keep
  | some '-' => some .strip
  | _ => none

def indicatorDigit? (c : Cursor) : Except Error (Option Nat) :=
  match c.peek with
  | some ch =>
    if Decimal.isDigit ch then
      if ch == '0' then .error .malformed else .ok (some (ch.toNat - '0'.toNat))
    else .ok none
  | none => .ok none

def header (c : Cursor) : Except Error (Chomping × Option Nat × Cursor) := do
  let (chomping, depth, c) ← match chomping? c.peek with
    | some k => do
      let c := c.next
      let depth ← indicatorDigit? c
      pure (k, depth, if depth.isSome then c.next else c)
    | none => do
      match ← indicatorDigit? c with
      | none => pure (Chomping.clip, none, c)
      | some n =>
        let c := c.next
        match chomping? c.peek with
        | some k => pure (k, some n, c.next)
        | none => pure (Chomping.clip, some n, c)
  if endsToken c.peek then return (chomping, depth, c) else .error .malformed

def ignoredLine (c : Cursor) : Except Error Cursor :=
  let (_, c) := c.span (· == ' ')
  let c := if c.peek == some '#' then (c.span fun ch => !endsLine (some ch)).2 else c
  if c.peek.isNone || breaks c.peek then .ok c.lineBreak.2 else .error .malformed

def leadingLines : Nat → List Char → Nat → Cursor → List Char × Nat × Cursor
  | 0, found, deepest, c => (found, deepest, c)
  | fuel + 1, found, deepest, c =>
    if c.peek == some ' ' then
      let c := c.next
      leadingLines fuel found (max deepest c.column) c
    else if breaks c.peek then
      let (b, c) := c.lineBreak
      leadingLines fuel (found ++ b) deepest c
    else (found, deepest, c)

def skipIndent (indent : Nat) : Nat → Cursor → Cursor
  | 0, c => c
  | fuel + 1, c =>
    if c.column < indent && c.peek == some ' ' then skipIndent indent fuel c.next else c

def blockBreaks (indent : Nat) : Nat → List Char → Cursor → List Char × Cursor
  | 0, found, c => (found, c)
  | fuel + 1, found, c =>
    let c := skipIndent indent c.rest.length c
    if breaks c.peek then
      let (b, c) := c.lineBreak
      blockBreaks indent fuel (found ++ b) c
    else (found, c)

def isIndented (ch : Option Char) : Bool := ch == some ' ' || ch == some '\t'

def blockLines (folded top : Bool) (indent : Nat) :
    Nat → List Char → List Char → Cursor → List Char × List Char × List Char × Cursor
  | 0, found, before, c => (found, [], before, c)
  | fuel + 1, found, before, c =>
    let starts := !isIndented c.peek
    let (line, c) := c.span fun ch => !endsLine (some ch)
    let found := found ++ before ++ line
    let (b, c) := c.lineBreak
    let (more, c) := blockBreaks indent (c.rest.length + 1) [] c
    if top && c.column = 0 && c.atMarker then (found, b, more, c)
    else if c.column = indent && c.peek.isSome then
      let joint :=
        if folded && b == ['\n'] && starts && !isIndented c.peek then
          if more.isEmpty then [' '] else []
        else b
      blockLines folded top indent fuel (found ++ joint) more c
    else (found, b, more, c)

/-- The text of a block scalar whose style mark is at the cursor; `minIndent` is the least
indentation that its place in the document asks for. -/
def block (folded : Bool) (minIndent : Nat) (c : Cursor) : Lexed := do
  let (chomping, depth, c) ← header c.next
  let c ← ignoredLine c
  let (indent, before, c) := match depth with
    | none =>
      let (before, deepest, c) := leadingLines (c.rest.length + 1) [] 0 c
      (max minIndent deepest, before, c)
    | some n =>
      let indent := max minIndent 1 + n - 1
      let (before, c) := blockBreaks indent (c.rest.length + 1) [] c
      (indent, before, c)
  let (text, lastBreak, after, c) :=
    if c.column = indent && c.peek.isSome then
      blockLines folded (minIndent = 0 && depth.isNone) indent (c.rest.length + 1) [] before c
    else ([], [], before, c)
  return match chomping with
    | .strip => (text, c)
    | .clip => (text ++ lastBreak, c)
    | .keep => (text ++ lastBreak ++ after, c)

end DocPages.Yaml.Scalar
