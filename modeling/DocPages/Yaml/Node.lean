import DocPages.Yaml.Token.Lexer
/-! # Document trees

The nodes that a list of tokens describes.  An alias stands for the node of its anchor; inside that
very node it is kept as a loop. -/
set_option autoImplicit false
namespace DocPages.Yaml

inductive Node
  | scalar (tag : Option String) (plain : Bool) (text : String)
  | sequence (tag : Option String) (nodes : List Node)
  | mapping (tag : Option String) (entries : List (Node × Node))
  | loop (isMapping : Bool)
  deriving Inhabited

inductive Anchor
  | growing (isMapping : Bool)
  | complete (n : Node)

structure Reader where
  tokens : List Token
  anchors : List (String × Anchor)
  handles : List (String × String)
  version : Version

def standardTag : String := "tag:yaml.org,2002:"

def standardHandles : List (String × String) := [("!", "!"), ("!!", standardTag)]

abbrev Reading := StateT Reader (Except Error)

namespace Reading

def fail {α : Type} : Reading α := throw .malformed

def peek : Reading (Option Token) := do return (← get).tokens.head?

def pop : Reading Unit := modify fun r => { r with tokens := r.tokens.drop 1 }

def take (t : Token) : Reading Bool := do
  if (← peek) == some t then
    pop
    return true
  else return false

def sees (ts : List Token) : Reading Bool := do
  match ← peek with
  | some t => return ts.contains t
  | none => return false

def setAnchor (name : Option String) (a : Anchor) : Reading Unit :=
  match name with
  | some n => modify fun r => { r with anchors := (n, a) :: r.anchors }
  | none => pure ()

def empty : Node := .scalar none true ""

def anchor? : Reading (Option String) := do
  match ← peek with
  | some (.anchor name) => pop; return some name
  | _ => return none

def tag? : Reading (Option String) := do
  match ← peek with
  | some (.tag none suffix) => pop; return some suffix
  | some (.tag (some handle) suffix) =>
    pop
    match (← get).handles.lookup handle with
    | some start => return some (start ++ suffix)
    | none => fail
  | _ => return none

def properties : Reading (Option String × Option String) := do
  match ← anchor? with
  | some a => return (some a, ← tag?)
  | none =>
    match ← tag? with
    | some t => return (← anchor?, some t)
    | none => return (none, none)

/-- Where a node stands: inside brackets, in a block, or as the value of a block mapping, whose
sequence may be indented no deeper than its key. -/
inductive Place
  | flow
  | block
  | blockEntry
  deriving DecidableEq

mutual
def node : Nat → Place → Reading Node
  | 0, _ => fail
  | fuel + 1, place => do
    match ← peek with
    | some (.alias name) =>
      pop
      match (← get).anchors.lookup name with
      | some (.complete n) => return n
      | some (.growing isMapping) => return .loop isMapping
      | none => fail
    | _ =>
      let (anchor, tag) ← properties
      let sequence (read : Reading (List Node)) : Reading Node := do
        setAnchor anchor (.growing false)
        return .sequence tag (← read)
      let mapping (read : Reading (List (Node × Node))) : Reading Node := do
        setAnchor anchor (.growing true)
        return .mapping tag (← read)
      let done (n : Node) : Reading Node := do
        setAnchor anchor (.complete n)
        return n
      match ← peek with
      | some .blockEntry =>
        if place = .blockEntry then done (← sequence (looseItems fuel))
        else if anchor.isSome || tag.isSome then done (.scalar tag true "")
        else fail
      | some (.scalar text plain) => pop; done (.scalar tag (plain && tag.isNone || tag == some "!") text)
      | some .flowSequenceStart => pop; done (← sequence (flowItems fuel true))
      | some .flowMappingStart => pop; done (← mapping (flowEntries fuel true))
      | some .blockSequenceStart =>
        if place = .flow then fail
        pop
        done (← sequence (blockItems fuel))
      | some .blockMappingStart =>
        if place = .flow then fail
        pop
        done (← mapping (blockEntries fuel))
      | _ => if anchor.isSome || tag.isSome then done (.scalar tag true "") else fail

def nodeUnless : Nat → Place → List Token → Reading Node
  | 0, _, _ => fail
  | fuel + 1, place, ends => do if ← sees ends then return empty else node fuel place

def blockItems : Nat → Reading (List Node)
  | 0 => fail
  | fuel + 1 => do
    if ← take .blockEntry then
      let first ← nodeUnless fuel .block [.blockEntry, .blockEnd]
      return first :: (← blockItems fuel)
    else if ← take .blockEnd then return []
    else fail

def looseItems : Nat → Reading (List Node)
  | 0 => fail
  | fuel + 1 => do
    if ← take .blockEntry then
      let first ← nodeUnless fuel .block [.blockEntry, .key, .value, .blockEnd]
      return first :: (← looseItems fuel)
    else return []

def entryValue : Nat → Place → List Token → Reading Node
  | 0, _, _ => fail
  | fuel + 1, place, ends => do if ← take .value then nodeUnless fuel place ends else return empty

def blockEntries : Nat → Reading (List (Node × Node))
  | 0 => fail
  | fuel + 1 => do
    let ends := [Token.key, .value, .blockEnd]
    if ← take .key then
      let k ← nodeUnless fuel .blockEntry ends
      let v ← entryValue fuel .blockEntry ends
      return (k, v) :: (← blockEntries fuel)
    else if (← sees [.value]) && (← get).version != .v11 then
      let v ← entryValue fuel .blockEntry ends
      return (empty, v) :: (← blockEntries fuel)
    else if ← take .blockEnd then return []
    else fail

def flowItems : Nat → Bool → Reading (List Node)
  | 0, _ => fail
  | fuel + 1, first => do
    if ← take .flowSequenceEnd then return []
    if !first then
      if !(← take .flowEntry) then fail
    if ← take .key then
      let ends := [Token.flowEntry, .flowSequenceEnd]
      let k ← nodeUnless fuel .flow (.value :: ends)
      let v ← entryValue fuel .flow ends
      return .mapping none [(k, v)] :: (← flowItems fuel false)
    else if ← take .flowSequenceEnd then return []
    else
      let n ← node fuel .flow
      return n :: (← flowItems fuel false)

def flowEntries : Nat → Bool → Reading (List (Node × Node))
  | 0, _ => fail
  | fuel + 1, first => do
    let ends := [Token.flowEntry, .flowMappingEnd]
    if ← take .flowMappingEnd then return []
    if !first then
      if !(← take .flowEntry) then fail
    if ← take .key then
      let k ← nodeUnless fuel .flow (.value :: ends)
      let v ← entryValue fuel .flow ends
      return (k, v) :: (← flowEntries fuel false)
    else if (← sees [.value]) && (← get).version != .v11 then
      let v ← entryValue fuel .flow ends
      return (empty, v) :: (← flowEntries fuel false)
    else if ← take .flowMappingEnd then return []
    else
      let k ← node fuel .flow
      return (k, empty) :: (← flowEntries fuel false)
end

/-- The directives before a document, of which one may set the edition and each handle may be set
once. -/
def directives : Nat → Bool → List String → Reading Bool
  | 0, _, _ => fail
  | fuel + 1, versioned, set => do
    match ← peek with
    | some (.directive d) =>
      pop
      match d with
      | .version major minor =>
        if versioned || major ≠ 1 then fail
        let version : Version := if minor = 1 then .v11 else .v12
        modify fun r => { r with version := version }
        let _ ← directives fuel true set
        return true
      | .tag handle start =>
        if set.contains handle then fail
        modify fun r => { r with handles := (handle, start) :: r.handles }
        let _ ← directives fuel versioned (handle :: set)
        return true
      | .other =>
        let _ ← directives fuel versioned set
        return true
    | _ => return false

/-- Passes the end mark of a document; in the older edition it may be repeated. -/
def closeDocument : Reading Unit := do
  let _ ← take .documentEnd
  if (← get).version == .v11 then
    modify fun r => { r with tokens := r.tokens.dropWhile (· == .documentEnd) }

def document (fuel : Nat) : Reading (Option Node) := do
  if (← peek).isNone then return none
  let directed ← directives fuel false []
  let root ←
    if ← take .documentStart then
      match ← peek with
      | none => pure empty
      | some .documentStart => pure empty
      | some .documentEnd => pure empty
      | some (.directive _) => pure empty
      | _ => node fuel .block
    else if directed then fail
    else node fuel .block
  closeDocument
  if (← peek).isNone then return some root else fail

end Reading

def Node.ofTokens (tokens : List Token) : Except Error (Option Node × Version) := do
  let fuel := 4 * tokens.length + 8
  let (n, r) ← (Reading.document fuel).run ⟨tokens, [], standardHandles, .v12⟩
  return (n, r.version)

end DocPages.Yaml
