import DocPages.Text.Blank
import DocPages.Yaml.Schema
import DocPages.Yaml.Value
/-! # Reading documents

From a text to the value of its document.  A node with a tag is read as the tag says, one without by
its kind and shape.  A mapping may take entries from others through merge marks; its own entries win
over those, and without a merge mark no key may occur twice. -/
set_option autoImplicit false
namespace DocPages.Yaml

/-! ## Scalars -/

def withoutUnderscores (s : String) : List Char := s.toList.filter (· ≠ '_')

def integerIn (base : Nat) (cs : List Char) : Except Error Int :=
  let stripped := (Text.strip (String.ofList cs)).toList
  let (negative, ds) := Decimal.splitSign stripped
  match Decimal.readNat base ds with
  | some n =>
    if base = 10 ∧ maxDigits < ds.length then .error (.tooManyDigits ds.length)
    else .ok (if negative then -(n : Int) else n)
  | none => .error (.notAnInteger (String.ofList cs) base)

def sexagesimal (cs : List Char) : Except Error Int := do
  let parts := (String.ofList cs).splitOn ":"
  parts.foldlM (fun total part => return total * 60 + (← integerIn 10 part.toList)) 0

def readInteger (version : Version) (s : String) : Except Error Value := do
  let cs := withoutUnderscores s
  if cs.isEmpty then .error .emptyNumber
  let (negative, body) := Decimal.splitSign cs
  let n ← match body with
    | ['0'] => pure (0 : Int)
    | '0' :: 'b' :: r => integerIn 2 r
    | '0' :: 'x' :: r => integerIn 16 r
    | '0' :: 'o' :: r => integerIn 8 r
    | _ =>
      if version == .v11 && body.isEmpty then .error .emptyNumber
      else if version == .v11 && body.head? == some '0' then integerIn 8 body
      else if version == .v11 && body.contains ':' then sexagesimal body
      else integerIn 10 body
  return .int (if negative then -n else n)

def decimal (s : String) : Except Error Float :=
  match Decimal.readFloat (Text.strip s) with
  | some x => .ok x
  | none => .error (.notADecimal s)

def sexagesimalDecimal (parts : List String) : Except Error Float := do
  let digits ← parts.mapM decimal
  let (total, _) := digits.foldr (fun x (total, base) => (total + x * base, base * 60))
    ((0 : Float), (1 : Float))
  return total

def readDecimal (version : Version) (s : String) : Except Error Value := do
  let cs := withoutUnderscores s.toLower
  if cs.isEmpty then .error .emptyNumber
  let (negative, body) := Decimal.splitSign cs
  let sign (x : Float) : Float := if negative then -x else x
  match String.ofList body with
  | ".inf" => return .float (sign (1 / 0))
  | ".nan" => return .float (0 / 0)
  | t =>
    if version == .v11 && body.contains ':' then
      return .float (sign (← sexagesimalDecimal (t.splitOn ":")))
    else return .float (sign (← decimal t))

def readTruth (s : String) : Except Error Value :=
  let word := s.toLower
  if ["true", "yes", "y", "on"].contains word then .ok (.bool true)
  else if ["false", "no", "n", "off"].contains word then .ok (.bool false)
  else .error (.notATruthValue word)

def readMoment (s : String) : Except Error Value :=
  match Stamp.read true s.toList with
  | none => .error .malformed
  | some stamp =>
    match stamp.time with
    | none => ((Day.make stamp.year stamp.month stamp.day).map .day).mapError .outOfRange
    | some (hour, minute, second, fraction) =>
      ((Moment.make stamp.year stamp.month stamp.day hour minute second fraction stamp.offset).map
        .moment).mapError .outOfRange

def sixBits (c : Char) : Option Nat :=
  if 'A' ≤ c ∧ c ≤ 'Z' then some (c.toNat - 'A'.toNat)
  else if 'a' ≤ c ∧ c ≤ 'z' then some (c.toNat - 'a'.toNat + 26)
  else if '0' ≤ c ∧ c ≤ '9' then some (c.toNat - '0'.toNat + 52)
  else if c = '+' then some 62
  else if c = '/' then some 63
  else none

def base64 : List Char → Except Error (List UInt8)
  | [] => .ok []
  | a :: b :: '=' :: '=' :: _ =>
    match sixBits a, sixBits b with
    | some a, some b => .ok [UInt8.ofNat (a * 4 + b / 16)]
    | _, _ => .error .malformed
  | a :: b :: c :: '=' :: _ =>
    match sixBits a, sixBits b, sixBits c with
    | some a, some b, some c =>
      .ok [UInt8.ofNat (a * 4 + b / 16), UInt8.ofNat (b % 16 * 16 + c / 4)]
    | _, _, _ => .error .malformed
  | a :: b :: c :: d :: rest =>
    match sixBits a, sixBits b, sixBits c, sixBits d with
    | some a, some b, some c, some d => do
      let more ← base64 rest
      return UInt8.ofNat (a * 4 + b / 16) :: UInt8.ofNat (b % 16 * 16 + c / 4)
        :: UInt8.ofNat (c % 4 * 64 + d) :: more
    | _, _, _, _ => .error .malformed
  | _ => .error .malformed

def readBytes (s : String) : Except Error Value := do
  if s.toList.any fun c => 0x80 ≤ c.toNat then .error .malformed
  let kept := s.toList.filter fun c => (sixBits c).isSome || c == '='
  return .bytes (← base64 kept)

def readScalar (version : Version) (kind : Kind) (s : String) : Except Error Value :=
  match kind with
  | .null => .ok .null
  | .bool => readTruth s
  | .int => readInteger version s
  | .float => readDecimal version s
  | .timestamp => readMoment s
  | .text => .ok (.text s)
  | .merge => .error .malformed
  | .default => .error .malformed

/-! ## Tags -/

inductive Tag
  | scalar (kind : Kind)
  | binary
  | sequence
  | mapping
  | set
  | ordered
  | pairs
  deriving DecidableEq

def standardTags : List (String × Tag) :=
  [("null", .scalar .null), ("bool", .scalar .bool), ("int", .scalar .int),
    ("float", .scalar .float), ("timestamp", .scalar .timestamp), ("str", .scalar .text),
    ("merge", .scalar .merge), ("value", .scalar .default), ("binary", .binary),
    ("seq", .sequence), ("map", .mapping), ("set", .set), ("omap", .ordered), ("pairs", .pairs)]

def Tag.named? (name : String) : Option Tag :=
  (standardTags.find? fun e => standardTag ++ e.1 == name).map Prod.snd

def Node.tag? (version : Version) : Node → Option Tag
  | .scalar none true text => some (.scalar (.ofPlain version text))
  | .scalar none false _ => some (.scalar .text)
  | .scalar (some name) _ text =>
    if name = "!" then some (.scalar (.ofPlain version text)) else Tag.named? name
  | .sequence none _ => some .sequence
  | .sequence (some name) _ => if name = "!" then some .sequence else Tag.named? name
  | .mapping none _ => some .mapping
  | .mapping (some name) _ => if name = "!" then some .mapping else Tag.named? name
  | .loop isMapping => some (if isMapping then .mapping else .sequence)

/-! ## Merging -/

mutual
/-- The entries that a mapping takes from others, and its own without the merge marks; `merged` and
`own` are those found so far.  Once a merge mark has brought entries, no other may follow. -/
def mergedAndOwn (version : Version) :
    Nat → List (Node × Node) → List (Node × Node) → List (Node × Node) →
      Except Error (List (Node × Node) × List (Node × Node))
  | 0, _, _, _ => .error .malformed
  | _ + 1, merged, own, [] => .ok (merged, own)
  | fuel + 1, merged, own, (k, v) :: rest =>
    if k.tag? version == some (.scalar .merge) then
      if !merged.isEmpty then .error .malformed
      else do mergedAndOwn version fuel (← mergeSource version fuel v) own rest
    else mergedAndOwn version fuel merged (own ++ [(k, v)]) rest

def mergeSource (version : Version) : Nat → Node → Except Error (List (Node × Node))
  | 0, _ => .error .malformed
  | fuel + 1, .mapping _ es => do
    let (merged, own) ← mergedAndOwn version fuel [] [] es
    return merged ++ own
  | fuel + 1, .sequence _ nodes => mergeSources version fuel nodes
  | _ + 1, _ => .error .malformed

def mergeSources (version : Version) : Nat → List Node → Except Error (List (Node × Node))
  | 0, _ => .error .malformed
  | _ + 1, [] => .ok []
  | fuel + 1, n :: ns => do
    let later ← mergeSources version fuel ns
    match n with
    | .mapping _ _ => return later ++ (← mergeSource version fuel n)
    | _ => .error .malformed
end

mutual
def Node.weight : Node → Nat
  | .scalar _ _ _ => 1
  | .sequence _ nodes => weights nodes + 1
  | .mapping _ es => entryWeights es + 1
  | .loop _ => 1

def weights : List Node → Nat
  | [] => 0
  | n :: ns => n.weight + weights ns + 1

def entryWeights : List (Node × Node) → Nat
  | [] => 0
  | (k, v) :: es => k.weight + v.weight + entryWeights es + 1
end

/-! ## Values -/

/-- A list as a key is fixed; other collections are no keys. -/
def asKey : Value → Except Error Value
  | .list items =>
    match (Value.tuple items).unhashable? with
    | some kind => .error (.unhashable kind)
    | none => .ok (.tuple items)
  | v => if v.unhashable?.isSome then .error .malformed else .ok v

mutual
def valueOf (version : Version) : Nat → Node → Except Error Value
  | 0, _ => .error .malformed
  | fuel + 1, n =>
    match n.tag? version with
    | none => .error .malformed
    | some t =>
      match n, t with
      | .loop isMapping, _ => .ok (.loop isMapping)
      | .scalar _ _ s, .scalar kind => readScalar version kind s
      | .scalar _ _ s, .binary => readBytes s
      | .mapping _ es, .scalar kind => do
        match es.find? fun e => e.1.tag? version == some (.scalar .default) with
        | some (_, .scalar _ _ s) => readScalar version kind s
        | _ => .error .malformed
      | .sequence _ nodes, .sequence => return .list (← valuesOf version fuel nodes)
      | .mapping _ es, .mapping => return .mapping (← entriesOf version fuel es)
      | .mapping _ es, .set => return .set ((← entriesOf version fuel es).map Prod.fst)
      | .sequence _ nodes, .ordered => do
        let es ← pairsOf version fuel nodes
        return .ordered (es.foldl (fun done e => Value.putEntry e.1 e.2 done) [])
      | .sequence _ nodes, .pairs => do
        let es ← pairsOf version fuel nodes
        return .list (es.map fun e => .tuple [e.1, e.2])
      | _, _ => .error .malformed

def valuesOf (version : Version) : Nat → List Node → Except Error (List Value)
  | 0, _ => .error .malformed
  | _ + 1, [] => .ok []
  | fuel + 1, n :: ns => do
    let v ← valueOf version fuel n
    return v :: (← valuesOf version fuel ns)

def pairsOf (version : Version) : Nat → List Node → Except Error (List (Value × Value))
  | 0, _ => .error .malformed
  | _ + 1, [] => .ok []
  | fuel + 1, .mapping _ [(k, v)] :: ns => do
    let k ← valueOf version fuel k
    let v ← valueOf version fuel v
    return (k, v) :: (← pairsOf version fuel ns)
  | _ + 1, _ => .error .malformed

def entriesOf (version : Version) : Nat → List (Node × Node) → Except Error (List (Value × Value))
  | 0, _ => .error .malformed
  | fuel + 1, es => do
    let (merged, own) ← mergedAndOwn version fuel [] [] es
    if merged.isEmpty then collect version fuel true own []
    else do
      let taken ← collect version fuel false merged []
      collect version fuel false own taken

def collect (version : Version) :
    Nat → Bool → List (Node × Node) → List (Value × Value) → Except Error (List (Value × Value))
  | 0, _, _, _ => .error .malformed
  | _ + 1, _, [], done => .ok done
  | fuel + 1, unique, (k, v) :: rest, done => do
    let key ← match k.tag? version, k with
      | some (.scalar .default), .scalar _ _ s => pure (.text s)
      | _, _ => do asKey (← valueOf version fuel k)
    let value ← valueOf version fuel v
    if unique && Value.hasKey done key then .error .malformed
    collect version fuel unique rest (Value.putEntry key value done)
end

def unifyLines : List Char → List Char
  | [] => []
  | '\r' :: '\n' :: rest => '\n' :: unifyLines rest
  | '\r' :: rest => '\n' :: unifyLines rest
  | c :: rest => c :: unifyLines rest

/-- The value of the only document of a text; a text without a document is null. -/
def read (s : String) : Except Error Value := do
  let tokens ← Token.ofText (unifyLines s.toList)
  let (root, version) ← Node.ofTokens tokens
  match root with
  | none => return .null
  | some n =>
    let w := n.weight
    valueOf version (w * w + 4 * w + 8) n

end DocPages.Yaml
