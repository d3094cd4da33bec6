import DocPages.Decimal.Layout
import DocPages.Yaml.Error
/-! # Document values

What a document means: null, truth values, numbers, texts, moments and collections.  The keys of a
mapping may be any values.  `display` is the text of a value; inside collections texts are quoted.  The
members of a set are shown in the order of the document, although a set has none of its own, and a
collection that contains itself is an ellipsis wherever it stands inside itself, so that a part of it is
shown as it is seen from the whole. -/
set_option autoImplicit false
namespace DocPages.Yaml

inductive Value
  | null
  | bool (b : Bool)
  | int (n : Int)
  | float (x : Float)
  | text (s : String)
  | bytes (bs : List UInt8)
  | day (d : Day)
  | moment (m : Moment)
  | list (items : List Value)
  | tuple (items : List Value)
  | set (items : List Value)
  | mapping (entries : List (Value × Value))
  | ordered (entries : List (Value × Value))
  | loop (isMapping : Bool)
  deriving Inhabited

namespace Value

def kind : Value → String
  | .null => "NoneType"
  | .bool _ => "bool"
  | .int _ => "int"
  | .float _ => "float"
  | .text _ => "str"
  | .bytes _ => "bytes"
  | .day _ => "date"
  | .moment _ => "datetime"
  | .list _ => "list"
  | .tuple _ => "tuple"
  | .set _ => "set"
  | .mapping _ => "dict"
  | .ordered _ => "ordereddict"
  | .loop isMapping => if isMapping then "dict" else "list"

/-- Null, zero, and everything empty count as absent. -/
def isAbsent : Value → Bool
  | .null => true
  | .bool b => !b
  | .int n => n == 0
  | .float x => x == 0
  | .text s => s.isEmpty
  | .bytes bs => bs.isEmpty
  | .list l => l.isEmpty
  | .tuple l => l.isEmpty
  | .set l => l.isEmpty
  | .mapping es => es.isEmpty
  | .ordered es => es.isEmpty
  | .day _ => false
  | .moment _ => false
  | .loop _ => false

/-! ## Texts -/

def byteChars (quote : Char) (b : UInt8) : List Char :=
  let n := b.toNat
  if 0x20 ≤ n && n < 0x7f then
    let c := Char.ofNat n
    if c = quote ∨ c = '\\' then ['\\', c] else [c]
  else if n = 9 then ['\\', 't']
  else if n = 10 then ['\\', 'n']
  else if n = 13 then ['\\', 'r']
  else '\\' :: 'x' :: Text.hexDigits 2 n

def bytesText (bs : List UInt8) : String :=
  let quote := Text.quoteFor (bs.map fun b => Char.ofNat b.toNat)
  String.ofList ('b' :: quote :: bs.flatMap (byteChars quote) ++ [quote])

mutual
def expression : Value → String
  | .null => "None"
  | .bool b => if b then "True" else "False"
  | .int n => toString n
  | .float x => Decimal.Layout.plain.write x
  | .text s => Text.quoted s
  | .bytes bs => bytesText bs
  | .day d => d.expression
  | .moment m => m.expression
  | .list l => "[" ++ commas (expressions l) ++ "]"
  | .tuple [v] => "(" ++ expression v ++ ",)"
  | .tuple l => "(" ++ commas (expressions l) ++ ")"
  | .set [] => "set()"
  | .set l => "\x7b" ++ commas (expressions l) ++ "\x7d"
  | .mapping es => "\x7b" ++ commas (entryExpressions es) ++ "\x7d"
  | .ordered [] => "ordereddict()"
  | .ordered es => "ordereddict([" ++ commas (pairExpressions es) ++ "])"
  | .loop true => "\x7b...\x7d"
  | .loop false => "[...]"

def expressions : List Value → List String
  | [] => []
  | v :: vs => expression v :: expressions vs

def entryExpressions : List (Value × Value) → List String
  | [] => []
  | (k, v) :: es => (expression k ++ ": " ++ expression v) :: entryExpressions es

def pairExpressions : List (Value × Value) → List String
  | [] => []
  | (k, v) :: es => ("(" ++ expression k ++ ", " ++ expression v ++ ")") :: pairExpressions es
end

def display : Value → String
  | .text s => s
  | .day d => d.text
  | .moment m => m.text
  | v => v.expression

mutual
/-- No whole number in the value has too many digits for a text. -/
def isWritable : Value → Bool
  | .int n => (toString n.natAbs).length ≤ maxDigits
  | .list items => areWritable items
  | .tuple items => areWritable items
  | .set items => areWritable items
  | .mapping es => entriesWritable es
  | .ordered es => entriesWritable es
  | _ => true

def areWritable : List Value → Bool
  | [] => true
  | v :: vs => isWritable v && areWritable vs

def entriesWritable : List (Value × Value) → Bool
  | [] => true
  | (k, v) :: es => isWritable k && isWritable v && entriesWritable es
end

/-! ## Keys -/

def isWhole (n : Int) (negative : Bool) (b : Decimal.Binary) : Bool :=
  let r := Decimal.Ratio.scaled b.m 2 b.q
  let signed : Int := if negative then -(r.num : Int) else r.num
  signed == n * r.den

def sameNumber : Value → Value → Bool
  | .bool a, .bool b => a == b
  | .bool a, .int n => (if a then 1 else 0) == n
  | .int n, .bool a => (if a then 1 else 0) == n
  | .int m, .int n => m == n
  | .float x, .float y => x == y || (x.isNaN && y.isNaN)
  | .float x, .int n => sameWhole x n
  | .int n, .float x => sameWhole x n
  | .float x, .bool b => sameWhole x (if b then 1 else 0)
  | .bool b, .float x => sameWhole x (if b then 1 else 0)
  | _, _ => false
where
  sameWhole (x : Float) (n : Int) : Bool :=
    match Decimal.classify x with
    | .finite negative b => isWhole n negative b
    | _ => false

mutual
def sameKey : Value → Value → Bool
  | .null, .null => true
  | .text a, .text b => a == b
  | .bytes a, .bytes b => a == b
  | .day a, .day b => a == b
  | .moment a, .moment b => a == b
  | .tuple a, .tuple b => sameKeys a b
  | a, b => sameNumber a b

def sameKeys : List Value → List Value → Bool
  | [], [] => true
  | a :: as, b :: bs => sameKey a b && sameKeys as bs
  | _, _ => false
end

def unhashable? : Value → Option String
  | .list _ => some "list"
  | .set _ => some "set"
  | .mapping _ => some "dict"
  | .ordered _ => some "ordereddict"
  | .loop isMapping => some (if isMapping then "dict" else "list")
  | .tuple items => unhashableIn items
  | _ => none
where
  unhashableIn : List Value → Option String
    | [] => none
    | v :: vs => (unhashable? v).or (unhashableIn vs)

def hasKey (es : List (Value × Value)) (k : Value) : Bool := es.any fun e => e.1.sameKey k

def putEntry (k v : Value) : List (Value × Value) → List (Value × Value)
  | [] => [(k, v)]
  | (k', v') :: es => if k'.sameKey k then (k', v) :: es else (k', v') :: putEntry k v es

def field? (es : List (Value × Value)) (name : String) : Option Value :=
  (es.find? fun e => e.1.sameKey (.text name)).map Prod.snd

end Value
end DocPages.Yaml
