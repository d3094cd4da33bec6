import DocPages.Yaml.Node
/-! # The kind of a plain scalar

A plain scalar without a tag is null, a truth value, a number, a moment, a merge mark, a default mark
or a text, by its shape alone.  The older edition knows more words for truth values and numbers in
base sixty. -/
set_option autoImplicit false
namespace DocPages.Yaml

inductive Kind
  | null
  | bool
  | int
  | float
  | timestamp
  | merge
  | default
  | text
  deriving DecidableEq

namespace Shape

open Decimal (isDigit splitSign)

def isDigitOrUnderscore (c : Char) : Bool := isDigit c || c == '_'

def isBinary (c : Char) : Bool := c == '0' || c == '1' || c == '_'

def isOctal (c : Char) : Bool := ('0' ≤ c && c ≤ '7') || c == '_'

def isHexadecimal (c : Char) : Bool :=
  isDigitOrUnderscore c || ('a' ≤ c && c ≤ 'f') || ('A' ≤ c && c ≤ 'F')

def run (p : Char → Bool) (cs : List Char) : Bool := !cs.isEmpty && cs.all p

/-- Parts in base sixty, each after a colon; the last may end in a fraction where that is allowed. -/
def sixties (fraction : Bool) : Nat → List Char → Bool
  | 0, _ => false
  | fuel + 1, cs =>
    match cs with
    | ':' :: r =>
      let ds := r.takeWhile isDigit
      let rest := r.dropWhile isDigit
      let fits := ds.length = 1 || ds.length = 2 && (ds.headD '9') ≤ '5'
      fits && (match rest with
        | [] => !fraction
        | '.' :: more => fraction && more.all isDigitOrUnderscore
        | _ => sixties fraction fuel rest)
    | _ => false

def isInt (version : Version) (cs : List Char) : Bool :=
  let body := (splitSign cs).2
  match body with
  | '0' :: 'b' :: r => run isBinary r
  | '0' :: 'x' :: r => run isHexadecimal r
  | '0' :: 'o' :: r => version == .v12 && run isOctal r
  | _ =>
    match version with
    | .v12 => run isDigitOrUnderscore body && cs.head? != some '_'
    | .v11 =>
      run isOctal body && cs.head? != some '_'
        || (match body with
          | d :: r =>
            '1' ≤ d && d ≤ '9'
              && (r.all isDigitOrUnderscore || sixties false r.length (r.dropWhile isDigitOrUnderscore))
          | [] => false)

def isExponent (signRequired : Bool) : List Char → Bool
  | c :: r =>
    (c == 'e' || c == 'E') && run isDigit (splitSign r).2
      && (!signRequired || r.head? == some '+' || r.head? == some '-')
  | [] => false

def infinities : List (List Char) := [".inf".toList, ".Inf".toList, ".INF".toList]

def notNumbers : List (List Char) := [".nan".toList, ".NaN".toList, ".NAN".toList]

def isFloat (version : Version) (cs : List Char) : Bool :=
  let body := (splitSign cs).2
  let bare := body.length == cs.length
  infinities.contains body || notNumbers.contains cs
    || (match body with
      | '.' :: r =>
        let more := r.dropWhile isDigitOrUnderscore
        (version == .v12 || bare) && more.length < r.length && (more.isEmpty || isExponent true more)
      | d :: r =>
        let rest := r.dropWhile isDigitOrUnderscore
        isDigit d && (match rest with
          | '.' :: more =>
            let more := more.dropWhile isDigitOrUnderscore
            more.isEmpty || isExponent false more
          | ':' :: _ => version == .v11 && sixties true rest.length rest
          | _ => isExponent false rest)
      | [] => false)

def isTruth (version : Version) (s : String) : Bool :=
  ["true", "True", "TRUE", "false", "False", "FALSE"].contains s
    || version == .v11
      && ["y", "Y", "yes", "Yes", "YES", "n", "N", "no", "No", "NO", "on", "On", "ON", "off", "Off",
        "OFF"].contains s

end Shape

structure Stamp where
  year : Nat
  month : Nat
  day : Nat
  time : Option (Nat × Nat × Nat × List Char)
  /-- minutes east of universal time -/
  offset : Option Int

namespace Stamp

open Decimal (isDigit)

def digits (least most : Nat) (cs : List Char) : Option (Nat × List Char) :=
  let ds := (cs.take most).takeWhile isDigit
  if ds.length < least then none
  else (Decimal.readNat 10 ds).map fun n => (n, cs.drop ds.length)

def char (c : Char) : List Char → Option (List Char)
  | d :: r => if d = c then some r else none
  | [] => none

def isGap (c : Char) : Bool := c == ' ' || c == '\t'

def zone (cs : List Char) : Option (Option Int) :=
  match cs.dropWhile isGap with
  | [] => if cs.isEmpty then some none else none
  | ['Z'] => some (some 0)
  | s :: r =>
    if s = '+' ∨ s = '-' then do
      let (hours, rest) ← digits 1 2 r
      let minutes ← match rest with
        | [] => some 0
        | ':' :: r => do
          let (m, rest) ← digits 2 2 r
          if rest.isEmpty then some m else none
        | _ => none
      let offset : Int := hours * 60 + minutes
      return some (if s = '-' then -offset else offset)
    else none

/-- A date alone, or a date and a time of day.  A date alone has two digits for month and day, unless
`loose` allows one. -/
def read (loose : Bool) (cs : List Char) : Option Stamp := do
  let (year, cs) ← digits 4 4 cs
  let cs ← char '-' cs
  let monthText := cs
  let (month, cs) ← digits 1 2 cs
  let cs ← char '-' cs
  let dayText := cs
  let (day, cs) ← digits 1 2 cs
  if cs.isEmpty then
    if loose || (digits 2 2 monthText).isSome && (digits 2 2 dayText).isSome then
      some ⟨year, month, day, none, none⟩
    else none
  else
    let rest := match cs with
      | 'T' :: r => r
      | 't' :: r => r
      | r => r.dropWhile isGap
    if rest.length = cs.length then none
    let (hour, cs) ← digits 1 2 rest
    let cs ← char ':' cs
    let (minute, cs) ← digits 2 2 cs
    let cs ← char ':' cs
    let (second, cs) ← digits 2 2 cs
    let (fraction, cs) := match cs with
      | '.' :: r => (r.takeWhile isDigit, r.dropWhile isDigit)
      | r => ([], r)
    let offset ← zone cs
    some ⟨year, month, day, some (hour, minute, second, fraction), offset⟩

end Stamp

/-- The kind of a plain scalar; where several shapes fit, the first of them counts. -/
def Kind.ofPlain (version : Version) (s : String) : Kind :=
  let cs := s.toList
  if Shape.isTruth version s then .bool
  else if Shape.isFloat version cs then .float
  else if Shape.isInt version cs then .int
  else if s = "<<" then .merge
  else if s = "" ∨ s = "~" ∨ s = "null" ∨ s = "Null" ∨ s = "NULL" then .null
  else if (Stamp.read false cs).isSome then .timestamp
  else if s = "=" then .default
  else .text

end DocPages.Yaml
