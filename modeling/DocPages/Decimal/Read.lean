import DocPages.Decimal.Layout
/-! # Reading numbers

Whole numbers in a base, and decimal numbers with a fraction and an exponent.  Digits are the ASCII
digits; a single underscore may stand between two of them. -/
set_option autoImplicit false
namespace DocPages.Decimal

def digitValue (c : Char) : Option Nat :=
  if '0' ≤ c ∧ c ≤ '9' then some (c.toNat - '0'.toNat)
  else if 'a' ≤ c ∧ c ≤ 'z' then some (c.toNat - 'a'.toNat + 10)
  else if 'A' ≤ c ∧ c ≤ 'Z' then some (c.toNat - 'A'.toNat + 10)
  else none

def readDigits (base : Nat) (acc : Nat) : List Char → Option Nat
  | [] => some acc
  | c :: cs =>
    match digitValue c with
    | some d => if d < base then readDigits base (acc * base + d) cs else none
    | none => none

def readNat (base : Nat) : List Char → Option Nat
  | [] => none
  | cs => readDigits base 0 cs

def isDigit (c : Char) : Bool := '0' ≤ c && c ≤ '9'

def splitSign : List Char → Bool × List Char
  | '-' :: cs => (true, cs)
  | '+' :: cs => (false, cs)
  | cs => (false, cs)

/-- The nearest number to `mantissa · 10 ^ exponent`. -/
def ofScientific (mantissa : Nat) (exponent : Int) : Float :=
  if mantissa = 0 then 0
  else if exponent < 0 then Float.ofScientific mantissa true exponent.natAbs
  else if 400 < exponent then 1 / 0
  else Float.ofScientific mantissa false exponent.natAbs

def readUnsigned (cs : List Char) : Option Float := do
  let whole := cs.takeWhile isDigit
  let rest := cs.dropWhile isDigit
  let (fraction, rest) := match rest with
    | '.' :: r => (r.takeWhile isDigit, r.dropWhile isDigit)
    | r => ([], r)
  if whole.isEmpty && fraction.isEmpty then none
  let exponent ← match rest with
    | [] => some (0 : Int)
    | c :: r =>
      if c = 'e' ∨ c = 'E' then do
        let (negative, digits) := splitSign r
        let n ← readNat 10 digits
        some (if negative then -(n : Int) else n)
      else none
  let mantissa ← readDigits 10 0 (whole ++ fraction)
  let shift := exponent - fraction.length
  if shift < -100000 then some 0
  else some (ofScientific mantissa shift)

def readFloat (s : String) : Option Float :=
  let (negative, cs) := splitSign s.toList
  let sign (x : Float) : Float := if negative then -x else x
  match (String.ofList cs).toLower with
  | "inf" => some (sign (1 / 0))
  | "infinity" => some (sign (1 / 0))
  | "nan" => some (sign (0 / 0))
  | _ => (readUnsigned cs).map sign

end DocPages.Decimal
