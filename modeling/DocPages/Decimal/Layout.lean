import DocPages.Decimal.Shortest
/-! # Layout of decimals

How the digits of a number are set: positional for middling sizes, with an exponent outside, and
always with a mark that tells it from a whole number. -/
set_option autoImplicit false
namespace DocPages.Decimal

structure Layout where
  /-- the lowest decimal exponent that is still written positionally -/
  lowest : Int
  /-- the lowest decimal exponent that is written with an exponent again -/
  bound : Int
  exponentDigits : Nat
  nan : String
  infinity : String

/-- Positional from `0.0001` up to sixteen places before the point; exponents have two digits. -/
def Layout.plain : Layout := ⟨-4, 16, 2, "nan", "inf"⟩

def Layout.data : Layout := { Layout.plain with nan := "NaN", infinity := "Infinity" }

def zeros (n : Nat) : List Char := List.replicate n '0'

def padded (width n : Nat) : List Char :=
  let ds := Nat.toDigits 10 n
  zeros (width - ds.length) ++ ds

def positional (ds : List Char) (point : Int) : List Char :=
  if point ≤ 0 then "0.".toList ++ zeros (-point).toNat ++ ds
  else
    let whole := point.toNat
    if ds.length ≤ whole then ds ++ zeros (whole - ds.length) ++ ".0".toList
    else ds.take whole ++ '.' :: ds.drop whole

def scientific (exponentDigits : Nat) (ds : List Char) (exponent : Int) : List Char :=
  let mantissa := match ds with
    | [] => ['0']
    | [d] => [d]
    | d :: rest => d :: '.' :: rest
  let sign := if exponent < 0 then '-' else '+'
  mantissa ++ 'e' :: sign :: padded exponentDigits exponent.natAbs

def signed (negative : Bool) (cs : List Char) : List Char := if negative then '-' :: cs else cs

def Layout.write (l : Layout) (x : Float) : String :=
  String.ofList <| match classify x with
  | .nan => l.nan.toList
  | .infinite negative => signed negative l.infinity.toList
  | .finite negative b =>
    signed negative <|
      if b.m = 0 then "0.0".toList
      else
        let d := b.shortest
        let ds := Nat.toDigits 10 d.digits
        let exponent := d.point - 1
        if l.lowest ≤ exponent && exponent < l.bound then positional ds d.point
        else scientific l.exponentDigits ds exponent

end DocPages.Decimal
