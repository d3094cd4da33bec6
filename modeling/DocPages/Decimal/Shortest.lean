/-! # Shortest decimals

The fewest significant digits whose nearest binary number is the given one.  A finite number is
`m · 2 ^ q` with natural `m`; the reals that round to it form an interval around it, closed when `m` is
even.  On each decimal grid the only candidates are the two neighbours of the number, so the grids
are tried from one digit to seventeen and the first hit wins. -/
set_option autoImplicit false
namespace DocPages.Decimal

/-- The parts of a binary number: `m · 2 ^ q`, and whether the next smaller number is only half as
far away as the next larger one. -/
structure Binary where
  m : Nat
  q : Int
  narrow : Bool

inductive Class
  | nan
  | infinite (negative : Bool)
  | finite (negative : Bool) (value : Binary)

def leadingBit : Nat := 0x10000000000000

def classify (x : Float) : Class :=
  let bits : Nat := x.toBits.toNat
  let negative := bits >>> 63 == 1
  let e : Nat := (bits >>> 52) % 2048
  let f : Nat := bits % leadingBit
  if e == 2047 then
    if f == 0 then .infinite negative else .nan
  else if e == 0 then .finite negative ⟨f, -1074, false⟩
  else .finite negative ⟨f + leadingBit, (e : Int) - 1075, f == 0 && e != 1⟩

/-- A positive decimal `0.d₁d₂… · 10 ^ point`. -/
structure Digits where
  digits : Nat
  point : Int

structure Ratio where
  num : Nat
  den : Nat

namespace Ratio

def lt (a b : Ratio) : Bool := a.num * b.den < b.num * a.den
def le (a b : Ratio) : Bool := a.num * b.den ≤ b.num * a.den

def scaled (n b : Nat) (k : Int) : Ratio := ⟨n * Nat.pow b k.toNat, Nat.pow b (-k).toNat⟩

end Ratio

def digitCount (n : Nat) : Nat := (Nat.toDigits 10 n).length

/-- The exponent `p` with `10 ^ (p - 1) ≤ r < 10 ^ p`, for a positive ratio. -/
def pointOf (r : Ratio) : Int :=
  if r.den ≤ r.num then digitCount (r.num / r.den)
  else 1 - (digitCount ((r.den - 1) / r.num) : Int)

/-- The half-way points to the two neighbours, in quarters of the last binary place. -/
def Binary.bounds (b : Binary) : Ratio × Ratio :=
  (Ratio.scaled (4 * b.m - if b.narrow then 1 else 2) 2 (b.q - 2), Ratio.scaled (4 * b.m + 2) 2 (b.q - 2))

def Binary.reads (b : Binary) (r : Ratio) : Bool :=
  let (low, high) := b.bounds
  if b.m % 2 == 0 then low.le r && r.le high else low.lt r && r.lt high

/-- The grid of `10 ^ k`: the neighbour that reads back and is nearer, an even one at a tie. -/
def Binary.onGrid (b : Binary) (k : Int) : Option Nat :=
  let value := Ratio.scaled b.m 2 b.q
  let unit := Ratio.scaled 1 10 k
  let below := value.num * unit.den / (value.den * unit.num)
  let at_ (n : Nat) : Ratio := Ratio.scaled n 10 k
  match b.reads (at_ below), b.reads (at_ (below + 1)) with
  | false, false => none
  | true, false => some below
  | false, true => some (below + 1)
  | true, true =>
    let twice : Ratio := ⟨2 * value.num, value.den⟩
    let middle := at_ (2 * below + 1)
    if twice.lt middle then some below
    else if middle.lt twice then some (below + 1)
    else if below % 2 == 0 then some below else some (below + 1)

def Binary.search (b : Binary) (point : Int) : Nat → Nat → Digits
  | 0, n => ⟨b.m, point + n⟩
  | fuel + 1, n =>
    match b.onGrid (point - n) with
    | some d => if d = 0 then search b point fuel (n + 1) else ⟨d, point - n + digitCount d⟩
    | none => search b point fuel (n + 1)

def stripZeros : Nat → Nat → Nat
  | 0, n => n
  | fuel + 1, n => if n % 10 == 0 then stripZeros fuel (n / 10) else n

def Binary.shortest (b : Binary) : Digits :=
  let d := b.search (pointOf (Ratio.scaled b.m 2 b.q)) 17 1
  ⟨stripZeros (digitCount d.digits) d.digits, d.point⟩

end DocPages.Decimal
