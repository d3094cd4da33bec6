import DocPages.Decimal.Layout
/-! # Instants

A moment in coordinated universal time, to the microsecond. -/
set_option autoImplicit false
namespace DocPages

structure Instant where
  year : Nat
  month : Nat
  day : Nat
  hour : Nat
  minute : Nat
  second : Nat
  microsecond : Nat
  deriving DecidableEq, Inhabited

namespace Instant

def digits (width n : Nat) : String := String.ofList (Decimal.padded width n)

/-- Date and time with the offset; the fraction is written only when there is one. -/
def timestamp (t : Instant) : String :=
  digits 4 t.year ++ "-" ++ digits 2 t.month ++ "-" ++ digits 2 t.day ++ "T" ++ digits 2 t.hour
    ++ ":" ++ digits 2 t.minute ++ ":" ++ digits 2 t.second
    ++ (if t.microsecond = 0 then "" else "." ++ digits 6 t.microsecond) ++ "+00:00"

def calendarDay (t : Instant) : String :=
  digits 1 t.year ++ "-" ++ digits 2 t.month ++ "-" ++ digits 2 t.day

end Instant
end DocPages
