import PathCall.Decimal.Binary64

/-!
The floating-point number that a decimal text stands for. Reading keeps as many leading digits as
fit 64 bits and rounds twice: once when the digits become a number, once when it is scaled by a
power of ten.
-/

namespace PathCall.Decimal

def maxSignificand : Nat := Nat.pow 2 64 - 1

/-- Appends digits to a significand while it stays in range. Returns it with the number of
digits taken; the first digit that does not fit ends the reading. -/
def absorb (significand : Nat) : List Nat → Nat × Nat
  | [] => (significand, 0)
  | digit :: rest =>
    if significand * 10 + digit > maxSignificand then (significand, 0)
    else
      let (result, taken) := absorb (significand * 10 + digit) rest
      (result, taken + 1)

/-- The magnitude of `significand · 10^exponent`, absent when it is too great. A table of powers
ends at 10^308; smaller exponents divide by the last power repeatedly, which leaves zero after
three rounds. -/
def scaled? (significand : Nat) (exponent : Int) : Option Nat :=
  let start := nearest significand 1
  if significand = 0 then some 0
  else if 0 ≤ exponent then
    if exponent ≤ 308 then
      let bits := timesTen start exponent.toNat
      if bits = infinityBits then none else some bits
    else none
  else
    let distance := (-exponent).toNat
    let rounds := (distance - 1) / 308
    if rounds > 2 then some 0
    else some (overTen (Nat.repeat (overTen · 308) rounds start) (distance - 308 * rounds))

end PathCall.Decimal
