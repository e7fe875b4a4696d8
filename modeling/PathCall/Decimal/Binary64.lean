/-!
Finite floating-point numbers with 53 significant bits, held as the 63 bits that follow the
sign. A magnitude is `m · 2^e`; all arithmetic here is exact in natural numbers and rounded once,
to the nearest number and from a tie to the even one.
-/

namespace PathCall.Decimal

/-- The bits of infinity, one past the greatest finite magnitude. -/
def infinityBits : Nat := 0x7FF * Nat.pow 2 52

/-- `numerator / denominator` rounded to an integer, from a tie to the even one. -/
def roundDiv (numerator denominator : Nat) : Nat :=
  let quotient := numerator / denominator
  let twice := 2 * (numerator % denominator)
  if twice > denominator || (twice == denominator && quotient % 2 == 1) then quotient + 1
  else quotient

/-- The bits of the number nearest to `numerator / denominator`, at most those of infinity. -/
def nearest (numerator denominator : Nat) : Nat :=
  if numerator = 0 then 0
  else
    -- The quotient lies in `[2^(size-1), 2^(size+1))`, so one of two exponents fits.
    let size : Int := (numerator.log2 : Int) - denominator.log2
    let fits (exponent : Int) : Bool :=
      numerator * Nat.pow 2 (-exponent).toNat ≥ denominator * Nat.pow 2 (52 + exponent.toNat)
    let exponent := max (-1074) (if fits (size - 52) then size - 52 else size - 53)
    let significand :=
      roundDiv (numerator * Nat.pow 2 (-exponent).toNat) (denominator * Nat.pow 2 exponent.toNat)
    min infinityBits ((exponent + 1074).toNat * Nat.pow 2 52 + significand)

def parts (bits : Nat) : Nat × Int :=
  if bits < Nat.pow 2 52 then (bits, -1074)
  else (Nat.pow 2 52 + bits % Nat.pow 2 52, (bits / Nat.pow 2 52 : Nat) - 1075)

def timesTen (bits power : Nat) : Nat :=
  let (m, e) := parts bits
  let (n, f) := parts (nearest (Nat.pow 10 power) 1)
  nearest (m * n * Nat.pow 2 (e + f).toNat) (Nat.pow 2 (-(e + f)).toNat)

def overTen (bits power : Nat) : Nat :=
  let (m, e) := parts bits
  let (n, f) := parts (nearest (Nat.pow 10 power) 1)
  nearest (m * Nat.pow 2 (e - f).toNat) (n * Nat.pow 2 (f - e).toNat)

end PathCall.Decimal
