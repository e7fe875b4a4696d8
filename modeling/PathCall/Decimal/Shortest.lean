import PathCall.Decimal.Binary64

/-!
The shortest decimal text of a floating-point number: the fewest digits that read back as the
same number, of those the nearest to it. Numbers from 10^-5 up to 10^16 are written
positionally, all others with an exponent.
-/

namespace PathCall.Decimal

structure Numeral where
  digits : Nat
  exponent : Int

/-- Twice the magnitude and twice its two rounding limits, over one denominator:
`(low, value, high, denominator)`. -/
private def interval (bits : Nat) : Nat × Nat × Nat × Nat :=
  let (m, e) := parts bits
  -- Below a power of two the neighbour is half as far away.
  let tight := bits % Nat.pow 2 52 == 0 && bits ≥ 2 * Nat.pow 2 52
  let unit := Nat.pow 2 e.toNat
  let low := if tight then 4 * m - 1 else 4 * m - 2
  (low * unit, 4 * m * unit, (4 * m + 2) * unit, 4 * Nat.pow 2 (-e).toNat)

/-- The grid point of `10^exponent` nearest to the number that rounds back to it, if any. -/
private def onGrid? (bits : Nat) (exponent : Int) : Option Numeral :=
  let (low, value, high, denominator) := interval bits
  let up := Nat.pow 10 exponent.toNat
  let down := Nat.pow 10 (-exponent).toNat
  -- A grid point `k` stands for `k · up / down`.
  let unit := denominator * up
  let below := value * down / unit
  let closed := bits % 2 == 0
  let inside (k : Nat) : Bool :=
    let point := k * unit
    if closed then low * down ≤ point && point ≤ high * down
    else low * down < point && point < high * down
  let above := below + 1
  let gapBelow := value * down - below * unit
  let gapAbove := above * unit - value * down
  match inside below, inside above with
  | true, true =>
    if gapBelow < gapAbove || (gapBelow == gapAbove && below % 2 == 0) then some ⟨below, exponent⟩
    else some ⟨above, exponent⟩
  | true, false => some ⟨below, exponent⟩
  | false, true => some ⟨above, exponent⟩
  | false, false => none

private def search (bits : Nat) (exponent : Int) : Nat → Numeral
  | 0 => ⟨0, exponent⟩
  | steps + 1 =>
    match onGrid? bits exponent with
    | some found => if found.digits = 0 then search bits (exponent - 1) steps else found
    | none => search bits (exponent - 1) steps

def shortest (bits : Nat) : Numeral :=
  let (m, e) := parts bits
  -- No number needs a grid coarser than its own size.
  let size : Int := ((m.log2 : Int) + e) * 30103 / 100000 + 2
  search bits size 40

private def normalize (d : Numeral) : Nat → Numeral
  | 0 => d
  | steps + 1 =>
    if d.digits % 10 == 0 && d.digits ≠ 0 then normalize ⟨d.digits / 10, d.exponent + 1⟩ steps
    else d

private def zeros (n : Nat) : String := String.ofList (List.replicate n '0')

/-- Where positional notation ends and how the parts are joined. -/
def Numeral.text (d : Numeral) : String :=
  let d := normalize d 20
  let digits := toString d.digits
  let length := digits.length
  -- The decimal point stands behind this many digits.
  let point : Int := length + d.exponent
  if 0 ≤ d.exponent && point ≤ 16 then digits ++ zeros d.exponent.toNat ++ ".0"
  else if 0 < point && point ≤ 16 then
    String.ofList (digits.toList.take point.toNat) ++ "." ++
      String.ofList (digits.toList.drop point.toNat)
  else if -5 < point && point ≤ 0 then "0." ++ zeros (-point).toNat ++ digits
  else
    let exponent := (if 0 < point then "+" else "") ++ toString (point - 1)
    if length == 1 then digits ++ "e" ++ exponent
    else
      String.ofList (digits.toList.take 1) ++ "." ++ String.ofList (digits.toList.drop 1) ++
        "e" ++ exponent

def text (bits : UInt64) : String :=
  let magnitude := bits.toNat % Nat.pow 2 63
  let sign := if bits.toNat ≥ Nat.pow 2 63 then "-" else ""
  sign ++ if magnitude = 0 then "0.0" else (shortest magnitude).text

end PathCall.Decimal
