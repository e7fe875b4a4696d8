/-!
Punycode, which writes text with letters beyond ASCII in letters, digits and hyphens. In front of
the last hyphen stand the ASCII characters; behind it, each of the others is one number, which
says both what the character is and where it goes. A number has the digits `a` to `z` and `0` to
`9`, the lowest first, and ends with the first digit below a threshold that moves with the place.
-/

namespace PathCall.Address.Punycode

def digit? (c : Char) : Option Nat :=
  if 'a' ≤ c && c ≤ 'z' then some (c.toNat - 97)
  else if c.isDigit then some (c.toNat - 48 + 26)
  else none

/-- What has been read: the characters so far, the latest of those beyond ASCII, the place behind
it, and the number that is being read on top of that place. -/
structure Decoding where
  chars : List Char
  point : Nat := 128
  place : Nat := 0
  bias : Nat := 72
  number : Nat := 0
  weight : Nat := 1
  position : Nat := 36

/-- Below this digit a number ends. -/
def Decoding.threshold (d : Decoding) : Nat :=
  min 26 (max 1 (d.position - d.bias))

/-- Numbers have 32 bits. -/
def fits? (n : Nat) : Option Nat := if n < Nat.pow 2 32 then some n else none

/-- How often a number falls by the factor 35 before it is small, and what is left of it. -/
def reduce (n : Nat) : Nat × Nat :=
  if 455 < n then
    let (count, rest) := reduce (n / 35)
    (count + 1, rest)
  else (0, n)
termination_by n
decreasing_by omega

/-- The bias for the next number, which is likely to be about as large as the last one. -/
def biasAfter (number length : Nat) (first : Bool) : Nat :=
  let number := if first then number / 700 else number / 2
  let (count, rest) := reduce (number + number / length)
  36 * count + 36 * rest / (rest + 38)

/-- A number is complete: it counts through the places of the text and, each time these are
used up, goes on to the next character. -/
def Decoding.insert? (d : Decoding) : Option Decoding := do
  let length := d.chars.length + 1
  let sum := d.place + d.number
  let point ← fits? (d.point + sum / length)
  if !point.isValidChar then none
  let place := sum % length
  some
    { chars := d.chars.take place ++ Char.ofNat point :: d.chars.drop place
      point := point
      place := place + 1
      bias := biasAfter d.number length (d.place == 0) }

def Decoding.digit? (d : Decoding) (c : Char) : Option Decoding := do
  let digit ← Punycode.digit? c
  let added ← fits? (digit * d.weight)
  let _ ← fits? (d.place + d.number + added)
  let d := { d with number := d.number + added }
  if digit < d.threshold then d.insert?
  else
    let weight ← fits? (d.weight * (36 - d.threshold))
    some { d with weight := weight, position := d.position + 36 }

/-- The ASCII characters of an encoded text and its numbers. A hyphen at the start divides
nothing. -/
def divide (text : List Char) : List Char × List Char :=
  let numbers := (text.reverse.takeWhile (· != '-')).reverse
  let before := text.take (text.length - numbers.length)
  if before.length ≤ 1 then ([], text) else (before.dropLast, numbers)

def decode? (text : List Char) : Option (List Char) := do
  let (chars, numbers) := divide text
  let decoding ← numbers.foldlM Decoding.digit? { chars := chars }
  if decoding.position = 36 then some decoding.chars else none

end PathCall.Address.Punycode
