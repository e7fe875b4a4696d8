import PathCall.Text.Split

/-!
Hosts that are numbers. A host whose last part is a number must be an IPv4 address: up to four
numbers, of which the last fills the bytes that are left.
-/

namespace PathCall.Address.Ipv4

def isHexDigit (c : Char) : Bool :=
  c.isDigit || ('a' ≤ c && c ≤ 'f') || ('A' ≤ c && c ≤ 'F')

def digitValue (c : Char) : Nat :=
  if c.isDigit then c.toNat - 48
  else if c.toNat ≥ 97 then c.toNat - 87
  else c.toNat - 55

/-- The digits of a part and their radix: hexadecimal behind `0x`, octal behind another zero. -/
def radix (part : List Char) : Nat × List Char :=
  match part with
  | '0' :: 'x' :: digits | '0' :: 'X' :: digits => (16, digits)
  | '0' :: c :: digits => (8, c :: digits)
  | digits => (10, digits)

/-- The number that a part stands for; `0x` alone is zero, nothing at all is no number. -/
def number? (part : List Char) : Option Nat :=
  if part.isEmpty then none
  else
    let (base, digits) := radix part
    if digits.all fun c => isHexDigit c && digitValue c < base then
      some (digits.foldl (fun value c => value * base + digitValue c) 0)
    else none

/-- The parts between the points, without an empty one at the end. -/
def parts (host : List Char) : List (List Char) :=
  let all := Text.split '.' host
  if all.getLast? = some [] then all.dropLast else all

/-- Whether the last part is a number, or would be one but for a digit beyond its radix. -/
def endsInNumber (host : List Char) : Bool :=
  match (parts host).getLast? with
  | none => false
  | some part => (!part.isEmpty && part.all Char.isDigit) || (number? part).isSome

/-- Whether numbers make an address: the first ones are bytes, the last fills what is left. -/
def fits : List Nat → Bool
  | [] => false
  | [last] => last < Nat.pow 2 32
  | [a, last] => a < 256 && last < Nat.pow 2 24
  | [a, b, last] => a < 256 && b < 256 && last < Nat.pow 2 16
  | [a, b, c, last] => a < 256 && b < 256 && c < 256 && last < Nat.pow 2 8
  | _ => false

def isAddress (host : List Char) : Bool :=
  match (parts host).mapM number? with
  | some numbers => fits numbers
  | none => false

end PathCall.Address.Ipv4
