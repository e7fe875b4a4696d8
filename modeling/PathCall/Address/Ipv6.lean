import PathCall.Address.Ipv4

/-!
IPv6 addresses: eight pieces of up to four hexadecimal digits. Two colons stand once for any number
of zero pieces, and the last two pieces may be written as an IPv4 address.
-/

namespace PathCall.Address.Ipv6

def isByte (text : List Char) : Bool :=
  match text with
  | [] => false
  | ['0'] => true
  | '0' :: _ => false
  | digits =>
    digits.all Char.isDigit && digits.length ≤ 3 &&
      digits.foldl (fun value c => value * 10 + Ipv4.digitValue c) 0 < 256

def isDotted (text : List Char) : Bool :=
  let bytes := Text.split '.' text
  bytes.length == 4 && bytes.all isByte

/-- Whether a text completes an address of which `pieces` pieces are read. Every step reads a
character, so `fuel` can be the length of the text. -/
def completes : (fuel pieces : Nat) → (compressed : Bool) → List Char → Bool
  | 0, pieces, compressed, text => text.isEmpty && (compressed || pieces == 8)
  | fuel + 1, pieces, compressed, text =>
    match text with
    | [] => compressed || pieces == 8
    | ':' :: rest =>
      if pieces == 8 || compressed then false else completes fuel (pieces + 1) true rest
    | text =>
      if pieces == 8 then false
      else
        let digits := (text.take 4).takeWhile Ipv4.isHexDigit
        match text.drop digits.length with
        | [] => completes fuel (pieces + 1) compressed []
        | ':' :: rest => !rest.isEmpty && completes fuel (pieces + 1) compressed rest
        | '.' :: _ =>
          !digits.isEmpty && pieces ≤ 6 && isDotted text && (compressed || pieces + 2 == 8)
        | _ => false

def isAddress (text : List Char) : Bool :=
  match text with
  | [] | [_] => false
  | ':' :: ':' :: rest => completes (rest.length + 1) 1 true rest
  | ':' :: _ => false
  | text => completes (text.length + 1) 0 false text

end PathCall.Address.Ipv6
