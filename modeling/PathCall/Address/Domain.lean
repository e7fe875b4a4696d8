import PathCall.Address.Domain.Direction
import PathCall.Address.Domain.Fold
import PathCall.Address.Domain.Joiner
import PathCall.Address.Punycode
import PathCall.Text.Split

/-!
Domain names. A label with letters beyond ASCII may also be written in punycode behind `xn--`. A
name is refused for a character that no name holds, for punycode of anything but a label in its final
form, for a label that begins with a mark, for joiners without effect and for labels whose directions
of writing do not go together.
-/

namespace PathCall.Address.Domain

def hexValue? (c : Char) : Option Nat :=
  if c.isDigit then some (c.toNat - 48)
  else if 'a' ≤ c && c ≤ 'f' then some (c.toNat - 87)
  else if 'A' ≤ c && c ≤ 'F' then some (c.toNat - 55)
  else none

def percentDecode : List Char → List UInt8
  | '%' :: a :: b :: rest =>
    match hexValue? a, hexValue? b with
    | some high, some low => UInt8.ofNat (high * 16 + low) :: percentDecode rest
    | _, _ => '%'.toUInt8 :: percentDecode (a :: b :: rest)
  | c :: rest => String.utf8EncodeChar c ++ percentDecode rest
  | [] => []

/-- ASCII characters that no domain name holds. -/
def isDenied (c : Char) : Bool :=
  c.toNat ≤ 32 || c.toNat == 127 ||
    c ∈ ['%', '#', '/', ':', '<', '>', '?', '@', '[', '\\', ']', '^', '|']

def isAscii (c : Char) : Bool := c.toNat < 128

/-- What a label shows. Labels in punycode are ASCII and encode something that is not, in its final
form. -/
def shown? (label : List Char) : Option (List Char) := do
  if "xn--".toList.isPrefixOf label then
    let text ← Punycode.decode? (label.drop 4)
    if label.length ≤ 2004 && label.all isAscii && !text.all isAscii && text.all isResolved &&
        Text.normalForm text == text then
      some text
    else none
  else some label

def isMark (c : Char) : Bool :=
  Text.nonspacingRanges.contains c.toNat || Text.spacingRanges.contains c.toNat

/-- Labels in ASCII have no rules of their own. All others have a limited length, do not begin with
a mark and have joiners only where these have an effect. -/
def isLabel (label : List Char) : Bool :=
  label.all isAscii ||
    (label.length ≤ 1000 && !label.head?.any isMark && joinersStand [] label)

def ofBytes? (bytes : List UInt8) : Option (List Char) := do
  let text ← String.fromUTF8? (ByteArray.mk bytes.toArray)
  let name := Text.normalForm (← text.toList.mapM resolve?).flatten
  if name.any isDenied then none
  let labels ← (Text.split '.' name).mapM shown?
  if labels.all isLabel && Direction.agree labels then some name else none

end PathCall.Address.Domain
