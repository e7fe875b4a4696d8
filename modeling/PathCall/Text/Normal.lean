import PathCall.Text.NormalTable

/-!
The composed normal form of a text. Many letters with marks can be written as one character or as a
letter and marks, and independent marks in any order. The normal form takes all characters apart,
puts the marks behind each letter in the order of their classes, and composes what it can. Characters
that are only another way to write one other character are not its concern: they stay.
-/

namespace PathCall.Text

/-- The combining class of a character: zero unless the character is a mark that can change places
with marks of other classes. -/
def combiningClass (c : Char) : Nat :=
  if c.toNat < 0x300 then 0
  else
    match combiningClasses.find? fun (first, last, _) => first ≤ c.toNat && c.toNat ≤ last with
    | some (_, _, value) => value
    | none => 0

def splitHangul? (point : Nat) : Option (Nat × Nat) :=
  if 0xAC00 ≤ point && point ≤ 0xD7A3 then
    let index := point - 0xAC00
    if index % 28 = 0 then some (0x1100 + index / 588, 0x1161 + index % 588 / 28)
    else some (point - index % 28, 0x11A7 + index % 28)
  else none

def joinHangul? (first second : Nat) : Option Nat :=
  if 0x1100 ≤ first && first ≤ 0x1112 && 0x1161 ≤ second && second ≤ 0x1175 then
    some (0xAC00 + ((first - 0x1100) * 21 + (second - 0x1161)) * 28)
  else if 0xAC00 ≤ first && first ≤ 0xD7A3 && (first - 0xAC00) % 28 = 0 && 0x11A8 ≤ second &&
      second ≤ 0x11C2 then
    some (first + (second - 0x11A7))
  else none

def split? (c : Char) : Option (Char × Char) :=
  if c.toNat < 0xC0 then none
  else
    let parts :=
      (splitHangul? c.toNat).or
        ((compositions.find? fun (composed, _, _) => composed == c.toNat).map (·.2))
    parts.map fun (first, second) => (Char.ofNat first, Char.ofNat second)

def join? (first second : Char) : Option Char :=
  if second.toNat < 0x300 then none
  else
    let composed :=
      (joinHangul? first.toNat second.toNat).or
        ((compositions.find? fun (_, parts) => parts == (first.toNat, second.toNat)).map (·.1))
    composed.map Char.ofNat

/-- Takes a character apart. Only its first part can have parts again, at most `depth` times. -/
def decompose (depth : Nat) (c : Char) : List Char :=
  match depth with
  | 0 => [c]
  | depth + 1 =>
    match split? c with
    | some (first, second) => decompose depth first ++ [second]
    | none => [c]

/-- Puts a character in front of marks in order, behind those of them that go first. -/
def place (c : Char) : List Char → List Char
  | [] => [c]
  | d :: rest =>
    if 0 < combiningClass d && combiningClass d < combiningClass c then d :: place c rest
    else c :: d :: rest

/-- Orders the marks behind each letter by their classes; equal classes keep their order. -/
def order (text : List Char) : List Char := text.foldr place []

/-- Composes a letter with what follows. `marks` are those that stayed behind it, the last one
first: they keep later marks from the letter that do not have a greater class. -/
def composeOnto (letter : Char) (marks : List Char) : List Char → List Char
  | [] => letter :: marks.reverse
  | c :: rest =>
    let reaches := marks.head?.all fun mark => combiningClass mark < combiningClass c
    match if reaches then join? letter c else none with
    | some composed => composeOnto composed marks rest
    | none =>
      if combiningClass c = 0 then letter :: marks.reverse ++ composeOnto c [] rest
      else composeOnto letter (c :: marks) rest

/-- Composes an ordered text. Marks in front of the first letter stay as they are. -/
def compose : List Char → List Char
  | [] => []
  | c :: rest => if combiningClass c = 0 then composeOnto c [] rest else c :: compose rest

def normalForm (text : List Char) : List Char := compose (order (text.flatMap (decompose 4)))

end PathCall.Text
