import PathCall.Address.Domain.FoldTable
import PathCall.Address.Domain.RefusedTable
import PathCall.Text.Case

/-!
What the characters of a domain name stand for. Case and variants of characters do not count.
-/

namespace PathCall.Address.Domain

/-- Characters that stand for themselves although they have a lower-case form: Cherokee letters are
folded to upper case. -/
def keepsCase (c : Char) : Bool := 0x13A0 ≤ c.toNat && c.toNat ≤ 0x13F5

def foldedPoint? (point : Nat) : Option Nat :=
  (Text.MappedRun.find? foldedRuns point).or <| (foldedPoints.lookup point).or <|
    (foldedIdeographs.lookup point).or (foldedSupplement.lookup point)

def foldedPoints? (point : Nat) : Option (List Nat) :=
  (foldedSpecial.lookup point).or <| (foldedLigatures.lookup point).or <|
    (foldedPoint? point).map ([·])

def expand (c : Char) : List Char :=
  match foldedPoints? c.toNat with
  | some points => points.map Char.ofNat
  | none => if keepsCase c then [c] else Text.lower c

/-- What a character of a domain name stands for; nothing is refused in ASCII yet. -/
def resolve? (c : Char) : Option (List Char) :=
  if c.toNat < 128 then some [c.toLower]
  else if refusedRanges.contains c.toNat then none
  else if droppedRanges.contains c.toNat then some []
  else some (expand c)

def isResolved (c : Char) : Bool := resolve? c == some [c]

end PathCall.Address.Domain
