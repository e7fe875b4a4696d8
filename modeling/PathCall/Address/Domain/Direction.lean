import PathCall.Address.Domain.DirectionTable
import PathCall.Text.MarkTable

/-!
Domain names with letters that are written from right to left. In such a name every label keeps to
one direction, so that labels do not run into each other when they are shown.
-/

namespace PathCall.Address.Domain

inductive Direction where
  /-- Letters from left to right. -/
  | left
  /-- Letters from right to left. -/
  | right
  | number
  /-- Digits that belong to letters from right to left. -/
  | arabicNumber
  /-- Nonspacing marks. -/
  | mark
  | neutral
  deriving DecidableEq

namespace Direction

def of (c : Char) : Direction :=
  if c.toNat < 128 then if c.isAlpha then left else if c.isDigit then number else neutral
  else if rightRanges.contains c.toNat then right
  else if arabicNumberRanges.contains c.toNat then arabicNumber
  else if numberRanges.contains c.toNat then number
  else if neutralRanges.contains c.toNat then neutral
  else if directedMarkRanges.contains c.toNat then left
  else if Text.nonspacingRanges.contains c.toNat then mark
  else left

def isRightward (direction : Direction) : Bool := direction matches .right | .arabicNumber

def withoutMarks (directions : List Direction) : List Direction :=
  (directions.reverse.dropWhile (· == mark)).reverse

/-- Whether a label that begins with `first` keeps to its direction. It ends with a letter of that
direction or a number, and has only one kind of numbers when it is written from right to left. -/
def keeps (first : Direction) (rest : List Direction) : Bool :=
  let rest := withoutMarks rest
  match first with
  | left => rest.all (!isRightward ·) && rest.getLast?.all fun last => last == left || last == number
  | right =>
    rest.all (· != left) && !(rest.contains number && rest.contains arabicNumber) &&
      rest.getLast?.all fun last => last == number || isRightward last
  | _ => false

/-- Whether a label may stand in a name with letters from right to left. -/
def fits (label : List Char) : Bool :=
  match label.map of with
  | [] => true
  | first :: rest => keeps first rest

/-- Whether labels may stand in one name. Without a letter from right to left any labels may. -/
def agree (labels : List (List Char)) : Bool :=
  labels.all (·.all fun c => !isRightward (of c)) || labels.all fits

end Direction

end PathCall.Address.Domain
