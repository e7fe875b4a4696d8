import PathCall.Address.Domain.JoinerTable
import PathCall.Text.MarkTable
import PathCall.Text.Normal

/-!
Joiners in domain names. They cannot be seen, so a label holds them only where they change how the
characters beside them are written.
-/

namespace PathCall.Address.Domain

def joiner : Char := '\u200d'

def nonJoiner : Char := '\u200c'

/-- Marks that take the vowel of a consonant away, behind which a joiner chooses a form. -/
def isVirama (c : Char) : Bool := Text.combiningClass c == 9

/-- Characters that cursive writing passes over. -/
def isTransparent (c : Char) : Bool :=
  Text.nonspacingRanges.contains c.toNat || c.toNat == 0x1E94B

def joinsForward (c : Char) : Bool :=
  dualJoiningRanges.contains c.toNat || forwardJoiningRanges.contains c.toNat

def joinsBackward (c : Char) : Bool :=
  dualJoiningRanges.contains c.toNat || backwardJoiningRanges.contains c.toNat

/-- Whether the first character that is not passed over joins. -/
def meets (joins : Char → Bool) : List Char → Bool
  | [] => false
  | c :: rest => joins c || (isTransparent c && meets joins rest)

/-- Whether a joiner may stand between the reversed text `before` and the text `rest`. A non-joiner
may also stand between characters that would be joined without it. -/
def mayStand (c : Char) (before rest : List Char) : Bool :=
  before.head?.any isVirama ||
    (c == nonJoiner && meets joinsForward before && meets joinsBackward rest)

/-- Whether all joiners of a label stand where they may. `before` is the label so far, reversed. -/
def joinersStand (before : List Char) : List Char → Bool
  | [] => true
  | c :: rest =>
    ((c != joiner && c != nonJoiner) || mayStand c before rest) && joinersStand (c :: before) rest

end PathCall.Address.Domain
