/-!
White space and control characters, and texts without them.
-/

namespace PathCall.Text

/-- The characters with the White_Space property. -/
def isBlank (c : Char) : Bool :=
  let point := c.toNat
  (9 ≤ point && point ≤ 13) || point == 0x20 || point == 0x85 || point == 0xA0 ||
  point == 0x1680 || (0x2000 ≤ point && point ≤ 0x200A) || point == 0x2028 || point == 0x2029 ||
  point == 0x202F || point == 0x205F || point == 0x3000

def trimBy (p : Char → Bool) (text : List Char) : List Char :=
  ((text.dropWhile p).reverse.dropWhile p).reverse

def trim (text : String) : String :=
  String.ofList (trimBy isBlank text.toList)

/-- The control characters: U+0000 to U+001F and U+007F to U+009F. -/
def isControl (c : Char) : Bool :=
  c.toNat < 32 || (127 ≤ c.toNat && c.toNat < 160)

def dropControls (text : String) : String :=
  String.ofList (text.toList.filter fun c => !isControl c)

theorem dropControls_eq_self {text : String} (h : ∀ c ∈ text.toList, isControl c = false) :
    dropControls text = text := by
  rw [dropControls, List.filter_eq_self.mpr (by simpa using h), String.ofList_toList]

end PathCall.Text
