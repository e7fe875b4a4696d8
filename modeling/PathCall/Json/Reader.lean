import PathCall.Json.Scalar

/-!
Reading JSON texts. Arrays and objects are read by two combinators that take the reader of their
parts, so the same walk serves values of any kind and values of a wanted type. A text may nest at
most 127 arrays and objects.
-/

namespace PathCall.Json

/-- Where an array goes on behind its opening bracket or behind an element. -/
inductive ArrayStep where
  | closed (rest : List Char)
  | element (text : List Char)

def nextElement (first : Bool) (text : List Char) : Except Fault ArrayStep :=
  match skipBlank text, first with
  | [], _ => failOn .endOfList []
  | ']' :: rest, _ => .ok (.closed rest)
  | text, true => .ok (.element text)
  | ',' :: rest, false =>
    match skipBlank rest with
    | [] => failOn .endOfValue []
    | ']' :: rest => failOn .trailingComma (']' :: rest)
    | text => .ok (.element text)
  | text, false => failOn .expectedListEnd text

/-- Reads the elements that are left of an array, up to and with `]`. Every element is at least
one character, so `fuel` can be the length of the text. -/
def readElements {α : Type} (element : Reader α) : (fuel : Nat) → (first : Bool) → Reader (List α)
  | 0, _, text => failOn .endOfList text
  | fuel + 1, first, text => do
    match ← nextElement first text with
    | .closed rest => .ok ([], rest)
    | .element text =>
      let (value, text) ← element text
      let (values, text) ← readElements element fuel false text
      .ok (value :: values, text)

def readArray {α : Type} (element : Reader α) : Reader (List α) := fun text =>
  readElements element (text.length + 1) true text

def readColon : Reader Unit := fun text =>
  match skipBlank text with
  | [] => failOn .endOfObject []
  | ':' :: rest => .ok ((), rest)
  | text => failOn .expectedColon text

/-- Where an object goes on behind its opening brace or behind a member. -/
inductive ObjectStep where
  | closed (rest : List Char)
  /-- The text stands behind the opening quote of a name. -/
  | member (text : List Char)

def nextMember (first : Bool) (text : List Char) : Except Fault ObjectStep :=
  match skipBlank text, first with
  | [], _ => failOn .endOfObject []
  | '\x7d' :: rest, _ => .ok (.closed rest)
  | '"' :: rest, true => .ok (.member rest)
  | text, true => failOn .keyNotString text
  | ',' :: rest, false =>
    match skipBlank rest with
    | [] => failOn .endOfValue []
    | '"' :: rest => .ok (.member rest)
    | '\x7d' :: rest => failOn .trailingComma ('\x7d' :: rest)
    | text => failOn .keyNotString text
  | text, false => failOn .expectedObjectEnd text

/-- Reads the members that are left of an object, up to and with the closing brace. `member` gets
what the members before amount to, and a name, and starts behind that name. -/
def readMembers {α : Type} (member : α → String → Reader α) :
    (fuel : Nat) → (first : Bool) → α → Reader α
  | 0, _, _, text => failOn .endOfObject text
  | fuel + 1, first, before, text => do
    match ← nextMember first text with
    | .closed rest => .ok (before, rest)
    | .member text =>
      let (name, text) ← readString text
      let (after, text) ← member before name text
      readMembers member fuel false after text

def readObject {α : Type} (member : α → String → Reader α) (start : α) : Reader α := fun text =>
  readMembers member (text.length + 1) true start text

/-- Reads a value that may nest `room` further arrays and objects. -/
def readValue : (room : Nat) → Reader Json
  | room, text =>
    match room, skipBlank text with
    | 0, '[' :: rest => failOn .recursionLimit ('[' :: rest)
    | 0, '\x7b' :: rest => failOn .recursionLimit ('\x7b' :: rest)
    | room + 1, '[' :: rest => do
      let (items, rest) ← readArray (readValue room) rest
      .ok (.arr items, rest)
    | room + 1, '\x7b' :: rest => do
      let member (before : KeyMap String Json) (name : String) : Reader (KeyMap String Json) :=
        fun text => do
          let (_, text) ← readColon text
          let (value, text) ← readValue room text
          .ok (KeyMap.insert name value before, text)
      let (members, rest) ← readObject member [] rest
      .ok (.obj members, rest)
    | _, text => readScalar text

def maxNesting : Nat := 127

/-- The whole text must be read but for blanks at its end. -/
def readWhole {α : Type} (reader : Reader α) (text : List Char) : Except Fault α := do
  let (value, rest) ← reader text
  match skipBlank rest with
  | [] => .ok value
  | rest => failOn .trailingCharacters rest

/-- Reads a text as one value; the error is the message of the first fault. -/
def decode {α : Type} (reader : Reader α) (text : String) : Except String α :=
  match readWhole reader text.toList with
  | .ok value => .ok value
  | .error fault => .error (fault.message text.toList)

def parse (text : String) : Except String Json := decode (readValue maxNesting) text

end PathCall.Json
