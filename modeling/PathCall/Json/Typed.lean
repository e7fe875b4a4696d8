import PathCall.Json.Skip
import PathCall.Decimal.Shortest

/-!
Reading values of a wanted shape straight from a text: texts, lists of texts, records with named
fields and variants with a payload. A value of another shape is refused with a fault that names
what was found and what was expected.
-/

namespace PathCall.Json

def Found.ofScalar : Json → Found
  | .null => .null
  | .bool value => .bool value
  | .int value => .int value
  | .float bits => .float (Decimal.text bits)
  | .str text => .str text
  | .arr _ => .arr
  | .obj _ => .obj

/-- Refuses the value at the front of a text. A scalar is read first, a nested value is not. -/
def refuse {α : Type} (expected : String) : List Char → Except Fault α
  | '[' :: rest => failAt (.invalidType .arr expected) ('[' :: rest)
  | '\x7b' :: rest => failAt (.invalidType .obj expected) ('\x7b' :: rest)
  | text => do
    let (value, rest) ← readScalar text
    failAt (.invalidType (.ofScalar value) expected) rest

def readText : Reader String := fun text =>
  match skipBlank text with
  | [] => failOn .endOfValue []
  | '"' :: rest => readString rest
  | text => refuse "a string" text

def readTexts : Reader (List String) := fun text =>
  match skipBlank text with
  | [] => failOn .endOfValue []
  | '[' :: rest => readArray readText rest
  | text => refuse "a sequence" text

def readUnit : Reader Unit := fun text =>
  match skipBlank text with
  | [] => failOn .endOfValue []
  | 'n' :: rest => do
    let (_, rest) ← readLiteral .null ['u', 'l', 'l'] rest
    .ok ((), rest)
  | text => refuse "unit" text

structure RecordShape (α : Type) where
  title : String
  fields : List String
  value : Reader α
  /-- What a field is when it is not given; without it the field must be given. -/
  absent : Option α
  /-- Whether names other than the fields are refused. -/
  closed : Bool

/-- A faulty name is noticed behind the blanks that follow it, and behind a closing brace. -/
private def behindName (text : List Char) : List Char :=
  match skipBlank text with
  | '\x7d' :: rest => rest
  | rest => rest

def RecordShape.readMember {α : Type} (shape : RecordShape α) (before : KeyMap String α)
    (name : String) : Reader (KeyMap String α) := fun text =>
  if name ∈ shape.fields then
    if KeyMap.contains name before then failAt (.duplicateField name) (behindName text)
    else do
      let (_, text) ← readColon text
      let (value, text) ← shape.value text
      .ok (KeyMap.insert name value before, text)
  else if shape.closed then failAt (.unknownField name shape.fields) (behindName text)
  else do
    let (_, text) ← readColon text
    let text ← skipValue text
    .ok (before, text)

def RecordShape.collect {α : Type} (shape : RecordShape α) (given : KeyMap String α) :
    List String → Except Cause (List α)
  | [] => .ok []
  | field :: fields =>
    match (KeyMap.find? field given).or shape.absent with
    | some value => (shape.collect given fields).map (value :: ·)
    | none => .error (.missingField field)

/-- Reads the fields from the elements of an array. `count` fields are read already. -/
def RecordShape.readInOrder {α : Type} (shape : RecordShape α) (count : Nat) :
    List String → Reader (List α)
  | [], text =>
    match skipBlank text with
    | [] => failOn .endOfList []
    | ']' :: rest => .ok ([], rest)
    | ',' :: rest =>
      match skipBlank rest with
      | ']' :: rest => failOn .trailingComma (']' :: rest)
      | text => failOn .trailingCharacters text
    | text => failOn .trailingCharacters text
  | _ :: fields, text => do
    match ← nextElement (count == 0) text with
    | .closed rest =>
      match shape.absent with
      | some value => .ok (List.replicate (fields.length + 1) value, rest)
      | none =>
        let elements := if shape.fields.length = 1 then " element" else " elements"
        failAt (.invalidLength count
          (shape.title ++ " with " ++ toString shape.fields.length ++ elements)) rest
    | .element text =>
      let (value, text) ← shape.value text
      let (values, text) ← shape.readInOrder (count + 1) fields text
      .ok (value :: values, text)

def RecordShape.read {α : Type} (shape : RecordShape α) : Reader (List α) := fun text =>
  match skipBlank text with
  | [] => failOn .endOfValue []
  | '[' :: rest => shape.readInOrder 0 shape.fields rest
  | '\x7b' :: rest => do
    let (given, rest) ← readObject shape.readMember [] rest
    match shape.collect given shape.fields with
    | .ok values => .ok (values, rest)
    | .error cause => failAt cause rest
  | text => refuse shape.title text

/-- Reads one of the named variants: `"variant"`, whose value is `bare`, or an object whose only
member is the variant with its payload. -/
def readVariant {α : Type} (variants : List String) (bare : String → Except Cause α)
    (payload : String → Reader α) : Reader α := fun text =>
  match skipBlank text with
  | [] => failOn .endOfValue []
  | '"' :: rest => do
    let (variant, rest) ← readString rest
    if variant ∈ variants then
      match bare variant with
      | .ok value => .ok (value, rest)
      | .error cause => .error ⟨cause, none⟩
    else failAt (.unknownVariant variant variants) rest
  | '\x7b' :: rest =>
    match skipBlank rest with
    | [] => failOn .endOfObject []
    | '"' :: rest => do
      let (variant, rest) ← readString rest
      if variant ∈ variants then
        let (_, rest) ← readColon rest
        let (value, rest) ← payload variant rest
        match skipBlank rest with
        | [] => failAt .endOfObject []
        | '\x7d' :: rest => .ok (value, rest)
        | text => failAt .expectedValue text
      else failAt (.unknownVariant variant variants) rest
    | '\x7d' :: rest => failOn .expectedValue ('\x7d' :: rest)
    | text => failOn .keyNotString text
  | text => failOn .expectedValue text

end PathCall.Json
