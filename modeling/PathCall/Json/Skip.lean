import PathCall.Json.Reader

/-!
Passing over values that nobody asked for. Nesting is not limited here, strings need not pair
their surrogates, and no number is too great.
-/

namespace PathCall.Json

inductive Bracket where
  | array
  | object

def skipContents : StringState → List Char → Except Fault (List Char)
  | _, [] => failAt .endOfString []
  | .escape, c :: rest =>
    if c = 'u' then skipContents (.hex none 0 (some 0)) rest
    else if (unescape? c).isSome then skipContents .plain rest
    else failOn .invalidEscape (c :: rest)
  | .hex high seen value, c :: rest =>
    let value := do return (← value) * 16 + (← hexValue? c)
    if seen + c.utf8Size < 4 then skipContents (.hex high (seen + c.utf8Size) value) rest
    else if value.isSome then skipContents .plain rest
    else .error ⟨.invalidEscape, some (byteSize rest + (seen + c.utf8Size - 4))⟩
  | _, c :: rest =>
    if c = '"' then .ok rest
    else if c = '\\' then skipContents .escape rest
    else if c.toNat < 32 then failAt .controlCharacter (c :: rest)
    else skipContents .plain rest

def skipExponent : List Char → Except Fault (List Char) := fun text =>
  let text :=
    match text with
    | '+' :: rest | '-' :: rest => rest
    | text => text
  match text with
  | [] => failAt .invalidNumber []
  | c :: rest =>
    if c.isDigit then .ok (spanDigits rest).2 else failOn .invalidNumber (c :: rest)

def skipFraction : List Char → Except Fault (List Char)
  | '.' :: rest =>
    match spanDigits rest with
    | ([], rest) => failOn .invalidNumber rest
    | (_, 'e' :: rest) | (_, 'E' :: rest) => skipExponent rest
    | (_, rest) => .ok rest
  | 'e' :: rest | 'E' :: rest => skipExponent rest
  | rest => .ok rest

def skipNumber : List Char → Except Fault (List Char)
  | [] => failAt .invalidNumber []
  | '0' :: rest =>
    match rest with
    | [] => .ok []
    | c :: others =>
      if c.isDigit then failOn .invalidNumber (c :: others) else skipFraction (c :: others)
  | c :: rest =>
    if c.isDigit then skipFraction (spanDigits rest).2 else failOn .invalidNumber (c :: rest)

def skipScalar : List Char → Except Fault (List Char)
  | '"' :: rest => skipContents .plain rest
  | '-' :: rest => skipNumber rest
  | c :: rest =>
    if c.isDigit then skipNumber (c :: rest) else (readScalar (c :: rest)).map (·.2)
  | [] => failOn .endOfValue []

def skipName (text : List Char) : Except Fault (List Char) :=
  match skipBlank text with
  | [] => failOn .endOfObject []
  | '"' :: rest => do
    let rest ← skipContents .plain rest
    let (_, rest) ← readColon rest
    .ok rest
  | text => failOn .keyNotString text

/-- What a place in a text is behind of. -/
inductive SkipState where
  | value
  | opened
  | done

/-- Passes over what is left of a value inside the open brackets, innermost first. Every step
reads a character, or leads from an opened bracket to its first value. -/
def skipOpen : (fuel : Nat) → SkipState → List Bracket → List Char → Except Fault (List Char)
  | 0, _, _, text => failOn .endOfValue text
  | fuel + 1, .value, enclosing, text =>
    match skipBlank text with
    | '[' :: rest => skipOpen fuel .opened (.array :: enclosing) rest
    | '\x7b' :: rest => skipOpen fuel .opened (.object :: enclosing) rest
    | text => do skipOpen fuel .done enclosing (← skipScalar text)
  | _ + 1, .opened, [], text | _ + 1, .done, [], text => .ok text
  | fuel + 1, state, bracket :: enclosing, text =>
    match skipBlank text, bracket, state with
    | [], .array, _ => failOn .endOfList []
    | [], .object, _ => failOn .endOfObject []
    | ']' :: rest, .array, _ => skipOpen fuel .done enclosing rest
    | '\x7d' :: rest, .object, _ => skipOpen fuel .done enclosing rest
    | text, .array, .opened => skipOpen fuel .value (.array :: enclosing) text
    | text, .object, .opened => do skipOpen fuel .value (.object :: enclosing) (← skipName text)
    | ',' :: rest, .array, _ => skipOpen fuel .value (.array :: enclosing) rest
    | ',' :: rest, .object, _ => do skipOpen fuel .value (.object :: enclosing) (← skipName rest)
    | text, .array, _ => failOn .expectedListEnd text
    | text, .object, _ => failOn .expectedObjectEnd text

def skipValue (text : List Char) : Except Fault (List Char) :=
  skipOpen (2 * text.length + 2) .value [] text

end PathCall.Json
