import PathCall.Json.Value
import PathCall.Json.Fault
import PathCall.Decimal.Scaled

/-!
Blanks, literals, strings and numbers of JSON texts. Every reader here starts at the first
character of what it reads, except that `readString` starts behind the opening quote.
-/

namespace PathCall.Json

def isBlank (c : Char) : Bool := c == ' ' || c == '\t' || c == '\n' || c == '\r'

def skipBlank (text : List Char) : List Char := text.dropWhile isBlank

/-- Reads the rest of a literal, comparing byte by byte. -/
def readLiteral (value : Json) : List Char → Reader Json
  | [], text => .ok (value, text)
  | _ :: _, [] => failAt .endOfValue []
  | expected :: word, c :: rest =>
    if c = expected then readLiteral value word rest else failOn .expectedIdent (c :: rest)

def hexValue? (c : Char) : Option Nat :=
  if '0' ≤ c && c ≤ '9' then some (c.toNat - 48)
  else if 'a' ≤ c && c ≤ 'f' then some (c.toNat - 87)
  else if 'A' ≤ c && c ≤ 'F' then some (c.toNat - 55)
  else none

def unescape? (c : Char) : Option Char :=
  if c = '"' || c = '\\' || c = '/' then some c
  else if c = 'b' then some '\x08'
  else if c = 'f' then some '\x0c'
  else if c = 'n' then some '\n'
  else if c = 'r' then some '\r'
  else if c = 't' then some '\t'
  else none

/-- What the characters behind mean to a string. -/
inductive StringState where
  | plain
  | escape
  /-- Behind `\u` and `seen` bytes of its four digits; `value` is absent after a wrong one. -/
  | hex (high : Option Nat) (seen : Nat) (value : Option Nat)
  /-- Behind a high surrogate, before the backslash of its partner. -/
  | pairBackslash (high : Nat)
  /-- Behind a high surrogate and a backslash. -/
  | pairLetter (high : Nat)

def isHighSurrogate (n : Nat) : Bool := 0xD800 ≤ n && n ≤ 0xDBFF

def isLowSurrogate (n : Nat) : Bool := 0xDC00 ≤ n && n ≤ 0xDFFF

def combineSurrogates (high low : Nat) : Char :=
  Char.ofNat (0x10000 + (high - 0xD800) * 0x400 + (low - 0xDC00))

def readContents : StringState → Reader (List Char)
  | _, [] => failAt .endOfString []
  | .plain, c :: rest =>
    if c = '"' then .ok ([], rest)
    else if c = '\\' then readContents .escape rest
    else if c.toNat < 32 then failAt .controlCharacter rest
    else do
      let (contents, rest) ← readContents .plain rest
      .ok (c :: contents, rest)
  | .escape, c :: rest =>
    if c = 'u' then readContents (.hex none 0 (some 0)) rest
    else
      match unescape? c with
      | some plain => do
        let (contents, rest) ← readContents .plain rest
        .ok (plain :: contents, rest)
      | none => failOn .invalidEscape (c :: rest)
  | .hex high seen value, c :: rest =>
    let value := do return (← value) * 16 + (← hexValue? c)
    if seen + c.utf8Size < 4 then readContents (.hex high (seen + c.utf8Size) value) rest
    else
      match value, high with
      | none, _ => .error ⟨.invalidEscape, some (byteSize rest + (seen + c.utf8Size - 4))⟩
      | some unit, none =>
        if isLowSurrogate unit then failAt .loneSurrogate rest
        else if isHighSurrogate unit then readContents (.pairBackslash unit) rest
        else do
          let (contents, rest) ← readContents .plain rest
          .ok (Char.ofNat unit :: contents, rest)
      | some unit, some high =>
        if isLowSurrogate unit then do
          let (contents, rest) ← readContents .plain rest
          .ok (combineSurrogates high unit :: contents, rest)
        else failAt .loneSurrogate rest
  | .pairBackslash high, c :: rest =>
    if c = '\\' then readContents (.pairLetter high) rest
    else failOn .endOfHexEscape (c :: rest)
  | .pairLetter high, c :: rest =>
    if c = 'u' then readContents (.hex (some high) 0 (some 0)) rest
    else failOn .endOfHexEscape (c :: rest)

def readString : Reader String := fun text => do
  let (contents, rest) ← readContents .plain text
  .ok (String.ofList contents, rest)

def digitValue (c : Char) : Nat := c.toNat - 48

def spanDigits (text : List Char) : List Char × List Char :=
  (text.takeWhile Char.isDigit, text.dropWhile Char.isDigit)

/-- A floating-point value, refused with `rest` unread when it is too great. -/
def floatOf (negative : Bool) (significand : Nat) (exponent : Int) (rest : List Char) :
    Except Fault (Json × List Char) :=
  match Decimal.scaled? significand exponent with
  | some bits =>
    .ok (.float (UInt64.ofNat (if negative then bits + Nat.pow 2 63 else bits)), rest)
  | none => failAt .numberOutOfRange rest

def maxExponent : Nat := Nat.pow 2 31 - 1

/-- The value of exponent digits, or the digits unread when it leaves the range. -/
def exponentOf (value : Nat) : List Char → Nat ⊕ List Char
  | [] => .inl value
  | c :: rest =>
    if value * 10 + digitValue c > maxExponent then .inr rest
    else exponentOf (value * 10 + digitValue c) rest

/-- Reads an exponent from behind its letter. One that is out of range makes the number too
great, unless the significand is zero or the exponent negative: then the number is zero. -/
def readExponent (negative : Bool) (significand : Nat) (exponent : Int) : Reader Json :=
  fun text =>
    let (down, text) :=
      match text with
      | '+' :: rest => (false, rest)
      | '-' :: rest => (true, rest)
      | text => (false, text)
    match text with
    | [] => failAt .endOfValue []
    | c :: _ =>
      if !c.isDigit then failOn .invalidNumber text
      else
        let (digits, rest) := spanDigits text
        match exponentOf 0 digits with
        | .inl value =>
          floatOf negative significand (exponent + if down then -(value : Int) else value) rest
        | .inr unread =>
          if significand ≠ 0 && !down then failAt .numberOutOfRange (unread ++ rest)
          else floatOf negative 0 0 rest

def readFraction (negative : Bool) (digits : List Char) : Reader Json := fun text =>
  let (significand, taken) := Decimal.absorb 0 (digits.map digitValue)
  let dropped := digits.length - taken
  match text with
  | '.' :: rest =>
    let (fraction, rest) := spanDigits rest
    match fraction, rest with
    | [], [] => failOn .endOfValue []
    | [], rest => failOn .invalidNumber rest
    | fraction, rest =>
      let (significand, taken) := Decimal.absorb significand (fraction.map digitValue)
      let exponent : Int := dropped - taken
      match rest with
      | 'e' :: rest | 'E' :: rest => readExponent negative significand exponent rest
      | rest => floatOf negative significand exponent rest
  | 'e' :: rest | 'E' :: rest => readExponent negative significand dropped rest
  | rest =>
    if dropped ≠ 0 then floatOf negative significand dropped rest
    else if !negative then .ok (.int significand, rest)
    else if significand = 0 || significand > Nat.pow 2 63 then floatOf true significand 0 rest
    else .ok (.int (-(significand : Int)), rest)

def readNumber (negative : Bool) : Reader Json
  | [] => failAt .endOfValue []
  | '0' :: rest =>
    match rest with
    | [] => readFraction negative ['0'] []
    | c :: others =>
      if c.isDigit then failOn .invalidNumber (c :: others)
      else readFraction negative ['0'] (c :: others)
  | c :: rest =>
    if !c.isDigit then failOn .invalidNumber (c :: rest)
    else
      let (digits, rest) := spanDigits rest
      readFraction negative (c :: digits) rest

/-- Reads a value that nests no other, or refuses the first character. -/
def readScalar : Reader Json
  | [] => failOn .endOfValue []
  | 'n' :: rest => readLiteral .null ['u', 'l', 'l'] rest
  | 't' :: rest => readLiteral (.bool true) ['r', 'u', 'e'] rest
  | 'f' :: rest => readLiteral (.bool false) ['a', 'l', 's', 'e'] rest
  | '"' :: rest => do
    let (text, rest) ← readString rest
    .ok (.str text, rest)
  | '-' :: rest => readNumber true rest
  | c :: rest => if c.isDigit then readNumber false (c :: rest) else failOn .expectedValue (c :: rest)

end PathCall.Json
