import PathCall.Address.Host

/-!
Whether a text is an absolute URL, and with which scheme. Only the scheme and the authority can
make a text invalid: whatever follows them is accepted.
-/

namespace PathCall.Address

/-- How a scheme wants its authority written. -/
inductive SchemeClass where
  | file
  /-- Schemes of internet hosts: any slashes lead to the authority, and it needs a host. -/
  | internet
  /-- All other schemes: two slashes lead to an authority, which may be empty. -/
  | other
  deriving DecidableEq

def SchemeClass.of (scheme : List Char) : SchemeClass :=
  if scheme = "file".toList then .file
  else if scheme ∈ ["http".toList, "https".toList, "ws".toList, "wss".toList, "ftp".toList] then
    .internet
  else .other

/-- What a URL does not count at its ends. -/
def isEdge (c : Char) : Bool := c.toNat ≤ 32

/-- What a URL does not count anywhere. -/
def isIgnored (c : Char) : Bool := c == '\t' || c == '\n' || c == '\r'

def significant (text : List Char) : List Char :=
  let text := ((text.dropWhile isEdge).reverse.dropWhile isEdge).reverse
  text.filter fun c => !isIgnored c

def isSchemeChar (c : Char) : Bool := c.isAlphanum || c == '+' || c == '-' || c == '.'

/-- A scheme in lower case and what follows its colon. A scheme begins with a letter. -/
def splitScheme? (text : List Char) : Option (List Char × List Char) :=
  match text with
  | [] => none
  | c :: _ =>
    if !c.isAlpha then none
    else
      match text.dropWhile isSchemeChar with
      | ':' :: rest => some ((text.takeWhile isSchemeChar).map Char.toLower, rest)
      | _ => none

def isSlash (c : Char) : Bool := c == '/' || c == '\\'

/-- What ends an authority. A backslash is a slash unless the scheme is unknown. -/
def endsAuthority (backslash : Bool) (c : Char) : Bool :=
  c == '/' || c == '?' || c == '#' || (backslash && c == '\\')

/-- Digits up to the end of the authority make a number of sixteen bits. -/
def checkPort (value : Nat) : List Char → Except Fault Unit
  | [] => .ok ()
  | c :: rest =>
    if c.isDigit then
      let value := value * 10 + (c.toNat - 48)
      if value > 65535 then .error .invalidPort else checkPort value rest
    else if endsAuthority true c then .ok ()
    else .error .invalidPort

/-- The length of a host: it ends before a colon that is not in brackets. -/
def hostLength (backslash inBrackets : Bool) : List Char → Nat
  | [] => 0
  | c :: rest =>
    if (c == ':' && !inBrackets) || endsAuthority backslash c then 0
    else
      1 + hostLength backslash (if c == '[' then true else if c == ']' then false else inBrackets)
        rest

def splitUserInfo? (backslash : Bool) (text : List Char) : Option (List Char × List Char) :=
  let authority := text.takeWhile fun c => !endsAuthority backslash c
  match Text.splitLast '@' authority with
  | some (before, after) => some (before, after ++ text.drop authority.length)
  | none => none

def checkAuthority (scheme : SchemeClass) (text : List Char) : Except Fault Unit := do
  let backslash := scheme != .other
  let (userInfo, text) ←
    match splitUserInfo? backslash text with
    | none => .ok ([], text)
    | some ([], rest) =>
      if rest.head?.any (endsAuthority backslash) then .error .emptyHost else .ok ([], rest)
    | some (userInfo, rest) => .ok (userInfo, rest)
  let length := hostLength backslash false text
  let host := text.take length
  let rest := text.drop length
  if scheme = .internet then
    if host.isEmpty then .error .emptyHost
    checkInternetHost host
  else
    checkOpaqueHost host
  if host.isEmpty && rest.head? = some ':' then .error .emptyHost
  match rest with
  | ':' :: digits => checkPort 0 digits
  | _ => pure ()
  -- A lone colon is no user information.
  if host.isEmpty && userInfo != [] && userInfo != [':'] then .error .emptyHost

/-- A letter with a colon or a bar: the first segment of a path, never a host. -/
def isDriveLetter (text : List Char) : Bool :=
  match text with
  | [letter, mark] => letter.isAlpha && (mark == ':' || mark == '|')
  | _ => false

def checkFile (text : List Char) : Except Fault Unit :=
  match text with
  | first :: second :: rest =>
    if isSlash first && isSlash second then
      let host := rest.takeWhile fun c => !endsAuthority true c
      if host.isEmpty || isDriveLetter host then .ok () else checkInternetHost host
    else .ok ()
  | _ => .ok ()

def schemeOf (text : String) : Except Fault String :=
  match splitScheme? (significant text.toList) with
  | none => .error .relativeWithoutBase
  | some (scheme, rest) => do
    match SchemeClass.of scheme with
    | .file => checkFile rest
    | .internet => checkAuthority .internet (rest.dropWhile isSlash)
    | .other =>
      match rest with
      | '/' :: '/' :: rest => checkAuthority .other rest
      | _ => pure ()
    return String.ofList scheme

end PathCall.Address
