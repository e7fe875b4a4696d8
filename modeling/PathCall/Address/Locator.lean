import PathCall.Address.Path
import PathCall.Address.Url

/-!
Addresses as callers write them: a URL, or a path by itself, which is short for the same path in
the process. The path of an address is taken as it is written; nothing in it is decoded, and dot
segments stay.
-/

namespace PathCall

structure Locator where
  /-- The address as the caller wrote it. -/
  raw : String
  scheme : String
  /-- Empty, or with a slash in front. -/
  path : String
  deriving DecidableEq, Inhabited

namespace Locator

def defaultScheme : String := "x-in-process"

def schemeMark : List Char := [':', '/', '/']

/-- The URL that an address is short for. -/
def complete (raw : String) : String :=
  if (Text.splitOnce schemeMark raw.toList).isSome then raw
  else if raw.toList.head? = some '/' then defaultScheme ++ "://" ++ raw
  else defaultScheme ++ ":///" ++ raw

/-- What stands between the authority and a query or a fragment. -/
def rawPath (raw : List Char) : List Char :=
  let rest :=
    match Text.splitOnce schemeMark raw with
    | some (_, rest) => rest.dropWhile fun c => !(c == '/' || c == '?' || c == '#')
    | none => raw
  rest.takeWhile fun c => !(c == '?' || c == '#')

/-- A path begins with a slash unless it is empty. -/
def rooted (path : List Char) : List Char :=
  match path with
  | [] => []
  | '/' :: _ => path
  | path => '/' :: path

def parse (raw : String) : Except Error Locator :=
  match Address.schemeOf (complete raw) with
  | .ok scheme => .ok ⟨raw, scheme, String.ofList (rooted (rawPath raw.toList))⟩
  | .error fault =>
    .error ⟨.inputValidation,
      "CRUD URL '" ++ raw ++ "' is invalid: " ++ fault.message⟩

def underscored (text : List Char) : List Char := text.map fun c => if c = '-' then '_' else c

def protocolName (locator : Locator) : String :=
  String.ofList (underscored locator.scheme.toList)

end Locator

end PathCall
