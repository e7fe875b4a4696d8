import PathCall.EntityId

/-!
Paths of addresses. The first two segments name an entity, the others are the selectors that lead
to an element of it.
-/

namespace PathCall

structure AddressPath where
  entity : EntityId
  selectors : List String
  deriving DecidableEq, Inhabited

namespace AddressPath

/-- The segments of a path; one leading slash does not count. -/
def segments (path : List Char) : List (List Char) :=
  match path with
  | '/' :: rest => Text.split '/' rest
  | path => Text.split '/' path

def parse (path : String) : Except Error AddressPath :=
  match segments path.toList with
  | module :: instance_ :: selectors =>
    .ok {
      entity := EntityId.ofSegments module instance_
      selectors := selectors.map fun token => Text.dropControls (String.ofList token) }
  | _ =>
    .error ⟨.operationNotSupported,
      "CRUD URL path '" ++ path ++ "' does not identify an entity " ++
        "(expected format: /module/instance[/selector...])"⟩

end AddressPath

end PathCall
