import PathCall.Arguments
import PathCall.DenyList
import PathCall.Scope

/-!
The state that calls share. Entity instances are known by their places: the world keeps for each
the validator that guards it. Deny lists have places of their own, since several instances may be
guarded by one list. Everything else that entities, validators and hooks remember is theirs, of
the type `Ω`.
-/

namespace PathCall

inductive Validator (Ω : Type) where
  /-- Denies what the deny list at a place holds. -/
  | denyList (place : Nat)
  /-- Decides by itself. It is told which methods the instance has, the operation and the arguments
  of the call. Validators that do anything else with the instance are left out. -/
  | custom (validate : (hasMethod : String → Bool) → (operation : String) → Kwargs → Act Ω Unit)

/-- A validator that was never told how to decide refuses everything. -/
def Validator.undecided {Ω : Type} : Validator Ω :=
  .custom fun _ _ _ =>
    Act.fail (BackendFailure.notImplemented "access control validation").toError

structure World (Ω : Type) where
  /-- The validators of the instances, by place. -/
  guards : List (Option (Validator Ω))
  denyLists : List DenyList
  app : Ω

namespace World

variable {Ω α : Type}

def start (app : Ω) : World Ω := ⟨[], [], app⟩

def guard? (world : World Ω) (place : Nat) : Option (Validator Ω) := (world.guards[place]?).join

def setGuard (place : Nat) (validator : Option (Validator Ω)) (world : World Ω) : World Ω :=
  { world with guards := world.guards.set place validator }

def denyList (world : World Ω) (place : Nat) : DenyList := world.denyLists[place]?.getD []

def setDenyList (place : Nat) (list : DenyList) (world : World Ω) : World Ω :=
  { world with denyLists := world.denyLists.set place list }

def addDenyList (list : DenyList) : Act (World Ω) (Validator Ω) := fun _ world =>
  (.ok (.denyList world.denyLists.length),
    { world with denyLists := world.denyLists ++ [list] })

def addInstance : Act (World Ω) Nat := fun _ world =>
  (.ok world.guards.length, { world with guards := world.guards ++ [none] })

def onApp (act : Act Ω α) : Act (World Ω) α :=
  act.focus World.app fun app world => { world with app := app }

end World

def Validator.validate {Ω : Type} (validator : Validator Ω) (hasMethod : String → Bool)
    (operation : String) (kwargs : Kwargs) : Act (World Ω) Unit :=
  match validator with
  | .denyList place => do Act.ofExcept (((← Act.get).denyList place).validate operation)
  | .custom validate => World.onApp (validate hasMethod operation kwargs)

end PathCall
