import PathCall.Instance
import PathCall.Script.State

/-!
Entities given by data: classes whose methods are behaviors of a small language.
-/

namespace PathCall.Script

inductive Behavior where
  | echo
  | return (value : Json)
  | fail (error : Error)
  | panic
  | requireSelectId
  | requireSelected
  | requireText (key : String)
  | get (key : String)
  | filtered
  | filter (key : String)
  | count
  | toggle
  | supports (feature : String)
  | restricted (operation : String) (body : Behavior)
  | byId (cases : List (String × Behavior)) (default : Behavior)
  | all (behaviors : List Behavior)
  | put
  | fetch
  | remove
  | ids
  deriving Inhabited

private def textOrNull (text : Option String) : Json := text.elim .null .str

def received (arguments : Arguments) : Json :=
  .obj [
    ("has_selected", .bool arguments.selected.isSome),
    ("kwargs", .obj arguments.kwargs),
    ("select_id", textOrNull arguments.selectId),
    ("selected", arguments.selected.getD .null)]

def filterTree (arguments : Arguments) (key : String) : Except Error Json := do
  match ← arguments.filter key with
  | none => return .null
  | some parser => return (← (parser.filter []).1).toJson

/-- Changes the state of an entity and returns a value that goes with it. -/
def update (place : Nat) (change : EntityState → Json × EntityState) : Effect Json :=
  World.onApp fun _ state =>
    let (value, entity) := change (state.entity place)
    (.ok value, state.setEntity place entity)

def stored (place : Nat) (arguments : Arguments) : Effect (String × Json) := do
  let id ← Act.ofExcept arguments.requireSelectId
  let world ← Act.get
  match KeyMap.find? id (world.app.entity place).store with
  | some value => return (id, value)
  | none => Act.fail Error.nothingMatched

mutual
def Behavior.run (self : Receiver State) (place : Nat) (arguments : Arguments) :
    Behavior → Effect Json
  | .echo => pure (received arguments)
  | .return value => pure value
  | .fail error => Act.fail error
  | .panic => Act.panic panicReason
  | .requireSelectId => Act.ofExcept (arguments.requireSelectId.map .str)
  | .requireSelected => Act.ofExcept arguments.requireSelected
  | .requireText key => Act.ofExcept ((arguments.requireText key).map .str)
  | .get key =>
    pure (.obj [
      ("found", .bool (arguments.get? key).isSome),
      ("value", (arguments.get? key).getD .null)])
  | .filtered => pure (.obj (self.filteredKwargs arguments))
  | .filter key => Act.ofExcept (filterTree arguments key)
  | .count => update place fun entity =>
    (.int (entity.counter + 1), { entity with counter := entity.counter + 1 })
  | .toggle => update place fun entity =>
    (.bool (!entity.toggled), { entity with toggled := !entity.toggled })
  | .supports feature => do return .bool (self.supports (← Act.get) feature)
  | .restricted operation body =>
    self.restricted operation arguments (Behavior.run self place arguments body)
  | .byId cases default =>
    Behavior.runCase self place arguments (Behavior.run self place arguments default) cases
  | .all behaviors => do return .arr (← Behavior.runAll self place arguments behaviors)
  | .put => do
    let id ← Act.ofExcept arguments.requireSelectId
    let object := Json.obj (self.filteredKwargs arguments)
    update place fun entity =>
      (object, { entity with store := KeyMap.insert id object entity.store })
  | .fetch => do return (← stored place arguments).2
  | .remove => do
    let (id, _) ← stored place arguments
    update place fun entity =>
      (.bool true, { entity with store := entity.store.filter (·.1 ≠ id) })
  | .ids => do
    return .arr ((KeyMap.keys ((← Act.get).app.entity place).store).map .str)
def Behavior.runCase (self : Receiver State) (place : Nat) (arguments : Arguments)
    (default : Effect Json) : List (String × Behavior) → Effect Json
  | [] => default
  | (id, behavior) :: rest =>
    if arguments.selectId = some id then Behavior.run self place arguments behavior
    else Behavior.runCase self place arguments default rest
/-- Runs behaviors one after the other; the first that fails ends it. -/
def Behavior.runAll (self : Receiver State) (place : Nat) (arguments : Arguments) :
    List Behavior → Effect (List Json)
  | [] => pure []
  | behavior :: rest => do
    let value ← Behavior.run self place arguments behavior
    return value :: (← Behavior.runAll self place arguments rest)
end

inductive FeatureScript where
  | flag (value : Bool)
  | toggle

inductive OptimizeScript where
  | keep
  | dropSelect
  | reverse
  | empty
  | fail (error : Error)
  | rename (operation : String)
  | append (method : String) (selectId : Option String) (value : Json)

def OptimizeScript.apply {σ : Type} (script : OptimizeScript) (stack : CallStack σ) :
    Except Error (CallStack σ) :=
  match script with
  | .keep => .ok stack
  | .dropSelect =>
    .ok { stack with steps := stack.steps.filter fun step => step.name ≠ CallStack.select }
  | .reverse => .ok { stack with steps := stack.steps.reverse }
  | .empty => .ok { stack with steps := [] }
  | .fail error => .error error
  | .rename operation => .ok { stack with operation := operation }
  | .append method selectId value =>
    .ok { stack with steps := stack.steps ++ [⟨fun _ => pure value, method, selectId⟩] }

structure ClassScript where
  methods : List (String × Behavior)
  features : List (String × FeatureScript)
  optimize : OptimizeScript
  /-- Argument names that the entity keeps for itself. -/
  ownNames : List String

namespace ClassScript

/-- A method logs that it is called before it behaves. -/
def method (place : Nat) (name : String) (behavior : Behavior) (self : Receiver State) :
    Method (World State) := fun arguments => do
  World.onApp (record (.step name))
  behavior.run self place arguments

def entityClass (script : ClassScript) (place : Nat) : EntityClass State where
  methods :=
    KeyMap.ofList (script.methods.map fun entry => (entry.1, method place entry.1 entry.2))
  ownNames := script.ownNames
  declare features :=
    script.features.foldl
      (fun features entry =>
        match entry.2 with
        | .flag value => Features.setFlag features entry.1 value
        | .toggle =>
          Features.setProbe features entry.1 fun world => (world.app.entity place).toggled)
      features
  optimize stack := Act.ofExcept (script.optimize.apply stack)

def create (script : ClassScript) : Effect (Instance State) := do
  let place := (← Act.get).app.entities.length
  World.onApp (Act.modify fun state => { state with entities := state.entities ++ [{}] })
  (script.entityClass place).create

end ClassScript

end PathCall.Script
