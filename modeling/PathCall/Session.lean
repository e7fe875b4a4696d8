import PathCall.Resource

/-!
Sessions: a registry, the resources that were opened against it, and the world that their entities
share. The actions here are all that a caller can do; each one answers with a reply.
-/

namespace PathCall

structure Session (Ω : Type) where
  registry : Registry Ω
  /-- Resources by place. A place is empty when its resource could not be opened or is used up. -/
  resources : List (Option (Resource Ω))
  world : World Ω

inductive ResourceAction (Ω : Type) where
  | call (operation : String) (kwargs : Kwargs)
  | protocolCall (operation : String) (kwargs : Kwargs)
  | protocolHasOperation (operation : String)
  | protocolCallStack (operation : String)
  | callStack (operation : String)
  | supportsOperation (operation : String)
  | supports (feature : String)
  | hasGuard
  | setGuard (validator : Option (Validator Ω))
  /-- Gives the resource back only when the validator could be attached. -/
  | withGuard (validator : Validator Ω)
  | protocolSetGuard (validator : Option (Validator Ω))
  | protocolHasGuard
  | setCallee (callee : Option (Callee (World Ω)))
  | hasCallee
  | callHook (name : String)
  | describe

inductive SessionAction (Ω : Type) where
  | open (address : String)
  | openInProcess (address operation : String)
  | openProtocol (address operation : String) (kwargs : Kwargs)
  | instantiate (id : EntityId) (operation feature : String)
  | hasEntity (id : EntityId)
  | entityIds
  | registerEntity (id : EntityId) (factory : Act (World Ω) (Instance Ω))
  | registerProtocol (scheme : String) (factory : ProtocolFactory Ω)
  | describeRegistry
  | changeDenyList (place : Nat) (action : DenyList.Action)
  | denyList (place : Nat)
  | onResource (place : Nat) (action : ResourceAction Ω)

structure OpenedEntity where
  entity : EntityId
  selectors : List String
  hasOperation : Bool
  hasMethod : Bool

structure InstanceReport where
  hasMethod : Bool
  supported : Bool
  declared : Bool
  guarded : Bool

inductive SessionReply (Ω : Type) where
  | done
  | value (value : Json)
  | flag (value : Bool)
  | text (text : String)
  | names (names : List String)
  | opened (locator : Locator)
  | openedEntity (entity : OpenedEntity)
  | report (report : InstanceReport)
  | stack (stack : CallStack (World Ω))
  /-- Whether the callee has a hook, and how calling it ended. -/
  | hook (has : Bool) (called : Except Error Unit)
  | noCallee
  | noResource

namespace Session

variable {Ω : Type}

/-- Does an action on a resource. Returns the resource as it is afterwards, or none when it is
used up. -/
def onResource (resource : Resource Ω) :
    ResourceAction Ω → Act (World Ω) (SessionReply Ω × Option (Resource Ω))
  | .call operation kwargs => do return (.value (← resource.call operation kwargs), resource)
  | .protocolCall operation kwargs => do
    return (.value (← resource.protocol.call operation kwargs), resource)
  | .protocolHasOperation operation => do
    return (.flag (← resource.protocol.hasOperation operation), resource)
  | .protocolCallStack operation => do
    return (.stack (← resource.protocol.callStack operation), resource)
  | .callStack operation => do return (.stack (← resource.callStack operation), resource)
  | .supportsOperation operation => do
    return (.flag (← resource.supportsOperation operation), resource)
  | .supports feature => do return (.flag (resource.supports (← Act.get) feature), resource)
  | .hasGuard => do
    let validator ← Act.ofExcept (resource.guard? (← Act.get))
    return (.flag validator.isSome, resource)
  | .setGuard validator => do
    resource.setGuard validator
    return (.done, resource)
  | .withGuard validator => do
    resource.setGuard (some validator)
    return (.done, resource)
  | .protocolSetGuard validator => do
    resource.protocol.setGuard validator
    return (.done, resource)
  | .protocolHasGuard => do
    return (.flag (resource.protocol.guard? (← Act.get)).isSome, resource)
  | .setCallee callee => pure (.done, resource.setCallee callee)
  | .hasCallee => pure (.flag resource.callee.isSome, resource)
  | .callHook name =>
    match resource.callee with
    | none => pure (.noCallee, resource)
    | some callee => do
      let called ← Act.attempt (callee.callHook name none)
      return (.hook (callee.hasHook name) called, resource)
  | .describe => pure (.text resource.describe, resource)

def ResourceAction.keepsResource : ResourceAction Ω → Bool
  | .withGuard _ => false
  | _ => true

def lift {α : Type} (session : Session Ω) (act : Act (World Ω) α) : Outcome α × Session Ω :=
  let (outcome, world) := act false session.world
  (outcome, { session with world := world })

def answer {α : Type} (session : Session Ω) (act : Act (World Ω) α)
    (reply : α → SessionReply Ω) : Outcome (SessionReply Ω) × Session Ω :=
  session.lift do return reply (← act)

def setResource (session : Session Ω) (place : Nat) (resource : Option (Resource Ω)) :
    Session Ω :=
  { session with resources := session.resources.set place resource }

def openEntity (session : Session Ω) (address operation : String) :
    Act (World Ω) OpenedEntity := do
  let locator ← Act.ofExcept (Locator.parse address)
  let opened ← InProcess.open locator (session.registry.view session.registry.open)
  return {
    entity := opened.entity
    selectors := opened.selectors
    hasOperation := ← opened.protocol.hasOperation operation
    hasMethod := opened.target.hasMethod operation }

def callProtocol (session : Session Ω) (address operation : String) (kwargs : Kwargs) :
    Act (World Ω) Json := do
  let locator ← Act.ofExcept (Locator.parse address)
  let protocol ← session.registry.open locator
  protocol.call operation kwargs

def inspect (session : Session Ω) (id : EntityId) (operation feature : String) :
    Act (World Ω) InstanceReport := do
  let target ← session.registry.instantiate id
  let world ← Act.get
  return {
    hasMethod := target.hasMethod operation
    supported := target.supports world feature
    declared := KeyMap.contains feature target.receiver.features
    guarded := (target.guard? world).isSome }

def step (session : Session Ω) : SessionAction Ω → Outcome (SessionReply Ω) × Session Ω
  | .open address =>
    match session.lift (Resource.open session.registry address) with
    | (.ok resource, session) =>
      (.ok (.opened resource.locator),
        { session with resources := session.resources ++ [some resource] })
    | (.fail error, session) =>
      (.fail error, { session with resources := session.resources ++ [none] })
    | (.panic reason, session) =>
      (.panic reason, { session with resources := session.resources ++ [none] })
  | .openInProcess address operation =>
    session.answer (session.openEntity address operation) .openedEntity
  | .openProtocol address operation kwargs =>
    session.answer (session.callProtocol address operation kwargs) .value
  | .instantiate id operation feature =>
    session.answer (session.inspect id operation feature) .report
  | .hasEntity id => (.ok (.flag (session.registry.hasEntity id)), session)
  | .entityIds =>
    (.ok (.names (session.registry.entityIds.map EntityId.display)), session)
  | .registerEntity id factory =>
    (.ok .done, { session with registry := session.registry.registerEntity id factory })
  | .registerProtocol scheme factory =>
    (.ok .done, { session with registry := session.registry.registerProtocol scheme factory })
  | .describeRegistry => (.ok (.text session.registry.describe), session)
  | .changeDenyList place action =>
    let (result, list) := (session.world.denyList place).apply action
    (.ofExcept (result.map fun _ => .names list),
      { session with world := session.world.setDenyList place list })
  | .denyList place => (.ok (.names (session.world.denyList place)), session)
  | .onResource place action =>
    match (session.resources[place]?).join with
    | none => (.ok .noResource, session)
    | some resource =>
      match session.lift (onResource resource action) with
      | (.ok (reply, after), session) => (.ok reply, session.setResource place after)
      | (.fail error, session) =>
        (.fail error,
          if ResourceAction.keepsResource action then session else session.setResource place none)
      | (.panic reason, session) => (.panic reason, session)

def start (app : Ω) : Session Ω := ⟨Registry.start, [], World.start app⟩

def run (session : Session Ω) : List (SessionAction Ω) →
    List (Outcome (SessionReply Ω)) × Session Ω
  | [] => ([], session)
  | action :: actions =>
    let (reply, session) := session.step action
    let (replies, session) := session.run actions
    (reply :: replies, session)

end Session

end PathCall
