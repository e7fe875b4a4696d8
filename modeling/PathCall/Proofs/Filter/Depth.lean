import Mathlib.Logic.Function.Iterate
import PathCall.Proofs.Filter.Documents

/-!
How deep filters are. A text can nest arrays and objects only as far as its reader allows, and a
tree is one node deeper than its value is nested. So there is a bound for the filters of all
documents, which some reach, and for the calls of `parseValue` that are open at once while any
document is parsed.
-/

namespace PathCall

namespace Json

mutual
/-- How many arrays and objects are around one place of a value at most, itself included. -/
def nesting : Json → Nat
  | .arr items => nestingOfItems items + 1
  | .obj members => nestingOfMembers members + 1
  | _ => 0
def nestingOfItems : List Json → Nat
  | [] => 0
  | item :: rest => max (nesting item) (nestingOfItems rest)
def nestingOfMembers : List (String × Json) → Nat
  | [] => 0
  | (_, value) :: rest => max (nesting value) (nestingOfMembers rest)
end

theorem nesting_scalar {value : Json} (h : value.isNested = false) : value.nesting = 0 := by
  cases value with
  | arr items => cases h
  | obj members => cases h
  | _ => rfl

theorem nestingOfItems_le_iff {items : List Json} {bound : Nat} :
    nestingOfItems items ≤ bound ↔ ∀ item ∈ items, item.nesting ≤ bound := by
  induction items with
  | nil => simp [nestingOfItems]
  | cons item rest ih => rw [nestingOfItems, Nat.max_le, ih, List.forall_mem_cons]

theorem nestingOfMembers_le_iff {members : List (String × Json)} {bound : Nat} :
    nestingOfMembers members ≤ bound ↔ ∀ member ∈ members, member.2.nesting ≤ bound := by
  induction members with
  | nil => simp [nestingOfMembers]
  | cons member rest ih => rw [nestingOfMembers, Nat.max_le, ih, List.forall_mem_cons]

variable {α : Type}

/-- What a reader yields always is so of the elements that are read with it. -/
theorem forall_of_readElements {P : α → Prop} {element : Reader α}
    (helement : ∀ {text value rest}, element text = .ok (value, rest) → P value) {fuel : Nat}
    {first : Bool} {text rest : List Char} {values : List α}
    (h : readElements element fuel first text = .ok (values, rest)) : ∀ value ∈ values, P value := by
  induction fuel generalizing first text values with
  | zero => cases h
  | succ fuel ih =>
    obtain ⟨step, hstep, hnext⟩ := exists_of_bind_eq_ok h
    cases step with
    | closed left =>
      cases hnext
      simp
    | element text =>
      obtain ⟨⟨value, behind⟩, hvalue, hmore⟩ := exists_of_bind_eq_ok hnext
      obtain ⟨⟨others, left⟩, hothers, hresult⟩ := exists_of_bind_eq_ok hmore
      cases hresult
      exact List.forall_mem_cons.mpr ⟨helement hvalue, ih hothers⟩

/-- What reading a member keeps is kept by reading an object. -/
theorem of_readMembers {P : α → Prop} {member : α → String → Reader α}
    (hmember : ∀ {before name text after rest},
      P before → member before name text = .ok (after, rest) → P after)
    {fuel : Nat} {first : Bool} {text rest : List Char} {before after : α} (hbefore : P before)
    (h : readMembers member fuel first before text = .ok (after, rest)) : P after := by
  induction fuel generalizing first text before with
  | zero => cases h
  | succ fuel ih =>
    obtain ⟨step, hstep, hnext⟩ := exists_of_bind_eq_ok h
    cases step with
    | closed left =>
      cases hnext
      exact hbefore
    | member text =>
      obtain ⟨⟨name, behind⟩, hname, hmore⟩ := exists_of_bind_eq_ok hnext
      obtain ⟨⟨between, left⟩, hvalue, hothers⟩ := exists_of_bind_eq_ok hmore
      exact ih (hmember hbefore hvalue) hothers

/-- A value nests no further than its reader has room. -/
theorem nesting_le_of_readValue {room : Nat} {text rest : List Char} {value : Json}
    (h : readValue room text = .ok (value, rest)) : value.nesting ≤ room := by
  induction room using Nat.strongRecOn generalizing text value rest with
  | ind room ih =>
    have hread := readFrom_of_readValue h
    generalize skipBlank text = shown at hread
    cases hread with
    | scalar hscalar => simp [nesting_scalar (readScalar_scalarRead hscalar).plain]
    | @arr room text _ items hitems =>
      have hnested : ∀ item ∈ items, item.nesting ≤ room :=
        forall_of_readElements (ih room (Nat.lt_succ_self room)) hitems
      exact Nat.succ_le_succ (nestingOfItems_le_iff.mpr hnested)
    | @obj room text _ members hmembers =>
      have hnested : ∀ member ∈ members, member.2.nesting ≤ room := by
        refine of_readMembers (P := fun members => ∀ member ∈ members, member.2.nesting ≤ room)
          ?_ (by simp) hmembers
        intro before name text after rest hbefore hmember
        obtain ⟨⟨⟨⟩, valued⟩, -, hmore⟩ := exists_of_bind_eq_ok hmember
        obtain ⟨⟨value, behind⟩, hvalue, hresult⟩ := exists_of_bind_eq_ok hmore
        cases hresult
        intro member hin
        rcases KeyMap.eq_or_mem_of_mem_insert hin with rfl | hin
        · exact ih room (Nat.lt_succ_self room) hvalue
        · exact hbefore member hin
      exact Nat.succ_le_succ (nestingOfMembers_le_iff.mpr hnested)

end Json

namespace Filter

namespace Node

theorem depthOfConditions_le_iff {conditions : List (String × Option Node)} {bound : Nat} :
    depthOfConditions conditions ≤ bound ↔
      ∀ condition ∈ conditions, ∀ node, condition.2 = some node → node.depth ≤ bound := by
  induction conditions with
  | nil => simp [depthOfConditions]
  | cons condition rest ih =>
    obtain ⟨key, _ | node⟩ := condition
    · simp [depthOfConditions, ih]
    · rw [depthOfConditions, Nat.max_le, ih, List.forall_mem_cons]
      simp

theorem depthOfList_le_iff {alternatives : List Node} {bound : Nat} :
    depthOfList alternatives ≤ bound ↔ ∀ node ∈ alternatives, node.depth ≤ bound := by
  induction alternatives with
  | nil => simp [depthOfList]
  | cons node rest ih => rw [depthOfList, Nat.max_le, ih, List.forall_mem_cons]

end Node

/-- A tree goes one node deeper than its value, or less far where the blacklist hides something. -/
theorem depth_treeOf_le (keys : Blacklist) (key : Option String) (value : Json) :
    (treeOf keys key value).depth ≤ value.nesting + 1 := by
  induction value using Json.nestedInduction generalizing key with
  | scalar value hscalar =>
    rw [treeOf_scalar keys key hscalar, Node.depth]
    omega
  | arr items ih =>
    have hitems : Node.depthOfList (alternativesOf keys key items) ≤
        Json.nestingOfItems items + 1 := by
      rw [Node.depthOfList_le_iff, alternativesOf_eq_map, List.forall_mem_map]
      intro item hitem
      have hitems := Json.nestingOfItems_le_iff.mp (Nat.le_refl _) item hitem
      exact (ih item hitem key).trans (Nat.succ_le_succ hitems)
    rw [treeOf, Node.depth, Json.nesting]
    omega
  | obj members ih =>
    have hmembers : Node.depthOfConditions (conditionsOf keys members) ≤
        Json.nestingOfMembers members + 1 := by
      rw [Node.depthOfConditions_le_iff, conditionsOf_eq_map, List.forall_mem_map]
      intro member hmember node hnode
      have hmembers := Json.nestingOfMembers_le_iff.mp (Nat.le_refl _) member hmember
      obtain ⟨-, hnode⟩ := Option.ite_none_left_eq_some.mp hnode
      obtain rfl := Option.some.inj hnode
      exact (ih member hmember _).trans (Nat.succ_le_succ hmembers)
    rw [treeOf, Node.depth, Json.nesting]
    omega

/-! ### Documents -/

theorem Dialect.eq_of_accept_eq_ok {α : Type} {dialect : Dialect} {hasAlternatives : Bool}
    {result other : α} (h : dialect.accept hasAlternatives result = .ok other) :
    other = result := by
  unfold accept at h
  split at h
  · cases h
  · exact (Except.ok.inj h).symm

/-- The tree of a document is that of the value that it decodes to. -/
theorem exists_of_parseDocument_eq_ok {kind : Kind} {keys : Blacklist} {document : String}
    {node : Node} (h : parseDocument kind.dialect keys document = .ok node) :
    ∃ value, Json.parse document = .ok value ∧ node = treeOf keys none value := by
  have hconjunctions : kind.dialect.conjunctions = true := by cases kind <;> rfl
  simp only [parseDocument, parseDocumentWith] at h
  split at h
  · cases h
  · split at h
    · cases h
    · rename_i value hvalue
      have hparse : parse kind.dialect keys none value = kind.dialect.accept
          (treeOf keys none value).hasAlternatives (some (treeOf keys none value)) :=
        parse_eq_accept hconjunctions none value
      rw [hparse] at h
      generalize haccept : kind.dialect.accept _ _ = condition at h
      cases condition with
      | error error => cases h
      | ok condition =>
        obtain rfl := Dialect.eq_of_accept_eq_ok haccept
        cases h
        exact ⟨value, hvalue, rfl⟩

theorem depth_le_of_parseDocument {kind : Kind} {keys : Blacklist} {document : String}
    {node : Node} (h : parseDocument kind.dialect keys document = .ok node) : node.depth ≤ 128 := by
  obtain ⟨value, hvalue, rfl⟩ := exists_of_parseDocument_eq_ok h
  obtain ⟨rest, hread, -⟩ := Json.exists_of_decode_eq_ok hvalue
  exact (depth_treeOf_le keys none value).trans
    (Nat.succ_le_succ (Json.nesting_le_of_readValue hread))

/-! ### Open calls -/

/-- How a dialect without conjunctions refuses a value. -/
def conjunctionsRefused : Error :=
  ⟨.operationNotSupported, "AND-concatenated filter definitions are not supported"⟩

/-- The condition under a name, where `inner` is called for the value. -/
def parseMemberWith (keys : Blacklist) (inner : Option String → Json → Except Error Node)
    (member : String × Json) : Except Error (String × Option Node) :=
  if keys.contains member.1 then .ok (member.1, none)
  else do return (member.1, some (← inner (some member.1) member.2))

/-- One call of `parseValue`, where `inner` is called for the values within. -/
def parseValueWith (dialect : Dialect) (keys : Blacklist)
    (inner : Option String → Json → Except Error Node) (key : Option String) :
    Json → Except Error Node
  | .obj members =>
    if dialect.conjunctions then do
      return .all (← members.mapM (parseMemberWith keys inner))
    else .error conjunctionsRefused
  | .arr items =>
    if dialect.alternatives then do return .any key (← items.mapM (inner key))
    else .error alternativesRefused
  | value => .ok (.leaf value)

section

variable {dialect : Dialect} {keys : Blacklist}

theorem parseMembers_eq_mapM (members : List (String × Json)) :
    parseMembers dialect keys members =
      members.mapM (parseMemberWith keys (parseValue dialect keys)) := by
  induction members with
  | nil => rfl
  | cons member rest ih =>
    obtain ⟨name, value⟩ := member
    rw [parseMembers, List.mapM_cons, ih, parseMemberWith]
    split
    · rfl
    · cases parseValue dialect keys (some name) value <;> rfl

theorem parseItems_eq_mapM (key : Option String) (items : List Json) :
    parseItems dialect keys key items = items.mapM (parseValue dialect keys key) := by
  induction items with
  | nil => rfl
  | cons item rest ih =>
    rw [parseItems, List.mapM_cons, ih]

/-- `parseValue` is what calls itself for the values within. -/
theorem parseValueWith_parseValue (dialect : Dialect) (keys : Blacklist) :
    parseValueWith dialect keys (parseValue dialect keys) = parseValue dialect keys := by
  funext key value
  cases value with
  | obj members =>
    rw [parseValueWith, parseValue, parseMembers_eq_mapM]
    rfl
  | arr items =>
    rw [parseValueWith, parseValue, parseItems_eq_mapM]
    rfl
  | _ => rfl

theorem mapM_congr_of_mem {α β : Type} {f g : α → Except Error β} {values : List α}
    (h : ∀ value ∈ values, f value = g value) : values.mapM f = values.mapM g := by
  induction values with
  | nil => rfl
  | cons value rest ih =>
    obtain ⟨hvalue, hrest⟩ := List.forall_mem_cons.mp h
    rw [List.mapM_cons, List.mapM_cons, hvalue, ih hrest]

/-- Below as many open calls as there are arrays and objects around each other in a value, and one
more, nothing is called, whatever it may be. -/
theorem parseValueWith_iterate {levels : Nat} {value : Json} (h : value.nesting < levels)
    (inner : Option String → Json → Except Error Node) (key : Option String) :
    (parseValueWith dialect keys)^[levels] inner key value = parseValue dialect keys key value := by
  induction levels generalizing key value with
  | zero => cases h
  | succ levels ih =>
    rw [Function.iterate_succ_apply', ← parseValueWith_parseValue]
    cases value with
    | obj members =>
      have hlevels : Json.nestingOfMembers members < levels := Nat.lt_of_succ_lt_succ h
      have hnested := Json.nestingOfMembers_le_iff.mp (Nat.le_refl (Json.nestingOfMembers members))
      have hsame : ∀ member ∈ members,
          parseMemberWith keys ((parseValueWith dialect keys)^[levels] inner) member =
            parseMemberWith keys (parseValue dialect keys) member := by
        intro member hmember
        rw [parseMemberWith, parseMemberWith,
          ih (Nat.lt_of_le_of_lt (hnested member hmember) hlevels)]
      rw [parseValueWith, parseValueWith, mapM_congr_of_mem hsame]
    | arr items =>
      have hlevels : Json.nestingOfItems items < levels := Nat.lt_of_succ_lt_succ h
      have hnested := Json.nestingOfItems_le_iff.mp (Nat.le_refl (Json.nestingOfItems items))
      have hsame : ∀ item ∈ items, (parseValueWith dialect keys)^[levels] inner key item =
          parseValue dialect keys key item :=
        fun item hitem => ih (Nat.lt_of_le_of_lt (hnested item hitem) hlevels) key
      rw [parseValueWith, parseValueWith, mapM_congr_of_mem hsame]
    | _ => rfl

end

/-! ### How deep documents can be -/

def chain : Nat → Json
  | 0 => .null
  | levels + 1 => .obj [("a", chain levels)]

def chainText : Nat → List Char
  | 0 => ['n', 'u', 'l', 'l']
  | levels + 1 => '\x7b' :: '"' :: 'a' :: '"' :: ':' :: (chainText levels ++ ['\x7d'])

theorem readValue_chainText {levels room : Nat} (h : levels ≤ room) (rest : List Char) :
    Json.readValue room (chainText levels ++ rest) = .ok (chain levels, rest) := by
  induction levels generalizing room rest with
  | zero => cases room <;> rfl
  | succ levels ih =>
    obtain ⟨room, rfl⟩ := Nat.exists_eq_add_one_of_ne_zero (Nat.ne_zero_of_lt h)
    have hvalue := ih (Nat.le_of_succ_le_succ h) ('\x7d' :: rest)
    have hmember : Json.readMember room [] "a" (':' :: (chainText levels ++ '\x7d' :: rest)) =
        .ok ([("a", chain levels)], '\x7d' :: rest) := by
      change (Json.readValue room _ >>= _) = _
      rw [hvalue]
      rfl
    have hmembers : Json.readObject (Json.readMember room) []
        ('"' :: 'a' :: '"' :: ':' :: (chainText levels ++ '\x7d' :: rest)) =
        .ok ([("a", chain levels)], rest) := by
      rw [Json.readObject, Json.readMembers]
      change (Json.readMember room _ _ _ >>= _) = _
      rw [hmember]
      rfl
    have htext : chainText (levels + 1) ++ rest =
        '\x7b' :: '"' :: 'a' :: '"' :: ':' :: (chainText levels ++ '\x7d' :: rest) := by
      simp [chainText]
    rw [htext]
    change (Json.readObject (Json.readMember room) [] _ >>= _) = _
    rw [hmembers]
    rfl

theorem depth_treeOf_chain (levels : Nat) (key : Option String) :
    (treeOf [] key (chain levels)).depth = levels + 1 := by
  induction levels generalizing key with
  | zero => rfl
  | succ levels ih =>
    rw [chain, treeOf, conditionsOf, conditionsOf, Node.depth]
    simp only [Node.depthOfConditions, List.contains_nil, Bool.false_eq_true, if_false, ih]
    omega

theorem hasAlternatives_treeOf_chain (levels : Nat) (key : Option String) :
    (treeOf [] key (chain levels)).hasAlternatives = false := by
  induction levels generalizing key with
  | zero => rfl
  | succ levels ih =>
    rw [chain, treeOf, conditionsOf, conditionsOf, Node.hasAlternatives]
    simp [Node.conditionsHaveAlternatives, ih]

theorem trim_chainText (levels : Nat) :
    Text.trim (String.ofList (chainText (levels + 1))) = String.ofList (chainText (levels + 1)) := by
  simp [Text.trim, Text.trimBy, chainText, Text.isBlank]

/-- The filter of nested objects is as deep as they are, and one node more for what is inside. -/
theorem exists_filter_of_depth (kind : Kind) {levels : Nat} (hpos : levels ≠ 0)
    (h : levels ≤ Json.maxNesting) :
    ∃ text parser node, Parser.create kind.dialect text = .ok parser ∧
      (parser.filter []).1 = .ok node ∧ node.depth = levels + 1 := by
  obtain ⟨smaller, rfl⟩ := Nat.exists_eq_add_one_of_ne_zero hpos
  let text := String.ofList (chainText (smaller + 1))
  have htrim : Text.trim text = text := trim_chainText smaller
  have hvalue : Json.parse text = .ok (chain (smaller + 1)) := by
    have hread : Json.readValue Json.maxNesting text.toList = .ok (chain (smaller + 1), []) := by
      rw [String.toList_ofList]
      simpa using readValue_chainText h []
    exact Json.decode_of_reader hread rfl
  have hdocument : parseDocument kind.dialect [] text =
      .ok (treeOf [] none (chain (smaller + 1))) := by
    rw [parseDocument_eq_accept _ (htrim ▸ Json.isTrimmed_trim text) hvalue rfl,
      hasAlternatives_treeOf_chain, Dialect.accept_false]
    cases kind <;> rfl
  refine ⟨text, .made kind text, _, Parser.create_kind kind text, ?_, depth_treeOf_chain _ none⟩
  have hne : text.isEmpty = false := by simp [text, chainText]
  rw [Parser.filter_made, htrim, hne, if_neg Bool.false_ne_true, hdocument]

/-! ### The filters of parsers at work -/

structure Parser.Shallow (kind : Kind) (parser : Parser) : Prop where
  dialect : parser.dialect = kind.dialect
  cached : ∀ node, parser.cached = some node → node.depth ≤ 128

namespace Parser

variable {kind : Kind} {parser : Parser}

theorem shallow_made (kind : Kind) (text : String) : (made kind text).Shallow kind where
  dialect := rfl
  cached node h := by
    simp only [made, Option.ite_none_right_eq_some, Option.some.injEq] at h
    obtain ⟨-, rfl⟩ := h
    decide

theorem Shallow.depth_le (h : parser.Shallow kind) {keys : Blacklist} {node : Node}
    (hnode : (parser.filter keys).1 = .ok node) : node.depth ≤ 128 := by
  cases hcached : parser.cached with
  | some tree =>
    rw [filter_of_cached hcached] at hnode
    exact h.cached node (hcached.trans (congrArg some (Except.ok.inj hnode)))
  | none =>
    rw [filter_of_not_cached hcached, h.dialect] at hnode
    exact depth_le_of_parseDocument hnode

theorem Shallow.filter (h : parser.Shallow kind) (keys : Blacklist) :
    (parser.filter keys).2.Shallow kind := by
  rcases parser.filter_cases keys with ⟨node, hfilter⟩ | ⟨error, hfilter⟩
  · have hnode : (parser.filter keys).1 = .ok node := by rw [hfilter]
    rw [hfilter]
    refine ⟨h.dialect, fun other hother => ?_⟩
    obtain rfl := Option.some.inj hother
    exact h.depth_le hnode
  · rwa [hfilter]

end Parser

/-- Filters are bounded, and so is the recursion that makes them. Whatever happens to the parser of
a text and to the blacklists around it, when it is asked for its filter, or to parse its document
anew, the tree that it yields has at most 128 nodes on a path from its root. The value of a document
is parsed in the same way whatever `parseValue` would do from the 129th open call of it on, so it
never comes to that. No smaller bound would do, since there is a text whose filter has 128 nodes on a
path. -/
theorem filter_bounded (kind : Kind) :
    (∀ (bench : Bench) (text : String) (handle : Option Nat) (actions : List Bench.Action)
        (query : Query) (node : Node),
      query = .filter ∨ query = .parseDocument →
        (((bench.apply (.build kind text handle)).run actions).ask bench.workers.length query).1 =
          .node (.ok node) → node.depth ≤ 128) ∧
    (∀ (document : String) (value : Json), Json.parse document = .ok value →
      ∀ (keys : Blacklist) (inner : Option String → Json → Except Error Node)
        (key : Option String),
        (parseValueWith kind.dialect keys)^[128] inner key value =
          parseValue kind.dialect keys key value) ∧
    ∃ text parser node, Parser.create kind.dialect text = .ok parser ∧
      (parser.filter []).1 = .ok node ∧ node.depth = 128 := by
  refine ⟨?nodes, ?calls, exists_filter_of_depth kind (by decide) (Nat.le_refl Json.maxNesting)⟩
  case nodes =>
    intro bench text handle actions query node hquery hreply
    obtain ⟨worker, hworker, -, hshallow⟩ := Bench.exists_worker_run_of_kept
      (P := Parser.Shallow kind) (fun keys h => h.filter keys)
      (Bench.workers_build bench kind text handle) (Parser.prepared_made kind text)
      (Parser.shallow_made kind text) actions
    rcases hquery with rfl | rfl
    · rw [Bench.ask_filter hworker, Reply.node.injEq] at hreply
      exact hshallow.depth_le hreply
    · simp only [Bench.ask, hworker, Option.join_some, Reply.node.injEq, hshallow.dialect] at hreply
      exact depth_le_of_parseDocument hreply
  case calls =>
    intro document value hvalue keys inner key
    obtain ⟨rest, hread, -⟩ := Json.exists_of_decode_eq_ok hvalue
    exact parseValueWith_iterate (Nat.lt_succ_of_le (Json.nesting_le_of_readValue hread)) inner key

end Filter

end PathCall
