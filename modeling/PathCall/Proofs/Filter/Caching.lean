import PathCall.Filter.Bench

/-!
Parsers remember their first success. Actions are all that may happen to the parsers of a bench
and to the blacklists that they share. One lemma says when an action leaves a parser as it is, and
all runs are followed with it. The main theorem is about a parser from its making on, through
every run: what `filter` once returned it returns ever after, and until then it returns what the
document means under the keys of the moment.
-/

namespace PathCall.Filter

inductive Kind where
  | tree
  | flat

def Kind.dialect : Kind → Dialect
  | .tree => .tree
  | .flat => .flat

/-- Whether a query changes neither parsers nor lists. -/
def Query.isReading : Query → Bool
  | .filter | .addKey _ | .removeKey _ => false
  | _ => true

namespace Parser

variable {parser : Parser} {keys : Blacklist} {node : Node} {error : Error}

def Prepared (parser : Parser) : Prop :=
  parser.document.isEmpty = true → parser.cached.isSome = true

theorem Prepared.prepare (h : parser.Prepared) : parser.prepare = .ok parser := by
  unfold Parser.prepare
  split
  · rename_i hundecided
    simp only [Bool.and_eq_true, Option.isNone_iff_eq_none] at hundecided
    simpa [hundecided.2] using h hundecided.1
  · rfl

theorem filter_of_cached (h : parser.cached = some node) :
    parser.filter keys = (.ok node, parser) := by
  simp [filter, h]

theorem filter_of_not_cached (h : parser.cached = none) :
    (parser.filter keys).1 = parseDocument parser.dialect keys parser.document := by
  simp only [filter, h]
  cases parseDocument parser.dialect keys parser.document <;> rfl

/-- A parser that yields a tree remembers it, and one that fails stays as it is. -/
theorem filter_cases (parser : Parser) (keys : Blacklist) :
    (∃ node, parser.filter keys = (.ok node, { parser with cached := some node })) ∨
      (∃ error, parser.filter keys = (.error error, parser)) := by
  cases hcached : parser.cached with
  | some node => exact .inl ⟨node, by rw [filter_of_cached hcached, ← hcached]⟩
  | none =>
    simp only [filter, hcached]
    cases parseDocument parser.dialect keys parser.document with
    | ok node => exact .inl ⟨node, rfl⟩
    | error error => exact .inr ⟨error, rfl⟩

theorem cached_filter (h : (parser.filter keys).1 = .ok node) :
    (parser.filter keys).2.cached = some node := by
  obtain ⟨tree, hfilter⟩ | ⟨error, hfilter⟩ := parser.filter_cases keys
  · rw [hfilter] at h ⊢
    rw [Except.ok.inj h]
  · rw [hfilter] at h
    cases h

theorem filter_of_error (h : (parser.filter keys).1 = .error error) :
    (parser.filter keys).2 = parser := by
  obtain ⟨tree, hfilter⟩ | ⟨_, hfilter⟩ := parser.filter_cases keys
  · rw [hfilter] at h
    cases h
  · rw [hfilter]

theorem Prepared.filter (h : parser.Prepared) : (parser.filter keys).2.Prepared := by
  obtain ⟨tree, hfilter⟩ | ⟨error, hfilter⟩ := parser.filter_cases keys
  · rw [hfilter]
    exact fun _ => rfl
  · rwa [hfilter]

def made (kind : Kind) (text : String) : Parser where
  dialect := kind.dialect
  document := Text.trim text
  cached := if (Text.trim text).isEmpty then some .empty else none

theorem create_kind (kind : Kind) (text : String) :
    create kind.dialect text = .ok (made kind text) := by
  have hkind : emptyFilter kind.dialect = .ok .empty := by cases kind <;> rfl
  cases hempty : (Text.trim text).isEmpty <;>
    simp only [create, ofText, Parser.prepare, made, hkind, hempty] <;> rfl

theorem filter_made (kind : Kind) (text : String) (keys : Blacklist) :
    ((made kind text).filter keys).1 =
      if (Text.trim text).isEmpty then .ok .empty
      else parseDocument kind.dialect keys (Text.trim text) := by
  cases hempty : (Text.trim text).isEmpty with
  | true =>
    have hcached : (made kind text).cached = some .empty := by simp [made, hempty]
    rw [filter_of_cached hcached, if_pos rfl]
  | false =>
    rw [filter_of_not_cached (by simp [made, hempty]), if_neg Bool.false_ne_true]
    rfl

theorem prepared_made (kind : Kind) (text : String) : (made kind text).Prepared := by
  intro hempty
  have hcached : (made kind text).cached = some .empty := if_pos hempty
  rw [hcached]
  rfl

end Parser

namespace Bench

/-- What can happen to a bench. Lists are made, shared and changed, parsers are made from texts
and asked. -/
inductive Action where
  | onShelf (action : Blacklist.Action)
  | build (kind : Kind) (text : String) (handle : Option Nat)
  | ask (place : Nat) (query : Query)

def apply (bench : Bench) : Action → Bench
  | .onShelf action => { bench with shelf := bench.shelf.apply action }
  | .build kind text handle => bench.place handle (Parser.create kind.dialect text)
  | .ask place query => (bench.ask place query).2

def run (bench : Bench) (actions : List Action) : Bench := actions.foldl apply bench

def filterReply (bench : Bench) (place : Nat) : Reply := (bench.ask place .filter).1

def OnlyFails (bench : Bench) (place : Nat) (actions : List Action) : Prop :=
  ∀ earlier later, actions = earlier ++ .ask place .filter :: later →
    ∃ error, (bench.run earlier).filterReply place = .node (.error error)

variable {bench : Bench} {place : Nat} {worker : Worker}

theorem ask_filter (hworker : bench.workers[place]? = some (some worker)) :
    bench.ask place .filter =
      let (result, parser) := worker.parser.filter (bench.shelf.get worker.handle)
      (.node result,
        { bench with workers := bench.workers.set place (some { worker with parser }) }) := by
  simp [ask, hworker]

theorem filterReply_eq (hworker : bench.workers[place]? = some (some worker)) :
    bench.filterReply place =
      .node (worker.parser.filter (bench.shelf.get worker.handle)).1 := by
  rw [filterReply, ask_filter hworker]

theorem workers_ask_filter (hworker : bench.workers[place]? = some (some worker)) :
    (bench.ask place .filter).2.workers[place]? =
      some (some { worker with
        parser := (worker.parser.filter (bench.shelf.get worker.handle)).2 }) := by
  rw [ask_filter hworker]
  exact List.getElem?_set_self (List.getElem?_eq_some_iff.mp hworker).1

theorem workers_build (bench : Bench) (kind : Kind) (text : String) (handle : Option Nat) :
    (bench.apply (.build kind text handle)).workers[bench.workers.length]? =
      some (some ⟨.made kind text, handle.getD bench.shelf.handles.length⟩) := by
  rw [apply, Parser.create_kind]
  cases handle <;> exact List.getElem?_concat_length

/-- Who is asked does not change the other workers. -/
theorem workers_ask_of_ne {asked : Nat} (h : asked ≠ place) (query : Query) :
    (bench.ask asked query).2.workers[place]? = bench.workers[place]? := by
  rw [ask.eq_def]
  split
  · rfl
  · cases query <;> simp only [List.getElem?_set_ne h]
    split <;> simp only [List.getElem?_set_ne h]

/-- Only the request for the filter changes a prepared parser. -/
theorem workers_ask_of_ne_filter (hworker : bench.workers[place]? = some (some worker))
    (hprepared : worker.parser.Prepared) {query : Query} (h : query ≠ .filter) :
    (bench.ask place query).2.workers[place]? = some (some worker) := by
  have hplace : place < bench.workers.length := (List.getElem?_eq_some_iff.mp hworker).1
  cases query with
  | filter => exact absurd rfl h
  | prepare =>
    simp only [ask, hworker, Option.join_some, hprepared.prepare]
    exact List.getElem?_set_self hplace
  | _ => simp [ask, hworker]

theorem shelf_ask_of_isReading (asked : Nat) {query : Query} (h : query.isReading = true) :
    (bench.ask asked query).2.shelf = bench.shelf := by
  rw [ask.eq_def]
  split
  · rfl
  · cases query with
    | filter => cases h
    | addKey key => cases h
    | removeKey key => cases h
    | prepare =>
      dsimp only
      split <;> rfl
    | _ => rfl

/-- An action leaves a prepared parser as it is, unless it makes it remember a tree. -/
theorem workers_apply (hworker : bench.workers[place]? = some (some worker))
    (hprepared : worker.parser.Prepared) (action : Action)
    (h : action = .ask place .filter →
      (worker.parser.filter (bench.shelf.get worker.handle)).2 = worker.parser) :
    (bench.apply action).workers[place]? = some (some worker) := by
  have hplace : place < bench.workers.length := (List.getElem?_eq_some_iff.mp hworker).1
  cases action with
  | onShelf action => exact hworker
  | build kind text handle =>
    rw [apply, Parser.create_kind]
    cases handle <;> exact (List.getElem?_append_left hplace).trans hworker
  | ask asked query =>
    by_cases hasked : asked = place
    · subst hasked
      by_cases hquery : query = .filter
      · subst hquery
        simp [apply, ask_filter hworker, h rfl, hplace]
      · exact workers_ask_of_ne_filter hworker hprepared hquery
    · exact (workers_ask_of_ne hasked query).trans hworker

theorem run_append (bench : Bench) (first second : List Action) :
    bench.run (first ++ second) = (bench.run first).run second :=
  List.foldl_append

/-- A parser that has a tree keeps it through every run. -/
theorem workers_run_of_cached (hworker : bench.workers[place]? = some (some worker)) {node : Node}
    (hcached : worker.parser.cached = some node) (actions : List Action) :
    (bench.run actions).workers[place]? = some (some worker) := by
  have hprepared : worker.parser.Prepared := fun _ => by simp [hcached]
  induction actions generalizing bench with
  | nil => exact hworker
  | cons action actions ih =>
    refine ih (workers_apply hworker hprepared action fun _ => ?_)
    rw [Parser.filter_of_cached hcached]

/-- A parser whose filter only fails stays as it is. -/
theorem workers_run_of_onlyFails (hworker : bench.workers[place]? = some (some worker))
    (hprepared : worker.parser.Prepared) {actions : List Action}
    (hfails : bench.OnlyFails place actions) :
    (bench.run actions).workers[place]? = some (some worker) := by
  induction actions generalizing bench with
  | nil => exact hworker
  | cons action actions ih =>
    have hnext := workers_apply hworker hprepared action fun hask => by
      obtain ⟨error, herror⟩ := hfails [] actions (by rw [hask]; rfl)
      rw [run, List.foldl_nil, filterReply_eq hworker, Reply.node.injEq] at herror
      exact Parser.filter_of_error herror
    refine ih hnext fun earlier later hsplit => ?_
    exact hfails (action :: earlier) later (by rw [hsplit]; rfl)

/-- There is a prepared parser at a place for good, and what being asked for the filter keeps of it
is kept for good. -/
theorem exists_worker_run_of_kept {P : Parser → Prop}
    (hkept : ∀ {parser : Parser} (keys : Blacklist), P parser → P (parser.filter keys).2)
    (hworker : bench.workers[place]? = some (some worker)) (hprepared : worker.parser.Prepared)
    (hparser : P worker.parser) (actions : List Action) :
    ∃ after, (bench.run actions).workers[place]? = some (some after) ∧
      after.parser.Prepared ∧ P after.parser := by
  induction actions generalizing bench worker with
  | nil => exact ⟨worker, hworker, hprepared, hparser⟩
  | cons action actions ih =>
    by_cases hask : action = .ask place .filter
    · subst hask
      exact ih (workers_ask_filter hworker) hprepared.filter (hkept _ hparser)
    · exact ih (workers_apply hworker hprepared action fun h => absurd h hask) hprepared hparser

theorem exists_worker_run (hworker : bench.workers[place]? = some (some worker))
    (hprepared : worker.parser.Prepared) (actions : List Action) :
    ∃ after, (bench.run actions).workers[place]? = some (some after) ∧
      after.parser.Prepared := by
  obtain ⟨after, hafter, hready, -⟩ := exists_worker_run_of_kept (P := fun _ => True)
    (fun _ h => h) hworker hprepared trivial actions
  exact ⟨after, hafter, hready⟩

/-- Parsers remember their first success, and nothing else. From the making of a parser on, however
many other parsers there are and whatever happens to all of them and to their blacklists: what its
filter once was it is ever after. While asking for it has only failed, it is the empty filter for
an empty document, and otherwise what parsing the document yields under the keys that are on the
parser's list at that moment. Nothing that is asked of any parser, but for its filter, has an
influence on it. -/
theorem filter_remembers_first_success (bench : Bench) (kind : Kind) (text : String)
    (handle : Option Nat) :
    let place := bench.workers.length
    let list := handle.getD bench.shelf.handles.length
    let made := bench.apply (.build kind text handle)
    let document := Text.trim text
    (∀ earlier later node,
      (made.run earlier).filterReply place = .node (.ok node) →
        (made.run (earlier ++ .ask place .filter :: later)).filterReply place =
          .node (.ok node)) ∧
    (∀ actions, made.OnlyFails place actions →
      (made.run actions).filterReply place =
        .node (if document.isEmpty then .ok .empty
          else parseDocument kind.dialect ((made.run actions).shelf.get list) document)) ∧
    (∀ actions asked query, query.isReading = true →
      ((made.run actions).ask asked query).2.filterReply place =
        (made.run actions).filterReply place) := by
  intro place list made document
  have hmade : made.workers[place]? = some (some ⟨.made kind text, list⟩) :=
    workers_build bench kind text handle
  have hprepared := Parser.prepared_made kind text
  refine ⟨?remembers, ?fails, ?reads⟩
  case remembers =>
    intro earlier later node hnode
    obtain ⟨worker, hworker, -⟩ := exists_worker_run hmade hprepared earlier
    rw [filterReply_eq hworker, Reply.node.injEq] at hnode
    have hcached := Parser.cached_filter hnode
    have hlater := workers_run_of_cached (workers_ask_filter hworker) hcached later
    rw [run_append]
    exact (filterReply_eq hlater).trans (by rw [Parser.filter_of_cached hcached])
  case fails =>
    intro actions hfails
    rw [filterReply_eq (workers_run_of_onlyFails hmade hprepared hfails), Parser.filter_made]
  case reads =>
    intro actions asked query hreading
    obtain ⟨worker, hworker, hprepared⟩ := exists_worker_run hmade hprepared actions
    have hquery : query ≠ .filter := by
      rintro rfl
      cases hreading
    have hafter : ((made.run actions).ask asked query).2.workers[place]? = some (some worker) :=
      workers_apply hworker hprepared (.ask asked query) fun h => absurd (Action.ask.inj h).2 hquery
    rw [filterReply_eq hworker, filterReply_eq hafter, shelf_ask_of_isReading asked hreading]

/-- A parser that refuses an array, yields a tree while its key is blacklisted, and keeps it. -/
example :
    let made := (Bench.mk .empty []).apply (.build .flat "\x7b\"a\": [1]\x7d" none)
    let listed := made.run [.ask 0 .filter, .ask 0 (.addKey "a")]
    let unlisted := listed.run [.ask 0 .filter, .onShelf (.remove 0 "a")]
    (made.filterReply 0 matches .node (.error _)) ∧
      (listed.filterReply 0 matches .node (.ok (.all [("a", none)]))) ∧
      (unlisted.filterReply 0 matches .node (.ok (.all [("a", none)]))) := by
  decide +kernel

end Bench

end PathCall.Filter
