import FilmIndex.Proofs.Query.Sharing

/-!
Chains of calls that set up a vector query. Calls of different kinds do not meet: each kind
has its own part of the query, where the last call counts, and for parameters the last one
of each key. So a chain is known from its calls of each kind, however these are interleaved.
-/

namespace FilmIndex

namespace VectorQuery

/-- A call that sets up a vector query. -/
inductive Setup where
  | metric (m : String)
  | limit (k : Value)
  | param (key : String) (v : Value)

namespace Setup

def metric? : Setup → Option String
  | metric m => some m
  | _ => none

def limit? : Setup → Option Value
  | limit k => some k
  | _ => none

def param? : Setup → Option (String × Value)
  | param key v => some (key, v)
  | _ => none

/-- Two chains have the same calls of each kind in the same order. -/
structure Interleaved (chain chain' : List Setup) : Prop where
  metrics : chain'.filterMap metric? = chain.filterMap metric?
  limits : chain'.filterMap limit? = chain.filterMap limit?
  params : chain'.filterMap param? = chain.filterMap param?

end Setup

def setUp (q : VectorQuery) : Setup → VectorQuery
  | .metric m => q.metricType m
  | .limit k => q.top k
  | .param key v => q.param key v

def setUpAll (q : VectorQuery) (chain : List Setup) : VectorQuery := chain.foldl setUp q

/-- What a chain of calls makes of a vector query. -/
structure Settled (chain : List Setup) (q q' : VectorQuery) : Prop where
  field : q'.field = q.field
  vectors : q'.vectors = q.vectors
  metric : q'.metric = ((chain.filterMap Setup.metric?).getLast?.map Text.upper).getD q.metric
  limit : q'.limit = (chain.filterMap Setup.limit?).getLast?.getD q.limit
  param : ∀ key, Keyed.get? key q'.params =
    (((chain.filterMap Setup.param?).filter (·.1 == key)).getLast?.map (·.2)).or
      (Keyed.get? key q.params)
  keys : q'.params.map (·.1) = q.params.map (·.1) ++
    (((chain.filterMap Setup.param?).map (·.1)).removeAll (q.params.map (·.1))).eraseDups

theorem setUpAll_eq (q : VectorQuery) (chain : List Setup) :
    q.setUpAll chain = { q with
      metric := ((chain.filterMap Setup.metric?).getLast?.map Text.upper).getD q.metric
      limit := (chain.filterMap Setup.limit?).getLast?.getD q.limit
      params := Keyed.putAll q.params (chain.filterMap Setup.param?) } := by
  induction chain generalizing q with
  | nil => rfl
  | cons c chain ih =>
      have first : q.setUpAll (c :: chain) = (q.setUp c).setUpAll chain := rfl
      rw [first, ih]
      cases c with
      | metric m =>
          have metrics : (Setup.metric m :: chain).filterMap Setup.metric? =
              m :: chain.filterMap Setup.metric? := rfl
          rw [metrics, List.getLast?_cons]
          cases (chain.filterMap Setup.metric?).getLast? <;> rfl
      | limit k =>
          have limits : (Setup.limit k :: chain).filterMap Setup.limit? =
              k :: chain.filterMap Setup.limit? := rfl
          rw [limits, List.getLast?_cons]
          rfl
      | param key v => rfl

theorem settled_setUpAll (q : VectorQuery) (chain : List Setup) :
    Settled chain q (q.setUpAll chain) := by
  rw [setUpAll_eq]
  refine ⟨rfl, rfl, rfl, rfl, ?_, Keyed.keys_putAll ..⟩
  intro key
  rw [Keyed.get?_putAll, List.getLast?_filter]

theorem setUpAll_interleaved (q : VectorQuery) {chain chain' : List Setup}
    (h : Setup.Interleaved chain chain') : q.setUpAll chain' = q.setUpAll chain := by
  rw [setUpAll_eq, setUpAll_eq, h.metrics, h.limits, h.params]

end VectorQuery

namespace Workbench
open VectorQuery

variable {w : Workbench} {on : String} {r : Ref} {part : VectorPart}

/-- A call as a step on a named vector query. -/
def call (on : String) : Setup → Step
  | .metric m => .metricType on m
  | .limit k => .top on k
  | .param key v => .param on key v

def calls (on : String) (chain : List Setup) : List Step := chain.map (call on)

/-- A vector query put in the place of the one that a part stands for. -/
def withQuery (w : Workbench) (r : Ref) (part : VectorPart) (q : VectorQuery) : Workbench :=
  { w with
    parts := w.parts.set r (.vector { part with metric := q.metric, limit := q.limit })
    tables := w.tables.set part.params q.params }

theorem set_part (stands : w.parts[r]? = some (.vector part)) :
    w.parts.set r (.vector part) = w.parts := by
  obtain ⟨place, stands⟩ := List.getElem?_eq_some_iff.1 stands
  rw [← stands, List.set_getElem_self]

theorem set_tableAt {i : Ref} (inside : i < w.tables.length) :
    w.tables.set i (w.tableAt i) = w.tables := by
  rw [tableAt, List.getElem?_eq_getElem inside, Option.getD_some, List.set_getElem_self]

section
variable (stands : w.parts[r]? = some (.vector part)) (inside : part.params < w.tables.length)
include stands inside

theorem withQuery_self : w.withQuery r part (w.query part) = w := by
  simp only [withQuery, query, set_part stands, set_tableAt inside]

theorem partAt?_withQuery {q : VectorQuery} (field : q.field = part.field)
    (vectors : q.vectors = w.vectorsAt part.vectors) :
    (w.withQuery r part q).partAt? r = some (.vector q) := by
  have place := (List.getElem?_eq_some_iff.1 stands).1
  obtain ⟨f, vs, metric, limit, params⟩ := q
  obtain rfl : f = part.field := field
  obtain rfl : vs = w.vectorsAt part.vectors := vectors
  simp [partAt?, withQuery, Part.map, query, vectorsAt, tableAt, place, inside]

theorem step_call (named : w.find on = .ok r) (c : Setup) :
    (w.step (call on c)).2 = w.withQuery r part ((w.query part).setUp c) := by
  cases c with
  | metric m | limit k =>
      simp only [step, call, resolve, onVector, onPart, named, stands, Option.bind_some]
      simp only [apply, withQuery, setUp, metricType, top, query, set_tableAt inside]
  | param key v =>
      simp only [step, call, resolve, onVector, onPart, named, stands, Option.bind_some]
      simp only [apply, withTable, withQuery, setUp, VectorQuery.param, query, set_part stands]

/-- What a chain comes to: the query is put in its place once. -/
theorem after_calls (named : w.find on = .ok r) (chain : List Setup) :
    w.after (calls on chain) = w.withQuery r part ((w.query part).setUpAll chain) := by
  induction chain generalizing w part with
  | nil => exact (withQuery_self stands inside).symm
  | cons c chain ih =>
      let q := (w.query part).setUp c
      let part' : VectorPart := { part with metric := q.metric, limit := q.limit }
      have place := (List.getElem?_eq_some_iff.1 stands).1
      have stands' : (w.withQuery r part q).parts[r]? = some (.vector part') := by
        simp [withQuery, place, part']
      have inside' : part'.params < (w.withQuery r part q).tables.length := by
        simpa [withQuery] using inside
      have shown : (w.withQuery r part q).query part' = q := by
        have held := partAt?_withQuery (q := q) stands inside (by cases c <;> rfl)
          (by cases c <;> rfl)
        rw [partAt?, stands'] at held
        exact Part.vector.inj (Option.some.inj held)
      calc w.after (calls on (c :: chain))
          = (w.step (call on c)).2.after (calls on chain) := rfl
        _ = (w.withQuery r part q).after (calls on chain) := by
            rw [step_call stands inside named]
        _ = (w.withQuery r part q).withQuery r part' (q.setUpAll chain) := by
            rw [ih stands' inside' named, shown]
        _ = w.withQuery r part (q.setUpAll chain) := by
            simp only [withQuery, part', List.set_set]

end

theorem after_append (w : Workbench) (steps more : List Step) :
    w.after (steps ++ more) = (w.after steps).after more := List.foldl_append

/-- At any time of a session: after a chain of calls a vector query has the metric, the limit
and the parameters that were set last, and all else as before. Two chains that differ only in
how their calls are interleaved come to the same: whatever is done then, the same comes of
every compilation. -/
theorem chain_settles (steps : List Step) :
    let w := after {} steps
    ∀ on r q, w.find on = .ok r → w.partAt? r = some (.vector q) →
      (∀ chain, ∃ q', (w.after (calls on chain)).partAt? r = some (.vector q') ∧
        Settled chain q q') ∧
      ∀ chain chain', Setup.Interleaved chain chain' → ∀ later of keepAs?,
        ((w.after (calls on chain' ++ later)).step (.compile of keepAs?)).1 =
          ((w.after (calls on chain ++ later)).step (.compile of keepAs?)).1 := by
  intro w on r q named stands
  have sound : w.Sound := sound_empty.after steps
  obtain ⟨p, held, shown⟩ := Option.map_eq_some_iff.1 stands
  cases p with
  | vector part =>
      obtain rfl := Part.vector.inj shown
      have inside := (sound.queries part (List.mem_of_getElem? held)).1
      refine ⟨fun chain => ?_, fun chain chain' same later of keepAs? => ?_⟩
      · have settled := settled_setUpAll (w.query part) chain
        refine ⟨_, ?_, settled⟩
        rw [after_calls held inside named]
        exact partAt?_withQuery held inside settled.field settled.vectors
      · have alike : w.after (calls on chain') = w.after (calls on chain) := by
          rw [after_calls held inside named, after_calls held inside named,
            setUpAll_interleaved _ same]
        rw [after_append, after_append, alike]
  | filter _ | must _ | should _ | mustNot _ | whole _ | value _ => cases shown

/-- A metric and a parameter that are set twice, below a query that is made before and one
that is made later. -/
theorem chain_settles_twice :
    let q : VectorQuery := { field := ⟨"embedding", 1⟩, vectors := [[.int 1]] }
    let w := after {} [.define "q" (.vector q), .must "m" ["q"]]
    let chain : List Setup := [.metric "ip", .param "nprobe" (.int 8), .limit (.int 3),
      .param "ef" (.int 1), .metric "l2", .param "nprobe" (.int 16)]
    let chain' : List Setup := [.param "nprobe" (.int 8), .param "ef" (.int 1), .metric "ip",
      .param "nprobe" (.int 16), .metric "l2", .limit (.int 3)]
    w.find "q" = .ok 0 ∧ w.partAt? 0 = some (.vector q) ∧ Setup.Interleaved chain chain' ∧
      (∃ q', (w.after (calls "q" chain)).partAt? 0 = some (.vector q') ∧ Settled chain q q') ∧
      ((w.after (calls "q" chain' ++ [.whole "b" "m"])).step (.compile "b" none)).1 =
        ((w.after (calls "q" chain ++ [.whole "b" "m"])).step (.compile "b" none)).1 := by
  intro q w chain chain'
  have same : Setup.Interleaved chain chain' := ⟨rfl, rfl, rfl⟩
  obtain ⟨settled, alike⟩ :=
    chain_settles [.define "q" (.vector q), .must "m" ["q"]] "q" 0 q rfl rfl
  exact ⟨rfl, rfl, same, settled chain, alike chain chain' same [.whole "b" "m"] "b" none⟩

end Workbench
end FilmIndex
