import FilmIndex.Proofs.Session.Blind
import FilmIndex.Proofs.Session.Serving
import FilmIndex.Proofs.Settings.Checked
import Mathlib.Logic.Function.Basic

/-!
A service that holds on to the handle on its collection, next to one that gets the collection by
its name for every operation. Several services work on one server, and each of them may drop the
collection of another or close its connection. Both services then come to the same: a handle on a
collection that is gone fails at its first call, with the failure of getting the collection by its
name. Only the calls differ: those that get the collection, and which of those two is recorded.
-/

namespace FilmIndex
open FilmIndex.Action

/-- Whether the call gets a collection by its name. -/
def Call.fetches : Call → Bool
  | collection _ none => true
  | _ => false

/-- The calls other than those that get a collection by its name. -/
def Call.unfetched (calls : List Call) : List Call := calls.filter fun c => !c.fetches

theorem Call.unfetched_append (calls calls' : List Call) :
    unfetched (calls ++ calls') = unfetched calls ++ unfetched calls' := List.filter_append ..

/-- Whether an operation works on the collection through a handle. -/
def Operation.handles : Operation → Bool
  | connect | close | listCollections | hasCollection | recreateCollection | dropCollection => false
  | _ => true

namespace Service

variable (s : Service)

/-- An operation that gets at the collection in a given way. -/
def accessing (access : Action Unit) : (op : Operation) → Action op.Result
  | .insert films => do
      access
      let columns := films.columns
      let rows := Row.ofColumns columns.ids columns.releaseYears columns.embeddings
      s.call (.insert s.collection rows) (Server.insert s.collection rows)
      Action.log (.inserted columns.size)
      return columns.ids
  | .flush => do
      access
      s.call (.flush s.collection) (Server.flush s.collection)
  | .countEntities => do
      access
      s.call (.countEntities s.collection) (Server.countEntities s.collection)
  | .collectionStats => do
      let stats ← s.fetchStats
      access
      let indexes ← s.call (.indexes s.collection) (Server.listIndexes s.collection)
      return Keyed.put "indexes" (.list (indexes.map IndexEntry.toValue)) stats
  | .createIndex field indexType metric params => do
      let full := indexParams indexType metric params
      access
      if !(← s.keepsIndex field full) then
        s.call (.createIndex s.collection field.name full (indexName field))
          (Server.createIndex s.collection field.name full (indexName field))
        Action.log (.indexCreated indexType metric field.name params)
  | .dropIndex field => do
      access
      if ← s.hasIndex (indexName field) then
        s.dropHeldIndex (indexName field)
        Action.log (.indexDropped field.name)
  | .load => do
      access
      s.call (.load s.collection) (Server.load s.collection)
  | .release => do
      access
      s.call (.release s.collection) (Server.release s.collection)
  | .search query names? => do
      let request ← Action.ofExcept Failure.query query.compile
      Action.log (.searching request)
      access
      s.call (.search s.collection request names?)
        (Server.search s.collection request (names?.getD []))
  | .connect => s.connect
  | .close => s.close
  | .listCollections => s.listCollections
  | .hasCollection => s.hasCollection
  | .recreateCollection => s.recreateCollection
  | .dropCollection => s.dropCollection

/-- An operation of a service that never relies on a handle. Whether there is one is not asked. -/
def afresh (op : Operation) : Action op.Result := s.accessing s.fetch op

theorem accessing_hold (op : Operation) : s.accessing s.hold op = s.perform op := by
  cases op <;> rfl

theorem accessing_apart {op : Operation} (h : op.handles = false) (access : Action Unit) :
    s.accessing access op = s.perform op := by
  cases op with
  | connect | close | listCollections | hasCollection | recreateCollection | dropCollection => rfl
  | _ => cases h

/-- Why nothing can be done with the collection. -/
inductive Unreachable (s : Service) (server : Server) : ServerError → Prop
  | closed (h : s.connection ∉ server.connected) :
      Unreachable s server (.notConnected s.connection)
  | absent (connected : s.connection ∈ server.connected)
      (h : Keyed.get? s.collection server.collections = none) :
      Unreachable s server (.noCollection s.collection)

variable {s} {t u : Session} {α β : Type}

theorem reachable_or (server : Server) :
    (s.connection ∈ server.connected ∧
      ∃ c, Keyed.get? s.collection server.collections = some c) ∨ ∃ e, s.Unreachable server e := by
  by_cases connected : s.connection ∈ server.connected
  · cases h : Keyed.get? s.collection server.collections with
    | none => exact .inr ⟨_, .absent connected h⟩
    | some c => exact .inl ⟨connected, c, rfl⟩
  · exact .inr ⟨_, .closed connected⟩

/-- When nothing can be done with the collection, the action makes the call, fails for that
reason and does nothing else. -/
def Balks (s : Service) (c : Call) (a : Action α) : Prop :=
  ∀ t e, t.plan = Plan.none → s.Unreachable t.server e →
    a t = (.error (.server e), { t with calls := t.calls ++ [c] })

theorem call_closed {c : Call} {effect : Server.Effect α} (unplanned : t.plan = Plan.none)
    (closed : s.connection ∉ t.server.connected) :
    s.call c effect t =
      (.error (.server (.notConnected s.connection)), { t with calls := t.calls ++ [c] }) := by
  have filtered : (some s.connection).filter (fun a => !t.server.connected.contains a) =
      some s.connection := by simpa [Option.filter] using closed
  simp only [call, Action.call, unplanned, Plan.none, filtered]

theorem call_failed {c : Call} {effect : Server.Effect α} (unplanned : t.plan = Plan.none)
    (connected : s.connection ∈ t.server.connected) {e : ServerError}
    (fails : effect t.server = .error e) :
    s.call c effect t = (.error (.server e), { t with calls := t.calls ++ [c] }) := by
  have filtered : (some s.connection).filter (fun a => !t.server.connected.contains a) = none := by
    simpa [Option.filter] using connected
  simp only [call, Action.call, unplanned, Plan.none, filtered, fails]

theorem balks_call {c : Call} {effect : Server.Effect α}
    (needs : ∀ {server}, Keyed.get? s.collection server.collections = none →
      effect server = .error (.noCollection s.collection)) : s.Balks c (s.call c effect) := by
  intro t e unplanned unreachable
  cases unreachable with
  | closed h => exact call_closed unplanned h
  | absent connected h => exact call_failed unplanned connected (needs h)

theorem Balks.bind {c : Call} {a : Action α} (h : s.Balks c a) (f : α → Action β) :
    s.Balks c (a >>= f) := fun t e unplanned unreachable =>
  bind_error (h t e unplanned unreachable) f

theorem balks_fetch : s.Balks (.collection s.collection none) s.fetch :=
  (balks_call (Server.read_absent · _)).bind _

/-- The same done with the collection, once through a handle that may have been there already and
once through one that is got by name. The first call through the handle comes right after it is
got, and nothing before that changes the server. -/
inductive Reaches (s : Service) : {α : Type} → Action α → Action α → Prop
  | here {α : Type} {a : Action α} {c : Call} (balks : s.Balks c a) (blind : Blind a) :
      Reaches s (do s.hold; a) (do s.fetch; a)
  | later {α β : Type} {a : Action α} {f f' : α → Action β} (blind : Blind a)
      (still : ∀ t, (a t).2.server = t.server) (rest : ∀ x, Reaches s (f x) (f' x)) :
      Reaches s (a >>= f) (a >>= f')

theorem reaches_afresh {op : Operation} (h : op.handles = true) :
    s.Reaches (s.perform op) (s.afresh op) := by
  rw [← accessing_hold, afresh]
  cases op with
  | connect | close | listCollections | hasCollection | recreateCollection | dropCollection =>
      cases h
  | insert films =>
      refine .here ((balks_call (Server.change_absent · _)).bind _) (blind_call.bind fun _ => ?_)
      exact blind_of_silent (fun _ => rfl) fun _ _ => rfl
  | flush | countEntities => exact .here (balks_call (Server.read_absent · _)) blind_call
  | load | release => exact .here (balks_call (Server.change_absent · _)) blind_call
  | collectionStats =>
      refine .later blind_fetchStats (fun t => (keeps_fetchStats t rfl).symm) fun _ => ?_
      refine .here ((balks_call (Server.read_absent · _)).bind _) (blind_call.bind fun _ => ?_)
      exact blind_of_silent (fun _ => rfl) fun _ _ => rfl
  | createIndex field indexType metric params =>
      refine .here (Balks.bind ((balks_call (Server.read_absent · _)).bind _) _) ?_
      refine (blind_of_tends (s.tends_keepsIndex ..)).bind fun _ => ?_
      refine blind_of_tends (s := s) (.ite (.bind ?_ fun _ => .log _) (.pure ()))
      exact s.tends_call (.createIndex field _) rfl
  | dropIndex field =>
      refine .here ((balks_call (Server.read_absent · _)).bind _) (blind_call.bind fun _ => ?_)
      exact blind_of_tends (.ite (.bind (s.tends_dropHeldIndex _) fun _ => .log _) (.pure ()))
  | search query names? =>
      refine .later (blind_of_tends (s := s) (.ofExcept _ _)) ?_ fun _ =>
        .later (blind_of_silent (fun _ => rfl) fun _ _ => rfl) (fun _ => rfl) fun _ =>
          .here (balks_call (Server.read_absent · _)) blind_call
      intro t
      cases query.compile <;> rfl

/-! ## One operation -/

/-- How the calls that a service makes in an operation compare with those that it makes when it
gets the collection by its name. They are the same but for getting it. If nothing can be done with
the collection, the last call can be one through the handle in place of one to get it. -/
inductive Tally (s : Service) (server : Server) (result : Except Failure α) :
    List Call → List Call → Prop
  | same {made made' : List Call} (h : Call.unfetched made = Call.unfetched made') :
      Tally s server result made made'
  | used {e : ServerError} {c : Call} (before : List Call) (unreachable : s.Unreachable server e)
      (raised : result = .error (.server e)) :
      Tally s server result (before ++ [c]) (before ++ [.collection s.collection none])

theorem Tally.prepend {server : Server} {result : Except Failure α} {made made' : List Call}
    (h : s.Tally server result made made') (calls : List Call) :
    s.Tally server result (calls ++ made) (calls ++ made') := by
  cases h with
  | same h => exact .same (by rw [Call.unfetched_append, h, Call.unfetched_append])
  | used before unreachable raised =>
      rw [← List.append_assoc, ← List.append_assoc]
      exact .used _ unreachable raised

/-- Two outcomes of an operation that are the same but for the calls that were made. -/
structure Agrees (s : Service) (t : Session) (out out' : Except Failure α × Session) : Prop where
  result : out'.1 = out.1
  twin : out.2.Twin out'.2
  calls : ∃ made made', out.2.calls = t.calls ++ made ∧ out'.2.calls = t.calls ++ made' ∧
    s.Tally t.server out.1 made made'

theorem Agrees.refl {a : Action α} (blind : Blind a) (unplanned : t.plan = Plan.none) :
    s.Agrees t (a t) (a t) := by
  obtain ⟨made, -, calls, -⟩ := blind t unplanned
  exact ⟨rfl, rfl, made, made, calls, calls, .same rfl⟩

theorem blind_fetch : Blind s.fetch :=
  blind_call.bind fun _ => blind_of_silent (fun _ => rfl) fun _ _ => rfl

theorem Reaches.agrees {held afresh : Action α} (h : s.Reaches held afresh)
    (unplanned : t.plan = Plan.none) : s.Agrees t (held t) (afresh t) := by
  -- up to the access both do the same, so that the induction starts anew from one session
  induction h generalizing t with
  | @here _ a c balks blind =>
      cases holds : t.holds with
      | false =>
          have same : (do s.hold; a) t = (do s.fetch; a) t := by
            rw [bind_apply, bind_apply, hold_unheld holds]
          rw [same]
          exact .refl (blind_fetch.bind fun _ => blind) unplanned
      | true =>
          rw [bind_ok (hold_held holds)]
          rcases s.reachable_or t.server with ⟨connected, c₀, present⟩ | ⟨e, unreachable⟩
          · obtain ⟨made, -, calls, same⟩ := blind t unplanned
            have again := same (t.calls ++ [.collection s.collection none])
            rw [bind_ok (Open.fetch ⟨unplanned, connected⟩ present), ← holds, again]
            exact ⟨rfl, rfl, made, _, calls, List.append_assoc .., .same rfl⟩
          -- the handle is of no use, and using it fails as getting the collection does
          · rw [bind_error (balks_fetch t e unplanned unreachable), balks t e unplanned unreachable]
            exact ⟨rfl, rfl, [c], _, rfl, rfl, .used [] unreachable rfl⟩
  | @later _ _ a f f' blind still rest ih =>
      obtain ⟨first, plan, calls, -⟩ := blind t unplanned
      have server := still t
      match ha : a t with
      | (.error e, u) =>
          rw [ha] at calls
          rw [bind_error ha, bind_error ha]
          exact ⟨rfl, rfl, first, first, calls, calls, .same rfl⟩
      | (.ok x, u) =>
          rw [ha] at plan server calls
          have calls : u.calls = t.calls ++ first := calls
          obtain ⟨result, twin, made, made', h, h', tally⟩ := ih x plan
          rw [calls, List.append_assoc] at h h'
          rw [server] at tally
          rw [bind_ok ha, bind_ok ha]
          exact ⟨result, twin, first ++ made, first ++ made', h, h', tally.prepend first⟩

/-- Nothing is done with a collection that is not there, nor over a connection that is not open. -/
theorem Reaches.fails {held afresh : Action α} (h : s.Reaches held afresh)
    (unplanned : t.plan = Plan.none) {e : ServerError} (unreachable : s.Unreachable t.server e) :
    ∃ failure, (afresh t).1 = .error failure := by
  induction h generalizing t with
  | here balks blind =>
      exact ⟨_, congrArg Prod.fst (bind_error (balks_fetch t e unplanned unreachable) _)⟩
  | @later _ _ a f f' blind still rest ih =>
      obtain ⟨made, plan, -⟩ := blind t unplanned
      have server := still t
      match ha : a t with
      | (.error failure, u) => exact ⟨failure, congrArg Prod.fst (bind_error ha f')⟩
      | (.ok x, u) =>
          rw [ha] at plan server
          rw [bind_ok ha]
          exact ih x plan (server ▸ unreachable)

theorem Reaches.blind {held afresh : Action α} (h : s.Reaches held afresh) : Blind afresh := by
  induction h with
  | here balks blind => exact blind_fetch.bind fun _ => blind
  | later blind still rest ih => exact blind.bind ih

theorem blind_afresh (op : Operation) : Blind (s.afresh op) := by
  cases h : op.handles with
  | true => exact (reaches_afresh h).blind
  | false =>
      rw [afresh, s.accessing_apart h]
      exact blind_perform op

theorem agrees_afresh (op : Operation) (unplanned : t.plan = Plan.none) :
    s.Agrees t (s.perform op t) (s.afresh op t) := by
  cases h : op.handles with
  | true => exact (reaches_afresh h).agrees unplanned
  | false =>
      rw [afresh, s.accessing_apart h]
      exact .refl (blind_perform op) unplanned

/-- An operation that returns went through an open connection, and to a collection that is there
if it works on one. -/
theorem perform_reachable {op : Operation} (unplanned : t.plan = Plan.none) {x : op.Result}
    (returned : (s.perform op t).1 = .ok x) :
    (op.connects = true → s.connection ∈ t.server.connected) ∧
      (op.handles = true → ∃ c, Keyed.get? s.collection t.server.collections = some c) := by
  cases handles : op.handles with
  | true =>
      rcases s.reachable_or t.server with ⟨connected, present⟩ | ⟨e, unreachable⟩
      · exact ⟨fun _ => connected, fun _ => present⟩
      · obtain ⟨failure, failed⟩ := (reaches_afresh handles).fails unplanned unreachable
        rw [(agrees_afresh op unplanned).result, returned] at failed
        cases failed
  | false =>
      refine ⟨fun connects => ?_, nofun⟩
      by_contra closed
      have failed : ∃ failure, (s.perform op t).1 = .error failure := by
        cases op with
        | connect | close => cases connects
        | listCollections | hasCollection =>
            exact ⟨_, congrArg Prod.fst (call_closed unplanned closed)⟩
        | recreateCollection | dropCollection =>
            exact ⟨_, congrArg Prod.fst (bind_error (call_closed unplanned closed) _)⟩
        | _ => cases handles
      obtain ⟨failure, failed⟩ := failed
      rw [failed] at returned
      cases returned

end Service

/-! ## Many services -/

/-- Some services at work on one server: the session that they share, and which of them holds a
handle on its collection. -/
structure World (ι : Type) where
  session : Session := {}
  holds : ι → Bool := fun _ => false

namespace World

variable {ι : Type}

/-- The session as one of the services sees it. -/
def seenBy (w : World ι) (i : ι) : Session := { w.session with holds := w.holds i }

/-- How each of the services does an operation. -/
abbrev Manner (ι : Type) := (i : ι) → (op : Operation) → Action op.Result

section
variable [DecidableEq ι]

/-- What is left of the world when one of the services has done an operation. -/
def turn (manner : Manner ι) (w : World ι) (move : ι × Operation) : World ι :=
  let t := (manner move.1 move.2 (w.seenBy move.1)).2
  ⟨t, Function.update w.holds move.1 t.holds⟩

def after (manner : Manner ι) (w : World ι) (moves : List (ι × Operation)) : World ι :=
  moves.foldl (turn manner) w

end

/-- Every service holds on to its handle. -/
def holding (services : ι → Service) : Manner ι := fun i => (services i).perform

/-- Some services hold on to their handles and others get the collection by its name each time. -/
def mixed (services : ι → Service) (keeps : ι → Bool) : Manner ι := fun i op =>
  if keeps i then (services i).perform op else (services i).afresh op

/-- The worlds are the same apart from the calls that were made. -/
structure Alike (w w' : World ι) : Prop where
  unplanned : w.session.plan = Plan.none
  twin : w.session.Twin w'.session
  holds : w'.holds = w.holds

variable {w w' : World ι}

theorem Alike.seenBy (h : w.Alike w') (i : ι) : (w.seenBy i).Twin (w'.seenBy i) := by
  have twin : w'.session = { w.session with calls := w'.session.calls } := h.twin
  rw [World.seenBy, World.seenBy, h.holds, twin]
  rfl

/-- What comes of an operation of one of the services in the one world and in the other. -/
structure Matches (w w' : World ι) (s : Service) (keeps : Bool) {α : Type}
    (out out' : Except Failure α × Session) : Prop where
  result : out'.1 = out.1
  twin : out.2.Twin out'.2
  unplanned : out.2.plan = Plan.none
  calls : ∃ made made', out.2.calls = w.session.calls ++ made ∧
    out'.2.calls = w'.session.calls ++ made' ∧ (keeps = true → made' = made) ∧
      s.Tally w.session.server out.1 made made'

theorem Alike.matches (h : w.Alike w') (services : ι → Service) (keeps : ι → Bool) (i : ι)
    (op : Operation) :
    Matches w w' (services i) (keeps i) ((services i).perform op (w.seenBy i))
      (mixed services keeps i op (w'.seenBy i)) := by
  have unplanned : (w.seenBy i).plan = Plan.none := h.unplanned
  -- both are run from the session of the first world: what was recorded before is not looked at
  have seen : w'.seenBy i = { w.seenBy i with calls := w'.session.calls } := h.seenBy i
  obtain ⟨made, plan, calls, same⟩ := Service.blind_perform (s := services i) op _ unplanned
  rw [mixed, seen]
  split
  · rw [same w'.session.calls]
    exact ⟨rfl, rfl, plan, made, made, calls, rfl, fun _ => rfl, .same rfl⟩
  · rename_i forgets
    obtain ⟨made', -, calls', same'⟩ := Service.blind_afresh (s := services i) op _ unplanned
    obtain ⟨result, twin, made, made'', recorded, recorded', tally⟩ :=
      Service.agrees_afresh (s := services i) op unplanned
    obtain rfl : made'' = made' := List.append_cancel_left (recorded'.symm.trans calls')
    rw [same' w'.session.calls]
    refine ⟨result, twin.recorded _, plan, made, made'', recorded, rfl, ?_, tally⟩
    exact fun keeps => absurd keeps forgets

variable [DecidableEq ι]

theorem Alike.turn (h : w.Alike w') (services : ι → Service) (keeps : ι → Bool)
    (move : ι × Operation) :
    (w.turn (holding services) move).Alike (w'.turn (mixed services keeps) move) := by
  have matched := h.matches services keeps move.1 move.2
  refine ⟨matched.unplanned, matched.twin, ?_⟩
  rw [World.turn, World.turn, h.holds, matched.twin.holds]
  rfl

theorem Alike.after (h : w.Alike w') (services : ι → Service) (keeps : ι → Bool)
    (moves : List (ι × Operation)) :
    (w.after (holding services) moves).Alike (w'.after (mixed services keeps) moves) := by
  induction moves generalizing w w' with
  | nil => exact h
  | cons move moves ih => exact ih (h.turn services keeps move)

/-- After whatever the services have done, an operation of one of them comes to the same whether
they hold on to their handles or not. -/
theorem handle_unobservable (services : ι → Service) (keeps : ι → Bool) (start : World ι)
    (unplanned : start.session.plan = Plan.none) (moves : List (ι × Operation)) (i : ι)
    (op : Operation) :
    let s := services i
    let w := start.after (holding services) moves
    let w' := start.after (mixed services keeps) moves
    let out := s.perform op (w.seenBy i)
    let out' := mixed services keeps i op (w'.seenBy i)
    (out'.1 = out.1 ∧ out'.2.server = out.2.server ∧ out'.2.events = out.2.events ∧
      out'.2.printed = out.2.printed) ∧
    (∃ made made', out.2.calls = w.session.calls ++ made ∧
      out'.2.calls = w'.session.calls ++ made' ∧ (keeps i = true → made' = made) ∧
        s.Tally w.session.server out.1 made made') ∧
    ∀ x, out.1 = .ok x → (op.connects = true → s.connection ∈ w.session.server.connected) ∧
      (op.handles = true → ∃ c, Keyed.get? s.collection w.session.server.collections = some c) := by
  intro s w w' out out'
  have alike : w.Alike w' := Alike.after ⟨unplanned, rfl, rfl⟩ services keeps moves
  have matched : Matches w w' s (keeps i) out out' := alike.matches services keeps i op
  refine ⟨⟨matched.result, matched.twin.server, matched.twin.events, matched.twin.printed⟩,
    matched.calls, fun x returned => ?_⟩
  exact Service.perform_reachable (t := w.seenBy i) alike.unplanned returned

/-- One service drops the collection of another. -/
theorem handle_unobservable_dropped :
    let s := Service.ofSettings Settings.defaults
    let services : Bool → Service := fun _ => s
    let moves : List (Bool × Operation) :=
      [(true, .connect), (true, .recreateCollection), (false, .dropCollection)]
    let w := World.after (holding services) {} moves
    let w' := World.after (mixed services not) {} moves
    let out := s.perform .flush (w.seenBy true)
    let out' := mixed services not true .flush (w'.seenBy true)
    ({} : World Bool).session.plan = Plan.none ∧ w.holds true = true ∧
      out.1 = .error (.server (.noCollection "demo_index")) ∧ out'.1 = out.1 ∧
      out'.2.server = out.2.server := by
  have unobservable := handle_unobservable (fun _ => Service.ofSettings Settings.defaults) not {}
    rfl [(true, .connect), (true, .recreateCollection), (false, .dropCollection)] true .flush
  exact ⟨rfl, rfl, rfl, unobservable.1.1, unobservable.1.2.1⟩

/-- A handle on a collection that is gone is used for one call, where no call but the one to get
the collection by its name is made without it. -/
theorem flush_recorded_dropped :
    let s := Service.ofSettings Settings.defaults
    let services : Bool → Service := fun _ => s
    let moves : List (Bool × Operation) :=
      [(true, .connect), (true, .recreateCollection), (false, .dropCollection)]
    let w := World.after (holding services) {} moves
    let w' := World.after (mixed services not) {} moves
    Call.unfetched (s.perform .flush (w.seenBy true)).2.calls ≠
      Call.unfetched (mixed services not true .flush (w'.seenBy true)).2.calls := by
  intro s services moves w w' same
  have lengths := congrArg List.length same
  revert lengths
  decide

end World
end FilmIndex
