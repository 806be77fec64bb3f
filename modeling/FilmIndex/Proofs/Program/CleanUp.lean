import FilmIndex.Proofs.Program.Course
import FilmIndex.Proofs.Session.Interruption
import FilmIndex.Proofs.Settings.Checked

/-!
What a run leaves behind when it breaks off, whichever calls are planned to fail. The calls
up to the exception are a beginning of those that are made when none fails. After it a
client that is open is closed, and the connection is closed in any case.
-/

namespace FilmIndex
open FilmIndex.Action

namespace Call

def opensClient : Call → Bool
  | client .. => true
  | _ => false

def closesClient : Call → Bool
  | closeClient => true
  | _ => false

/-- How many of some calls close a client. -/
def clientsClosed : List Call → Nat
  | [] => 0
  | c :: cs => (if c.closesClient then 1 else 0) + clientsClosed cs

end Call

/-- How many clients some calls make, which come after those before. -/
def Plan.clientsMade (plan : Plan) (past : List Call) : List Call → Nat
  | [] => 0
  | c :: cs =>
    (if c.opensClient && (plan (past ++ [c])).isNone then 1 else 0) +
      Plan.clientsMade plan (past ++ [c]) cs

namespace Call

theorem clientsClosed_append (cs cs' : List Call) :
    clientsClosed (cs ++ cs') = clientsClosed cs + clientsClosed cs' := by
  induction cs with
  | nil => exact (Nat.zero_add _).symm
  | cons c cs ih => rw [List.cons_append, clientsClosed, ih, clientsClosed, Nat.add_assoc]

theorem aftermath_eq (c : Call) : c.aftermath = [] ∨ c.aftermath = [.closeClient] := by
  cases c with
  | stats => exact .inr rfl
  | _ => exact .inl rfl

theorem clientsClosed_aftermath (c : Call) : clientsClosed c.aftermath = c.aftermath.length := by
  rcases c.aftermath_eq with h | h <;> rw [h] <;> rfl

theorem inner_cases {c : Call} (h : c.isOuter = false) :
    c.opensClient = false ∧ c.closesClient = false ∧ c.aftermath = [] := by
  cases c with
  | connect | disconnect | client | stats | closeClient => cases h
  | _ => exact ⟨rfl, rfl, rfl⟩

namespace Orderly

variable {plan : Plan} {past : List Call}

/-- Every client that is made is closed. -/
theorem clientsMade_eq {cs : List Call} (h : Orderly cs) (allowed : plan.Allows past cs) :
    plan.clientsMade past cs = clientsClosed cs := by
  induction h generalizing past with
  | nil => rfl
  | inner hc _ ih =>
      obtain ⟨opens, closes, -⟩ := inner_cases hc
      rw [Plan.clientsMade, clientsClosed, ih allowed.2, opens, closes]
      rfl
  | client _ ih =>
      obtain ⟨made, -, -, allowed⟩ := allowed
      simp [Plan.clientsMade, clientsClosed, opensClient, closesClient, made, ← ih allowed]

/-- At a call that fails a client is open just if that call leaves one to be closed. -/
theorem clientsMade_broken {done rest : List Call} {c : Call} (h : Orderly (done ++ c :: rest))
    (allowed : plan.Allows past done) (refused : plan (past ++ done ++ [c]) ≠ none) :
    plan.clientsMade past (done ++ [c]) = clientsClosed (done ++ [c]) + c.aftermath.length := by
  generalize hcs : done ++ c :: rest = cs at h
  induction h generalizing past done with
  | nil => exact absurd hcs (by simp)
  | inner hd _ ih =>
      obtain ⟨opens, closes, aftermath⟩ := inner_cases hd
      cases done with
      | nil =>
          obtain ⟨rfl, -⟩ := List.cons.inj hcs
          simp [Plan.clientsMade, clientsClosed, opens, closes, aftermath]
      | cons e done =>
          obtain ⟨rfl, tail⟩ := List.cons.inj hcs
          have later := ih allowed.2 (by simpa using refused) tail
          simp [Plan.clientsMade, clientsClosed, opens, closes, later]
  | @client uri token _ _ _ ih =>
      match done with
      | [] =>
          obtain ⟨rfl, -⟩ := List.cons.inj hcs
          obtain ⟨message, refused⟩ := Option.ne_none_iff_exists'.1 refused
          rw [List.append_nil] at refused
          simp [Plan.clientsMade, clientsClosed, closesClient, aftermath, refused]
      | [a] =>
          obtain ⟨rfl, tail⟩ := List.cons.inj hcs
          obtain ⟨rfl, -⟩ := List.cons.inj tail
          simp [Plan.clientsMade, clientsClosed, opensClient, closesClient, aftermath, allowed.1]
      | [a, b] =>
          obtain ⟨rfl, tail⟩ := List.cons.inj hcs
          obtain ⟨rfl, tail'⟩ := List.cons.inj tail
          obtain ⟨rfl, -⟩ := List.cons.inj tail'
          simp [Plan.clientsMade, clientsClosed, opensClient, closesClient, aftermath, allowed.1]
      | a :: b :: d :: done =>
          obtain ⟨rfl, tail⟩ := List.cons.inj hcs
          obtain ⟨rfl, tail'⟩ := List.cons.inj tail
          obtain ⟨rfl, tail''⟩ := List.cons.inj tail'
          obtain ⟨made, -, -, allowed⟩ := allowed
          have later := ih allowed (by simpa using refused) tail''
          simp only [List.append_assoc, List.cons_append, List.nil_append] at later
          simp [Plan.clientsMade, clientsClosed, opensClient, closesClient, made, later,
            Nat.add_assoc]

/-- The connection is neither opened nor closed. -/
theorem not_mem_disconnect {cs : List Call} (h : Orderly cs) (name : String) :
    .disconnect name ∉ cs := by
  induction h with
  | nil => exact List.not_mem_nil
  | inner hc _ ih =>
      intro hmem
      rcases List.mem_cons.1 hmem with rfl | hmem
      · cases hc
      · exact ih hmem
  | client _ ih => simp [ih]

end Orderly
end Call

namespace Run
open Call

variable (s : Settings) (films : Catalog) (around : Surroundings) (before : Session)

def connectCall : Call := (Service.ofSettings s).connectCall

def disconnectCall : Call := .disconnect s.connectionAlias

/-- Where the work on the open connection stops, of which `done` are the calls. -/
inductive Stops (done closing : List Call) : Prop
  /-- At the first call that is planned to fail. -/
  | refused {past : List Call} {c : Call} {message : String} (last : done = past ++ [c])
      (first : before.plan.Allows (before.calls ++ [connectCall s]) past)
      (fails : before.plan (before.calls ++ [connectCall s] ++ done) ≠ none)
      (raised : (run s around before).1 = .error (.server (.refused message)))
  /-- Where it stops when no call fails: at its end, or where it stops on its own. -/
  | byItself (allowed : before.plan.Allows (before.calls ++ [connectCall s]) done)
      (nothing : closing = [])
      (calls : (run s around before).2.calls = (run s around before.unplanned).2.calls)
      (cause : ∀ e, (run s around before.unplanned).1 = .error e →
        StopsAt s films before.server.extraStats around done e)
      (result : before.plan (run s around before).2.calls = none →
        (run s around before).1 = (run s around before.unplanned).1)
      (raised : before.plan (run s around before).2.calls ≠ none →
        ∃ message, (run s around before).1 = .error (.server (.refused message)))

/-- What a run does that has connected: its work, with the calls `done`, the clean-up of
a client, and the end of the connection. -/
structure CleansUp (done closing : List Call) : Prop where
  calls : (run s around before).2.calls =
    before.calls ++ [connectCall s] ++ done ++ closing ++ [disconnectCall s]
  begins : before.calls ++ [connectCall s] ++ done <+: (run s around before.unplanned).2.calls
  stops : Stops s films around before done closing
  closing_eq : closing =
    if before.plan.clientsMade (before.calls ++ [connectCall s]) done = clientsClosed done then []
    else [.closeClient]
  clients : before.plan.clientsMade (before.calls ++ [connectCall s]) done =
    clientsClosed (done ++ closing)
  once : ∀ name, .disconnect name ∉ done ++ closing
  disconnected : before.plan (run s around before).2.calls = none →
    s.connectionAlias ∉ (run s around before).2.server.connected

variable {s films around before}

theorem StopsAt.of_append {extra : Fields} {past made : List Call} {e : Failure}
    (h : StopsAt s films extra around (past ++ [connectCall s] ++ made) e) :
    StopsAt s films extra around made e := by
  -- The last call is not the one that connects.
  have last (c : Call) (hc : c ≠ connectCall s)
      (h : (past ++ [connectCall s] ++ made).getLast? = some c) : made.getLast? = some c := by
    rw [List.getLast?_append, List.getLast?_concat] at h
    cases hmade : made.getLast? with
    | none =>
        rw [hmade] at h
        exact absurd (Option.some.inj h).symm hc
    | some c' =>
        rw [hmade] at h
        exact h
  cases h with
  | statistics untold h => exact .statistics untold (last _ nofun h)
  | request cause h => exact .request cause (last _ nofun h)

/-- A run whose films are read and whose connection opens is its work and then the closing
of the connection. -/
theorem run_connected (before : Session)
    (read : Catalog.read around.files s.dimension s.csvPath = .ok films)
    (port : Number.Writable s.milvusPort)
    (connects : before.plan (before.calls ++ [connectCall s]) = none) :
    run s around before =
      (connectedRun (Service.ofSettings s) films around).followedBy
        (Service.ofSettings s).close ((Service.ofSettings s).opened (started s films before)) := by
  rw [run_read before read]
  exact Service.connected_allowed (t := started s films before) port connects _

/-- A run whose connection is refused. -/
theorem run_unconnected {message : String} (before : Session)
    (read : Catalog.read around.files s.dimension s.csvPath = .ok films)
    (port : Number.Writable s.milvusPort)
    (refused : before.plan (before.calls ++ [connectCall s]) = some message) :
    run s around before = (.error (.server (.refused message)),
      { started s films before with calls := before.calls ++ [connectCall s] }) := by
  rw [run_read before read]
  exact Service.connected_refused (t := started s films before) port refused _

/-- How a run begins. It gets to work on an open connection, or it is over before. -/
inductive Begins (s : Settings) (around : Surroundings) (before : Session) : Prop
  | unread {e : CatalogError} (read : Catalog.read around.files s.dimension s.csvPath = .error e)
      (out : run s around before = (.error (.catalog e), before))
  | portUnwritable {films : Catalog}
      (read : Catalog.read around.files s.dimension s.csvPath = .ok films)
      (port : ¬ Number.Writable s.milvusPort)
      (out : run s around before = (.error (.number .tooManyDigits), started s films before))
  | unconnected {films : Catalog} {message : String}
      (read : Catalog.read around.files s.dimension s.csvPath = .ok films)
      (port : Number.Writable s.milvusPort)
      (refused : before.plan (before.calls ++ [connectCall s]) = some message)
      (out : run s around before = (.error (.server (.refused message)),
        { started s films before with calls := before.calls ++ [connectCall s] }))
  | connected {films : Catalog}
      (read : Catalog.read around.files s.dimension s.csvPath = .ok films)
      (port : Number.Writable s.milvusPort)
      (connects : before.plan (before.calls ++ [connectCall s]) = none)

theorem begins (s : Settings) (around : Surroundings) (before : Session) :
    Begins s around before := by
  cases read : Catalog.read around.files s.dimension s.csvPath with
  | error e => exact .unread read (run_unread read)
  | ok films =>
      by_cases port : Number.Writable s.milvusPort
      · cases connects : before.plan (before.calls ++ [connectCall s]) with
        | some message =>
            exact .unconnected read port connects (run_unconnected before read port connects)
        | none => exact .connected read port connects
      · exact .portUnwritable read port (run_portUnwritable before read port)

section
variable {body : Action (List (List Hit))} {t v : Session} {r : Except Failure (List (List Hit))}
  (hrun : run s around before = body.followedBy (Service.ofSettings s).close t)
  (hbody : body t = (r, v))
include hrun hbody

theorem calls_run : (run s around before).2.calls = v.calls ++ [disconnectCall s] := by
  rw [hrun]
  exact Service.calls_followedBy_close hbody

theorem run_closed (plan : v.plan = before.plan)
    (allowed : before.plan (run s around before).2.calls = none) :
    run s around before = (r, (Service.ofSettings s).closed v) := by
  rw [calls_run hrun hbody, ← plan] at allowed
  rw [hrun]
  exact Service.followedBy_close_allowed hbody allowed

theorem run_notClosed (plan : v.plan = before.plan)
    (refused : before.plan (run s around before).2.calls ≠ none) :
    ∃ message, (run s around before).1 = .error (.server (.refused message)) := by
  obtain ⟨message, hm⟩ := Option.ne_none_iff_exists'.1 refused
  rw [calls_run hrun hbody, ← plan] at hm
  refine ⟨message, ?_⟩
  rw [hrun, Service.followedBy_close_refused (s := Service.ofSettings s) hbody hm]

end

section
variable {body : Action (List (List Hit))} {t u v : Session} {r : Except Failure (List (List Hit))}
  {made : List Call}
  (hrun : run s around before = body.followedBy (Service.ofSettings s).close t)
  (clean : run s around before.unplanned = (r, (Service.ofSettings s).closed u))
  (cleanCalls : u.calls = before.calls ++ [connectCall s] ++ made) (orderly : Orderly made)
include hrun clean cleanCalls orderly

theorem cleansUp_through (allowed : before.plan.Allows (before.calls ++ [connectCall s]) made)
    (hbody : body t = (r, v)) (calls : v.calls = u.calls) (plan : v.plan = before.plan)
    (cause : ∀ e, r = .error e → StopsAt s films before.server.extraStats around made e) :
    CleansUp s films around before made [] := by
  have runCalls := calls_run hrun hbody
  have undisturbed : (run s around before.unplanned).2.calls = u.calls ++ [disconnectCall s] := by
    rw [clean]
    rfl
  have clients := orderly.clientsMade_eq allowed
  refine {
    calls := by rw [runCalls, calls, cleanCalls, List.append_nil]
    begins := by rw [undisturbed, cleanCalls]; exact List.prefix_append ..
    stops := ?_
    closing_eq := (if_pos clients).symm
    clients := by rw [clients, List.append_nil]
    once := by rw [List.append_nil]; exact orderly.not_mem_disconnect
    disconnected := fun h => by
      rw [run_closed hrun hbody plan h]
      exact Service.not_mem_connected_closed }
  refine .byItself allowed rfl (by rw [runCalls, calls, undisturbed]) ?_ (fun h => ?_)
    (run_notClosed hrun hbody plan)
  · rw [clean]
    exact cause
  · rw [run_closed hrun hbody plan h, clean]

theorem cleansUp_broken {done rest : List Call} {c : Call} {message : String}
    (split : made = done ++ c :: rest)
    (allowed : before.plan.Allows (before.calls ++ [connectCall s]) done)
    (refused : before.plan (before.calls ++ [connectCall s] ++ done ++ [c]) ≠ none)
    (hbody : body t = (.error (.server (.refused message)), v))
    (calls : v.calls = before.calls ++ [connectCall s] ++ done ++ c :: c.aftermath)
    (plan : v.plan = before.plan) :
    CleansUp s films around before (done ++ [c]) c.aftermath := by
  have runCalls := calls_run hrun hbody
  have undisturbed : (run s around before.unplanned).2.calls = u.calls ++ [disconnectCall s] := by
    rw [clean]
    rfl
  have clients := (split ▸ orderly).clientsMade_broken allowed refused
  have raised : ∃ message, (run s around before).1 = .error (.server (.refused message)) := by
    rw [hrun]
    exact Service.followedBy_close_raises hbody
  obtain ⟨message, raised⟩ := raised
  refine {
    calls := by rw [runCalls, calls]; simp
    begins := by rw [undisturbed, cleanCalls, split]; simp
    stops := .refused rfl allowed (by rwa [← List.append_assoc]) raised
    closing_eq := ?_
    clients := ?_
    once := ?_
    disconnected := fun h => by
      rw [run_closed hrun hbody plan h]
      exact Service.not_mem_connected_closed }
  · rcases c.aftermath_eq with h | h
    · rw [h] at clients ⊢
      exact (if_pos clients).symm
    · rw [h, List.length_singleton] at clients
      rw [h, if_neg (by omega)]
  · rw [clients, clientsClosed_append (done ++ [c]), clientsClosed_aftermath]
  · intro name hmem
    rcases List.mem_append.1 hmem with hmem | hmem
    · have hmade : .disconnect name ∈ made := by
        rw [split, List.append_cons]
        exact List.mem_append_left _ hmem
      exact orderly.not_mem_disconnect name hmade
    · rcases c.aftermath_eq with h | h <;> simp [h] at hmem

end

theorem cleansUp (read : Catalog.read around.files s.dimension s.csvPath = .ok films)
    (port : Number.Writable s.milvusPort)
    (connects : before.plan (before.calls ++ [connectCall s]) = none) :
    ∃ done closing, CleansUp s films around before done closing := by
  have hrun := run_connected before read port connects
  have hclean := run_connected before.unplanned read port rfl
  let t := (Service.ofSettings s).opened (started s films before)
  have hopen : (Service.ofSettings s).Open t.unplanned := ⟨rfl, Service.mem_connected_opened⟩
  obtain ⟨made, ⟨calls, plan, follows⟩, orderly⟩ := (Service.ofSettings s).breaks_of_madeOf
    (madeOf_connectedRun (Service.ofSettings s) films around) t
  match hbody : connectedRun (Service.ofSettings s) films around t.unplanned with
  | (r, u) =>
      rw [hbody] at calls plan follows
      have clean := hclean.trans (Service.followedBy_close_allowed hbody (congrFun plan _))
      cases follows with
      | through allowed same =>
          refine ⟨made, [], cleansUp_through hrun clean calls orderly allowed same rfl rfl ?_⟩
          rintro e rfl
          have stops := connectedRun_failed hopen hbody
          rw [calls] at stops
          exact (Service.extraStats_opened (s := Service.ofSettings s) ▸ stops).of_append
      | broken split allowed refused failed calls' kept =>
          have cleans : CleansUp s films around before _ _ :=
            cleansUp_broken hrun clean calls orderly split allowed refused failed calls' kept
          exact ⟨_, _, cleans⟩

/-- A run makes no call before its films are read and its port is written, none after a
connection that is refused, and after an exception on its connection only those that clean
up. -/
theorem run_cleansUp (s : Settings) (around : Surroundings) (before : Session) :
    (∀ e, Catalog.read around.files s.dimension s.csvPath = .error e →
      run s around before = (.error (.catalog e), before)) ∧
    ∀ films, Catalog.read around.files s.dimension s.csvPath = .ok films →
      (¬ Number.Writable s.milvusPort → (run s around before).1 = .error (.number .tooManyDigits) ∧
        (run s around before).2.calls = before.calls) ∧
      (Number.Writable s.milvusPort →
        (∀ message, before.plan (before.calls ++ [connectCall s]) = some message →
          (run s around before).1 = .error (.server (.refused message)) ∧
            (run s around before).2.calls = before.calls ++ [connectCall s]) ∧
        (before.plan (before.calls ++ [connectCall s]) = none →
          ∃ done closing, CleansUp s films around before done closing)) := by
  refine ⟨fun e => run_unread, fun films read => ⟨fun port => ?_, fun port =>
    ⟨fun message refused => ?_, cleansUp read port⟩⟩⟩
  · rw [run_portUnwritable before read port]
    exact ⟨rfl, rfl⟩
  · rw [run_unconnected before read port refused]
    exact ⟨rfl, rfl⟩

/-- The films of an empty file, while the fetching of statistics is planned to fail. -/
theorem run_cleansUp_statsRefused :
    let around : Surroundings := { files := fun _ => .ok ByteArray.empty }
    let before : Session := Session.failNext "get_collection_stats" "no statistics" {}
    Catalog.read around.files Settings.defaults.dimension Settings.defaults.csvPath = .ok [] ∧
      Number.Writable Settings.defaults.milvusPort ∧
      before.plan (before.calls ++ [connectCall Settings.defaults]) = none ∧
      ∃ done closing, CleansUp Settings.defaults [] around before done closing :=
  ⟨rfl, by decide, rfl, (((run_cleansUp Settings.defaults _ _).2 [] rfl).2 (by decide)).2 rfl⟩

end Run
end FilmIndex
