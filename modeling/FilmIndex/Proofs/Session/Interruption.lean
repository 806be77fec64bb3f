import FilmIndex.Proofs.Session.Steps

/-!
What a call that is planned to fail does to an action. Up to that call the action does
just what it does when none fails, and after it only what cleans up: a client that was
made for statistics is closed. So the calls made before are a beginning of those that
are made when none fails.
-/

namespace FilmIndex

def Session.unplanned (s : Session) : Session := { s with plan := Plan.none }

namespace Plan

/-- None of some calls, made one after the other after those before, is planned to fail. -/
def Allows (plan : Plan) (past : List Call) : List Call → Prop
  | [] => True
  | c :: cs => plan (past ++ [c]) = Option.none ∧ Allows plan (past ++ [c]) cs

theorem allows_append (plan : Plan) (past cs cs' : List Call) :
    plan.Allows past (cs ++ cs') ↔ plan.Allows past cs ∧ plan.Allows (past ++ cs) cs' := by
  induction cs generalizing past with
  | nil => simp [Allows]
  | cons c cs ih => simp [Allows, ih, and_assoc]

end Plan

namespace Call

/-- The calls by which a service opens and closes its connection and its clients. -/
def isOuter : Call → Bool
  | connect .. | disconnect .. | client .. | stats .. | closeClient => true
  | _ => false

/-- The calls that are made in any case after a call that fails. -/
def aftermath : Call → List Call
  | stats _ => [closeClient]
  | _ => []

/-- Calls on an open connection, in which a client is made, used once and closed. -/
inductive Orderly : List Call → Prop
  | nil : Orderly []
  | inner {c : Call} {cs : List Call} (h : c.isOuter = false) (rest : Orderly cs) :
      Orderly (c :: cs)
  | client {uri token name : String} {cs : List Call} (rest : Orderly cs) :
      Orderly (.client uri token :: .stats name :: .closeClient :: cs)

theorem Orderly.append {cs cs' : List Call} (h : Orderly cs) (h' : Orderly cs') :
    Orderly (cs ++ cs') := by
  induction h with
  | nil => exact h'
  | inner hc _ ih => exact .inner hc ih
  | client _ ih => exact .client ih

end Call

namespace Action

variable {α β : Type}

/-- The outcome `out` of an action under a plan, where `clean` is its outcome when no call
fails and `made` are the calls it then makes after those before. -/
inductive Follows (plan : Plan) (past made : List Call) (clean out : Except Failure α × Session) :
    Prop
  | through (allowed : plan.Allows past made) (same : out = (clean.1, { clean.2 with plan }))
  | broken {done rest : List Call} {c : Call} {message : String} {t : Session}
      (split : made = done ++ c :: rest) (allowed : plan.Allows past done)
      (refused : plan (past ++ done ++ [c]) ≠ none)
      (failed : out = (.error (.server (.refused message)), t))
      (calls : t.calls = past ++ done ++ c :: c.aftermath) (kept : t.plan = plan)

/-- The calls that an action makes when none fails, and what becomes of it under the plan. -/
structure Traced (a : Action α) (s : Session) (made : List Call) : Prop where
  calls : (a s.unplanned).2.calls = s.calls ++ made
  plan : (a s.unplanned).2.plan = Plan.none
  follows : Follows s.plan s.calls made (a s.unplanned) (a s)

/-- The action breaks off at the first call that is planned to fail. -/
def Breaks (a : Action α) : Prop := ∀ s, ∃ made, Traced a s made ∧ Call.Orderly made

/-- An action that makes no call does not depend on the plan. -/
theorem breaks_of_silent {a : Action α} (calls : ∀ s, (a s).2.calls = s.calls)
    (same : ∀ s plan, a { s with plan } = ((a s).1, { (a s).2 with plan })) : Breaks a := by
  intro s
  refine ⟨[], ⟨?_, ?_, .through trivial (same s.unplanned s.plan)⟩, .nil⟩
  · rw [calls, List.append_nil]
    rfl
  · exact congrArg (fun r => r.2.plan) (same s Plan.none)

theorem Traced.bind_error {a : Action α} {s t : Session} {made : List Call} {e : Failure}
    (h : Traced a s made) (hr : a s.unplanned = (.error e, t)) (f : α → Action β) :
    Traced (a >>= f) s made := by
  obtain ⟨calls, plan, follows⟩ := h
  rw [hr] at calls plan follows
  have hbind := Action.bind_error hr f
  refine ⟨by rw [hbind]; exact calls, by rw [hbind]; exact plan, ?_⟩
  rw [hbind]
  cases follows with
  | through allowed same => exact .through allowed (Action.bind_error same f)
  | broken split allowed refused failed calls kept =>
      exact .broken split allowed refused (Action.bind_error failed f) calls kept

theorem Traced.bind_ok {a : Action α} {s t : Session} {made made' : List Call} {x : α}
    {f : α → Action β} (h : Traced a s made) (hr : a s.unplanned = (.ok x, t))
    (h' : Traced (f x) { t with plan := s.plan } made') : Traced (a >>= f) s (made ++ made') := by
  obtain ⟨calls, plan, follows⟩ := h
  rw [hr] at calls plan follows
  have calls : t.calls = s.calls ++ made := calls
  have hbind := Action.bind_ok hr f
  have hsame : ({ t with plan := s.plan } : Session).unplanned = t := by
    rw [Session.unplanned, ← plan]
  obtain ⟨calls', plan', follows'⟩ := h'
  rw [hsame] at calls' plan' follows'
  refine ⟨?_, by rw [hbind]; exact plan', ?_⟩
  · rw [hbind, calls', ← List.append_assoc, ← calls]
  rw [hbind]
  cases follows with
  | @broken done rest c _ _ split allowed refused failed calls kept =>
      have split' : made ++ made' = done ++ c :: (rest ++ made') := by
        rw [split, List.append_assoc, List.cons_append]
      exact .broken split' allowed refused (Action.bind_error failed f) calls kept
  | through allowed same =>
      have hgo := Action.bind_ok same f
      cases follows' with
      | through allowed' same' =>
          refine .through ((Plan.allows_append ..).2 ⟨allowed, ?_⟩) (hgo.trans same')
          rwa [← calls]
      | @broken done rest c _ _ split allowed' refused failed calls' kept =>
          have split' : made ++ made' = (made ++ done) ++ c :: rest := by
            rw [split, List.append_assoc]
          have past : s.calls ++ (made ++ done) = t.calls ++ done := by
            rw [calls, List.append_assoc]
          rw [← past] at refused calls'
          exact .broken split' ((Plan.allows_append ..).2 ⟨allowed, calls ▸ allowed'⟩) refused
            (hgo.trans failed) calls' kept

theorem Breaks.bind {a : Action α} {f : α → Action β} (ha : Breaks a) (hf : ∀ x, Breaks (f x)) :
    Breaks (a >>= f) := by
  intro s
  obtain ⟨made, h, orderly⟩ := ha s
  match hr : a s.unplanned with
  | (.error e, t) => exact ⟨made, h.bind_error hr f, orderly⟩
  | (.ok x, t) =>
      obtain ⟨made', h', orderly'⟩ := hf x { t with plan := s.plan }
      exact ⟨made ++ made', h.bind_ok hr h', orderly.append orderly'⟩

theorem call_allowed (connection? : Option String) (c : Call) (effect : Server.Effect α)
    (s : Session) (h : s.plan (s.calls ++ [c]) = none) :
    call connection? c effect s =
      ((call connection? c effect s.unplanned).1,
        { (call connection? c effect s.unplanned).2 with plan := s.plan }) := by
  simp only [call, h, Session.unplanned, Plan.none]
  cases connection?.filter fun a => !s.server.connected.contains a with
  | some a => rfl
  | none => cases effect s.server <;> rfl

theorem traced_call (connection? : Option String) {c : Call} (h : c.aftermath = [])
    (effect : Server.Effect α) (s : Session) : Traced (call connection? c effect) s [c] := by
  refine ⟨calls_call .., plan_call .., ?_⟩
  cases hc : s.plan (s.calls ++ [c]) with
  | none => exact .through ⟨hc, trivial⟩ (call_allowed connection? c effect s hc)
  | some message =>
      have split : [c] = [] ++ c :: [] := rfl
      refine .broken split trivial ?_ (call_refused connection? c effect s hc) ?_ rfl
      · simp [hc]
      · rw [h, List.append_nil]

theorem breaks_call (connection? : Option String) {c : Call} (h : c.isOuter = false)
    (effect : Server.Effect α) : Breaks (call connection? c effect) := by
  have aftermath : c.aftermath = [] := by
    cases c with
    | stats => simp [Call.isOuter] at h
    | _ => rfl
  exact fun s => ⟨[c], traced_call connection? aftermath effect s, .inner h .nil⟩

/-- A client is closed whether it gets the statistics or not. -/
theorem traced_stats (name : String) (effect : Server.Effect α) (s : Session) :
    Traced ((call none (.stats name) effect).followedBy (call none .closeClient Server.nothing)) s
      [.stats name, .closeClient] := by
  have fetched (t : Session) : ∃ r u, call none (.stats name) effect t = (r, u) ∧
      u.calls = t.calls ++ [.stats name] ∧ u.plan = t.plan :=
    ⟨_, _, (Prod.eta _).symm, calls_call .., plan_call ..⟩
  obtain ⟨r₀, u₀, h₀, calls₀, plan₀⟩ := fetched s.unplanned
  obtain ⟨r, u, h, calls, plan⟩ := fetched s
  have clean := followedBy_allowed (c := .closeClient) h₀ (by rw [plan₀]; rfl)
  have past : u.calls ++ [.closeClient] = s.calls ++ [Call.stats name, .closeClient] := by
    rw [calls, List.append_assoc]
    rfl
  have past₀ : u₀.calls ++ [.closeClient] = s.calls ++ [Call.stats name, .closeClient] := by
    rw [calls₀, List.append_assoc]
    rfl
  refine ⟨by rw [clean, past₀], by rw [clean, plan₀]; rfl, ?_⟩
  cases hstats : s.plan (s.calls ++ [.stats name]) with
  | some message =>
      have failed : r = .error (.server (.refused message)) := by
        rw [call_refused none _ effect s hstats] at h
        exact (Prod.ext_iff.1 h).1.symm
      have split : [Call.stats name, .closeClient] = [] ++ .stats name :: [.closeClient] := rfl
      have refused : s.plan (s.calls ++ [] ++ [.stats name]) ≠ none := by simp [hstats]
      cases hclose : u.plan (u.calls ++ [.closeClient]) with
      | none =>
          have out := followedBy_allowed h hclose
          rw [failed] at out
          exact .broken split trivial refused out (by simp [calls, Call.aftermath]) plan
      | some message' =>
          have out := followedBy_refused h hclose
          exact .broken split trivial refused out (by simp [calls, Call.aftermath]) plan
  | none =>
      have split : [Call.stats name, .closeClient] = [.stats name] ++ .closeClient :: [] := rfl
      cases hclose : u.plan (u.calls ++ [.closeClient]) with
      | none =>
          have same : (r, u) = (r₀, { u₀ with plan := s.plan }) := by
            rw [← h, call_allowed none _ effect s hstats, h₀]
          have out := followedBy_allowed h hclose
          rw [calls, plan] at hclose
          obtain ⟨rfl, rfl⟩ := Prod.mk.inj same
          rw [clean]
          exact .through ⟨hstats, hclose, trivial⟩ out
      | some message =>
          have out := followedBy_refused h hclose
          refine .broken split ⟨hstats, trivial⟩ ?_ out (by simp [calls, Call.aftermath]) plan
          rw [← calls, ← plan, hclose]
          exact Option.some_ne_none _

end Action

namespace Service
open FilmIndex.Action

variable (s : Service)

theorem breaks_fetchStats : Breaks s.fetchStats := by
  intro start
  have opened := traced_call none
    (c := .client s.settings.milvusUri (s.settings.milvusToken.getD "")) rfl Server.nothing start
  refine ⟨_, opened.bind_ok rfl (traced_stats ..), .client .nil⟩

theorem breaks_step {α : Type} {a : Action α} (h : s.Step α a) : Breaks a := by
  cases h with
  | fetchStats => exact s.breaks_fetchStats
  | call made => cases made <;> exact breaks_call _ rfl _

theorem breaks_of_madeOf {α : Type} {a : Action α} (h : MadeOf s.Step a) : Breaks a := by
  induction h with
  | part h => exact s.breaks_step h
  | bind _ _ ha hf => exact ha.bind hf
  | pure | fail | log | printLine | holding | setHolding =>
      exact breaks_of_silent (fun _ => rfl) (fun _ _ => rfl)

/-- The calls that were made before stay recorded. -/
theorem calls_of_madeOf {α : Type} {a : Action α} (h : MadeOf s.Step a) (t : Session) :
    t.calls <+: (a t).2.calls := by
  obtain ⟨made, ⟨calls, -, follows⟩, -⟩ := s.breaks_of_madeOf h t
  cases follows with
  | through _ same =>
      rw [same]
      exact ⟨made, calls.symm⟩
  | broken _ _ _ failed calls' =>
      rw [failed, calls', List.append_assoc]
      exact List.prefix_append ..

end Service
end FilmIndex
