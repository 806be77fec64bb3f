import FilmIndex.Proofs.Session.Connection
import FilmIndex.Proofs.Session.Operations

/-!
Actions do not look at the calls that were made before, as long as no call is to fail: two sessions
that differ in their records alone are led to two such sessions by the same calls.
-/

namespace FilmIndex

/-- The sessions are the same apart from the calls that were made. -/
def Session.Twin (t u : Session) : Prop := u = { t with calls := u.calls }

theorem Session.Twin.server {t u : Session} (h : t.Twin u) : u.server = t.server := by
  rw [h]

theorem Session.Twin.events {t u : Session} (h : t.Twin u) : u.events = t.events := by
  rw [h]

theorem Session.Twin.printed {t u : Session} (h : t.Twin u) : u.printed = t.printed := by
  rw [h]

theorem Session.Twin.holds {t u : Session} (h : t.Twin u) : u.holds = t.holds := by
  rw [h]

theorem Session.Twin.recorded {t u : Session} (h : t.Twin u) (calls : List Call) :
    t.Twin { u with calls } := by
  rw [h]
  rfl

namespace Action

variable {α β : Type}

/-- What the action does, and which calls it makes, does not depend on the calls made before. -/
def Blind (a : Action α) : Prop :=
  ∀ t, t.plan = Plan.none → ∃ made, (a t).2.plan = Plan.none ∧ (a t).2.calls = t.calls ++ made ∧
    ∀ calls, a { t with calls } = ((a t).1, { (a t).2 with calls := calls ++ made })

theorem blind_of_silent {a : Action α} (plan : ∀ t, (a t).2.plan = t.plan)
    (same : ∀ t calls, a { t with calls } = ((a t).1, { (a t).2 with calls })) : Blind a := by
  intro t unplanned
  refine ⟨[], (plan t).trans unplanned, ?_, fun calls => ?_⟩
  · rw [List.append_nil]
    exact congrArg (fun out => out.2.calls) (same t t.calls)
  · rw [List.append_nil]
    exact same t calls

theorem blind_ofExcept {ε : Type} (failure : ε → Failure) (r : Except ε α) :
    Blind (ofExcept failure r) := by
  cases r <;> exact blind_of_silent (fun _ => rfl) (fun _ _ => rfl)

theorem blind_call {connection? : Option String} {c : Call} {effect : Server.Effect α} :
    Blind (call connection? c effect) := by
  intro t unplanned
  refine ⟨[c], (plan_call ..).trans unplanned, calls_call .., fun calls => ?_⟩
  simp only [call, unplanned, Plan.none]
  cases connection?.filter fun a => !t.server.connected.contains a with
  | some a => rfl
  | none => cases effect t.server <;> rfl

theorem Blind.bind {a : Action α} {f : α → Action β} (ha : Blind a) (hf : ∀ x, Blind (f x)) :
    Blind (a >>= f) := by
  intro t unplanned
  obtain ⟨made, plan, calls, same⟩ := ha t unplanned
  match hr : a t with
  | (.error e, u) =>
      rw [hr] at plan calls same
      rw [bind_error hr]
      exact ⟨made, plan, calls, fun cs => bind_error (same cs) f⟩
  | (.ok x, u) =>
      rw [hr] at plan calls same
      have calls : u.calls = t.calls ++ made := calls
      obtain ⟨made', plan', calls', same'⟩ := hf x u plan
      rw [bind_ok hr]
      refine ⟨made ++ made', plan', ?_, fun cs => ?_⟩
      · rw [calls', calls, List.append_assoc]
      · rw [bind_ok (same cs), same', List.append_assoc]

theorem Blind.followedBy {a : Action α} {last : Action Unit} (ha : Blind a) (hlast : Blind last) :
    Blind (a.followedBy last) := by
  intro t unplanned
  obtain ⟨made, plan, calls, same⟩ := ha t unplanned
  obtain ⟨made', plan', calls', same'⟩ := hlast (a t).2 plan
  have both : (last (a t).2).2.calls = t.calls ++ (made ++ made') := by
    rw [calls', calls, List.append_assoc]
  refine ⟨made ++ made', ?_, ?_, fun cs => ?_⟩
  · rw [followedBy_apply]
    match hr : last (a t).2 with
    | (.ok _, u) | (.error _, u) =>
        rw [hr] at plan'
        exact plan'
  · rw [followedBy_apply]
    match hr : last (a t).2 with
    | (.ok _, u) | (.error _, u) =>
        rw [hr] at both
        exact both
  · rw [followedBy_apply, followedBy_apply, same, same', List.append_assoc]
    match hr : last (a t).2 with
    | (.ok _, u) | (.error _, u) => rfl

end Action

namespace Service
open FilmIndex.Action

variable {s : Service} {α : Type}

theorem blind_fetchStats : Blind s.fetchStats :=
  blind_call.bind fun _ => blind_call.followedBy blind_call

theorem blind_of_madeOf {a : Action α} (h : MadeOf s.Step a) : Blind a := by
  induction h with
  | part h =>
      cases h with
      | call made => exact blind_call
      | fetchStats => exact blind_fetchStats
  | bind _ _ ha hf => exact ha.bind hf
  | pure | fail | log | printLine | holding | setHolding =>
      exact blind_of_silent (fun _ => rfl) (fun _ _ => rfl)

theorem blind_of_tends {a : Action α} (h : MadeOf s.Tends a) : Blind a :=
  blind_of_madeOf (s.madeOf_of_tends h)

theorem blind_perform (op : Operation) : Blind (s.perform op) := by
  cases op with
  | connect =>
      refine (blind_ofExcept _ _).bind fun _ => blind_call.bind fun _ => ?_
      exact blind_of_silent (fun _ => rfl) (fun _ _ => rfl)
  | close =>
      refine blind_call.bind fun _ => ?_
      exact blind_of_silent (fun _ => rfl) (fun _ _ => rfl)
  | _ => exact blind_of_madeOf (madeOf_perform rfl)

end Service
end FilmIndex
