import FilmIndex.Proofs.Program.CleanUp

/-!
Runs none of whose own calls is planned to fail. Such a run is the one in which no call is to
fail at all, whatever else is planned, and every run that returns is such a run. A plan knows
the calls before and what they carry, rows and requests too, so a server that refuses a call
for a reason of its own is one that carries out a plan.
-/

namespace FilmIndex
namespace Run

variable {s : Settings} {around : Surroundings} {before : Session} {films : Catalog}

/-- None of the calls that the run makes is planned to fail. -/
def Undisturbed (s : Settings) (around : Surroundings) (before : Session) : Prop :=
  ∃ made, (run s around before).2.calls = before.calls ++ made ∧
    before.plan.Allows before.calls made

theorem Undisturbed.plan_eq_none (h : Undisturbed s around before) {done rest : List Call}
    {c : Call} (calls : (run s around before).2.calls = before.calls ++ done ++ c :: rest) :
    before.plan (before.calls ++ done ++ [c]) = none := by
  obtain ⟨made, calls', allowed⟩ := h
  rw [calls', List.append_assoc] at calls
  rw [List.append_cancel_left calls, Plan.allows_append] at allowed
  exact allowed.2.1

theorem Undisturbed.run_eq_of_connected (h : Undisturbed s around before)
    (read : Catalog.read around.files s.dimension s.csvPath = .ok films)
    (port : Number.Writable s.milvusPort)
    (connects : before.plan (before.calls ++ [connectCall s]) = none) :
    run s around before = ((run s around before.unplanned).1,
      { (run s around before.unplanned).2 with plan := before.plan }) := by
  have hrun := run_connected before read port connects
  have hclean := run_connected before.unplanned read port rfl
  let t := (Service.ofSettings s).opened (started s films before)
  obtain ⟨made, ⟨calls, plan, follows⟩, -⟩ := (Service.ofSettings s).breaks_of_madeOf
    (madeOf_connectedRun (Service.ofSettings s) films around) t
  match hbody : connectedRun (Service.ofSettings s) films around t.unplanned with
  | (r, u) =>
      rw [hbody] at calls plan follows
      have clean := hclean.trans (Service.followedBy_close_allowed hbody (congrFun plan _))
      cases follows with
      | @broken done rest c _ _ _ _ refused failed calls' _ =>
          have calls : (run s around before).2.calls = before.calls ++
              ([connectCall s] ++ done) ++ c :: (c.aftermath ++ [disconnectCall s]) := by
            rw [calls_run hrun failed, calls', Service.calls_opened]
            simp [started, connectCall]
          have allowed := h.plan_eq_none calls
          rw [← List.append_assoc before.calls] at allowed
          exact absurd allowed refused
      | through _ same =>
          have closes : before.plan (run s around before).2.calls = none := by
            have calls : (run s around before).2.calls =
                before.calls ++ ([connectCall s] ++ made) ++ disconnectCall s :: [] := by
              rw [calls_run hrun same, calls, Service.calls_opened]
              simp [started, connectCall]
            rw [calls]
            exact h.plan_eq_none calls
          rw [run_closed hrun same rfl closes, clean]
          rfl

theorem Undisturbed.run_eq (h : Undisturbed s around before) :
    run s around before = ((run s around before.unplanned).1,
      { (run s around before.unplanned).2 with plan := before.plan }) := by
  cases begins s around before with
  | unread read out =>
      rw [out, run_unread read]
      rfl
  | portUnwritable read port out =>
      rw [out, run_portUnwritable before.unplanned read port]
      rfl
  | unconnected read port refused out =>
      have calls : (run s around before).2.calls = before.calls ++ [] ++ [connectCall s] := by
        rw [out, List.append_nil]
      have allowed := h.plan_eq_none calls
      rw [List.append_nil, refused] at allowed
      cases allowed
  | connected read port connects => exact h.run_eq_of_connected read port connects

theorem CleansUp.undisturbed {done closing : List Call}
    (cleans : CleansUp s films around before done closing)
    (connects : before.plan (before.calls ++ [connectCall s]) = none)
    (allowed : before.plan.Allows (before.calls ++ [connectCall s]) done) (nothing : closing = [])
    (disconnects : before.plan (run s around before).2.calls = none) :
    Undisturbed s around before := by
  have calls := cleans.calls
  rw [nothing, List.append_nil] at calls
  refine ⟨connectCall s :: (done ++ [disconnectCall s]), by rw [calls]; simp, connects,
    (Plan.allows_append ..).2 ⟨allowed, ?_, trivial⟩⟩
  rwa [← calls]

/-- A run that returns has made no call that is planned to fail. -/
theorem undisturbed_of_returned {hits : List (List Hit)}
    (h : (run s around before).1 = .ok hits) : Undisturbed s around before := by
  cases begins s around before with
  | unread _ out | portUnwritable _ _ out | unconnected _ _ _ out =>
      rw [out] at h
      cases h
  | connected read port connects =>
      obtain ⟨done, closing, cleans⟩ := cleansUp read port connects
      cases cleans.stops with
      | refused _ _ _ raised => cases h.symm.trans raised
      | byItself allowed nothing _ _ _ raised =>
          refine cleans.undisturbed connects allowed nothing ?_
          by_contra closes
          obtain ⟨message, raised⟩ := raised closes
          cases h.symm.trans raised

/-- The calls that were made before stay recorded. -/
theorem exists_calls (s : Settings) (around : Surroundings) (before : Session) :
    ∃ made, (run s around before).2.calls = before.calls ++ made := by
  cases begins s around before with
  | unread _ out => exact ⟨[], by rw [out, List.append_nil]⟩
  | portUnwritable _ _ out => exact ⟨[], by rw [out, started, List.append_nil]⟩
  | unconnected _ _ _ out => exact ⟨_, by rw [out]⟩
  | connected read port connects =>
      obtain ⟨done, closing, cleans⟩ := cleansUp read port connects
      exact ⟨[connectCall s] ++ done ++ closing ++ [disconnectCall s],
        by simp only [cleans.calls, List.append_assoc]⟩

/-- Where no call is to fail at all, none of the run is. -/
theorem undisturbed_of_unplanned (unplanned : before.plan = Plan.none) :
    Undisturbed s around before := by
  have allows (past made : List Call) : Plan.none.Allows past made := by
    induction made generalizing past with
    | nil => trivial
    | cons c made ih => exact ⟨rfl, ih _⟩
  obtain ⟨made, calls⟩ := exists_calls s around before
  exact ⟨made, calls, unplanned ▸ allows before.calls made⟩

end Run
end FilmIndex
