import FilmIndex.Proofs.Program.Returned

/-!
What a run without a failing call returns and prints, and what it does to the server, is
settled by the settings, the film file, the seed and the room that there is for its vector.
Nothing of it depends on what was on the server before, and a second run comes out like the
first and changes nothing.
-/

namespace FilmIndex
open FilmIndex.Action

namespace Run

variable {s : Settings} {around around' : Surroundings} {before before' : Session}

theorem request_seeded {seed : Int} (seeded : s.querySeed = some seed)
    (memory : around'.memory = around.memory) (schema : FilmSchema) :
    request s schema around' = request s schema around := by
  rw [request, request, query, query, seeded, memory]
  rfl

theorem read_congr {files files' : Files} (dim : Int) {path : String}
    (h : files' path = files path) :
    Catalog.read files' dim path = Catalog.read files dim path := by
  rw [Catalog.read, Catalog.read, h]

/-! ## The server -/

theorem cleared_cleared (server : Server) : cleared s (cleared s server) = cleared s server := by
  simp [cleared, Server.removeCollection, Keyed.erase_erase, List.filter_filter]

theorem cleared_put (server : Server) (c : Collection) :
    cleared s ((cleared s server).putCollection s.collectionName c) = cleared s server := by
  simp [cleared, Server.removeCollection, Server.putCollection, Keyed.erase_erase, Keyed.erase_put,
    List.filter_filter]

/-- What a run makes of a server: nothing, or a server without its collection, or one on which
its collection is made anew. -/
inductive Leaves (s : Settings) : (Server → Server) → Prop
  | same : Leaves s id
  | cleared : Leaves s (cleared s)
  | remade (c : Collection) :
      Leaves s fun server => (Run.cleared s server).putCollection s.collectionName c

namespace Leaves

variable {f : Server → Server}

/-- Once more, it makes no difference. -/
theorem again (h : Leaves s f) (server : Server) : f (f server) = f server := by
  cases h with
  | same => rfl
  | cleared => exact cleared_cleared server
  | remade c => exact congrArg (Server.putCollection s.collectionName c) (cleared_put server c)

theorem extraStats_eq (h : Leaves s f) (server : Server) :
    (f server).extraStats = server.extraStats := by
  cases h <;> rfl

end Leaves

/-! ## Runs on different servers -/

/-- What comes of a run: its result, the text that it prints and the server that it leaves. -/
structure ComesTo (s : Settings) (around : Surroundings) (before : Session)
    (result : Except Failure (List (List Hit))) (text : String) (leaves : Server → Server) :
    Prop where
  result : (run s around before).1 = result
  printed : (run s around before).2.printed = before.printed ++ text
  server : (run s around before).2.server = leaves before.server
  unplanned : (run s around before).2.plan = Plan.none

theorem exists_comesTo {seed : Int} (seeded : s.querySeed = some seed) (around : Surroundings)
    (extra : Fields) :
    ∃ result text leaves, Leaves s leaves ∧ ∀ around' before,
      around'.files s.csvPath = around.files s.csvPath → around'.memory = around.memory →
      before.plan = Plan.none → before.server.extraStats = extra →
      ComesTo s around' before result text leaves := by
  cases read : Catalog.read around.files s.dimension s.csvPath with
  | error e =>
      refine ⟨.error (.catalog e), "", id, .same, fun around' before file _ unplanned _ => ?_⟩
      have out : run s around' before = (.error (.catalog e), before) :=
        run_unread ((read_congr s.dimension file).trans read)
      refine ⟨by rw [out], ?_, by rw [out]; rfl, by rw [out]; exact unplanned⟩
      rw [out, String.append_empty]
  | ok films =>
      by_cases port : Number.Writable s.milvusPort
      swap
      · refine ⟨.error (.number .tooManyDigits), "", id, .same,
          fun around' before file _ unplanned _ => ?_⟩
        have out := run_portUnwritable before ((read_congr s.dimension file).trans read) port
        refine ⟨by rw [out], ?_, by rw [out]; rfl, by rw [out]; exact unplanned⟩
        rw [out, String.append_empty]
        rfl
      by_cases told : Told (Service.ofSettings s) extra films
      swap
      · refine ⟨.error (.number .tooManyDigits), counted films, _,
          .remade (indexed (Service.ofSettings s) films), ?_⟩
        rintro around' before file - unplanned rfl
        rcases run_cases unplanned ((read_congr s.dimension file).trans read) port with
          ⟨-, out⟩ | ⟨_, told', -⟩ | ⟨_, _, told', -⟩
        · refine ⟨by rw [out], ?_, by rw [out]; rfl, by rw [out]; rfl⟩
          rw [out, Service.printed_idle]
          exact printed_untilStats s films before
        · exact absurd told' told
        · exact absurd told' told
      cases made : request s ⟨s.dimension⟩ around with
      | error e =>
          let stale := searchable (Service.ofSettings s) films
          refine ⟨.error e, shown s films extra, _, .remade stale, ?_⟩
          rintro around' before file memory unplanned rfl
          rcases run_cases unplanned ((read_congr s.dimension file).trans read) port with
            ⟨untold, -⟩ | ⟨e', -, cause, out⟩ | ⟨request, hits, -, made', -⟩
          · exact absurd told untold
          · rw [request_seeded seeded memory, made] at cause
            cases cause
            refine ⟨by rw [out], ?_, by rw [out]; rfl, by rw [out]; rfl⟩
            rw [out, Service.printed_idle]
            exact printed_untilRequest s films before
          · rw [request_seeded seeded memory, made] at made'
            cases made'
      | ok request =>
          obtain ⟨found, -, -, answered⟩ := exists_answer made films
          let hits := [found.map (Hit.ofRow (titles films) outputFields)]
          refine ⟨.ok hits, shown s films extra ++ Hit.printout hits, _, .cleared, ?_⟩
          rintro around' before file memory unplanned rfl
          rcases run_cases unplanned ((read_congr s.dimension file).trans read) port with
            ⟨untold, -⟩ | ⟨e', -, cause, -⟩ | ⟨request', hits', -, made', answered', out⟩
          · exact absurd told untold
          · rw [request_seeded seeded memory, made] at cause
            cases cause
          · rw [request_seeded seeded memory, made] at made'
            obtain rfl := Except.ok.inj made'
            obtain rfl := Except.ok.inj (answered.symm.trans answered')
            refine ⟨by rw [out], ?_, by rw [out]; rfl, by rw [out]; rfl⟩
            rw [out, Service.printed_idle]
            exact printed_returned request hits

/-- A run on one server returns and prints what it returns and prints on another, and a second
run returns and prints the same and leaves the server as the first one left it. -/
theorem run_independent {seed : Int} (seeded : s.querySeed = some seed)
    (file : around'.files s.csvPath = around.files s.csvPath)
    (memory : around'.memory = around.memory) (unplanned : before.plan = Plan.none)
    (unplanned' : before'.plan = Plan.none)
    (extra : before'.server.extraStats = before.server.extraStats) :
    let first := run s around before
    let other := run s around' before'
    let again := run s around' first.2
    (other.1 = first.1 ∧ again.1 = first.1) ∧
    (∃ text, first.2.printed = before.printed ++ text ∧ other.2.printed = before'.printed ++ text ∧
      again.2.printed = first.2.printed ++ text) ∧
    again.2.server = first.2.server := by
  intro first other again
  obtain ⟨result, text, leaves, lasting, comes⟩ :=
    exists_comesTo seeded around before.server.extraStats
  have one : ComesTo s around before result text leaves := comes around before rfl rfl unplanned rfl
  have two : ComesTo s around' before' result text leaves :=
    comes around' before' file memory unplanned' extra
  have kept : first.2.server.extraStats = before.server.extraStats := by
    rw [one.server, lasting.extraStats_eq]
  have three : ComesTo s around' first.2 result text leaves :=
    comes around' first.2 file memory one.unplanned kept
  refine ⟨⟨two.result.trans one.result.symm, three.result.trans one.result.symm⟩,
    ⟨text, one.printed, two.printed, three.printed⟩, ?_⟩
  rw [three.server, one.server, lasting.again]

/-- A server with an older collection of the run's name that is indexed and loaded, and with
its connection open. -/
def stale : Session := {
  server := {
    connected := ["default", "other"]
    collections := [("demo_index", {
      rows := [⟨0, 1995, []⟩]
      indexes := [("embedding_idx", ⟨"embedding", .null⟩)]
      loaded := true }), ("other", {})] } }

theorem run_independent_stale :
    let first := run oneYear sharedId {}
    let other := run oneYear sharedId stale
    let again := run oneYear sharedId first.2
    (other.1 = first.1 ∧ again.1 = first.1) ∧
    (∃ text, first.2.printed = "" ++ text ∧ other.2.printed = "" ++ text ∧
      again.2.printed = first.2.printed ++ text) ∧
    again.2.server = first.2.server :=
  run_independent (rfl : oneYear.querySeed = some 7) rfl rfl rfl rfl rfl

end Run
end FilmIndex
