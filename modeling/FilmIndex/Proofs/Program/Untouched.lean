import FilmIndex.Proofs.Film.Reading
import FilmIndex.Proofs.Program.Ending

/-!
Input is checked before the server is touched: the command line, the settings and every
line of the film file before a run, and a query before its search. What is rejected makes no
call, and whatever the server holds stays as it is.
-/

namespace FilmIndex
open FilmIndex.Action

namespace Service

variable (s : Service)

/-- The call that fetches a handle is recorded as well, also where it fails. -/
theorem length_calls_held {α : Type} (c : Call) (effect : Server.Effect α) (t : Session) :
    t.calls.length < ((do s.hold; s.call c effect : Action α) t).2.calls.length := by
  cases h : t.holds with
  | true =>
      rw [bind_ok (hold_held h), call, calls_call]
      simp
  | false =>
      have held : s.hold t = s.fetch t := hold_unheld h
      rcases call_cases (some s.connection) (.collection s.collection none)
        (Server.fetchCollection s.collection) t with ⟨e, -, failed⟩ | ⟨x, server, -, done⟩
      · rw [bind_error (held.trans (bind_error failed _))]
        simp
      · rw [bind_ok (held.trans (bind_ok done _)), call, calls_call]
        simp

variable {query : Clause VectorQuery} (names? : Option (List String)) (before : Session)

theorem search_rejected {e : QueryError} (h : query.compile = .error e) :
    s.search query names? before = (.error (.query e), before) := by
  have rejected : Action.ofExcept Failure.query query.compile before =
      (.error (.query e), before) := by
    rw [h]
    rfl
  exact bind_error rejected _

theorem calls_search_ne {request : SearchRequest} (h : query.compile = .ok request) :
    (s.search query names? before).2.calls ≠ before.calls := by
  have accepted : Action.ofExcept Failure.query query.compile before = (.ok request, before) := by
    rw [h]
    rfl
  have logged : Action.log (.searching request) before =
    (.ok (), { before with events := before.events ++ [.searching request] }) := rfl
  rw [search, bind_ok accepted, bind_ok logged]
  have grown := s.length_calls_held (.search s.collection request names?)
    (Server.search s.collection request (names?.getD []))
    { before with events := before.events ++ [.searching request] }
  exact fun same => Nat.ne_of_gt grown (congrArg List.length same)

end Service

namespace Program

/-- All of the input is good: the command line, the settings with a port that can be written,
and the film file that they name. -/
def Ready (words : List String) (around : Surroundings) : Prop :=
  ∃ given s, CommandLine.parse words = .ok given ∧ load given around = .ok s ∧
    Number.Writable s.milvusPort ∧ ¬ Catalog.Unreadable around.files s.dimension s.csvPath

variable {words : List String} {around : Surroundings}

theorem run_notReady (h : ¬ Ready words around) (before : Session) :
    (run words around before).2 =
      { before with events := (run words around before).2.events } := by
  rw [run]
  cases parsed : CommandLine.parse words with
  | error e => rfl
  | ok given =>
      cases loaded : load given around with
      | error e => cases e <;> simp only [start, loaded]
      | ok s =>
          have unready {films : Catalog} (port : Number.Writable s.milvusPort) :
              Catalog.read around.files s.dimension s.csvPath ≠ .ok films := fun read =>
            h ⟨given, s, parsed, loaded, port, fun unread => by
              obtain ⟨e, failed⟩ := (Catalog.exists_read_error_iff ..).2 unread
              cases failed.symm.trans read⟩
          cases Run.begins s around before with
          | unread _ out => simp only [start, loaded, work, out]
          | portUnwritable _ _ out =>
              simp only [start, loaded, work, out]
              rfl
          | unconnected read port | connected read port => exact absurd read (unready port)

theorem calls_run_of_ready (h : Ready words around) (before : Session) :
    (run words around before).2.calls ≠ before.calls := by
  obtain ⟨given, s, parsed, loaded, port, readable⟩ := h
  have calls : (run words around before).2.calls = (Run.run s around before).2.calls := by
    simp only [run, parsed, start, loaded, work]
    rcases Run.run s around before with ⟨_ | _, _⟩ <;> rfl
  rw [calls]
  cases Run.begins s around before with
  | unread read => exact absurd ((Catalog.exists_read_error_iff ..).1 ⟨_, read⟩) readable
  | portUnwritable _ long => exact absurd port long
  | unconnected _ _ _ out => simp [out]
  | connected read port connects =>
      obtain ⟨done, closing, cleans⟩ := Run.cleansUp read port connects
      simp [cleans.calls]

/-- The program makes a call exactly if its input is good; else server, handle and printed
text stay as they are. A run whose film file cannot be read does nothing but fail, whatever
its settings are. So does a search whose query is rejected, and only such a search makes no
call. -/
theorem run_untouched (words : List String) (around : Surroundings) (before : Session) :
    ((run words around before).2.calls = before.calls ↔ ¬ Ready words around) ∧
    (¬ Ready words around →
      (run words around before).2 =
        { before with events := (run words around before).2.events }) ∧
    (∀ s, Catalog.Unreadable around.files s.dimension s.csvPath →
      ∃ e, Catalog.read around.files s.dimension s.csvPath = .error e ∧
        Run.run s around before = (.error (.catalog e), before)) ∧
    ∀ (service : Service) (query : Clause VectorQuery) (names? : Option (List String)),
      (∀ e, query.compile = .error e →
        service.search query names? before = (.error (.query e), before)) ∧
      ((service.search query names? before).2.calls = before.calls →
        ∃ e, query.compile = .error e) := by
  refine ⟨⟨fun same ready => calls_run_of_ready ready before same, fun unready => ?_⟩,
    fun unready => run_notReady unready before, fun s unread => ?_,
    fun service query names? => ⟨fun e => service.search_rejected names? before, fun same => ?_⟩⟩
  · rw [run_notReady unready before]
  · obtain ⟨e, failed⟩ := (Catalog.exists_read_error_iff ..).2 unread
    exact ⟨e, failed, Run.run_unread failed⟩
  · cases compiled : query.compile with
    | error e => exact ⟨e, rfl⟩
    | ok request => exact absurd same (service.calls_search_ne names? before compiled)

/-- A collection of the name is there, and the last line of the file is no film. -/
theorem run_untouched_lastLine :
    let around : Surroundings :=
      { files := fun _ => .ok "1,A,1995,[0,0,0,0,0,0,0,0]\n2,B\n".toUTF8 }
    let older : Collection := { rows := [⟨7, 1995, []⟩], loaded := true }
    let before : Session := { server := { collections := [("demo_index", older)] } }
    ¬ Ready [] around ∧ (run [] around before).2.calls = [] ∧
      (run [] around before).2.server = before.server := by
  intro around older before
  have opened : around.files "films.csv" =
      .ok "1,A,1995,[0,0,0,0,0,0,0,0]\n2,B\n".toUTF8 := rfl
  have parsed : Catalog.parse 8 "1,A,1995,[0,0,0,0,0,0,0,0]\n2,B\n" =
      .error (.format 2 (.noEmbedding "2,B")) := by rfl
  have unread : Catalog.Unreadable around.files 8 "films.csv" :=
    (Catalog.exists_read_error_iff ..).1 ⟨_, (Catalog.read_toUTF8 opened 8).trans parsed⟩
  have unready : ¬ Ready [] around := by
    rintro ⟨given, s, hgiven, loaded, -, readable⟩
    cases hgiven
    have text : "".toUTF8 = around.dotEnv := rfl
    have defaults : load [] around = .ok Settings.defaults := by
      rw [load_text text, sources_text text]
      rfl
    cases defaults.symm.trans loaded
    exact readable unread
  obtain ⟨calls, after, -⟩ := run_untouched [] around before
  exact ⟨unready, calls.2 unready, by rw [after unready]⟩

end Program
end FilmIndex
