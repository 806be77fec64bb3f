import FilmIndex.Program.Basic
import FilmIndex.Proofs.Program.Undisturbed
import FilmIndex.Proofs.Settings.Origins

/-!
How the program ends on a command line that it accepts. It ends with code 0 or 1, but for
two cases: a settings file that is no text, and a list of years that is no JSON, in the
environment or in the settings file. JSON may be nested to any depth here.
-/

namespace FilmIndex
namespace Program

variable {given : CommandLine.Given} {around : Surroundings} {before : Session}

theorem fst_run {words : List String} (parsed : CommandLine.parse words = .ok given) :
    (run words around before).1 = (start given around before).1 := by
  rw [run, parsed]

theorem load_text {text : String} (h : text.toUTF8 = around.dotEnv) :
    load given around = Settings.load (sources given around) := by
  rw [load, Surroundings.dotEnvText, Text.Utf8.decode_eq_ok_iff.2 h]

theorem sources_text {text : String} (h : text.toUTF8 = around.dotEnv) :
    sources given around =
      { given := given.map fun p => (p.1.name, p.2), environment := around.environment,
        dotEnv := text } := by
  rw [sources, Surroundings.dotEnvText, Text.Utf8.decode_eq_ok_iff.2 h]
  rfl

/-- Settings come of sources that can be read: of a settings file that is a text, and of years
that are JSON. -/
theorem load_readable_iff :
    ((∃ errors, load given around = .error (.invalid errors)) ∨
      ∃ s, load given around = .ok s) ↔
    ¬ ((∀ text : String, text.toUTF8 ≠ around.dotEnv) ∨
      Sources.NotJson ((sources given around).environmentText? .releaseYears) ∨
      Sources.NotJson ((sources given around).dotEnvText? .releaseYears)) := by
  by_cases undecodable : ∀ text : String, text.toUTF8 ≠ around.dotEnv
  · obtain ⟨report, hreport⟩ := Text.Utf8.decode_eq_error_iff.2 undecodable
    have hload : load given around = .error (.undecodable report) := by
      rw [load, Surroundings.dotEnvText, hreport]
    exact iff_of_false (by simp [hload]) (not_not_intro (.inl undecodable))
  · obtain ⟨text, decoded⟩ := not_forall_not.1 undecodable
    simp only [undecodable, false_or, load_text decoded, ← Sources.isSome_unreadable?]
    rcases Settings.load_cases (sources given around) with
      ⟨unreadable, _, _, hload⟩ | ⟨readable, _, hload⟩ | ⟨readable, _, hload⟩
    · simp [hload, unreadable]
    · simp [hload, readable]
    · simp [hload, readable]

/-- How the program ends by what comes of its settings and of its run. -/
theorem start_cases (given : CommandLine.Given) (around : Surroundings) (before : Session) :
    (∃ report, load given around = .error (.undecodable report) ∧
      (start given around before).1 = .undecodable report) ∨
    (∃ k origin, load given around = .error (.unreadable k origin) ∧
      (start given around before).1 = .unreadable k origin) ∨
    (∃ errors, load given around = .error (.invalid errors) ∧
      (start given around before).1 = .finished 1) ∨
    ∃ s, load given around = .ok s ∧
      ((∃ e, (Run.run s around before).1 = .error e ∧
          (start given around before).1 = .finished 1) ∨
        ∃ hits, (Run.run s around before).1 = .ok hits ∧
          (start given around before).1 = .finished 0) := by
  match hload : load given around with
  | .error (.undecodable report) => exact .inl ⟨report, rfl, by rw [start, hload]⟩
  | .error (.unreadable k origin) => exact .inr (.inl ⟨k, origin, rfl, by rw [start, hload]⟩)
  | .error (.invalid errors) => exact .inr (.inr (.inl ⟨errors, rfl, by rw [start, hload]⟩))
  | .ok s =>
      refine .inr (.inr (.inr ⟨s, rfl, ?_⟩))
      match hrun : Run.run s around before with
      | (.error e, after) => exact .inl ⟨e, rfl, by simp only [start, hload, work, hrun]⟩
      | (.ok hits, after) => exact .inr ⟨hits, rfl, by simp only [start, hload, work, hrun]⟩

/-- The program ends with code 0 if the settings are accepted and the run returns, with code 1
if they are invalid or the run fails, and with neither if the settings file is no text or a
list of years is no JSON, which has no limit to its nesting. A film file that cannot be read
and a call that is planned to fail make the run fail. -/
theorem run_ending {words : List String} (parsed : CommandLine.parse words = .ok given)
    (around : Surroundings) (before : Session) :
    let ending := (run words around before).1
    let src := sources given around
    (ending = .finished 0 ↔
      ∃ s, load given around = .ok s ∧ ∃ hits, (Run.run s around before).1 = .ok hits) ∧
    (ending = .finished 1 ↔
      (∃ errors, load given around = .error (.invalid errors)) ∨
        ∃ s, load given around = .ok s ∧ ∃ e, (Run.run s around before).1 = .error e) ∧
    (ending = .finished 0 ∨ ending = .finished 1 ↔
      ¬ ((∀ text : String, text.toUTF8 ≠ around.dotEnv) ∨
        Sources.NotJson (src.environmentText? .releaseYears) ∨
        Sources.NotJson (src.dotEnvText? .releaseYears))) ∧
    ∀ s, load given around = .ok s →
      (∀ e, Catalog.read around.files s.dimension s.csvPath = .error e → ending = .finished 1) ∧
      ∀ made c later, (Run.run s around before).2.calls = before.calls ++ made ++ c :: later →
        before.plan (before.calls ++ made ++ [c]) ≠ none → ending = .finished 1 := by
  intro ending src
  have hending : ending = (start given around before).1 := fst_run parsed
  rw [← load_readable_iff, hending]
  rcases start_cases given around before with ⟨report, hload, hend⟩ | ⟨k, origin, hload, hend⟩ |
    ⟨errors, hload, hend⟩ | ⟨s, hload, ⟨e, hrun, hend⟩ | ⟨hits, hrun, hend⟩⟩
  · simp [hload, hend]
  · simp [hload, hend]
  · simp [hload, hend]
  · simp [hload, hend, hrun]
  · refine ⟨by simp [hload, hend, hrun], by simp [hload, hend, hrun], by simp [hload, hend], ?_⟩
    intro s' hs'
    cases hload.symm.trans hs'
    refine ⟨fun e unread => ?_, fun made c later calls refused => absurd ?_ refused⟩
    · rw [Run.run_unread unread] at hrun
      cases hrun
    · exact (Run.undisturbed_of_returned hrun).plan_eq_none calls

/-- Without films to be read the program ends with code 1. -/
theorem run_ending_noFile :
    (run [] { files := fun _ => .error .notFound } {}).1 = .finished 1 :=
  ((run_ending rfl { files := fun _ => .error .notFound } {}).2.2.2 Settings.defaults rfl).1
    (.disk "films.csv" .notFound) rfl

/-- Years that are written with a comma alone are no JSON. -/
theorem run_yearsNotJson :
    let around : Surroundings :=
      { environment := [("FILMS_DEMO_RELEASE_YEARS", "1995,2002")]
        files := fun _ => .error .notFound }
    CommandLine.parse [] = .ok [] ∧
      (run [] around {}).1 = .unreadable .releaseYears .environment ∧
        (run [] around {}).1 ≠ .finished 0 ∧ (run [] around {}).1 ≠ .finished 1 := by
  intro around
  have h : (run [] around {}).1 = .unreadable .releaseYears .environment := rfl
  refine ⟨rfl, h, ?_, ?_⟩
  all_goals
    rw [h]
    nofun

end Program
end FilmIndex
