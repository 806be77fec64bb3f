import FilmIndex.Proofs.Program.Overflow

/-!
Which accepted settings are enough for a run. They have to name release years, a seed that they
give must not be negative, a vector of their dimension has to fit into memory, and the numbers
that a run writes must not be too long. None of this is checked when settings are accepted. A
port that is too long is noticed before the run connects, and everything else only when the
collection that was there before has been replaced. The statistics that the server gives are
written as well, and may hold a number that is too long.
-/

namespace FilmIndex
open Number (Writable)

namespace Settings

/-- What a run needs of settings, beyond their being accepted, to make its request. -/
structure Requestable (s : Settings) (memory : Nat) : Prop where
  named : s.releaseYears ≠ []
  years : ∀ year ∈ s.releaseYears, Writable year
  seed : ∀ seed, s.querySeed = some seed → 0 ≤ seed
  word : 4 * s.dimension < 2 ^ 63
  room : 4 * s.dimension ≤ memory

/-- What a run needs of settings beyond their being accepted. -/
structure Sufficient (s : Settings) (memory : Nat) : Prop extends Requestable s memory where
  port : Writable s.milvusPort
  nlist : Writable s.nlist

/-- What settings lack if a run fails because of them. -/
inductive Lacks (s : Settings) (memory : Nat) : Failure → Prop
  | port (long : ¬ Writable s.milvusPort) : Lacks s memory (.number .tooManyDigits)
  | nlist (long : ¬ Writable s.nlist) : Lacks s memory (.number .tooManyDigits)
  | named (none : s.releaseYears = []) : Lacks s memory (.query (.noValues "release_year"))
  | years {year : Int} (named : year ∈ s.releaseYears) (long : ¬ Writable year) :
      Lacks s memory (.query .tooManyDigits)
  | seed {seed : Int} (given : s.querySeed = some seed) (negative : seed < 0) :
      Lacks s memory (.sampling .negativeSeed)
  | size (large : 2 ^ 63 ≤ s.dimension) : Lacks s memory (.sampling .sizeTooLarge)
  | word (large : 2 ^ 63 ≤ 4 * s.dimension) : Lacks s memory (.sampling .tooManyBytes)
  | room (large : memory < 4 * s.dimension) : Lacks s memory (.sampling .noMemory)

theorem Lacks.not_sufficient {s : Settings} {memory : Nat} {e : Failure} (h : s.Lacks memory e) :
    ¬ s.Sufficient memory := by
  intro enough
  cases h with
  | port long => exact long enough.port
  | nlist long => exact long enough.nlist
  | named none => exact enough.named none
  | years named long => exact long (enough.years _ named)
  | seed given negative => exact Int.not_le.2 negative (enough.seed _ given)
  | size large => have := enough.word; omega
  | word large => exact Int.not_le.2 enough.word large
  | room large => exact Int.not_le.2 large enough.room

end Settings

namespace Run

variable {s : Settings} {around : Surroundings} {films : Catalog} {before : Session}

/-! ## The request -/

theorem near_fault (pos : s.Positive) {v : List Float} (h : (v.length : Int) = s.dimension) :
    (near s ⟨s.dimension⟩ [v]).fault? = none := by
  have limit : VectorQuery.limitFault? (near s ⟨s.dimension⟩ [v]).limit = none :=
    if_neg (Int.not_le.2 pos.topK)
  rw [VectorQuery.fault?, limit]
  simp [near, VectorQuery.param, VectorQuery.top, VectorQuery.metricType, VectorField.query,
    FilmSchema.embedding, h]

theorem writable_years : (years s).writable = true ↔ ∀ year ∈ s.releaseYears, Writable year := by
  rw [years, Filter.writable, List.all_map, List.all_eq_true]
  simp only [Function.comp_apply, Value.writable_int, Number.writable_iff]

theorem sampled_error {e : Sampling.Error} (hseed : 0 ≤ s.querySeed.getD around.entropy)
    (full : (Sampling.Memory.bytes around.memory).allocate [1, s.dimension] = .error e) :
    sampled s around = .error e := Sampling.vectors_noRoom hseed full

/-- A request is made unless the settings lack something. -/
theorem request_cases (pos : s.Positive) (around : Surroundings) :
    ((∃ r, request s ⟨s.dimension⟩ around = .ok r) ∧ s.Requestable around.memory) ∨
      ∃ e, request s ⟨s.dimension⟩ around = .error e ∧ s.Lacks around.memory e := by
  by_cases named : s.releaseYears = []
  · exact .inr ⟨_, request_noYears named, .named named⟩
  by_cases hseed : s.querySeed.getD around.entropy < 0
  · refine .inr ⟨_, request_unsampled named (Sampling.vectors_negativeSeed hseed), ?_⟩
    cases given : s.querySeed with
    | none =>
        rw [given] at hseed
        exact absurd hseed (Int.not_lt.2 (Int.natCast_nonneg _))
    | some seed =>
        rw [given] at hseed
        exact .seed given hseed
  have hseed := Int.not_lt.1 hseed
  obtain ⟨dim, hdim⟩ := Int.eq_ofNat_of_zero_le (Int.le_of_lt pos.dimension)
  have positive : 0 < dim := by
    have := pos.dimension
    omega
  have room := Sampling.Memory.allocate_row positive around.memory
  rw [← hdim] at room
  by_cases size : 2 ^ 63 ≤ dim
  · rw [if_pos size] at room
    exact .inr ⟨_, request_unsampled named (sampled_error hseed room), .size (by omega)⟩
  by_cases word : 2 ^ 63 ≤ 4 * dim
  · rw [if_neg size, if_pos word] at room
    exact .inr ⟨_, request_unsampled named (sampled_error hseed room), .word (by omega)⟩
  by_cases large : around.memory < 4 * dim
  · rw [if_neg size, if_neg word, if_pos large] at room
    exact .inr ⟨_, request_unsampled named (sampled_error hseed room), .room (by omega)⟩
  rw [if_neg size, if_neg word, if_neg large] at room
  obtain ⟨v, hv, length⟩ := Sampling.vectors_one hseed (Int.le_of_lt pos.dimension) room
  by_cases short : ∀ year ∈ s.releaseYears, Writable year
  · refine .inl ⟨?_, named, short, fun seed given => ?_, by omega, by omega⟩
    · rw [request_sampled named hv, if_pos (writable_years.2 short), VectorQuery.request,
        near_fault pos length]
      exact ⟨_, rfl⟩
    · rwa [given] at hseed
  · have long : ¬ (years s).writable = true := mt writable_years.1 short
    refine .inr ⟨_, by rw [request_sampled named hv, if_neg long], ?_⟩
    obtain ⟨year, member, long⟩ := not_forall₂.1 short
    exact .years member long

theorem request_of_sufficient (pos : s.Positive) (enough : s.Sufficient around.memory) :
    ∃ r, request s ⟨s.dimension⟩ around = .ok r := by
  rcases request_cases pos around with ⟨made, -⟩ | ⟨e, -, lacks⟩
  · exact made
  · exact absurd enough lacks.not_sufficient

/-! ## The statistics -/

/-- The statistics that the server gives of the films can be written. A list of indexes is
none of them: a run puts its own in its place. -/
def Tells (films : Catalog) (extra : Fields) : Prop :=
  ∀ name v, (name, v) ∈ Keyed.putAll [("row_count", .int films.length)] extra →
    name ≠ "indexes" → v.writable = true

theorem tells_count (short : Writable films.length) : Tells films [] := by
  intro name v member other
  obtain ⟨rfl, rfl⟩ := Prod.mk.inj (List.mem_singleton.1 member)
  exact Number.writable_iff.2 short

theorem told_iff {extra : Fields} :
    Told (Service.ofSettings s) extra films ↔ Writable s.nlist ∧ Tells films extra := by
  have distinct : Keyed.Distinct (Service.rowStats extra (indexed (Service.ofSettings s) films)) :=
    Keyed.Distinct.ofList (("row_count", _) :: extra)
  have rows : Service.rowStats extra (indexed (Service.ofSettings s) films) =
      Keyed.putAll [("row_count", .int films.length)] extra := by
    rw [Service.rowStats, indexed, filled, List.length_map]
  have entries : (Value.list (((indexed (Service.ofSettings s) films).entries
      (Service.ofSettings s).collection).map IndexEntry.toValue)).writable = true ↔
        Writable s.nlist := by
    rw [← Number.writable_iff]
    simp [indexed, madeIndex, Collection.entries, IndexEntry.toValue, Service.indexParams,
      Service.ofSettings, Value.writable_list_iff, Value.writable_record_iff]
  rw [Told, Value.writable_record_iff, statistics]
  constructor
  · intro told
    refine ⟨entries.1 (told _ ((Keyed.mem_put_iff distinct).2 (.inl ⟨rfl, rfl⟩))), ?_⟩
    intro name v member other
    exact told (name, v) ((Keyed.mem_put_iff distinct).2 (.inr ⟨other.symm, rows ▸ member⟩))
  · rintro ⟨short, told⟩ ⟨name, v⟩ member
    rcases (Keyed.mem_put_iff distinct).1 member with ⟨-, rfl⟩ | ⟨other, member⟩
    · exact entries.2 short
    · exact told name v (rows ▸ member) other.symm

/-! ## The run -/

/-- A run none of whose calls fails returns, or it fails because its settings lack something or
its statistics cannot be written. Then its collection has been made anew, unless it has not
connected. -/
theorem run_undisturbed_cases (pos : s.Positive)
    (read : Catalog.read around.files s.dimension s.csvPath = .ok films)
    (undisturbed : Undisturbed s around before) :
    ((s.Sufficient around.memory ∧ Tells films before.server.extraStats) ∧
      ∃ hits, (run s around before).1 = .ok hits) ∨
    ∃ e, (run s around before).1 = .error e ∧
      (s.Lacks around.memory e ∨
        ¬ Tells films before.server.extraStats ∧ e = .number .tooManyDigits) ∧
      (Writable s.milvusPort → ∃ loaded,
        Keyed.get? s.collectionName (run s around before).2.server.collections =
          some { indexed (Service.ofSettings s) films with loaded }) := by
  rw [undisturbed.run_eq]
  by_cases port : Writable s.milvusPort
  swap
  · rw [run_portUnwritable before.unplanned read port]
    exact .inr ⟨_, rfl, .inl (.port port), fun h => absurd h port⟩
  rcases run_cases (rfl : before.unplanned.plan = Plan.none) read port with
    ⟨untold, out⟩ | ⟨e, -, cause, out⟩ | ⟨request, hits, told, made, -, out⟩
  · rw [out]
    refine .inr ⟨_, rfl, ?_, fun _ => ⟨false, Server.get?_putCollection⟩⟩
    by_cases nlist : Writable s.nlist
    · exact .inr ⟨fun tells => untold (told_iff.2 ⟨nlist, tells⟩), rfl⟩
    · exact .inl (.nlist nlist)
  · rw [out]
    refine .inr ⟨e, rfl, .inl ?_, fun _ => ⟨true, Server.get?_putCollection⟩⟩
    rcases request_cases pos around with ⟨⟨_, made⟩, -⟩ | ⟨e', cause', lacks⟩
    · cases made.symm.trans cause
    · exact Except.error.inj (cause'.symm.trans cause) ▸ lacks
  · rw [out]
    refine .inl ⟨?_, hits, rfl⟩
    obtain ⟨nlist, tells⟩ := told_iff.1 told
    rcases request_cases pos around with ⟨-, requestable⟩ | ⟨e, cause, -⟩
    · exact ⟨⟨requestable, port, nlist⟩, tells⟩
    · cases made.symm.trans cause

theorem sufficient_of_returned (pos : s.Positive)
    (read : Catalog.read around.files s.dimension s.csvPath = .ok films)
    {hits : List (List Hit)} (returned : (run s around before).1 = .ok hits) :
    s.Sufficient around.memory ∧ Tells films before.server.extraStats := by
  rcases run_undisturbed_cases pos read (undisturbed_of_returned returned) with
    ⟨enough, -⟩ | ⟨e, failed, -⟩
  · exact enough
  · cases failed.symm.trans returned

theorem returned_of_sufficient (pos : s.Positive)
    (read : Catalog.read around.files s.dimension s.csvPath = .ok films)
    (enough : s.Sufficient around.memory) (tells : Tells films before.server.extraStats)
    (undisturbed : Undisturbed s around before) : ∃ hits, (run s around before).1 = .ok hits := by
  rcases run_undisturbed_cases pos read undisturbed with
    ⟨-, returned⟩ | ⟨e, -, lacks | ⟨untold, -⟩, -⟩
  · exact returned
  · exact absurd enough lacks.not_sufficient
  · exact absurd tells untold

/-- Whichever calls are to fail, the failure of a run with all that it needs is that of a
call. -/
theorem refused_of_sufficient (pos : s.Positive)
    (read : Catalog.read around.files s.dimension s.csvPath = .ok films)
    (enough : s.Sufficient around.memory) (tells : Tells films before.server.extraStats)
    {e : Failure} (failed : (run s around before).1 = .error e) :
    ∃ message, e = .server (.refused message) := by
  cases connects : before.plan (before.calls ++ [connectCall s]) with
  | some message =>
      rw [run_unconnected before read enough.port connects] at failed
      exact ⟨message, (Except.error.inj failed).symm⟩
  | none =>
      obtain ⟨done, closing, cleans⟩ := cleansUp read enough.port connects
      cases cleans.stops with
      | refused _ _ _ raised => exact ⟨_, Except.error.inj (failed.symm.trans raised)⟩
      | byItself _ _ _ cause result raised =>
          by_cases disconnects : before.plan (run s around before).2.calls = none
          · cases cause e ((result disconnects).symm.trans failed) with
            | statistics untold => exact absurd (told_iff.2 ⟨enough.nlist, tells⟩) untold
            | request unrequested =>
                obtain ⟨r, hr⟩ := request_of_sufficient pos enough
                cases hr.symm.trans unrequested
          · obtain ⟨message, raised⟩ := raised disconnects
            exact ⟨message, Except.error.inj (failed.symm.trans raised)⟩

/-- A run none of whose calls fails returns exactly if its settings are sufficient and the
server's statistics can be written. If so, nothing but a call can make a run fail, and on a server
that breaks off searches whose squares are too large it does so exactly if a film is too far. If
not, the run fails for what is lacking alone, and unless that is the port, after it has replaced
the collection. -/
theorem run_returns_iff_sufficient {src : Sources} {s : Settings}
    (valid : Settings.load src = .ok s) {around : Surroundings} {films : Catalog}
    (read : Catalog.read around.files s.dimension s.csvPath = .ok films) (before : Session) :
    let enough := s.Sufficient around.memory ∧ Tells films before.server.extraStats
    (Undisturbed s around before → ((∃ hits, (run s around before).1 = .ok hits) ↔ enough)) ∧
    (enough → ∀ e, (run s around before).1 = .error e →
      ∃ message, e = .server (.refused message)) ∧
    (before.plan = Plan.overflow →
      ((∃ hits, (run s around before).1 = .ok hits) ↔ enough ∧ Near s around films)) ∧
    (Undisturbed s around before → ¬ enough → ∃ e, (run s around before).1 = .error e ∧
      (s.Lacks around.memory e ∨
        ¬ Tells films before.server.extraStats ∧ e = .number .tooManyDigits) ∧
      (Writable s.milvusPort → ∃ loaded,
        Keyed.get? s.collectionName (run s around before).2.server.collections =
          some { indexed (Service.ofSettings s) films with loaded })) := by
  intro enough
  have pos := Settings.positive_of_load valid
  have needed {hits : List (List Hit)} (returned : (run s around before).1 = .ok hits) : enough :=
    sufficient_of_returned pos read returned
  refine ⟨fun undisturbed => ⟨fun ⟨_, returned⟩ => needed returned, fun enough => ?_⟩,
    fun enough e => refused_of_sufficient pos read enough.1 enough.2,
    fun plan => ⟨fun ⟨_, returned⟩ => ?_, fun ⟨enough, near⟩ => ?_⟩,
    fun undisturbed lacking => ?_⟩
  · exact returned_of_sufficient pos read enough.1 enough.2 undisturbed
  · exact ⟨needed returned, near_of_returned read (needed returned).1.port plan returned⟩
  · exact returned_of_sufficient pos read enough.1 enough.2
      (undisturbed_of_near read enough.1.port plan near)
  · rcases run_undisturbed_cases pos read undisturbed with ⟨enough, -⟩ | failed
    · exact absurd enough lacking
    · exact failed

/-- The defaults are enough, here for an empty film file. -/
theorem run_returns_defaults :
    let around : Surroundings := { files := fun _ => .ok ByteArray.empty }
    Undisturbed Settings.defaults around {} ∧
      ∃ hits, (run Settings.defaults around {}).1 = .ok hits := by
  intro around
  have undisturbed : Undisturbed Settings.defaults around {} := undisturbed_of_unplanned rfl
  refine ⟨undisturbed, ((run_returns_iff_sufficient Settings.load_nothing rfl {}).1 undisturbed).2
    ⟨⟨⟨by decide, by decide, nofun, by decide, by decide⟩, by decide, by decide⟩,
      tells_count (by decide)⟩⟩

/-- An empty list of years and a negative seed are accepted, and with neither a run returns. -/
theorem run_acceptedInsufficient :
    let around : Surroundings := { files := fun _ => .ok ByteArray.empty }
    let noYears : Settings := { Settings.defaults with releaseYears := [] }
    let negative : Settings := { Settings.defaults with querySeed := some (-1) }
    (Settings.load { environment := [("FILMS_DEMO_RELEASE_YEARS", "[]")] } = .ok noYears ∧
      Settings.load { given := [("query_seed", .int (-1))] } = .ok negative) ∧
    ∀ s, s = noYears ∨ s = negative →
      Catalog.read around.files s.dimension s.csvPath = .ok [] ∧
        ∀ hits, (run s around ({} : Session).unplanned).1 ≠ .ok hits := by
  intro around noYears negative
  have accepted : Settings.load { environment := [("FILMS_DEMO_RELEASE_YEARS", "[]")] } =
      .ok noYears ∧ Settings.load { given := [("query_seed", .int (-1))] } = .ok negative :=
    ⟨rfl, rfl⟩
  refine ⟨accepted, fun s hs => ?_⟩
  have read : Catalog.read around.files s.dimension s.csvPath = .ok [] := by
    rcases hs with rfl | rfl <;> rfl
  have pos : s.Positive := by
    rcases hs with rfl | rfl
    · exact Settings.positive_of_load accepted.1
    · exact Settings.positive_of_load accepted.2
  refine ⟨read, fun hits returned => ?_⟩
  have enough := (sufficient_of_returned pos read returned).1
  rcases hs with rfl | rfl
  · exact enough.named rfl
  · exact absurd (enough.seed (-1) rfl) (by decide)

end Run
end FilmIndex
