import FilmIndex.Program.CommandLine

/-!
What a command line gives. Its words are accepted if they are options of the program, each
with an argument that its setting can take; of several options of a setting the last one
counts.
-/

namespace FilmIndex

namespace CommandLine

/-- The settings that some words give, in the order of the words. -/
inductive Taken : List Word → List (Setting × Value) → Prop
  | nil : Taken [] []
  | joined {f : Flag} {long : Bool} {a : List Char} {s : Setting} {v : Value} {ws : List Word}
      {vs : List (Setting × Value)} (sets : f.setting? = some s)
      (value : argumentValue f true (String.ofList a) = .ok v) (rest : Taken ws vs) :
      Taken (.flag f long (some a) :: ws) ((s, v) :: vs)
  | apart {f : Flag} {long : Bool} {w : String} {s : Setting} {v : Value} {ws : List Word}
      {vs : List (Setting × Value)} (sets : f.setting? = some s)
      (value : argumentValue f false w = .ok v) (rest : Taken ws vs) :
      Taken (.flag f long none :: .argument w :: ws) ((s, v) :: vs)

theorem give_eq_ok_iff (f : Flag) (s : Setting) (joined : Bool) (a : String)
    (given given' : Given) : give f s joined a given = .ok given' ↔
      ∃ v, argumentValue f joined a = .ok v ∧ given' = Keyed.put s v given := by
  rw [give]
  cases argumentValue f joined a with
  | error e => simp
  | ok v => simp [eq_comm]

theorem taken_of_takeWords {ws : List Word} {given given' : Given} {extra : List String}
    (h : takeWords given extra ws = .ok given') :
    extra = [] ∧ ∃ vs, Taken ws vs ∧ given' = Keyed.putAll given vs := by
  fun_induction takeWords given extra ws with
  | case1 given extra none =>
      cases h
      exact ⟨List.isEmpty_iff.1 none, [], .nil, rfl⟩
  | case2 | case6 | case7 | case9 | case10 | case12 | case13 => cases h
  | case3 _ _ _ _ ih | case4 _ _ _ _ ih | case5 _ _ _ _ ih => cases (ih h).1
  | case8 given extra f long a ws s sets given₁ gives ih =>
      obtain ⟨v, value, rfl⟩ := (give_eq_ok_iff ..).1 gives
      obtain ⟨none, vs, taken, rfl⟩ := ih h
      exact ⟨none, _, .joined sets value taken, rfl⟩
  | case11 given extra f long w ws s sets given₁ gives ih =>
      obtain ⟨v, value, rfl⟩ := (give_eq_ok_iff ..).1 gives
      obtain ⟨none, vs, taken, rfl⟩ := ih h
      exact ⟨none, _, .apart sets value taken, rfl⟩

theorem takeWords_of_taken {ws : List Word} {vs : List (Setting × Value)} (taken : Taken ws vs)
    (given : Given) : takeWords given [] ws = .ok (Keyed.putAll given vs) := by
  induction taken generalizing given with
  | nil => rfl
  | joined sets value _ ih | apart sets value _ ih =>
      simp only [takeWords, sets, give, value]
      exact ih _

/-- What a command line gives is what its options give one after the other, of which there
are no other words. -/
theorem parse_eq_ok_iff (words : List String) (given : Given) :
    parse words = .ok given ↔
      ∃ ws vs, sortWords words = .ok ws ∧ Taken ws vs ∧ given = Keyed.ofList vs := by
  rw [parse]
  cases sortWords words with
  | error e => simp
  | ok ws =>
      constructor
      · intro h
        obtain ⟨-, vs, taken, rfl⟩ := taken_of_takeWords h
        exact ⟨ws, vs, rfl, taken, rfl⟩
      · rintro ⟨_, vs, sorted, taken, rfl⟩
        cases sorted
        exact takeWords_of_taken taken []

/-- The value that is given last for a setting. -/
def lastOf (k : Setting) (vs : List (Setting × Value)) : Option Value :=
  (vs.reverse.find? (·.1 == k)).map (·.2)

/-! ## Words that are options -/

theorem mem_flags_of_mem_names {p : String × Flag} (h : p ∈ names) : p.2 ∈ flags := by
  obtain ⟨f, hf, hp⟩ := List.mem_flatMap.1 h
  obtain ⟨n, -, rfl⟩ := List.mem_map.1 hp
  exact hf

theorem mem_flags_of_named? {name : List Char} {f : Flag} (h : named? name = some f) :
    f ∈ flags := by
  obtain ⟨p, found, rfl⟩ := Option.map_eq_some_iff.1 h
  exact mem_flags_of_mem_names (List.mem_of_find?_eq_some found)

/-- An option among sorted words is one of the program's. -/
def Word.Known : Word → Prop
  | flag f _ _ => f ∈ flags
  | _ => True

theorem known_of_candidates {cs : List Char} : ∀ p ∈ candidates cs, p.2.Known := by
  intro p mem
  rw [candidates] at mem
  split at mem
  all_goals
    obtain ⟨q, hq, rfl⟩ := List.mem_map.1 mem
    exact mem_flags_of_mem_names (List.mem_filter.1 hq).1

theorem known_of_sortWord {word : String} {w : Word} (h : sortWord word = .ok w) : w.Known := by
  simp only [sortWord] at h
  split at h
  · cases h
    trivial
  · split at h
    · rename_i f named
      cases h
      exact mem_flags_of_named? named
    · split at h
      · cases h
        trivial
      · split at h
        · rename_i w' joined
          cases h
          obtain ⟨a, -, found⟩ := Option.bind_eq_some_iff.1 joined
          obtain ⟨f, named, rfl⟩ := Option.map_eq_some_iff.1 found
          exact mem_flags_of_named? named
        · split at h
          · rename_i p w' only
            cases h
            exact known_of_candidates _ (only ▸ List.mem_singleton_self _)
          · split at h <;>
              cases h <;> trivial
          · cases h

theorem known_of_sortWords {words : List String} {ws : List Word} (h : sortWords words = .ok ws) :
    ∀ w ∈ ws, w.Known := by
  induction words generalizing ws with
  | nil =>
      cases h
      exact List.forall_mem_nil _
  | cons word rest ih =>
      rw [sortWords] at h
      split at h
      · cases h
        refine List.forall_mem_cons.2 ⟨trivial, fun w mem => ?_⟩
        obtain ⟨a, -, rfl⟩ := List.mem_map.1 mem
        exact trivial
      · cases first : sortWord word with
        | error e => simp [first] at h
        | ok w =>
            cases others : sortWords rest with
            | error e => simp [first, others, Except.map] at h
            | ok ws' =>
                simp only [first, others, Except.map] at h
                cases h
                exact List.forall_mem_cons.2 ⟨known_of_sortWord first, ih others⟩

/-- The values that an option can give a setting. Two minus signs as an argument in the
option's own word leave an empty list. -/
inductive Fits : Setting → Value → Prop
  | nothing {k : Setting} (h : k ∈ settings) : Fits k (.list [])
  | number {k : Setting} (h : k ∈ [Setting.milvusPort, .topK, .querySeed]) (n : Int) :
      Fits k (.int n)
  | text {k : Setting} (h : k ∈ [Setting.csvPath, .milvusHost, .collectionName, .logLevel])
      (t : String) : Fits k (.text t)

theorem not_fits_releaseYears {v : Value} : ¬ Fits .releaseYears v := by
  intro h
  cases h with
  | nothing h => exact absurd h (by decide)
  | number h n => exact absurd h (by decide)
  | text h t => exact absurd h (by decide)

theorem kind_of_flag {f : Flag} (known : f ∈ flags) {k : Setting} (sets : f.setting? = some k) :
    k ∈ if f.isNumber then [Setting.milvusPort, .topK, .querySeed]
      else [Setting.csvPath, .milvusHost, .collectionName, .logLevel] := by
  have each : ∀ f ∈ flags, f.setting?.all fun k => decide (k ∈ if f.isNumber
      then [Setting.milvusPort, .topK, .querySeed]
      else [Setting.csvPath, .milvusHost, .collectionName, .logLevel]) := by decide
  simpa [sets] using each f known

theorem fits_of_argumentValue {f : Flag} (known : f ∈ flags) {k : Setting}
    (sets : f.setting? = some k) {joined : Bool} {a : String} {v : Value}
    (h : argumentValue f joined a = .ok v) : Fits k v := by
  have kind := kind_of_flag known sets
  rw [argumentValue] at h
  split at h
  · cases h
    exact .nothing (List.mem_filterMap.2 ⟨f, known, sets⟩)
  · split at h
    · rename_i number
      rw [if_pos number] at kind
      split at h
      · cases h
        exact .number kind _
      · cases h
    · rename_i text
      rw [if_neg text] at kind
      cases h
      exact .text kind a

theorem fits_of_taken {ws : List Word} {vs : List (Setting × Value)} (taken : Taken ws vs)
    (known : ∀ w ∈ ws, w.Known) : ∀ p ∈ vs, Fits p.1 p.2 := by
  induction taken with
  | nil => exact List.forall_mem_nil _
  | joined sets value _ ih =>
      obtain ⟨first, rest⟩ := List.forall_mem_cons.1 known
      exact List.forall_mem_cons.2 ⟨fits_of_argumentValue first sets value, ih rest⟩
  | apart sets value _ ih =>
      obtain ⟨first, rest⟩ := List.forall_mem_cons.1 known
      exact List.forall_mem_cons.2 ⟨fits_of_argumentValue first sets value,
        ih (List.forall_mem_cons.1 rest).2⟩

end CommandLine

end FilmIndex
