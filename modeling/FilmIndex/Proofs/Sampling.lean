import FilmIndex.Proofs.Number.Exact
import FilmIndex.Sampling

/-!
Random vectors as one stream. An output of the generator gives two words, and what is left of
it at the end of a row is the first word of the next row. So rows are cut from one stream that
the seed alone decides: a value depends on its place there and not on the length of the rows,
and is a fraction of 24 bits. Memory decides whether there are vectors, and not which ones.
-/

namespace FilmIndex
namespace Sampling
open Number Double

/-! ## Drawing words -/

/-- A generator, and the half of its last output that no word has taken yet. -/
structure Source where
  generator : Generator
  kept : Option Nat

namespace Source

/-- A word is what was kept, or else the low half of a new output, whose high half is kept. -/
def next : Source → Nat × Source
  | ⟨g, some high⟩ => (high, ⟨g, none⟩)
  | ⟨g, none⟩ => (g.next.output % twoPow 32, ⟨g.next, some (g.next.output / twoPow 32)⟩)

def words (s : Source) : Nat → List Nat × Source
  | 0 => ([], s)
  | count + 1 =>
    let later := s.next.2.words count
    (s.next.1 :: later.1, later.2)

/-- Rows drawn one after another, each from what the one before has left. -/
def rows (s : Source) (dim : Nat) : Nat → List (List Nat)
  | 0 => []
  | count + 1 => (s.words dim).1 :: (s.words dim).2.rows dim count

theorem length_words (s : Source) (count : Nat) : (s.words count).1.length = count := by
  induction count generalizing s with
  | zero => rfl
  | succ count ih => exact congrArg Nat.succ (ih s.next.2)

theorem words_add (s : Source) (m n : Nat) :
    s.words (m + n) = ((s.words m).1 ++ ((s.words m).2.words n).1, ((s.words m).2.words n).2) := by
  induction m generalizing s with
  | zero => rw [Nat.zero_add]; rfl
  | succ m ih => simp only [Nat.succ_add, words, ih, List.cons_append]

/-- Drawing row after row and cutting what is drawn at once come to the same. -/
theorem rows_words (s : Source) (dim count : Nat) :
    Sampling.rows dim count (s.words (count * dim)).1 = s.rows dim count := by
  induction count generalizing s with
  | zero => rfl
  | succ count ih =>
      rw [Nat.succ_mul, Nat.add_comm (count * dim), words_add, Sampling.rows, rows,
        List.take_left' (s.length_words dim), List.drop_left' (s.length_words dim), ih]

end Source

/-- The source of a seed, before anything is drawn. -/
def source (seed : Nat) : Source := ⟨Generator.ofSeed seed, none⟩

theorem wordsFrom_eq (g : Generator) (count : Nat) :
    wordsFrom g count = ((Source.mk g none).words count).1 := by
  induction g, count using wordsFrom.induct with
  | case1 | case2 => rfl
  | case3 g count ih => simp only [wordsFrom, Source.words, Source.next, ih]

theorem rows_map {α β : Type} (f : α → β) (dim count : Nat) (xs : List α) :
    rows dim count (xs.map f) = (rows dim count xs).map (List.map f) := by
  induction count generalizing xs with
  | zero => rfl
  | succ count ih => rw [rows, rows, ← List.map_take, ← List.map_drop, ih, List.map_cons]

/-! ## Memory -/

namespace Memory

theorem allocate_unlimited {sizes : List Int} (h : ∀ size ∈ sizes, 0 ≤ size) :
    unlimited.allocate sizes = .ok () :=
  if_neg fun negative => by
    obtain ⟨size, hmem, hsize⟩ := List.any_eq_true.1 negative
    exact Int.not_lt.2 (h size hmem) (of_decide_eq_true hsize)

theorem byteCount_row {dim : Nat} (positive : 0 < dim) :
    byteCount 4 [1, (dim : Int)] =
      if 2 ^ 63 ≤ 4 * dim then .error .tooManyBytes else .ok (4 * dim) := by
  simp only [byteCount, Int.toNat_natCast, Int.toNat_one, Nat.mul_one, wordLimit, twoPow_eq]
  rw [if_neg (by decide), if_neg (by decide), if_neg (by decide), if_neg (by omega),
    if_neg (by omega)]

theorem isWord_iff {n : Int} : isWord n = true ↔ -2 ^ 63 ≤ n ∧ n < 2 ^ 63 := by
  rw [isWord, decide_eq_true_eq, wordLimit, twoPow_eq, Nat.cast_pow, Nat.cast_ofNat]

theorem all_isWord_row (dim : Nat) : [1, (dim : Int)].all isWord = decide (dim < 2 ^ 63) := by
  rw [Bool.eq_iff_iff, List.all_cons, List.all_cons, List.all_nil, Bool.and_true,
    Bool.and_eq_true, isWord_iff, isWord_iff, decide_eq_true_eq]
  omega

/-- The bytes of a row of numbers of 32 bits have to be a word, and there have to be as many. -/
theorem allocate_row {dim : Nat} (positive : 0 < dim) (count : Nat) :
    (bytes count).allocate [1, (dim : Int)] =
      if 2 ^ 63 ≤ dim then .error .sizeTooLarge
      else if 2 ^ 63 ≤ 4 * dim then .error .tooManyBytes
      else if count < 4 * dim then .error .noMemory
      else .ok () := by
  rw [allocate, all_isWord_row, byteCount_row positive]
  by_cases size : 2 ^ 63 ≤ dim
  · rw [if_pos size, decide_eq_false (Nat.not_lt.2 size)]
    rfl
  · rw [if_neg size, decide_eq_true (Nat.not_le.1 size), if_neg (by decide)]
    by_cases word : 2 ^ 63 ≤ 4 * dim
    · rw [if_pos word, if_pos word]
    · rw [if_neg word, if_neg word]

end Memory

theorem vectors_eq (seed count dim : Nat) (memory : Memory) :
    vectors count dim seed memory =
      (memory.allocate [(count : Int), dim]).map fun _ =>
        ((source seed).rows dim count).map (List.map fraction) := by
  rw [vectors, if_neg (by omega), fractions, rows_map, wordsFrom_eq]
  cases memory.allocate [(count : Int), dim] with
  | error => rfl
  | ok =>
      simp only [Int.toNat_natCast, Source.rows_words]
      rfl

/-- One vector of the given dimension. -/
theorem vectors_one {dim seed : Int} {memory : Memory} (hseed : 0 ≤ seed) (hdim : 0 ≤ dim)
    (room : memory.allocate [1, dim] = .ok ()) :
    ∃ v : List Float, vectors 1 dim seed memory = .ok [v] ∧ (v.length : Int) = dim := by
  lift seed to Nat using hseed
  lift dim to Nat using hdim
  refine ⟨_, (vectors_eq seed 1 dim memory).trans (by rw [Nat.cast_one, room]; rfl), ?_⟩
  rw [List.length_map, Source.length_words]

theorem vectors_one_ok {dim seed : Int} {memory : Memory} {vs : List (List Float)}
    (h : vectors 1 dim seed memory = .ok vs) : ∃ v, vs = [v] := by
  rw [vectors] at h
  split at h
  · cases h
  · split at h
    · cases h
    · cases h
      exact ⟨_, rfl⟩

theorem vectors_negativeSeed {count dim seed : Int} {memory : Memory} (h : seed < 0) :
    vectors count dim seed memory = .error .negativeSeed := if_pos h

theorem vectors_noRoom {count dim seed : Int} {memory : Memory} {e : Error} (hseed : 0 ≤ seed)
    (full : memory.allocate [count, dim] = .error e) :
    vectors count dim seed memory = .error e := by
  rw [vectors, if_neg (Int.not_lt.2 hseed), full]

/-! ## Places in the stream -/

namespace Generator

/-- The outputs of a generator, numbered from zero. -/
def outputAt (g : Generator) (i : Nat) : Nat := (next^[i + 1] g).output

/-- The word at a place. An output fills two places, the first of them with its low half. -/
def word (g : Generator) (place : Nat) : Nat :=
  if place % 2 = 0 then g.outputAt (place / 2) % twoPow 32 else g.outputAt (place / 2) / twoPow 32

variable (g : Generator)

theorem word_even (i : Nat) : g.word (2 * i) = g.outputAt i % twoPow 32 := by
  rw [word, if_pos (by omega), Nat.mul_div_cancel_left i two_pos]

theorem word_odd (i : Nat) : g.word (2 * i + 1) = g.outputAt i / twoPow 32 := by
  rw [word, if_neg (by omega), show (2 * i + 1) / 2 = i by omega]

theorem output_lt : g.output < 2 ^ 64 := Nat.mod_lt _ (Nat.two_pow_pos 64)

theorem word_lt (place : Nat) : g.word place < 2 ^ 32 := by
  have hlt : g.outputAt (place / 2) < 2 ^ 64 := output_lt _
  rw [word, twoPow_eq]
  split <;> omega

end Generator

namespace Source
open Generator

/-- What a source has become when all places before the given one are drawn. -/
def after (g : Generator) (place : Nat) : Source :=
  ⟨Generator.next^[(place + 1) / 2] g, if place % 2 = 0 then none else some (g.word place)⟩

variable (g : Generator)

theorem after_even (i : Nat) : after g (2 * i) = ⟨Generator.next^[i] g, none⟩ := by
  rw [after, if_pos (by omega), show (2 * i + 1) / 2 = i by omega]

theorem after_odd (i : Nat) :
    after g (2 * i + 1) = ⟨Generator.next^[i + 1] g, some (g.outputAt i / twoPow 32)⟩ := by
  rw [after, if_neg (by omega), word_odd, show (2 * i + 1 + 1) / 2 = i + 1 by omega]

/-- One word more: the half that is kept tells the places apart. -/
theorem next_after (place : Nat) : (after g place).next = (g.word place, after g (place + 1)) := by
  obtain ⟨i, rfl | rfl⟩ := Nat.even_or_odd' place
  · rw [after_even, after_odd, next, word_even, outputAt, Function.iterate_succ_apply']
  · rw [after_odd, next, word_odd, show 2 * i + 1 + 1 = 2 * (i + 1) by omega, after_even]

theorem words_after (place count : Nat) :
    (after g place).words count =
      ((List.range' place count).map g.word, after g (place + count)) := by
  induction count generalizing place with
  | zero => rfl
  | succ count ih =>
      rw [words, next_after, ih, List.range'_succ, List.map_cons, Nat.add_assoc, Nat.add_comm 1]

theorem rows_after (place dim count : Nat) :
    (after g place).rows dim count =
      (List.range count).map fun i => (List.range' (place + i * dim) dim).map g.word := by
  induction count generalizing place with
  | zero => rfl
  | succ count ih =>
      have shift (i : Nat) : place + dim + i * dim = place + (i + 1) * dim := by
        rw [Nat.succ_mul, Nat.add_comm (i * dim), Nat.add_assoc]
      rw [rows, words_after, ih, List.range_succ_eq_map, List.map_cons, List.map_map, Nat.zero_mul,
        Nat.add_zero]
      simp only [shift, Function.comp_def, Nat.succ_eq_add_one]

end Source

/-- The value at a place of the stream of a seed. -/
def entry (seed place : Nat) : Float := fraction ((Generator.ofSeed seed).word place)

theorem number?_entry (seed place : Nat) :
    ∃ k : Nat, k < 2 ^ 24 ∧ (ofFloat (entry seed place)).number? = some (k / 2 ^ 24 : ℚ) := by
  have hword : (Generator.ofSeed seed).word place < 2 ^ 32 := Generator.word_lt _ place
  have hk : (Generator.ofSeed seed).word place / 2 ^ 8 < 2 ^ 24 := by omega
  have hexponent : 24 ≤ unitExponent := by rw [unitExponent]; decide
  exact ⟨_, hk, number?_nearestRank (Nat.lt_trans hk (by decide)) hexponent⟩

theorem rows_entries (seed count dim : Nat) :
    ((source seed).rows dim count).map (List.map fraction) =
      (List.range count).map fun i => (List.range' (i * dim) dim).map (entry seed) := by
  have hsource : source seed = Source.after (Generator.ofSeed seed) 0 := rfl
  rw [hsource, Source.rows_after, List.map_map]
  simp only [Function.comp_def, List.map_map, Nat.zero_add]
  rfl

/-- The vectors of a request. They are given whenever there is memory for them, and without a
limit on the memory always. -/
structure Gives (count dim seed : Nat) (vs : List (List Float)) : Prop where
  unlimited : vectors count dim seed .unlimited = .ok vs
  limited : ∀ memory, vectors count dim seed memory =
    (memory.allocate [(count : Int), dim]).map fun _ => vs

theorem gives_rows (count dim seed : Nat) :
    Gives count dim seed (((source seed).rows dim count).map (List.map fraction)) where
  unlimited := by
    have room : Memory.unlimited.allocate [(count : Int), dim] = .ok () :=
      Memory.allocate_unlimited (by simp)
    rw [vectors_eq, room]
    rfl
  limited := vectors_eq seed count dim

theorem gives_entries (count dim seed : Nat) :
    Gives count dim seed
      ((List.range count).map fun i => (List.range' (i * dim) dim).map (entry seed)) :=
  rows_entries seed count dim ▸ gives_rows count dim seed

/-- Rows are drawn one after another from one source, so a value is the one at its place in the
stream of the seed, which is also that of any single row that reaches the place. It is an exact
fraction of 24 bits. And rows of one length are the first ones of every larger request. -/
theorem vectors_rowMajor (seed count dim : Nat) :
    ∃ vs, Gives count dim seed vs ∧ vs.length = count ∧
      vs = ((source seed).rows dim count).map (List.map fraction) ∧
      (∀ v ∈ vs, v.length = dim ∧
        ∀ x ∈ v, ∃ k : Nat, k < 2 ^ 24 ∧ (ofFloat x).number? = some (k / 2 ^ 24 : ℚ)) ∧
      (∀ i < count, ∀ j < dim, vs[i]?.bind (·[j]?) = some (entry seed (i * dim + j)) ∧
        ∀ n > i * dim + j, ∃ single, Gives 1 n seed [single] ∧
          single[i * dim + j]? = some (entry seed (i * dim + j))) ∧
      ∀ more ≥ count, ∃ vs', Gives more dim seed vs' ∧ vs <+: vs' := by
  refine ⟨_, gives_entries count dim seed, by simp, (rows_entries seed count dim).symm, ?_, ?_, ?_⟩
  · intro v hv
    obtain ⟨i, -, rfl⟩ := List.mem_map.1 hv
    refine ⟨by simp, fun x hx => ?_⟩
    obtain ⟨place, -, rfl⟩ := List.mem_map.1 hx
    exact number?_entry seed place
  · intro i hi j hj
    refine ⟨by simp [hi, hj], fun n hn => ⟨_, gives_entries 1 n seed, ?_⟩⟩
    simp [hn]
  · intro more hmore
    obtain ⟨extra, rfl⟩ := Nat.exists_eq_add_of_le hmore
    refine ⟨_, gives_entries (count + extra) dim seed, ?_⟩
    rw [List.range_add, List.map_append]
    exact List.prefix_append _ _

/-- Two rows of three. Half of the second output ends the first row, and the other half begins
the second one. -/
theorem vectors_rowMajor_odd :
    (Generator.ofSeed 1).outputAt 1 = 4082210491 * 2 ^ 32 + 3243419750 ∧
      ∃ vs, Gives 2 3 1 vs ∧ vs[0]?.bind (·[2]?) = some 0.7551674842834473 ∧
        vs[1]?.bind (·[0]?) = some 0.9504636526107788 ∧
        ∃ single, Gives 1 4 1 [single] ∧ single[3]? = some 0.9504636526107788 := by
  obtain ⟨vs, sampled, -, -, -, places, -⟩ := vectors_rowMajor 1 2 3
  have low : entry 1 2 = 0.7551674842834473 := by decide +kernel
  have high : entry 1 3 = 0.9504636526107788 := by decide +kernel
  obtain ⟨ends, -⟩ := places 0 (by decide) 2 (by decide)
  obtain ⟨begins, alone⟩ := places 1 (by decide) 0 (by decide)
  obtain ⟨single, reaches, same⟩ := alone 4 (by decide)
  exact ⟨by decide +kernel, vs, sampled, low ▸ ends, high ▸ begins, single, reaches, high ▸ same⟩

end Sampling
end FilmIndex
