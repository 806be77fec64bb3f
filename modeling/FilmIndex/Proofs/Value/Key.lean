import FilmIndex.Hit.Basic
import FilmIndex.Proofs.Number.Equality

/-!
Values as keys. Among values that can be keys sameness is having one key in common: numbers
and truth values have their size as a key, and no number has none. So it is symmetric and
transitive there, although it compares values of different kinds.
-/

namespace FilmIndex
namespace Value
open Number Double
open Titles (IsKey)

/-- What values are told apart by, as far as they can be keys. -/
inductive Key where
  | null
  | number (size : Size)
  | text (s : String)

def wholeKey (n : Int) : Key := .number (.steps (n * twoPow unitExponent))

def key? : Value → Option Key
  | null => some .null
  | bool b => some (wholeKey (truthInt b))
  | int n => some (wholeKey n)
  | float x => (ofFloat x).size?.map .number
  | text s => some (.text s)
  | list _ | record _ => none

theorem wholeKey_inj {m n : Int} : wholeKey m = wholeKey n ↔ m = n := by
  have positive : (twoPow unitExponent : Int) ≠ 0 := by
    exact_mod_cast (Nat.two_pow_pos unitExponent).ne'
  simp only [wholeKey, Key.number.injEq, Size.steps.injEq, Int.mul_eq_mul_right_iff positive]

theorem intIsFloat_iff {n : Int} {x : Float} :
    intIsFloat n x = true ↔ (float x).key? = some (wholeKey n) := by
  rw [intIsFloat, beq_iff_eq, toInt?_eq_some_iff, key?, wholeKey]
  simp

theorem truthInt_inj {a b : Bool} : truthInt a = truthInt b ↔ a = b := by
  cases a <;> cases b <;> decide

theorem same_iff_key {a b : Value} (h : IsKey b) :
    a.same b = true ↔ ∃ k, a.key? = some k ∧ b.key? = some k := by
  have common {k k' : Key} : (∃ x, some k = some x ∧ some k' = some x) ↔ k = k' := by
    constructor
    · rintro ⟨_, h, h'⟩
      exact Option.some.inj (h.trans h'.symm)
    · rintro rfl
      exact ⟨k, rfl, rfl⟩
  cases b with
  | list | record => cases h
  | null => cases a <;> simp [same, key?, wholeKey]
  | text t =>
      cases a with
      | text s => simp only [same, key?, common, Key.text.injEq, beq_iff_eq]
      | _ => simp [same, key?, wholeKey]
  | int n =>
      cases a with
      | bool | int => simp only [same, key?, common, wholeKey_inj, beq_iff_eq]
      | float x => simp [same, intIsFloat_iff, key?]
      | _ => simp [same, key?, wholeKey]
  | bool b =>
      cases a with
      | bool c => simp only [same, key?, common, wholeKey_inj, truthInt_inj, beq_iff_eq]
      | int m => simp only [same, key?, common, wholeKey_inj, beq_iff_eq]
      | float x => simp [same, intIsFloat_iff, key?]
      | _ => simp [same, key?, wholeKey]
  | float x =>
      cases a with
      | bool | int => simp [same, key?, intIsFloat_iff]
      | float y => simp [same, beq_iff_size, key?]
      | _ => simp [same, key?]

/-- Two values that are the same as a third are the same. -/
theorem same_of_same {a b c : Value} (hb : IsKey b) (hc : IsKey c) (h : a.same c = true)
    (h' : b.same c = true) : a.same b = true := by
  obtain ⟨k, ha, hk⟩ := (same_iff_key hc).1 h
  obtain ⟨k', hb', hk'⟩ := (same_iff_key hc).1 h'
  obtain rfl : k = k' := Option.some.inj (hk.symm.trans hk')
  exact (same_iff_key hb).2 ⟨k, ha, hb'⟩

end Value
end FilmIndex
