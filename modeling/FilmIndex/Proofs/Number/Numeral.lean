import FilmIndex.Number.Layout
import FilmIndex.Number.Reading
import Mathlib.Algebra.Group.Nat.Defs
import Mathlib.Data.List.Induction

/-!
Whole numbers as they are written: a minus for a negative one, then its decimal digits.
Read as a numeral, what is written gives the number back.
-/

namespace FilmIndex
namespace Number
open Text

theorem toList_intText (n : Int) :
    (intText n).toList = (if n < 0 then ['-'] else []) ++ natText n.natAbs := by
  rw [intText, Int.toString_eq_repr, Int.repr_eq_if]
  by_cases h : n < 0
  · rw [if_pos h, if_neg (by omega), String.toList_append, Nat.toList_repr]
    have ha : (-n).toNat = n.natAbs := by omega
    rw [ha, natText]
    rfl
  · have ha : n.toNat = n.natAbs := by omega
    rw [if_neg h, if_pos (by omega), Nat.toList_repr, ha, natText]
    rfl

theorem withSign_natAbs (n : Int) : withSign (decide (n < 0)) n.natAbs = n := by
  rw [withSign]
  split
  next h => have := of_decide_eq_true h; omega
  next h => have := of_decide_eq_false (Bool.not_eq_true _ ▸ h); omega

theorem natAbs_withSign (negative : Bool) (n : Nat) : (withSign negative n).natAbs = n := by
  cases negative <;> simp [withSign]

theorem isDigit_of_mem_natText {n : Nat} {c : Char} (h : c ∈ natText n) : c.isDigit = true :=
  Nat.isDigit_of_mem_toDigits (by decide) (by decide) h

theorem isDigit_of_mem_replicate {n : Nat} {c : Char} (h : c ∈ List.replicate n '0') :
    c.isDigit = true := by
  rw [List.eq_of_mem_replicate h]
  rfl

theorem natText_ne_nil (n : Nat) : natText n ≠ [] := Nat.toDigits_ne_nil

/-- Whole numbers of at most 4300 digits. -/
def Writable (n : Int) : Prop := (Nat.toDigits 10 n.natAbs).length ≤ 4300

instance (n : Int) : Decidable (Writable n) := inferInstanceAs (Decidable (_ ≤ _))

theorem writable_iff {n : Int} : writable n = true ↔ Writable n := by
  rw [writable, decide_eq_true_eq]
  rfl

theorem toNat_le_of_isDigit {c : Char} (h : c.isDigit = true) : 48 ≤ c.toNat ∧ c.toNat ≤ 57 := by
  simp only [Char.isDigit, Bool.and_eq_true, decide_eq_true_eq] at h
  exact ⟨h.1, h.2⟩

theorem ofDigitChars_lt {ds : List Char} (hd : ∀ c ∈ ds, c.isDigit = true) :
    Nat.ofDigitChars 10 ds 0 < 10 ^ ds.length := by
  induction ds with
  | nil => simp
  | cons c ds ih =>
      have hc := (toNat_le_of_isDigit (hd c List.mem_cons_self)).2
      have ht := ih fun c' h' => hd c' (List.mem_cons_of_mem c h')
      have hm : 10 ^ ds.length * (c.toNat - 48) ≤ 10 ^ ds.length * 9 :=
        Nat.mul_le_mul_left _ (by omega)
      rw [Nat.ofDigitChars_cons, Nat.ofDigitChars_eq_ofDigitChars_zero, List.length_cons,
        Nat.pow_succ]
      simp only [Nat.mul_zero, Nat.zero_add, Char.reduceToNat]
      omega

/-- No run of digits for a number is shorter than the one that is written. -/
theorem length_natText_le {ds : List Char} (hne : ds ≠ []) (hd : ∀ c ∈ ds, c.isDigit = true) :
    (natText (Nat.ofDigitChars 10 ds 0)).length ≤ ds.length :=
  (Nat.length_toDigits_le_iff (by decide) (List.length_pos_iff.2 hne)).2 (ofDigitChars_lt hd)

def digitOf (c : Char) : Nat := c.toNat - 48

theorem digitValue?_of_isDigit {c : Char} (h : c.isDigit = true) :
    digitValue? c = some (digitOf c) := by
  obtain ⟨hlow, hhigh⟩ := toNat_le_of_isDigit h
  have hzero : (decide (0x30 ≤ c.toNat) && decide (c.toNat < 0x30 + 10)) = true := by
    simp only [Bool.and_eq_true, decide_eq_true_eq]
    omega
  have hfind : digitZeros.find? (fun z => decide (z ≤ c.toNat) && decide (c.toNat < z + 10)) =
      some 0x30 := List.find?_cons_of_pos hzero
  rw [digitValue?, hfind]
  rfl

theorem ne_of_isDigit {c c' : Char} (h : c.isDigit = true) (h' : c'.isDigit = false) : c ≠ c' := by
  rintro rfl
  rw [h] at h'
  cases h'

theorem digitsFrom_of_isDigit {cs : List Char} (h : ∀ c ∈ cs, c.isDigit = true) (read : List Nat) :
    digitsFrom digitValue? true read cs = some (read.reverse ++ cs.map digitOf) := by
  induction cs generalizing read with
  | nil => simp [digitsFrom]
  | cons c cs ih =>
      rw [List.forall_mem_cons] at h
      rw [digitsFrom, if_neg (ne_of_isDigit h.1 (by decide)), digitValue?_of_isDigit h.1]
      simp [ih h.2]

theorem digits?_of_isDigit {cs : List Char} (hne : cs ≠ []) (h : ∀ c ∈ cs, c.isDigit = true) :
    digits? digitValue? cs = some (cs.map digitOf) := by
  cases cs with
  | nil => exact absurd rfl hne
  | cons c cs =>
      rw [List.forall_mem_cons] at h
      rw [digits?, digitsFrom, if_neg (ne_of_isDigit h.1 (by decide)), digitValue?_of_isDigit h.1]
      simp [digitsFrom_of_isDigit h.2]

theorem run?_of_isDigit {cs : List Char} (h : ∀ c ∈ cs, c.isDigit = true) :
    run? cs = some (cs.map digitOf) := by
  cases cs with
  | nil => rfl
  | cons c cs => exact digits?_of_isDigit (List.cons_ne_nil c cs) h

theorem ofDigits_map_digitOf (cs : List Char) :
    ofDigits (cs.map digitOf) = Nat.ofDigitChars 10 cs 0 := by
  rw [ofDigits, List.foldl_map, Nat.ofDigitChars_eq_foldl]
  rfl

theorem isNumeralBlank_eq_false {c : Char} (hlow : 0x20 < c.toNat) (hhigh : c.toNat < 0x7F) :
    isNumeralBlank c = false := by
  simp only [isNumeralBlank, Bool.or_eq_false_iff, decide_eq_false_iff_not, beq_eq_false_iff_ne]
  omega

theorem signed_append {negative : Bool} {cs : List Char} (h : ∀ c ∈ cs.head?, c.isDigit = true) :
    signed ((if negative then ['-'] else []) ++ cs) = (negative, cs) := by
  cases negative with
  | true => rfl
  | false =>
      cases cs with
      | nil => rfl
      | cons c cs =>
          have hc := h c rfl
          unfold signed
          split
          next heq => cases heq; cases hc
          next heq => cases heq; cases hc
          next => rfl

theorem isNumeralBlank_of_isDigit {c : Char} (h : c.isDigit = true) : isNumeralBlank c = false := by
  obtain ⟨hlow, hhigh⟩ := toNat_le_of_isDigit h
  exact isNumeralBlank_eq_false (by omega) (by omega)

theorem mem_intText {n : Int} {c : Char} (h : c ∈ (intText n).toList) :
    c = '-' ∨ c.isDigit = true := by
  rw [toList_intText] at h
  rcases List.mem_append.1 h with h | h
  · by_cases hn : n < 0
    · rw [if_pos hn] at h
      exact .inl (List.mem_singleton.1 h)
    · rw [if_neg hn] at h
      cases h
  · exact .inr (isDigit_of_mem_natText h)

/-- A whole number is read back from its digits, up to the limit of their number. -/
theorem integerChars?_intText {n : Int} (h : (natText n.natAbs).length ≤ digitLimit) :
    integerChars? (intText n).toList = some n := by
  have hblank : ∀ c ∈ (intText n).toList, isNumeralBlank c = false := by
    intro c hc
    rcases mem_intText hc with rfl | hd
    · rfl
    · exact isNumeralBlank_of_isDigit hd
  have hsigned : signed (intText n).toList = (decide (n < 0), natText n.natAbs) := by
    have hs := @signed_append (decide (n < 0)) (natText n.natAbs)
      fun c hc => isDigit_of_mem_natText (List.mem_of_mem_head? hc)
    rw [← hs, toList_intText]
    by_cases hn : n < 0 <;> simp [hn]
  rw [integerChars?, trim_eq_self_of_forall hblank, hsigned]
  simp only [digits?_of_isDigit (natText_ne_nil _) fun c => isDigit_of_mem_natText,
    List.length_map, if_pos h, ofDigits_map_digitOf]
  rw [natText, Nat.ofDigitChars_ten_toDigits, withSign_natAbs]

/-! ## Numbers that are read -/

theorem digitValue?_lt {c : Char} {d : Nat} (h : digitValue? c = some d) : d < 10 := by
  obtain ⟨first, found, rfl⟩ := Option.map_eq_some_iff.1 h
  have range := List.find?_some found
  simp only [Bool.and_eq_true, decide_eq_true_eq] at range
  omega

theorem digitsFrom_lt {cs : List Char} {afterDigit : Bool} {read ds : List Nat}
    (h : digitsFrom digitValue? afterDigit read cs = some ds) (hread : ∀ d ∈ read, d < 10) :
    ∀ d ∈ ds, d < 10 := by
  induction cs generalizing afterDigit read with
  | nil =>
      rw [digitsFrom] at h
      split at h
      · cases h
        exact fun d hd => hread d (List.mem_reverse.1 hd)
      · cases h
  | cons c cs ih =>
      rw [digitsFrom] at h
      split at h
      · split at h
        · exact ih h hread
        · cases h
      · cases hc : digitValue? c with
        | none =>
            rw [hc] at h
            cases h
        | some d =>
            rw [hc] at h
            exact ih h (List.forall_mem_cons.2 ⟨digitValue?_lt hc, hread⟩)

theorem ofDigits_lt {ds : List Nat} (h : ∀ d ∈ ds, d < 10) : ofDigits ds < 10 ^ ds.length := by
  induction ds using List.reverseRecOn with
  | nil => exact Nat.one_pos
  | append_singleton ds d ih =>
      obtain ⟨hds, hd⟩ := List.forall_mem_append.1 h
      have := ih hds
      have last : d < 10 := hd d (List.mem_singleton.2 rfl)
      have step : ofDigits (ds ++ [d]) = 10 * ofDigits ds + d := by
        rw [ofDigits, List.foldl_append]
        rfl
      rw [step, List.length_append, List.length_singleton, Nat.pow_succ]
      omega

/-- What is read as a numeral can be written. -/
theorem writable_of_integerChars? {cs : List Char} {n : Int} (h : integerChars? cs = some n) :
    Writable n := by
  rw [integerChars?] at h
  cases hds : digits? digitValue? (signed (trim isNumeralBlank cs)).2 with
  | none => simp [hds] at h
  | some ds =>
      simp only [hds, Option.ite_none_right_eq_some, Option.some.injEq] at h
      obtain ⟨few, rfl⟩ := h
      have small : ofDigits ds < 10 ^ ds.length := ofDigits_lt (digitsFrom_lt hds (by simp))
      rw [← writable_iff, writable, decide_eq_true_eq, natAbs_withSign, natText,
        Nat.length_toDigits_le_iff (by decide) (by decide)]
      exact Nat.lt_of_lt_of_le small (Nat.pow_le_pow_right (by decide) few)

end Number
end FilmIndex
