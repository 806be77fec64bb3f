import FilmIndex.Proofs.Text.Utf8
import FilmIndex.Text.UpperCase

/-!
A text in upper case stays as it is in upper case. The letters that a block or a sequence
gives have no other upper-case form: this is a matter of where the blocks lie, and where two
of them cross, each has only every second letter and the letters alternate.
-/

namespace FilmIndex
namespace Text

namespace CaseBlock

def isSpaced (b : CaseBlock) : Bool := Nat.beq (b.stride % 2) 0 || Nat.beq b.first b.last

/-- No code from `lo` to `hi` is in the block; of spaced codes only every second one counts. -/
def avoids (lo hi : Nat) (spaced : Bool) (b : CaseBlock) : Bool :=
  Nat.ble (hi + 1) b.first || Nat.ble (b.last + 1) lo ||
    (spaced && Nat.beq (b.stride % 2) 0 && Nat.beq ((lo + b.first) % 2) 1)

theorem not_holds_of_avoids {b : CaseBlock} {lo hi m : Nat} {spaced : Bool}
    (h : b.avoids lo hi spaced) (low : lo ≤ m) (high : m ≤ hi)
    (even : spaced = true → (m - lo) % 2 = 0) : ¬ b.Holds m := by
  intro ⟨first, last, step⟩
  rw [avoids, Bool.or_eq_true, Bool.or_eq_true] at h
  rcases h with (h | h) | h
  · have := Nat.le_of_ble_eq_true h
    omega
  · have := Nat.le_of_ble_eq_true h
    omega
  · simp only [Bool.and_eq_true] at h
    obtain ⟨⟨spaced, stride⟩, odd⟩ := h
    have even := even spaced
    have stride := Nat.eq_of_beq_eq_true stride
    have odd := Nat.eq_of_beq_eq_true odd
    have step : (m - b.first) % 2 = 0 := by
      have divides : 2 ∣ m - b.first :=
        Nat.dvd_trans (Nat.dvd_of_mod_eq_zero stride) (Nat.dvd_of_mod_eq_zero step)
      omega
    omega

end CaseBlock

/-- Codes that are letters and have no upper-case form but themselves. -/
def settled (lo hi : Nat) (spaced : Bool) : Bool :=
  (Nat.ble (hi + 1) 0xD800 || Nat.ble 0xE000 lo && Nat.ble (hi + 1) 0x110000) &&
    caseBlocks.all (·.avoids lo hi spaced) &&
    caseSequences.all fun e => (CaseBlock.mk e.1 e.1 2 0).avoids lo hi spaced

theorem upperCode_of_settled {lo hi m : Nat} {spaced : Bool} (h : settled lo hi spaced)
    (low : lo ≤ m) (high : m ≤ hi) (even : spaced = true → (m - lo) % 2 = 0) :
    m.isValidChar ∧ upperCode m = [m] := by
  rw [settled, Bool.and_eq_true, Bool.and_eq_true, List.all_eq_true, List.all_eq_true] at h
  obtain ⟨⟨valid, blocks⟩, sequences⟩ := h
  refine ⟨?_, ?_⟩
  · rw [Bool.or_eq_true, Bool.and_eq_true] at valid
    rcases valid with h | ⟨h, h'⟩
    · have := Nat.le_of_ble_eq_true h
      exact .inl (by omega)
    · have := Nat.le_of_ble_eq_true h
      have := Nat.le_of_ble_eq_true h'
      exact .inr (by omega)
  · have noSequence : caseSequences.lookup m = none := by
      rw [List.lookup_eq_none_iff]
      intro e mem
      have apart := CaseBlock.not_holds_of_avoids (sequences e mem) low high even
      have ne : m ≠ e.1 := fun same => apart (by simp [CaseBlock.Holds, same])
      simpa using ne
    have noBlock : caseBlocks.find? (fun b => decide (b.Holds m)) = none := by
      rw [List.find?_eq_none]
      intro b mem
      simpa using CaseBlock.not_holds_of_avoids (blocks b mem) low high even
    rw [upperCode, noSequence, noBlock]

theorem settled_sequences : ∀ e ∈ caseSequences, ∀ m ∈ e.2, settled m m true := by decide +kernel

theorem settled_blocks : ∀ b ∈ caseBlocks, 0 ≤ b.first + b.shift ∧
    settled (b.upper b.first) (b.upper b.last) b.isSpaced := by decide +kernel

/-- Where the upper-case form of a letter of a block lies. -/
theorem CaseBlock.Holds.upper_between {b : CaseBlock} {n : Nat} (h : b.Holds n)
    (positive : 0 ≤ b.first + b.shift) :
    b.upper b.first ≤ b.upper n ∧ b.upper n ≤ b.upper b.last ∧
      (b.isSpaced = true → (b.upper n - b.upper b.first) % 2 = 0) := by
  obtain ⟨first, last, step⟩ := h
  have moved : b.upper n - b.upper b.first = n - b.first := by
    rw [upper, upper]
    omega
  refine ⟨by rw [upper, upper]; omega, by rw [upper, upper]; omega, fun spaced => ?_⟩
  rw [moved]
  rw [isSpaced, Bool.or_eq_true] at spaced
  rcases spaced with stride | single
  · have divides : 2 ∣ n - b.first :=
      Nat.dvd_trans (Nat.dvd_of_mod_eq_zero (Nat.eq_of_beq_eq_true stride))
        (Nat.dvd_of_mod_eq_zero step)
    omega
  · have single := Nat.eq_of_beq_eq_true single
    omega

/-- What becomes of a letter stays as it is. -/
theorem upperCode_of_mem {n m : Nat} (h : m ∈ upperCode n) :
    (m.isValidChar ∨ m = n) ∧ upperCode m = [m] := by
  cases hs : caseSequences.lookup n with
  | some ms =>
      rw [upperCode, hs] at h
      obtain ⟨before, after, split, -⟩ := List.lookup_eq_some_iff.1 hs
      have mem : (n, ms) ∈ caseSequences := split ▸ List.mem_append_right _ List.mem_cons_self
      obtain ⟨valid, same⟩ := upperCode_of_settled (settled_sequences _ mem m h) (Nat.le_refl m)
        (Nat.le_refl m) fun _ => by rw [Nat.sub_self]
      exact ⟨.inl valid, same⟩
  | none =>
      cases hb : caseBlocks.find? fun b => decide (b.Holds n) with
      | none =>
          have same : upperCode n = [n] := by rw [upperCode, hs, hb]
          obtain rfl := List.mem_singleton.1 (same ▸ h)
          exact ⟨.inr rfl, same⟩
      | some b =>
          rw [upperCode, hs, hb] at h
          obtain rfl := List.mem_singleton.1 h
          obtain ⟨positive, settled⟩ := settled_blocks b (List.mem_of_find?_eq_some hb)
          have holds : b.Holds n := by simpa using List.find?_some hb
          obtain ⟨low, high, even⟩ := holds.upper_between positive
          obtain ⟨valid, same⟩ := upperCode_of_settled settled low high even
          exact ⟨.inl valid, same⟩

theorem upperChar_of_mem {c d : Char} (h : d ∈ upperChar c) : upperChar d = [d] := by
  obtain ⟨m, mem, rfl⟩ := List.mem_map.1 h
  obtain ⟨valid, same⟩ := upperCode_of_mem mem
  have code : (Char.ofNat m).toNat = m := by
    rcases valid with valid | rfl
    · exact Utf8.toNat_ofNat valid
    · rw [Char.ofNat_toNat]
  rw [upperChar, code, same]
  rfl

theorem upperChars_upperChars (cs : List Char) : upperChars (upperChars cs) = upperChars cs := by
  rw [upperChars, upperChars, List.flatMap_assoc]
  refine List.flatMap_congr fun c _ => ?_
  calc (upperChar c).flatMap upperChar
      = (upperChar c).flatMap fun d => [d] := List.flatMap_congr fun _ mem => upperChar_of_mem mem
    _ = upperChar c := List.flatMap_singleton' _

theorem upper_upper (s : String) : upper (upper s) = upper s := by
  rw [upper, upper, String.toList_ofList, upperChars_upperChars]

end Text
end FilmIndex
