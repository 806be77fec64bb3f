import FilmIndex.Text.Utf8
import Mathlib.Data.List.Basic

/-!
Bytes without a fault are text. A sequence that is read as a character is the encoding of
one, and the sequences follow one another up to the end of the bytes.
-/

namespace FilmIndex
namespace Text
namespace Utf8

/-! ## One character -/

theorem isContinuation_iff (b : UInt8) :
    isContinuation b = true ↔ 0x80 ≤ b.toNat ∧ b.toNat < 0xC0 := by
  simp [isContinuation, UInt8.le_iff_toNat_le, UInt8.lt_iff_toNat_lt]

theorem isSecond_iff (lead b : UInt8) :
    isSecond lead b = true ↔
      (0x80 ≤ b.toNat ∧ b.toNat < 0xC0) ∧ (lead.toNat = 0xE0 → 0xA0 ≤ b.toNat) ∧
        (lead.toNat = 0xED → b.toNat < 0xA0) ∧ (lead.toNat = 0xF0 → 0x90 ≤ b.toNat) ∧
          (lead.toNat = 0xF4 → b.toNat < 0x90) := by
  simp [isSecond, isContinuation, UInt8.le_iff_toNat_le, UInt8.lt_iff_toNat_lt,
    ← UInt8.toNat_inj, and_assoc, imp_iff_not_or]

theorem later_character {soFar want n : Nat} {rest : List UInt8}
    (h : later soFar want rest = .character n) :
    n = soFar + want ∧ want ≤ rest.length ∧ ∀ b ∈ rest.take want, isContinuation b = true := by
  induction want generalizing soFar rest with
  | zero =>
      cases h
      simp
  | succ want ih =>
      cases rest with
      | nil => cases h
      | cons b rest =>
          rw [later] at h
          split at h
          · obtain ⟨rfl, length, tail⟩ := ih h
            rw [List.take_succ_cons, List.forall_mem_cons, List.length_cons]
            exact ⟨by omega, by omega, ‹_›, tail⟩
          · cases h

theorem toNat_ofNat {v : Nat} (h : v < 0xD800 ∨ 0xDFFF < v ∧ v < 0x110000) :
    (Char.ofNat v).val.toNat = v := by
  have valid : v.isValidChar := h
  rw [Char.ofNat, dif_pos valid]
  rfl

theorem ofNat_eq {v : Nat} {b : UInt8} (h : v = b.toNat) : UInt8.ofNat v = b := by
  rw [h, UInt8.ofNat_toNat]

/-! The code point of a sequence is put together from six bits of each further byte. -/

theorem exists_one {a : UInt8} (ha : a.toNat < 0x80) :
    ∃ c, String.utf8EncodeChar c = [a] := by
  refine ⟨Char.ofNat a.toNat, ?_⟩
  rw [String.utf8EncodeChar, toNat_ofNat (by omega), if_pos (by omega), UInt8.ofNat_toNat]

theorem exists_two {a b : UInt8} (ha : 0xC2 ≤ a.toNat ∧ a.toNat < 0xE0)
    (hb : 0x80 ≤ b.toNat ∧ b.toNat < 0xC0) : ∃ c, String.utf8EncodeChar c = [a, b] := by
  refine ⟨Char.ofNat ((a.toNat - 0xC0) * 0x40 + (b.toNat - 0x80)), ?_⟩
  rw [String.utf8EncodeChar, toNat_ofNat (by omega), if_neg (by omega), if_pos (by omega),
    ofNat_eq (b := a) (by omega), ofNat_eq (b := b) (by omega)]

theorem exists_three {a b c : UInt8} (ha : 0xE0 ≤ a.toNat ∧ a.toNat < 0xF0)
    (hb : isSecond a b = true) (hc : 0x80 ≤ c.toNat ∧ c.toNat < 0xC0) :
    ∃ x, String.utf8EncodeChar x = [a, b, c] := by
  obtain ⟨hb, shortest, surrogate, -, -⟩ := (isSecond_iff a b).1 hb
  refine ⟨Char.ofNat ((a.toNat - 0xE0) * 0x1000 + (b.toNat - 0x80) * 0x40 + (c.toNat - 0x80)), ?_⟩
  rw [String.utf8EncodeChar, toNat_ofNat (by omega), if_neg (by omega), if_neg (by omega),
    if_pos (by omega), ofNat_eq (b := a) (by omega), ofNat_eq (b := b) (by omega),
    ofNat_eq (b := c) (by omega)]

theorem exists_four {a b c d : UInt8} (ha : 0xF0 ≤ a.toNat ∧ a.toNat < 0xF5)
    (hb : isSecond a b = true) (hc : 0x80 ≤ c.toNat ∧ c.toNat < 0xC0)
    (hd : 0x80 ≤ d.toNat ∧ d.toNat < 0xC0) : ∃ x, String.utf8EncodeChar x = [a, b, c, d] := by
  obtain ⟨hb, -, -, shortest, last⟩ := (isSecond_iff a b).1 hb
  refine ⟨Char.ofNat ((a.toNat - 0xF0) * 0x40000 + (b.toNat - 0x80) * 0x1000 +
    (c.toNat - 0x80) * 0x40 + (d.toNat - 0x80)), ?_⟩
  rw [String.utf8EncodeChar, toNat_ofNat (by omega), if_neg (by omega), if_neg (by omega),
    if_neg (by omega), ofNat_eq (b := a) (by omega), ofNat_eq (b := b) (by omega),
    ofNat_eq (b := c) (by omega), ofNat_eq (b := d) (by omega)]

/-- How long a character is by its first byte. -/
theorem width_cases (a : UInt8) :
    width a = 0 ∨ (width a = 1 ∧ a.toNat < 0x80) ∨
      (width a = 2 ∧ 0xC2 ≤ a.toNat ∧ a.toNat < 0xE0) ∨
        (width a = 3 ∧ 0xE0 ≤ a.toNat ∧ a.toNat < 0xF0) ∨
          (width a = 4 ∧ 0xF0 ≤ a.toNat ∧ a.toNat < 0xF5) := by
  simp only [width, UInt8.lt_iff_toNat_lt, UInt8.reduceToNat]
  split_ifs <;> omega

/-- A character of several bytes is followed up to its last byte. -/
theorem head_several {a : UInt8} {rest : List UInt8} {n more : Nat} (hw : width a = more + 2)
    (h : head a rest = .character n) :
    n = more + 2 ∧ ∃ b bs, rest = b :: bs ∧ isSecond a b = true ∧ more ≤ bs.length ∧
      ∀ c ∈ bs.take more, 0x80 ≤ c.toNat ∧ c.toNat < 0xC0 := by
  cases rest with
  | nil =>
      simp only [head, hw] at h
      cases h
  | cons b bs =>
      simp only [head, hw] at h
      split at h
      · obtain ⟨rfl, length, tail⟩ := later_character h
        exact ⟨Nat.add_comm 2 more, b, bs, rfl, ‹_›, length,
          fun c hc => (isContinuation_iff c).1 (tail c hc)⟩
      · cases h

theorem exists_of_head {a : UInt8} {rest : List UInt8} {n : Nat}
    (h : head a rest = .character n) :
    n - 1 ≤ rest.length ∧ ∃ c, String.utf8EncodeChar c = a :: rest.take (n - 1) := by
  rcases width_cases a with hw | ⟨hw, ha⟩ | ⟨hw, ha⟩ | ⟨hw, ha⟩ | ⟨hw, ha⟩
  · simp [head, hw] at h
  · simp only [head, hw, Head.character.injEq] at h
    subst h
    exact ⟨Nat.zero_le _, exists_one ha⟩
  · obtain ⟨rfl, b, bs, rfl, second, -, -⟩ := head_several hw h
    exact ⟨by simp, exists_two ha ((isSecond_iff a b).1 second).1⟩
  · obtain ⟨rfl, b, bs, rfl, second, length, tail⟩ := head_several hw h
    match bs with
    | c :: bs => exact ⟨by simp, exists_three ha second (tail c (by simp))⟩
  · obtain ⟨rfl, b, bs, rfl, second, length, tail⟩ := head_several hw h
    match bs with
    | c :: d :: bs => exact ⟨by simp, exists_four ha second (tail c (by simp)) (tail d (by simp))⟩

/-! ## All bytes -/

theorem faultFrom_skip {skip : Nat} {bytes : List UInt8} (h : skip ≤ bytes.length) (start : Nat) :
    faultFrom start skip bytes = faultFrom (start + skip) 0 (bytes.drop skip) := by
  induction bytes generalizing start skip with
  | nil => rw [Nat.le_zero.1 h]; rfl
  | cons b bytes ih =>
      cases skip with
      | zero => rfl
      | succ skip =>
          rw [faultFrom, ih (Nat.le_of_succ_le_succ h), List.drop_succ_cons]
          congr 1
          omega

/-- Where no fault is found, the bytes are those of some characters. -/
theorem exists_of_faultFrom {bytes : List UInt8} {start : Nat} (h : faultFrom start 0 bytes = none) :
    ∃ cs : List Char, bytes = cs.flatMap String.utf8EncodeChar := by
  match bytes with
  | [] => exact ⟨[], rfl⟩
  | b :: rest =>
      simp only [faultFrom] at h
      split at h
      · rename_i n hhead
        obtain ⟨length, c, hc⟩ := exists_of_head hhead
        rw [faultFrom_skip length] at h
        obtain ⟨cs, hcs⟩ := exists_of_faultFrom h
        refine ⟨c :: cs, ?_⟩
        rw [List.flatMap_cons, hc, ← hcs, List.cons_append, List.take_append_drop]
      · cases h
termination_by bytes.length
decreasing_by
  rw [List.length_drop, List.length_cons]
  omega

theorem toList_loop (bytes : ByteArray) (i : Nat) (done : List UInt8) :
    ByteArray.toList.loop bytes i done = done.reverse ++ bytes.data.toList.drop i := by
  fun_induction ByteArray.toList.loop bytes i done with
  | case1 i done h ih =>
      have hi : i < bytes.data.toList.length := by simpa using h
      rw [ih, List.drop_eq_getElem_cons hi]
      simp [ByteArray.get!, h]
  | case2 i done h =>
      rw [List.drop_eq_nil_of_le (by simpa using Nat.le_of_not_lt h), List.append_nil]

theorem toList_eq (bytes : ByteArray) : bytes.toList = bytes.data.toList :=
  toList_loop bytes 0 []

/-- Bytes that are no text have a fault. -/
theorem isValidUTF8_of_fault? {bytes : ByteArray} (h : fault? bytes.toList = none) :
    bytes.IsValidUTF8 := by
  obtain ⟨cs, hcs⟩ := exists_of_faultFrom h
  refine ⟨cs, ByteArray.ext (Array.toList_inj.1 ?_)⟩
  rw [← toList_eq, hcs, List.utf8Encode, List.toList_data_toByteArray]

theorem fromUTF8?_eq_some_iff {bytes : ByteArray} {text : String} :
    String.fromUTF8? bytes = some text ↔ text.toUTF8 = bytes := by
  rw [String.fromUTF8?]
  constructor
  · intro h
    split at h
    · exact Option.some.inj h ▸ rfl
    · cases h
  · rintro rfl
    exact dif_pos text.isValidUTF8

/-- Bytes are decoded exactly if they are those of a text. -/
theorem decode_eq_ok_iff {bytes : ByteArray} {text : String} :
    decode bytes = .ok text ↔ text.toUTF8 = bytes := by
  rw [← fromUTF8?_eq_some_iff, decode]
  cases found : String.fromUTF8? bytes with
  | some text' => simp
  | none =>
      cases hfault : fault? bytes.toList with
      | some fault => simp
      | none =>
          rw [String.fromUTF8?, dif_pos (isValidUTF8_of_fault? hfault)] at found
          cases found

theorem decode_eq_error_iff {bytes : ByteArray} :
    (∃ report, decode bytes = .error report) ↔ ∀ text : String, text.toUTF8 ≠ bytes := by
  simp only [ne_eq, ← decode_eq_ok_iff]
  cases decode bytes <;> simp

end Utf8
end Text
end FilmIndex
