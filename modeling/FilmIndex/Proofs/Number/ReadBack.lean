import FilmIndex.Proofs.Number.Numeral
import FilmIndex.Proofs.Number.Rounding
import Mathlib.Data.List.TakeWhile

/-!
Doubles are read back from what is written for them. A layout only moves the point and
adds zeros, so the decimal that is read has the value of the shortest one, which rounding
takes back to the double.
-/

namespace FilmIndex
namespace Number
open Text

theorem isNumeralChar_of_isDigit {c : Char} (h : c.isDigit = true) : isNumeralChar c = true := by
  rw [isNumeralChar, digitValue?_of_isDigit h, Option.isSome_some, Bool.or_true]

theorem takeWhile_digits {cs rest : List Char} (h : ∀ c ∈ cs, c.isDigit = true)
    (hrest : ∀ c ∈ rest.head?, isNumeralChar c = false) :
    (cs ++ rest).takeWhile isNumeralChar = cs ∧ (cs ++ rest).dropWhile isNumeralChar = rest := by
  have hcs : ∀ c ∈ cs, isNumeralChar c = true := fun c hc => isNumeralChar_of_isDigit (h c hc)
  rw [List.takeWhile_append_of_pos hcs, List.dropWhile_append_of_pos hcs]
  cases rest with
  | nil => exact ⟨List.append_nil cs, rfl⟩
  | cons c rest =>
      rw [List.takeWhile_cons, List.dropWhile_cons, hrest c rfl]
      exact ⟨List.append_nil cs, rfl⟩

/-- A point with digits after it, or nothing. -/
def fractionText (fraction : List Char) : List Char :=
  if fraction.isEmpty then [] else '.' :: fraction

section Reading

variable {whole fraction tail : List Char}

theorem afterPoint_append (hfraction : ∀ c ∈ fraction, c.isDigit = true)
    (htail : ∀ c ∈ tail.head?, isNumeralChar c = false ∧ c ≠ '.') :
    afterPoint (fractionText fraction ++ tail) = (fraction, tail) := by
  cases fraction with
  | nil =>
      rw [fractionText, List.isEmpty_nil, if_pos rfl, List.nil_append]
      unfold afterPoint
      split
      next => exact absurd rfl (htail '.' rfl).2
      next => rfl
  | cons d ds =>
      obtain ⟨ht, hd⟩ := takeWhile_digits hfraction fun c hc => (htail c hc).1
      exact congrArg₂ Prod.mk ht hd

/-- A decimal is read from its digits, its point and its exponent. -/
theorem unsignedDecimal?_append {e : Int} (hne : whole ≠ [])
    (hwhole : ∀ c ∈ whole, c.isDigit = true) (hfraction : ∀ c ∈ fraction, c.isDigit = true)
    (htail : ∀ c ∈ tail.head?, isNumeralChar c = false ∧ c ≠ '.') (he : exponent? tail = some e) :
    unsignedDecimal? (whole ++ (fractionText fraction ++ tail)) =
      some ⟨Nat.ofDigitChars 10 (whole ++ fraction) 0, e - fraction.length⟩ := by
  have hrest : ∀ c ∈ (fractionText fraction ++ tail).head?, isNumeralChar c = false := by
    rw [fractionText]
    cases fraction with
    | nil => exact fun c hc => (htail c hc).1
    | cons d ds => rintro _ ⟨⟩; rfl
  obtain ⟨htake, hdrop⟩ := takeWhile_digits hwhole hrest
  have hempty : (whole.map digitOf).isEmpty = false := by simpa using hne
  rw [unsignedDecimal?, htake, hdrop, run?_of_isDigit hwhole, afterPoint_append hfraction htail]
  simp only [Option.bind_eq_bind, Option.bind_some, run?_of_isDigit hfraction, he, hempty,
    Bool.false_and, ← List.map_append, ofDigits_map_digitOf, List.length_map]
  rfl

theorem unsignedDecimal?_point (hne : whole ≠ []) (hne' : fraction ≠ [])
    (hwhole : ∀ c ∈ whole, c.isDigit = true) (hfraction : ∀ c ∈ fraction, c.isDigit = true) :
    unsignedDecimal? (whole ++ '.' :: fraction) =
      some ⟨Nat.ofDigitChars 10 (whole ++ fraction) 0, 0 - fraction.length⟩ := by
  have htail : ∀ c ∈ ([] : List Char).head?, isNumeralChar c = false ∧ c ≠ '.' := fun c hc => by
    cases hc
  have hread := unsignedDecimal?_append hne hwhole hfraction htail rfl
  rw [fractionText, List.isEmpty_eq_false_iff.2 hne', List.append_nil] at hread
  exact hread

end Reading

theorem exponent?_exponentText (width : Nat) (e : Int) :
    exponent? ('e' :: Layout.exponentText width e) = some e := by
  have hdigits : ∀ c ∈ List.replicate (width - (natText e.natAbs).length) '0' ++ natText e.natAbs,
      c.isDigit = true := by
    intro c hc
    rcases List.mem_append.1 hc with hc | hc
    · exact isDigit_of_mem_replicate hc
    · exact isDigit_of_mem_natText hc
  have hvalue : Nat.ofDigitChars 10
      (List.replicate (width - (natText e.natAbs).length) '0' ++ natText e.natAbs) 0 = e.natAbs := by
    rw [Nat.ofDigitChars_append, Nat.ofDigitChars_replicate_zero, Nat.mul_zero, natText,
      Nat.ofDigitChars_ten_toDigits]
  have hsigned : signed (Layout.exponentText width e) =
      (decide (e < 0), List.replicate (width - (natText e.natAbs).length) '0' ++ natText e.natAbs) := by
    rw [Layout.exponentText]
    by_cases he : e < 0 <;> simp [he, signed]
  have hne : List.replicate (width - (natText e.natAbs).length) '0' ++ natText e.natAbs ≠ [] :=
    List.append_ne_nil_of_right_ne_nil _ (natText_ne_nil _)
  rw [exponent?, if_pos (.inl rfl), hsigned]
  simp only [digits?_of_isDigit hne hdigits, Option.map_some, ofDigits_map_digitOf, hvalue,
    withSign_natAbs]

namespace Layout

theorem exists_zeros (cs : List Char) :
    ∃ k, cs = (cs.reverse.dropWhile (· == '0')).reverse ++ List.replicate k '0' := by
  have hzeros : ∀ c ∈ cs.reverse.takeWhile (· == '0'), c = '0' := by
    intro c hc
    have hbeq := List.mem_takeWhile_imp hc
    exact beq_iff_eq.1 hbeq
  refine ⟨(cs.reverse.takeWhile (· == '0')).length, ?_⟩
  have hsplit := congrArg List.reverse (@List.takeWhile_append_dropWhile _ (· == '0') cs.reverse)
  rw [List.reverse_append, List.reverse_reverse, List.eq_replicate_of_mem hzeros,
    List.reverse_replicate] at hsplit
  exact hsplit.symm

/-- The digits of a decimal are the significant ones and zeros after them. -/
theorem exists_significant {d : Decimal} (h : d.digits ≠ 0) :
    ∃ ds, ∃ k : Nat, significant d = (ds, ds.length + (d.exponent + k)) ∧ ds ≠ [] ∧
      (∀ c ∈ ds, c.isDigit = true) ∧
      d = Decimal.padded ⟨Nat.ofDigitChars 10 ds 0, d.exponent + k⟩ k := by
  obtain ⟨k, hk⟩ := exists_zeros (natText d.digits)
  generalize hds : ((natText d.digits).reverse.dropWhile (· == '0')).reverse = ds at hk
  have hvalue : d.digits = Nat.ofDigitChars 10 ds 0 * 10 ^ k := by
    rw [Nat.mul_comm, ← Nat.ofDigitChars_replicate_zero, ← Nat.ofDigitChars_append, ← hk, natText,
      Nat.ofDigitChars_ten_toDigits]
  refine ⟨ds, k, ?_, ?_, fun c hc => ?_, ?_⟩
  · have hlen : (natText d.digits).length = ds.length + k := by
      rw [hk, List.length_append, List.length_replicate]
    rw [significant, hds, hlen]
    refine congrArg (Prod.mk ds) ?_
    omega
  · rintro rfl
    exact h (by rw [hvalue, Nat.ofDigitChars_nil, Nat.zero_mul])
  · exact isDigit_of_mem_natText (hk ▸ List.mem_append_left _ hc)
  · have hexp : d.exponent + k - k = d.exponent := by omega
    rw [Decimal.padded, ← hvalue, hexp]

section Layouts

variable {ds : List Char} {x : Int}

theorem unsignedDecimal?_below_one (hne : ds ≠ []) (hd : ∀ c ∈ ds, c.isDigit = true)
    (hx : ds.length + x ≤ 0) :
    unsignedDecimal? ('0' :: '.' :: (List.replicate (-(ds.length + x)).toNat '0' ++ ds)) =
      some (Decimal.padded ⟨Nat.ofDigitChars 10 ds 0, x⟩ 0) := by
  have hfraction : ∀ c ∈ List.replicate (-(ds.length + x)).toNat '0' ++ ds, c.isDigit = true :=
    fun c hc => (List.mem_append.1 hc).elim isDigit_of_mem_replicate (hd c)
  have hwhole : ∀ c ∈ ['0'], c.isDigit = true := by simp
  have hread := unsignedDecimal?_point (List.cons_ne_nil '0' [])
    (List.append_ne_nil_of_right_ne_nil _ hne) hwhole hfraction
  have hvalue : Nat.ofDigitChars 10 (['0'] ++ (List.replicate (-(ds.length + x)).toNat '0' ++ ds)) 0 =
      Nat.ofDigitChars 10 ds 0 := by
    rw [Nat.ofDigitChars_append, Nat.ofDigitChars_append]
    have hz : Nat.ofDigitChars 10 ['0'] 0 = 0 := rfl
    rw [hz, Nat.ofDigitChars_replicate_zero, Nat.mul_zero]
  refine hread.trans (congrArg some ?_)
  rw [hvalue, Decimal.padded_mk, Nat.pow_zero, Nat.mul_one, List.length_append, List.length_replicate]
  refine congrArg (Decimal.mk _) ?_
  omega

theorem unsignedDecimal?_whole (hne : ds ≠ []) (hd : ∀ c ∈ ds, c.isDigit = true) (hx : 0 ≤ x) :
    unsignedDecimal? (ds ++ (List.replicate x.toNat '0' ++ ['.', '0'])) =
      some (Decimal.padded ⟨Nat.ofDigitChars 10 ds 0, x⟩ (x.toNat + 1)) := by
  have hwhole : ∀ c ∈ ds ++ List.replicate x.toNat '0', c.isDigit = true :=
    fun c hc => (List.mem_append.1 hc).elim (hd c) isDigit_of_mem_replicate
  have hfraction : ∀ c ∈ ['0'], c.isDigit = true := by simp
  have hread := unsignedDecimal?_point (List.append_ne_nil_of_left_ne_nil hne _)
    (List.cons_ne_nil '0' []) hwhole hfraction
  have hvalue : Nat.ofDigitChars 10 (ds ++ List.replicate x.toNat '0' ++ ['0']) 0 =
      Nat.ofDigitChars 10 ds 0 * 10 ^ (x.toNat + 1) := by
    have hzeros : List.replicate x.toNat '0' ++ ['0'] = List.replicate (x.toNat + 1) '0' := by
      rw [List.replicate_succ']
    rw [List.append_assoc, hzeros, Nat.ofDigitChars_append, Nat.ofDigitChars_replicate_zero,
      Nat.mul_comm]
  rw [← List.append_assoc]
  refine hread.trans (congrArg some ?_)
  rw [hvalue, Decimal.padded_mk]
  refine congrArg (Decimal.mk _) ?_
  rw [List.length_singleton]
  omega

theorem unsignedDecimal?_pointed (hd : ∀ c ∈ ds, c.isDigit = true) {n : Nat} (hn : 0 < n)
    (hlen : n < ds.length) :
    unsignedDecimal? (ds.take n ++ '.' :: ds.drop n) =
      some (Decimal.padded ⟨Nat.ofDigitChars 10 ds 0, n - ds.length⟩ 0) := by
  have hread := @unsignedDecimal?_point (ds.take n) (ds.drop n)
    (by rw [← List.length_pos_iff, List.length_take]; omega)
    (by rw [← List.length_pos_iff, List.length_drop]; omega)
    (fun c hc => hd c (List.mem_of_mem_take hc)) (fun c hc => hd c (List.mem_of_mem_drop hc))
  refine hread.trans (congrArg some ?_)
  rw [List.take_append_drop, Decimal.padded_mk, Nat.pow_zero, Nat.mul_one, List.length_drop]
  refine congrArg (Decimal.mk _) ?_
  omega

theorem unsignedDecimal?_scientific (hne : ds ≠ []) (hd : ∀ c ∈ ds, c.isDigit = true) (width : Nat) :
    unsignedDecimal? (ds.take 1 ++ ((if ds.length ≤ 1 then [] else '.' :: ds.drop 1) ++
      'e' :: exponentText width (ds.length + x - 1))) =
      some (Decimal.padded ⟨Nat.ofDigitChars 10 ds 0, x⟩ 0) := by
  have hfraction : fractionText (ds.drop 1) = if ds.length ≤ 1 then [] else '.' :: ds.drop 1 := by
    rw [fractionText]
    by_cases h : ds.length ≤ 1
    · rw [if_pos h, List.drop_eq_nil_of_le h]
      rfl
    · have hdrop : (ds.drop 1).isEmpty = false := by
        rw [List.isEmpty_eq_false_iff, ← List.length_pos_iff, List.length_drop]
        omega
      rw [if_neg h, hdrop]
      rfl
  have htail : ∀ c ∈ ('e' :: exponentText width (ds.length + x - 1)).head?,
      isNumeralChar c = false ∧ c ≠ '.' := by
    rintro _ ⟨⟩
    exact ⟨rfl, by decide⟩
  have hlen : 0 < ds.length := List.length_pos_iff.2 hne
  have hread := @unsignedDecimal?_append (ds.take 1) (ds.drop 1) _ _
    (by rw [← List.length_pos_iff, List.length_take]; omega)
    (fun c hc => hd c (List.mem_of_mem_take hc)) (fun c hc => hd c (List.mem_of_mem_drop hc))
    htail (exponent?_exponentText width _)
  rw [hfraction] at hread
  refine hread.trans (congrArg some ?_)
  rw [List.take_append_drop, Decimal.padded_mk, Nat.pow_zero, Nat.mul_one, List.length_drop]
  refine congrArg (Decimal.mk _) ?_
  omega

end Layouts

/-- What is written for a decimal is read as a decimal of the same value. -/
theorem unsignedDecimal?_decimalText {d : Decimal} (h : d.digits ≠ 0) :
    ∃ b k k', d = Decimal.padded b k ∧
      unsignedDecimal? (plain.decimalText d) = some (b.padded k') := by
  obtain ⟨ds, k, hsig, hne, hdigits, hd⟩ := exists_significant h
  generalize d.exponent + k = x at hsig hd
  suffices hread : ∃ k', unsignedDecimal? (plain.decimalText d) =
      some (Decimal.padded ⟨Nat.ofDigitChars 10 ds 0, x⟩ k') by
    obtain ⟨k', hread⟩ := hread
    exact ⟨_, k, k', hd, hread⟩
  rw [decimalText]
  simp only [hsig]
  by_cases hplain : plain.pointFrom ≤ ds.length + x - 1 ∧ ds.length + x - 1 < plain.pointBelow
  · rw [if_pos hplain]
    by_cases hpoint : ds.length + x ≤ 0
    · rw [if_pos hpoint]
      exact ⟨0, unsignedDecimal?_below_one hne hdigits hpoint⟩
    · rw [if_neg hpoint]
      by_cases hx : 0 ≤ x
      · refine ⟨x.toNat + 1, ?_⟩
        have htake : ds.take (ds.length + x).toNat = ds := List.take_of_length_le (by omega)
        have hdrop : ds.drop (ds.length + x).toNat = [] := List.drop_eq_nil_of_le (by omega)
        have hzeros : (ds.length + x).toNat - ds.length = x.toNat := by omega
        rw [htake, hdrop, hzeros, List.append_assoc]
        exact unsignedDecimal?_whole hne hdigits hx
      · have hn : 0 < (ds.length + x).toNat := by omega
        have hread := unsignedDecimal?_pointed hdigits hn (by omega)
        have hx' : ((ds.length + x).toNat : Int) - ds.length = x := by omega
        have hzeros : (ds.length + x).toNat - ds.length = 0 := by omega
        have hdrop : (ds.drop (ds.length + x).toNat).isEmpty = false := by
          rw [List.isEmpty_eq_false_iff, ← List.length_pos_iff, List.length_drop]
          omega
        rw [hx'] at hread
        rw [hzeros, hdrop, List.replicate_zero, List.append_nil]
        exact ⟨0, hread⟩
  · rw [if_neg hplain, List.append_assoc]
    exact ⟨0, unsignedDecimal?_scientific hne hdigits _⟩

/-- The characters that doubles are written with. -/
def isDoubleChar (c : Char) : Bool := c.isDigit || ['+', '-', '.', 'a', 'e', 'f', 'i', 'n'].contains c

theorem isDoubleChar_of_isDigit {c : Char} (h : c.isDigit = true) : isDoubleChar c = true := by
  rw [isDoubleChar, h, Bool.true_or]

theorem toNat_of_isDoubleChar {c : Char} (h : isDoubleChar c = true) :
    0x20 < c.toNat ∧ c.toNat < 0x7F := by
  have hmarks : ['+', '-', '.', 'a', 'e', 'f', 'i', 'n'].all
      (fun c => decide (0x20 < c.toNat ∧ c.toNat < 0x7F)) = true := rfl
  rw [isDoubleChar, Bool.or_eq_true, List.contains_iff_mem] at h
  rcases h with h | h
  · have := toNat_le_of_isDigit h
    omega
  · exact of_decide_eq_true (List.all_eq_true.1 hmarks c h)

theorem isDoubleChar_of_mem_exponentText {width : Nat} {e : Int} {c : Char}
    (h : c ∈ exponentText width e) : isDoubleChar c = true := by
  rw [exponentText] at h
  rcases List.mem_cons.1 h with rfl | h
  · split <;> rfl
  · rcases List.mem_append.1 h with h | h
    · exact isDoubleChar_of_isDigit (isDigit_of_mem_replicate h)
    · exact isDoubleChar_of_isDigit (isDigit_of_mem_natText h)

/-- What is written for a decimal begins with a digit. -/
theorem exists_decimalText {d : Decimal} (h : d.digits ≠ 0) :
    ∃ c cs, plain.decimalText d = c :: cs ∧ c.isDigit = true ∧ ∀ c' ∈ cs, isDoubleChar c' = true := by
  obtain ⟨ds, k, hsig, hne, hdigits, -⟩ := exists_significant h
  obtain ⟨a, as, rfl⟩ := List.exists_cons_of_ne_nil hne
  rw [List.forall_mem_cons] at hdigits
  obtain ⟨ha, has⟩ := hdigits
  have hds : ∀ c ∈ a :: as, isDoubleChar c = true := List.forall_mem_cons.2
    ⟨isDoubleChar_of_isDigit ha, fun c hc => isDoubleChar_of_isDigit (has c hc)⟩
  have hzeros (n : Nat) : ∀ c ∈ List.replicate n '0', isDoubleChar c = true :=
    fun c hc => isDoubleChar_of_isDigit (isDigit_of_mem_replicate hc)
  have happend {xs ys : List Char} (hx : ∀ c ∈ xs, isDoubleChar c = true)
      (hy : ∀ c ∈ ys, isDoubleChar c = true) : ∀ c ∈ xs ++ ys, isDoubleChar c = true :=
    fun c hc => (List.mem_append.1 hc).elim (hx c) (hy c)
  have hcons {c : Char} {xs : List Char} (hc : isDoubleChar c = true)
      (hx : ∀ c ∈ xs, isDoubleChar c = true) : ∀ c' ∈ c :: xs, isDoubleChar c' = true :=
    List.forall_mem_cons.2 ⟨hc, hx⟩
  rw [decimalText]
  simp only [hsig]
  split
  next hplain =>
    split
    next hpoint => exact ⟨'0', _, rfl, rfl, hcons rfl (happend (hzeros _) hds)⟩
    next hpoint =>
      obtain ⟨n, hn⟩ := Nat.exists_eq_add_of_lt (show 0 < (((a :: as).length : Int) +
        (d.exponent + k)).toNat by omega)
      rw [Nat.zero_add] at hn
      rw [hn, List.take_succ_cons, List.drop_succ_cons]
      refine ⟨a, _, rfl, ha, happend (happend ?_ (hzeros _)) (hcons rfl ?_)⟩
      · exact fun c hc => isDoubleChar_of_isDigit (has c (List.mem_of_mem_take hc))
      · split
        next => exact hcons rfl nofun
        next => exact fun c hc => isDoubleChar_of_isDigit (has c (List.mem_of_mem_drop hc))
  next hplain =>
    refine ⟨a, _, rfl, ha, happend ?_ (hcons rfl fun c => isDoubleChar_of_mem_exponentText)⟩
    split
    next => nofun
    next => exact hcons rfl fun c hc => isDoubleChar_of_isDigit (has c hc)

theorem isDoubleChar_of_mem_signed {negative : Bool} {cs : List Char}
    (h : ∀ c ∈ cs, isDoubleChar c = true) :
    ∀ c ∈ (if negative then ['-'] else []) ++ cs, isDoubleChar c = true := by
  cases negative with
  | true => exact List.forall_mem_cons.2 ⟨rfl, h⟩
  | false => exact h

/-- What is written for a finite double after its sign begins with a digit and is read as
a decimal of the same rank. -/
theorem exists_finite (negative : Bool) {rank : Nat} (hr : rank < Double.infinityRank) :
    ∃ c cs d, plain.doubleText (.finite negative rank) =
        (if negative then ['-'] else []) ++ (c :: cs) ∧ c.isDigit = true ∧
      (∀ c' ∈ c :: cs, isDoubleChar c' = true) ∧ unsignedDecimal? (c :: cs) = some d ∧
      d.rank = rank := by
  by_cases h0 : rank = 0
  · subst h0
    exact ⟨'0', ['.', '0'], ⟨0, -1⟩, rfl, rfl, List.all_eq_true.1 rfl, rfl, rfl⟩
  · have hpos : 0 < rank := Nat.pos_of_ne_zero h0
    have hdigits := Decimal.digits_shortest_ne_zero hpos
    obtain ⟨c, cs, htext, hc, hcs⟩ := exists_decimalText hdigits
    obtain ⟨b, k, k', hb, hread⟩ := unsignedDecimal?_decimalText hdigits
    have hround : b.roundsTo rank = true := by
      rw [← Decimal.roundsTo_padded rank b k, ← hb]
      exact Decimal.roundsTo_shortest rank
    have hall : ∀ c' ∈ c :: cs, isDoubleChar c' = true :=
      List.forall_mem_cons.2 ⟨isDoubleChar_of_isDigit hc, hcs⟩
    refine ⟨c, cs, b.padded k', ?_, hc, hall, htext ▸ hread, ?_⟩
    · rw [doubleText, if_neg h0, htext]
    · exact Decimal.rank_of_roundsTo hpos hr ((Decimal.roundsTo_padded rank b k').2 hround)

end Layout

section Words

variable {c : Char}

theorem lowerAscii_of_isDigit (h : c.isDigit = true) : lowerAscii c = c := by
  have hc := toNat_le_of_isDigit h
  have hupper : ¬ ('A' ≤ c ∧ c ≤ 'Z') := fun hA => by
    have h65 : 65 ≤ c.toNat := hA.1
    omega
  rw [lowerAscii, if_neg hupper]

/-- No word for infinity or for no number begins with a digit. -/
theorem map_lowerAscii_ne (h : c.isDigit = true) (cs : List Char) {c' : Char} {word : List Char}
    (h' : c'.isDigit = false) : (c :: cs).map lowerAscii ≠ c' :: word := by
  intro heq
  rw [List.map_cons, lowerAscii_of_isDigit h] at heq
  exact ne_of_isDigit h h' (List.cons.inj heq).1

theorem isNumeralBlank_of_isDoubleChar (h : Layout.isDoubleChar c = true) :
    isNumeralBlank c = false := by
  obtain ⟨hlow, hhigh⟩ := Layout.toNat_of_isDoubleChar h
  exact isNumeralBlank_eq_false hlow hhigh

end Words

/-- A finite double is read back, the sign of zero included. -/
theorem realChars?_finite (negative : Bool) {rank : Nat} (hr : rank < Double.infinityRank) :
    realChars? (Layout.plain.doubleText (.finite negative rank)) =
      some (Double.finite negative rank).toFloat := by
  obtain ⟨c, cs, d, htext, hc, hcs, hread, hrank⟩ := Layout.exists_finite negative hr
  have hblank : ∀ c' ∈ Layout.plain.doubleText (.finite negative rank),
      isNumeralBlank c' = false := by
    rw [htext]
    exact fun c' hc' => isNumeralBlank_of_isDoubleChar (Layout.isDoubleChar_of_mem_signed hcs c' hc')
  have hsigned := @signed_append negative (c :: cs) (by rintro _ ⟨⟩; exact hc)
  have hinf : ¬ ((c :: cs).map lowerAscii = "inf".toList ∨
      (c :: cs).map lowerAscii = "infinity".toList) :=
    not_or.2 ⟨@map_lowerAscii_ne c hc cs 'i' ['n', 'f'] rfl,
      @map_lowerAscii_ne c hc cs 'i' ['n', 'f', 'i', 'n', 'i', 't', 'y'] rfl⟩
  have hnan : (c :: cs).map lowerAscii ≠ "nan".toList :=
    @map_lowerAscii_ne c hc cs 'n' ['a', 'n'] rfl
  rw [realChars?, trim_eq_self_of_forall hblank, htext, hsigned]
  simp only [if_neg hinf, if_neg hnan, hread, Option.map_some]
  rw [Decimal.nearest, hrank, Double.ofRank, if_pos hr]

theorem rank_lt_of_ofFloat {x : Float} {negative : Bool} {rank : Nat}
    (h : Double.ofFloat x = .finite negative rank) : rank < Double.infinityRank := by
  unfold Double.ofFloat at h
  simp only at h
  split at h
  next hr => cases h; exact hr
  next => split at h <;> cases h

/-- Every double is read back. -/
theorem realChars?_doubleText (x : Float) :
    realChars? (Layout.plain.doubleText (Double.ofFloat x)) = some x := by
  have hx := Double.toFloat_ofFloat x
  cases h : Double.ofFloat x with
  | nan =>
      rw [h] at hx
      rw [← hx]
      rfl
  | infinite negative =>
      rw [h] at hx
      rw [← hx]
      cases negative <;> rfl
  | finite negative rank =>
      rw [h] at hx
      rw [realChars?_finite negative (rank_lt_of_ofFloat h), hx]

/-- A double is written with characters of doubles only, and with one at least. -/
theorem doubleText_chars (x : Float) :
    Layout.plain.doubleText (Double.ofFloat x) ≠ [] ∧
      ∀ c ∈ Layout.plain.doubleText (Double.ofFloat x), Layout.isDoubleChar c = true := by
  cases h : Double.ofFloat x with
  | nan => exact ⟨nofun, List.all_eq_true.1 rfl⟩
  | infinite negative => cases negative <;> exact ⟨nofun, List.all_eq_true.1 rfl⟩
  | finite negative rank =>
      obtain ⟨c, cs, -, htext, -, hcs, -⟩ := Layout.exists_finite negative (rank_lt_of_ofFloat h)
      rw [htext]
      exact ⟨by simp, Layout.isDoubleChar_of_mem_signed hcs⟩

end Number
end FilmIndex
