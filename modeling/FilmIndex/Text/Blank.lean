/-!
White space. Two sets are in use: the full one, by which texts are trimmed and
lines count as blank, and the one around numerals, which lacks the four
separators U+001C to U+001F.
-/

namespace FilmIndex
namespace Text

def isNumeralBlank (c : Char) : Bool :=
  let n := c.toNat
  decide (0x9 ≤ n ∧ n ≤ 0xD) || n == 0x20 || n == 0x85 || n == 0xA0 || n == 0x1680 ||
    decide (0x2000 ≤ n ∧ n ≤ 0x200A) || n == 0x2028 || n == 0x2029 || n == 0x202F ||
    n == 0x205F || n == 0x3000

def isBlank (c : Char) : Bool :=
  isNumeralBlank c || decide (0x1C ≤ c.toNat ∧ c.toNat ≤ 0x1F)

def trimStart (p : Char → Bool) (cs : List Char) : List Char := cs.dropWhile p

def trimEnd (p : Char → Bool) (cs : List Char) : List Char :=
  (cs.reverse.dropWhile p).reverse

/-- The text without the characters of the class at its two ends. -/
def trim (p : Char → Bool) (cs : List Char) : List Char := trimEnd p (trimStart p cs)

theorem dropWhile_eq_self {p : Char → Bool} {cs : List Char}
    (h : ∀ c ∈ cs.head?, p c = false) : cs.dropWhile p = cs := by
  cases cs with
  | nil => rfl
  | cons c cs => rw [List.dropWhile_cons, h c rfl]; rfl

theorem trim_eq_self {p : Char → Bool} {cs : List Char} (hhead : ∀ c ∈ cs.head?, p c = false)
    (hlast : ∀ c ∈ cs.getLast?, p c = false) : trim p cs = cs := by
  rw [← List.head?_reverse] at hlast
  rw [trim, trimStart, dropWhile_eq_self hhead, trimEnd, dropWhile_eq_self hlast,
    List.reverse_reverse]

theorem trim_eq_self_of_forall {p : Char → Bool} {cs : List Char} (h : ∀ c ∈ cs, p c = false) :
    trim p cs = cs :=
  trim_eq_self (fun c hc => h c (List.mem_of_mem_head? hc))
    (fun c hc => h c (List.mem_of_mem_getLast? hc))

section Trim
variable {p : Char → Bool} {left cs right : List Char}

theorem dropWhile_of_forall (h : ∀ c ∈ left, p c = true) : left.dropWhile p = [] := by
  have hdrop := @List.dropWhile_append_of_pos Char p left [] h
  rwa [List.append_nil] at hdrop

theorem trim_append_left (h : ∀ c ∈ left, p c = true) : trim p (left ++ cs) = trim p cs := by
  rw [trim, trim, trimStart, trimStart, List.dropWhile_append_of_pos h]

theorem trim_append_right (h : ∀ c ∈ right, p c = true) : trim p (cs ++ right) = trim p cs := by
  have hreverse : ∀ c ∈ right.reverse, p c = true := fun c hc => h c (List.mem_reverse.1 hc)
  rw [trim, trim, trimStart, trimStart, List.dropWhile_append]
  split
  next hempty => rw [dropWhile_of_forall h, List.isEmpty_iff.1 hempty]
  next => rw [trimEnd, trimEnd, List.reverse_append, List.dropWhile_append_of_pos hreverse]

/-- Trimming takes off two runs of the class and nothing else. -/
theorem exists_trim (p : Char → Bool) (cs : List Char) :
    ∃ left right, (∀ c ∈ left, p c = true) ∧ (∀ c ∈ right, p c = true) ∧
      cs = left ++ (trim p cs ++ right) := by
  have taken (cs : List Char) : ∀ c ∈ cs.takeWhile p, p c = true := fun c hc => by
    exact List.all_eq_true.1 List.all_takeWhile c hc
  refine ⟨cs.takeWhile p, ((cs.dropWhile p).reverse.takeWhile p).reverse, taken cs,
    fun c hc => taken _ c (List.mem_reverse.1 hc), ?_⟩
  rw [trim, trimStart, trimEnd, ← List.reverse_append, List.takeWhile_append_dropWhile,
    List.reverse_reverse, List.takeWhile_append_dropWhile]

theorem trim_eq_nil_iff : trim p cs = [] ↔ ∀ c ∈ cs, p c = true := by
  constructor
  · intro h
    obtain ⟨left, right, hleft, hright, hcs⟩ := exists_trim p cs
    rw [h, List.nil_append] at hcs
    rw [hcs]
    exact fun c hc => (List.mem_append.1 hc).elim (hleft c) (hright c)
  · intro h
    have htrim := @trim_append_left p cs [] h
    rwa [List.append_nil] at htrim

end Trim

end Text
end FilmIndex
