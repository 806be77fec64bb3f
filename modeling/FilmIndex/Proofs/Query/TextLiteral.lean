import FilmIndex.Query.Filter
import Mathlib.Data.List.Count

/-!
Texts between double quotes, as the readers of expressions take them: a literal ends
at the next double quote that no backslash takes with it. What a filter writes for a
text is read as that text exactly when the text has no backslash.
-/

namespace FilmIndex
namespace TextLiteral
open FilmIndex.Filter

/-- What can stand between the two quotes of a literal. -/
inductive IsBody : List Char → Prop
  | nil : IsBody []
  | escaped (c : Char) {cs : List Char} (rest : IsBody cs) : IsBody ('\\' :: c :: cs)
  | plain {c : Char} {cs : List Char} (quote : c ≠ '"') (backslash : c ≠ '\\')
      (rest : IsBody cs) : IsBody (c :: cs)

/-- The text that a body stands for. -/
def unescaped : List Char → List Char
  | [] => []
  | '\\' :: c :: cs => c :: unescaped cs
  | c :: cs => c :: unescaped cs

/-- The body up to the closing quote, and what follows that quote. -/
def body? : List Char → Option (List Char × List Char)
  | [] => none
  | '"' :: rest => some ([], rest)
  | '\\' :: c :: rest => (body? rest).map fun r => ('\\' :: c :: r.1, r.2)
  | c :: rest => (body? rest).map fun r => (c :: r.1, r.2)

/-- The text of the literal that comes first, and what follows the literal. -/
def read? : List Char → Option (List Char × List Char)
  | '"' :: cs => (body? cs).map fun r => (unescaped r.1, r.2)
  | _ => none

theorem body?_append {b : List Char} (h : IsBody b) (rest : List Char) :
    body? (b ++ '"' :: rest) = some (b, rest) := by
  induction h with
  | nil => rfl
  | escaped c _ ih =>
      rw [List.cons_append, List.cons_append, body?, ih]
      rfl
  | @plain c cs quote backslash _ ih =>
      rw [List.cons_append, body?, ih]
      · rfl
      · exact quote
      · intro c' rest' hc
        exact absurd hc backslash

theorem isBody_of_body? {cs b rest : List Char} (h : body? cs = some (b, rest)) :
    IsBody b ∧ cs = b ++ '"' :: rest := by
  fun_induction body? cs generalizing b with
  | case1 => cases h
  | case2 rest' =>
      cases h
      exact ⟨.nil, rfl⟩
  | case3 c cs ih =>
      obtain ⟨⟨b', rest'⟩, hr, heq⟩ := Option.map_eq_some_iff.1 h
      cases heq
      obtain ⟨hb, hcs⟩ := ih hr
      exact ⟨.escaped c hb, congrArg (fun x => '\\' :: c :: x) hcs⟩
  | case4 c cs quote backslash ih =>
      obtain ⟨⟨b', rest'⟩, hr, heq⟩ := Option.map_eq_some_iff.1 h
      cases heq
      obtain ⟨hb, hcs⟩ := ih hr
      refine ⟨.plain quote ?_ hb, congrArg (c :: ·) hcs⟩
      rintro rfl
      cases cs with
      | nil => cases hr
      | cons c' cs' => exact backslash c' cs' rfl rfl

theorem unescaped_plain {c : Char} (h : c ≠ '\\') (cs : List Char) :
    unescaped (c :: cs) = c :: unescaped cs := by
  rw [unescaped]
  intro _ _ hc
  exact absurd hc h

/-- Each quote and each backslash of the text takes a second character of the body. -/
theorem length_add_count_le {b : List Char} (h : IsBody b) :
    (unescaped b).length + (unescaped b).count '"' + (unescaped b).count '\\' ≤ b.length := by
  induction h with
  | nil => simp [unescaped]
  | escaped c _ ih =>
      have hc : (if c = '"' then 1 else 0) + (if c = '\\' then 1 else 0) ≤ 1 := by
        by_cases hq : c = '"'
        · subst hq; decide
        · rw [if_neg hq]; split <;> omega
      simp only [unescaped, List.length_cons, List.count_cons, beq_iff_eq]
      omega
  | @plain c cs quote backslash _ ih =>
      rw [unescaped_plain backslash, List.count_cons_of_ne quote, List.count_cons_of_ne backslash,
        List.length_cons, List.length_cons]
      omega

theorem length_flatMap_quoteChar (v : List Char) :
    (v.flatMap quoteChar).length = v.length + v.count '"' := by
  induction v with
  | nil => rfl
  | cons c v ih =>
      rw [List.flatMap_cons, List.length_append, ih, List.length_cons]
      by_cases hc : c = '"'
      · subst hc
        rw [List.count_cons_self]
        simp only [quoteChar, if_true, List.length_cons, List.length_nil]
        omega
      · rw [List.count_cons_of_ne hc]
        simp only [quoteChar, if_neg hc, List.length_cons, List.length_nil]
        omega

/-- Without a backslash in the text its quotes are the only escaped characters. -/
theorem isBody_flatMap_quoteChar {v : List Char} (h : '\\' ∉ v) :
    IsBody (v.flatMap quoteChar) ∧ unescaped (v.flatMap quoteChar) = v := by
  induction v with
  | nil => exact ⟨.nil, rfl⟩
  | cons c v ih =>
      obtain ⟨hb, hv⟩ := ih (List.not_mem_of_not_mem_cons h)
      have hc : c ≠ '\\' := fun hc => h (hc ▸ List.mem_cons_self)
      rw [List.flatMap_cons]
      by_cases hq : c = '"'
      · subst hq
        exact ⟨.escaped '"' hb, congrArg ('"' :: ·) hv⟩
      · rw [quoteChar, if_neg hq]
        refine ⟨.plain hq hc hb, ?_⟩
        rw [List.singleton_append, unescaped_plain hc, hv]

/-- What is written for a text reads as that text only if it has no backslash. -/
theorem not_mem_of_unescaped {v b : List Char} (h : IsBody b) (hv : unescaped b = v)
    (hl : b.length = (v.flatMap quoteChar).length) : '\\' ∉ v := by
  have hle := length_add_count_le h
  rw [hv, hl, length_flatMap_quoteChar] at hle
  rw [← List.count_eq_zero]
  omega

theorem read?_textLiteral (v rest : List Char) :
    read? (textLiteral v ++ rest) = some (v, rest) ↔ '\\' ∉ v := by
  have ht : textLiteral v ++ rest = '"' :: (v.flatMap quoteChar ++ '"' :: rest) := by
    simp [textLiteral]
  rw [ht, read?]
  constructor
  · intro h
    obtain ⟨⟨b, rest'⟩, hb, heq⟩ := Option.map_eq_some_iff.1 h
    cases heq
    obtain ⟨hbody, hcs⟩ := isBody_of_body? hb
    exact not_mem_of_unescaped hbody rfl (congrArg List.length (List.append_cancel_right hcs)).symm
  · intro h
    obtain ⟨hb, hv⟩ := isBody_flatMap_quoteChar h
    rw [body?_append hb, Option.map_some, hv]

end TextLiteral
end FilmIndex
