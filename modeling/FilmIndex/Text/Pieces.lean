/-!
A text cut at a separator, and put together again. Cutting loses nothing:
joining the pieces gives the text back.
-/

namespace FilmIndex
namespace Text

/-- The pieces between the separators; there is one more piece than separators. -/
def pieces (sep : Char) (cs : List Char) : List (List Char) :=
  cs.foldr
    (fun c ps =>
      if c = sep then [] :: ps
      else match ps with
        | p :: rest => (c :: p) :: rest
        | [] => [[c]])
    [[]]

def joined (sep : List Char) (ps : List (List Char)) : List Char := sep.intercalate ps

@[simp] theorem pieces_nil (sep : Char) : pieces sep [] = [[]] := rfl

theorem pieces_sep (sep : Char) (cs : List Char) :
    pieces sep (sep :: cs) = [] :: pieces sep cs := by
  simp [pieces]

theorem pieces_ne_nil (sep : Char) (cs : List Char) : pieces sep cs ≠ [] := by
  cases cs with
  | nil => simp
  | cons c cs =>
      simp only [pieces, List.foldr_cons]
      split
      · simp
      · split <;> simp

theorem pieces_cons {sep c : Char} {cs p : List Char} {ps : List (List Char)} (h : c ≠ sep)
    (hp : pieces sep cs = p :: ps) : pieces sep (c :: cs) = (c :: p) :: ps := by
  unfold pieces at hp ⊢
  rw [List.foldr_cons, hp]
  simp [h]

theorem pieces_of_not_mem {sep : Char} {p : List Char} (h : sep ∉ p) : pieces sep p = [p] := by
  induction p with
  | nil => rfl
  | cons c p ih =>
      obtain ⟨hc, hp⟩ := List.ne_and_not_mem_of_not_mem_cons h
      exact pieces_cons (Ne.symm hc) (ih hp)

theorem pieces_append_sep {sep : Char} {p : List Char} (h : sep ∉ p) (cs : List Char) :
    pieces sep (p ++ sep :: cs) = p :: pieces sep cs := by
  induction p with
  | nil => exact pieces_sep sep cs
  | cons c p ih =>
      obtain ⟨hc, hp⟩ := List.ne_and_not_mem_of_not_mem_cons h
      exact pieces_cons (Ne.symm hc) (ih hp)

@[simp] theorem joined_nil (sep : List Char) : joined sep [] = [] := rfl

@[simp] theorem joined_singleton (sep p : List Char) : joined sep [p] = p := by
  simp [joined, List.intercalate]

theorem joined_cons_cons (sep p q : List Char) (ps : List (List Char)) :
    joined sep (p :: q :: ps) = p ++ (sep ++ joined sep (q :: ps)) := by
  simp [joined, List.intercalate]

theorem joined_cons (sep p : List Char) (ps : List (List Char)) :
    joined sep (p :: ps) = p ++ ps.flatMap (sep ++ ·) := by
  induction ps generalizing p with
  | nil => simp [joined, List.intercalate]
  | cons q ps ih => rw [joined_cons_cons, ih, List.flatMap_cons, List.append_assoc]

theorem joined_concat (sep p : List Char) (ps : List (List Char)) :
    joined sep (ps ++ [p]) = ps.flatMap (· ++ sep) ++ p := by
  induction ps with
  | nil => simp [joined, List.intercalate]
  | cons q ps ih =>
      obtain ⟨r, rs, hr⟩ := List.exists_cons_of_ne_nil (List.append_ne_nil_of_right_ne_nil ps
        (List.cons_ne_nil p []))
      rw [List.cons_append, hr, joined_cons_cons, ← hr, ih, List.flatMap_cons]
      simp only [List.append_assoc]

theorem mem_joined {sep : List Char} {ps : List (List Char)} {c : Char} (h : c ∈ joined sep ps) :
    c ∈ sep ∨ ∃ p ∈ ps, c ∈ p := by
  cases ps with
  | nil => cases h
  | cons p ps =>
      rw [joined_cons, List.mem_append, List.mem_flatMap] at h
      rcases h with h | ⟨q, hq, h⟩
      · exact .inr ⟨p, List.mem_cons_self, h⟩
      · rcases List.mem_append.1 h with h | h
        · exact .inl h
        · exact .inr ⟨q, List.mem_cons_of_mem p hq, h⟩

theorem joined_pieces (sep : Char) (cs : List Char) : joined [sep] (pieces sep cs) = cs := by
  induction cs with
  | nil => rfl
  | cons c cs ih =>
      obtain ⟨p, ps, hp⟩ := List.exists_cons_of_ne_nil (pieces_ne_nil sep cs)
      rw [hp] at ih
      by_cases h : c = sep
      · subst h
        rw [pieces_sep, hp]
        simpa [joined, List.intercalate] using ih
      · rw [pieces_cons h hp]
        cases ps with
        | nil => simpa [joined, List.intercalate] using ih
        | cons q qs => simpa [joined, List.intercalate] using ih

/-- Where a text is cut, the last piece before and the first one after run together. -/
theorem exists_pieces_append (sep : Char) (cs ds : List Char) :
    ∃ before p q after, pieces sep cs = before ++ [p] ∧ pieces sep ds = q :: after ∧
      pieces sep (cs ++ ds) = before ++ (p ++ q) :: after := by
  induction cs with
  | nil =>
      obtain ⟨q, after, hds⟩ := List.exists_cons_of_ne_nil (pieces_ne_nil sep ds)
      exact ⟨[], [], q, after, rfl, hds, hds⟩
  | cons c cs ih =>
      obtain ⟨before, p, q, after, hcs, hds, happend⟩ := ih
      by_cases hc : c = sep
      · subst hc
        refine ⟨[] :: before, p, q, after, ?_, hds, ?_⟩
        · rw [pieces_sep, hcs, List.cons_append]
        · rw [List.cons_append, pieces_sep, happend, List.cons_append]
      · cases before with
        | nil => exact ⟨[], c :: p, q, after, pieces_cons hc hcs, hds, pieces_cons hc happend⟩
        | cons b before =>
            exact ⟨(c :: b) :: before, p, q, after, pieces_cons hc hcs, hds, pieces_cons hc happend⟩

theorem length_pieces (sep : Char) (cs : List Char) :
    (pieces sep cs).length = cs.count sep + 1 := by
  induction cs with
  | nil => rfl
  | cons c cs ih =>
      by_cases hc : c = sep
      · rw [hc, pieces_sep, List.length_cons, ih, List.count_cons_self]
      · obtain ⟨p, ps, hp⟩ := List.exists_cons_of_ne_nil (pieces_ne_nil sep cs)
        rw [pieces_cons hc hp, List.length_cons, ← List.length_cons (a := p), ← hp, ih,
          List.count_cons_of_ne hc]

theorem not_mem_of_mem_pieces {sep : Char} {cs p : List Char} (h : p ∈ pieces sep cs) :
    sep ∉ p := by
  induction cs generalizing p with
  | nil =>
      rw [pieces_nil, List.mem_singleton] at h
      rw [h]
      exact List.not_mem_nil
  | cons c cs ih =>
      by_cases hc : c = sep
      · rw [hc, pieces_sep, List.mem_cons] at h
        rcases h with rfl | h
        · exact List.not_mem_nil
        · exact ih h
      · obtain ⟨q, ps, hq⟩ := List.exists_cons_of_ne_nil (pieces_ne_nil sep cs)
        rw [pieces_cons hc hq, List.mem_cons] at h
        rcases h with rfl | h
        · exact List.not_mem_cons_of_ne_of_not_mem (Ne.symm hc) (ih (hq ▸ List.mem_cons_self))
        · exact ih (hq ▸ List.mem_cons_of_mem q h)

theorem joined_append (sep : List Char) {ps qs : List (List Char)} (hps : ps ≠ []) (hqs : qs ≠ []) :
    joined sep (ps ++ qs) = joined sep ps ++ (sep ++ joined sep qs) := by
  obtain ⟨p, ps, rfl⟩ := List.exists_cons_of_ne_nil hps
  obtain ⟨q, qs, rfl⟩ := List.exists_cons_of_ne_nil hqs
  rw [List.cons_append, joined_cons, joined_cons, joined_cons, List.flatMap_append,
    List.flatMap_cons]
  simp only [List.append_assoc]

/-- A piece stands as a whole in what is joined of it and others. -/
theorem infix_joined {sep p : List Char} {ps : List (List Char)} (h : p ∈ ps) :
    p <:+: joined sep ps := by
  induction ps with
  | nil => cases h
  | cons q ps ih =>
      rcases List.mem_cons.1 h with rfl | h
      · exact ⟨[], ps.flatMap (sep ++ ·), (joined_cons sep p ps).symm⟩
      · have hq := joined_append sep (List.cons_ne_nil q []) (List.ne_nil_of_mem h)
        rw [← List.singleton_append, hq, ← List.append_assoc]
        exact (ih h).trans (List.suffix_append _ _).isInfix

theorem infix_of_mem_pieces {sep : Char} {cs p : List Char} (h : p ∈ pieces sep cs) :
    p <:+: cs := by
  have hjoined := @infix_joined [sep] p (pieces sep cs) h
  rwa [joined_pieces] at hjoined

end Text
end FilmIndex
