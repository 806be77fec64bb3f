import FilmIndex.Film.Embedding
import FilmIndex.Proofs.Number.ReadBack
import FilmIndex.Proofs.Traversal

/-!
Embeddings are read back from their text: the brackets and the commas are found again
since no double is written with one, and blanks stand after commas only.
-/

namespace FilmIndex
namespace Embedding
open Number Text

/-- A double as it stands in an embedding. -/
def elementText (x : Float) : List Char := Layout.plain.doubleText (Double.ofFloat x)

theorem elementText_ne_nil (x : Float) : elementText x ≠ [] := (doubleText_chars x).1

theorem isDoubleChar_of_mem {x : Float} {c : Char} (h : c ∈ elementText x) :
    Layout.isDoubleChar c = true := (doubleText_chars x).2 c h

theorem isBlank_of_isDoubleChar {c : Char} (h : Layout.isDoubleChar c = true) :
    isBlank c = false := by
  obtain ⟨hlow, hhigh⟩ := Layout.toNat_of_isDoubleChar h
  rw [isBlank, isNumeralBlank_of_isDoubleChar h, Bool.false_or, decide_eq_false_iff_not]
  omega

theorem ne_of_isDoubleChar {c c' : Char} (h : Layout.isDoubleChar c = true)
    (h' : Layout.isDoubleChar c' = false) : c ≠ c' := by
  rintro rfl
  rw [h] at h'
  cases h'

theorem not_mem_elementText {x : Float} {c : Char} (h : Layout.isDoubleChar c = false) :
    c ∉ elementText x := fun hc => ne_of_isDoubleChar (isDoubleChar_of_mem hc) h rfl

theorem isBlank_of_mem {x : Float} {c : Char} (h : c ∈ elementText x) : isBlank c = false :=
  isBlank_of_isDoubleChar (isDoubleChar_of_mem h)

theorem formatChars_eq (v : Embedding) :
    formatChars v = '[' :: (joined [',', ' '] (v.map elementText) ++ [']']) := rfl

theorem between?_append (first last : Char) (cs : List Char) :
    between? first last (first :: (cs ++ [last])) = some cs := by
  obtain ⟨c, rest, hc⟩ := List.exists_cons_of_ne_nil (List.append_ne_nil_of_right_ne_nil cs
    (List.cons_ne_nil last []))
  have hlast : (c :: rest).getLast? = some last := by rw [← hc, List.getLast?_concat]
  have hinit : (c :: rest).dropLast = cs := by rw [← hc, List.dropLast_concat]
  rw [hc, between?, if_pos ⟨rfl, hlast⟩, hinit]

theorem between?_of_ne {first c : Char} (h : c ≠ first) (last : Char) (cs : List Char) :
    between? first last (c :: cs) = none := by
  cases cs with
  | nil => rfl
  | cons c' cs => rw [between?, if_neg fun hc => h hc.1]

theorem trim_joined (v : Embedding) :
    trim isBlank (joined [',', ' '] (v.map elementText)) = joined [',', ' '] (v.map elementText) := by
  refine trim_eq_self (fun c hc => ?_) (fun c hc => ?_)
  · cases v with
    | nil => cases hc
    | cons x v =>
        rw [List.map_cons, joined_cons, List.head?_append_of_ne_nil _ (elementText_ne_nil x)] at hc
        exact isBlank_of_mem (List.mem_of_mem_head? hc)
  · rcases List.eq_nil_or_concat v with rfl | ⟨v, x, rfl⟩
    · cases hc
    · rw [List.concat_eq_append, List.map_append, List.map_singleton, joined_concat,
        List.getLast?_append_of_ne_nil _ (elementText_ne_nil x)] at hc
      exact isBlank_of_mem (List.mem_of_mem_getLast? hc)

theorem body?_formatChars (v : Embedding) :
    body? (formatChars v) = some (joined [',', ' '] (v.map elementText)) := by
  have htrim : trim isBlank (formatChars v) = formatChars v := by
    rw [formatChars_eq]
    refine trim_eq_self ?_ ?_
    · rintro _ ⟨⟩
      rfl
    · rw [← List.cons_append, List.getLast?_concat]
      rintro _ ⟨⟩
      rfl
  have hquotes : between? '"' '"' (formatChars v) = none := between?_of_ne (by decide) '"' _
  rw [body?, htrim, hquotes]
  simp only
  rw [formatChars_eq, between?_append, Option.map_some, trim_joined]

theorem pieces_joined (t : List Char) (ts : List (List Char)) (h : ',' ∉ t) (hts : ∀ t ∈ ts, ',' ∉ t) :
    pieces ',' (joined [',', ' '] (t :: ts)) = t :: ts.map (' ' :: ·) := by
  rw [joined_cons]
  induction ts generalizing t with
  | nil => rw [List.flatMap_nil, List.append_nil, List.map_nil, pieces_of_not_mem h]
  | cons t' ts ih =>
      obtain ⟨ht', hts⟩ := List.forall_mem_cons.1 hts
      have hspace : ',' ∉ ' ' :: t' := List.not_mem_cons_of_ne_of_not_mem (by decide) ht'
      have hrest := ih (' ' :: t') hspace hts
      rw [List.flatMap_cons, List.map_cons, ← hrest]
      exact pieces_append_sep h _

theorem tokens_joined (v : Embedding) :
    tokens (joined [',', ' '] (v.map elementText)) = v.map elementText := by
  cases v with
  | nil => rfl
  | cons x v =>
      have hcomma (x : Float) : ',' ∉ elementText x := not_mem_elementText rfl
      have htrim (x : Float) : trim isBlank (elementText x) = elementText x :=
        trim_eq_self_of_forall fun c hc => isBlank_of_mem hc
      have hspace (x : Float) : trim isBlank (' ' :: elementText x) = elementText x := htrim x
      have hne : (joined [',', ' '] ((x :: v).map elementText)).isEmpty = false := by
        rw [List.isEmpty_eq_false_iff, List.map_cons, joined_cons]
        exact List.append_ne_nil_of_left_ne_nil (elementText_ne_nil x) _
      rw [tokens, hne, List.map_cons, pieces_joined _ _ (hcomma x)
        (List.forall_mem_map.2 fun x _ => hcomma x)]
      simp [htrim, hspace]

theorem mapM_elementText (v : Embedding) : (v.map elementText).mapM realChars? = some v := by
  rw [mapM_eq_some_iff, List.forall₂_map_left_iff, List.forall₂_same]
  exact fun x _ => realChars?_doubleText x

/-- The text of an embedding is read as a list of its length, whatever dimension is asked for. -/
theorem parseChars_formatChars_eq (v : Embedding) (dim : Int) :
    parseChars dim (formatChars v) =
      if (v.length : Int) = dim then .ok v else .error (.wrongCount dim v.length) := by
  rw [parseChars, body?_formatChars]
  simp only [tokens_joined, List.length_map, mapM_elementText, ne_eq, ite_not]

/-- An embedding of the right length is read back from its text. -/
theorem parseChars_formatChars {v : Embedding} {dim : Int} (h : (v.length : Int) = dim) :
    parseChars dim (formatChars v) = .ok v := by
  rw [parseChars_formatChars_eq, if_pos h]

end Embedding
end FilmIndex
