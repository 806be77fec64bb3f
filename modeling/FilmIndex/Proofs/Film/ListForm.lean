import FilmIndex.Proofs.Film.EmbeddingText

/-!
Which texts are embeddings. A text is a list if brackets enclose its entries, perhaps with
double quotes around them, and white space may stand wherever one of these marks ends. The
entries alone decide which numbers it gives. A text that gives none is no list, has another
number of entries than the dimension, or has an entry that is no number; of several reasons
the first in this order is reported.
-/

namespace FilmIndex
namespace Embedding
open Number Text

/-- A text that is its inside between two marks, with white space before and after these. -/
inductive Enclosed (first last : Char) (inside : List Char) : List Char → Prop
  | intro {left right : List Char} (hleft : ∀ c ∈ left, isBlank c = true)
      (hright : ∀ c ∈ right, isBlank c = true) :
      Enclosed first last inside (left ++ (first :: (inside ++ [last]) ++ right))

/-- A text that is a list with the given body. -/
inductive ListForm (body text : List Char) : Prop
  | bare (brackets : Enclosed '[' ']' body text)
  | quoted {inside : List Char} (quotes : Enclosed '"' '"' inside text)
      (brackets : Enclosed '[' ']' body inside)

/-- What stands between the commas of a body; a body of white space has no entries. -/
def entries (body : List Char) : List (List Char) :=
  if body.all isBlank then [] else pieces ',' body

/-- The number that an entry is, if it is one; white space around it does not count. -/
def entryValue? (entry : List Char) : Option Float := realChars? (trim isBlank entry)

/-- What a text comes to at a dimension: the numbers of its entries, or what is wrong first. -/
inductive Outcome (dim : Int) (text : List Char) : Except FormatError Embedding → Prop
  | numbers {body : List Char} {v : Embedding} (form : ListForm body text)
      (count : ((entries body).length : Int) = dim)
      (each : List.Forall₂ (fun entry x => entryValue? entry = some x) (entries body) v) :
      Outcome dim text (.ok v)
  | noList (none : ∀ body, ¬ ListForm body text) :
      Outcome dim text (.error (.notBracketed (String.ofList text)))
  | wrongCount {body : List Char} (form : ListForm body text)
      (count : ((entries body).length : Int) ≠ dim) :
      Outcome dim text (.error (.wrongCount dim (entries body).length))
  | noNumber {body entry : List Char} (form : ListForm body text)
      (count : ((entries body).length : Int) = dim) (mem : entry ∈ entries body)
      (bad : entryValue? entry = none) :
      Outcome dim text (.error (.badNumber (String.ofList text)))

theorem between?_eq_some_iff (first last : Char) (cs inside : List Char) :
    between? first last cs = some inside ↔ cs = first :: (inside ++ [last]) := by
  constructor
  · intro h
    unfold between? at h
    split at h
    · rename_i a b rest
      split at h
      · rename_i marks
        rw [← Option.some.inj h, marks.1, List.dropLast_append_getLast? last marks.2]
      · cases h
    · cases h
  · rintro rfl
    exact between?_append first last inside

/-- White space around the two marks is found by trimming, as no mark is white space. -/
theorem between?_trim_iff {first last : Char} (hfirst : isBlank first = false)
    (hlast : isBlank last = false) (text inside : List Char) :
    between? first last (trim isBlank text) = some inside ↔ Enclosed first last inside text := by
  rw [between?_eq_some_iff]
  constructor
  · intro h
    obtain ⟨left, right, hleft, hright, htext⟩ := exists_trim isBlank text
    rw [h] at htext
    rw [htext]
    exact .intro hleft hright
  · rintro ⟨hleft, hright⟩
    rw [trim_append_left hleft, trim_append_right hright]
    apply trim_eq_self
    · rintro c ⟨⟩
      exact hfirst
    · rw [← List.cons_append, List.getLast?_concat]
      rintro c ⟨⟩
      exact hlast

theorem brackets_iff (text body : List Char) :
    between? '[' ']' (trim isBlank text) = some body ↔ Enclosed '[' ']' body text :=
  between?_trim_iff rfl rfl text body

theorem quotes_iff (text inside : List Char) :
    between? '"' '"' (trim isBlank text) = some inside ↔ Enclosed '"' '"' inside text :=
  between?_trim_iff rfl rfl text inside

/-- No text begins both with a bracket and with a quote. -/
theorem not_brackets_of_quotes {text inside body : List Char}
    (quotes : Enclosed '"' '"' inside text) :
    ¬ Enclosed '[' ']' body text := by
  intro brackets
  have hquotes := (between?_eq_some_iff ..).1 ((quotes_iff ..).2 quotes)
  have hbrackets := (between?_eq_some_iff ..).1 ((brackets_iff ..).2 brackets)
  cases hquotes.symm.trans hbrackets

theorem body?_eq_some_iff (text trimmed : List Char) :
    body? text = some trimmed ↔ ∃ body, ListForm body text ∧ trim isBlank body = trimmed := by
  rw [body?]
  cases hquotes : between? '"' '"' (trim isBlank text) with
  | some inside =>
      have quotes := (quotes_iff ..).1 hquotes
      simp only [Option.map_eq_some_iff, brackets_iff]
      constructor
      · rintro ⟨body, brackets, trimmed⟩
        exact ⟨body, .quoted quotes brackets, trimmed⟩
      · rintro ⟨body, form, trimmed⟩
        cases form with
        | bare brackets => exact absurd brackets (not_brackets_of_quotes quotes)
        | quoted quotes' brackets =>
            have same := Option.some.inj (hquotes.symm.trans ((quotes_iff ..).2 quotes'))
            exact ⟨body, same ▸ brackets, trimmed⟩
  | none =>
      simp only [Option.map_eq_some_iff, brackets_iff]
      constructor
      · rintro ⟨body, brackets, trimmed⟩
        exact ⟨body, .bare brackets, trimmed⟩
      · rintro ⟨body, form, trimmed⟩
        cases form with
        | bare brackets => exact ⟨body, brackets, trimmed⟩
        | quoted quotes => cases hquotes.symm.trans ((quotes_iff ..).2 quotes)

theorem comma_not_mem {white : List Char} (h : ∀ c ∈ white, isBlank c = true) : ',' ∉ white :=
  fun mem => absurd (h _ mem) nofun

/-- Trimming a text before it is cut changes its outer pieces only at their outer ends. -/
theorem map_trim_pieces_trim (cs : List Char) :
    (pieces ',' (trim isBlank cs)).map (trim isBlank) = (pieces ',' cs).map (trim isBlank) := by
  obtain ⟨left, right, hleft, hright, hcs⟩ := exists_trim isBlank cs
  obtain ⟨before, p, q, after, hinner, hright', happend⟩ :=
    exists_pieces_append ',' (trim isBlank cs) right
  rw [pieces_of_not_mem (comma_not_mem hright)] at hright'
  obtain ⟨rfl, rfl⟩ := List.cons.inj hright'
  obtain ⟨before', p', q', after', hleft', hinner', happend'⟩ :=
    exists_pieces_append ',' left (trim isBlank cs ++ right)
  rw [pieces_of_not_mem (comma_not_mem hleft)] at hleft'
  obtain ⟨rfl, hp'⟩ : before' = [] ∧ p' = left := by
    cases before' with
    | nil => exact ⟨rfl, (List.cons.inj hleft').1.symm⟩
    | cons b before' => simp at hleft'
  rw [← hcs] at happend'
  have first : (pieces ',' cs).map (trim isBlank) =
      (pieces ',' (trim isBlank cs ++ right)).map (trim isBlank) := by
    rw [happend', hinner', hp']
    simp only [List.nil_append, List.map_cons, trim_append_left hleft]
  have last : (pieces ',' (trim isBlank cs ++ right)).map (trim isBlank) =
      (pieces ',' (trim isBlank cs)).map (trim isBlank) := by
    rw [happend, hinner]
    simp only [List.map_append, List.map_cons, List.map_nil, trim_append_right hright]
  exact (first.trans last).symm

theorem tokens_trim (body : List Char) :
    tokens (trim isBlank body) = (entries body).map (trim isBlank) := by
  have empty : (trim isBlank body).isEmpty = body.all isBlank := by
    rw [Bool.eq_iff_iff, List.isEmpty_iff, trim_eq_nil_iff, List.all_eq_true]
  rw [tokens, entries, empty]
  split
  · rfl
  · exact map_trim_pieces_trim body

theorem mapM_trim (ts : List (List Char)) :
    (ts.map (trim isBlank)).mapM realChars? = ts.mapM entryValue? := List.mapM_map

theorem parseChars_of_noList {text : List Char} (h : ∀ body, ¬ ListForm body text) (dim : Int) :
    parseChars dim text = .error (.notBracketed (String.ofList text)) := by
  rw [parseChars]
  cases hbody : body? text with
  | none => rfl
  | some trimmed =>
      obtain ⟨body, form, -⟩ := (body?_eq_some_iff ..).1 hbody
      exact absurd form (h body)

theorem parseChars_of_listForm {text body : List Char} (h : ListForm body text) (dim : Int) :
    parseChars dim text =
      if ((entries body).length : Int) ≠ dim then .error (.wrongCount dim (entries body).length)
      else
        ((entries body).mapM entryValue?).elim (.error (.badNumber (String.ofList text))) .ok := by
  rw [parseChars, (body?_eq_some_iff ..).2 ⟨body, h, rfl⟩]
  simp only [tokens_trim, List.length_map, mapM_trim]
  cases (entries body).mapM entryValue? <;> rfl

/-- A text is read as its outcome, which it has at every dimension. -/
theorem parseChars_eq_iff (dim : Int) (text : List Char) (r : Except FormatError Embedding) :
    parseChars dim text = r ↔ Outcome dim text r := by
  constructor
  · rintro rfl
    by_cases h : ∃ body, ListForm body text
    · obtain ⟨body, form⟩ := h
      rw [parseChars_of_listForm form]
      split
      · rename_i count
        exact .wrongCount form count
      · rename_i count
        have count : ((entries body).length : Int) = dim := not_ne_iff.1 count
        cases values : (entries body).mapM entryValue? with
        | some v => exact .numbers form count ((mapM_eq_some_iff ..).1 values)
        | none =>
            obtain ⟨entry, mem, bad⟩ := (mapM_eq_none_iff ..).1 values
            exact .noNumber form count mem bad
    · have none := not_exists.1 h
      rw [parseChars_of_noList none]
      exact .noList none
  · intro h
    cases h with
    | noList none => exact parseChars_of_noList none dim
    | wrongCount form count => rw [parseChars_of_listForm form, if_pos count]
    | numbers form count each =>
        rw [parseChars_of_listForm form, if_neg (not_ne_iff.2 count), (mapM_eq_some_iff ..).2 each,
          Option.elim_some]
    | noNumber form count mem bad =>
        rw [parseChars_of_listForm form, if_neg (not_ne_iff.2 count),
          (mapM_eq_none_iff ..).2 ⟨_, mem, bad⟩, Option.elim_none]

theorem Enclosed.count_comma {first last : Char} {inside text : List Char}
    (h : Enclosed first last inside text) (hfirst : first ≠ ',') (hlast : last ≠ ',') :
    text.count ',' = inside.count ',' := by
  obtain ⟨hleft, hright⟩ := h
  simp [List.count_eq_zero.2 (comma_not_mem hleft), List.count_eq_zero.2 (comma_not_mem hright),
    hfirst, hlast]

theorem ListForm.count_comma {body text : List Char} (h : ListForm body text) :
    text.count ',' = body.count ',' := by
  cases h with
  | bare brackets => exact brackets.count_comma (by decide) (by decide)
  | quoted quotes brackets =>
      rw [quotes.count_comma (by decide) (by decide), brackets.count_comma (by decide) (by decide)]

theorem count_comma_entries (body : List Char) : body.count ',' = (entries body).length - 1 := by
  rw [entries]
  split
  next white =>
    rw [List.count_eq_zero.2 (comma_not_mem (List.all_eq_true.1 white)), List.length_nil]
  next => rw [length_pieces, Nat.add_sub_cancel]

theorem length_of_parseChars {dim : Int} {text : List Char} {v : Embedding}
    (h : parseChars dim text = .ok v) : (v.length : Int) = dim := by
  cases (parseChars_eq_iff ..).1 h with
  | numbers _ count each => rw [← each.length_eq, count]

/-- The commas of a text that is an embedding are those between its numbers. -/
theorem count_comma_of_parseChars {dim : Int} {text : List Char} {v : Embedding}
    (h : parseChars dim text = .ok v) : text.count ',' = v.length - 1 := by
  cases (parseChars_eq_iff ..).1 h with
  | numbers form _ each => rw [form.count_comma, count_comma_entries, each.length_eq]

end Embedding
end FilmIndex
