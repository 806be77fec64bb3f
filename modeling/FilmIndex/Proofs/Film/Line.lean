import FilmIndex.Proofs.Film.EmbeddingText
import FilmIndex.Proofs.Film.Reading
import FilmIndex.Proofs.Film.Spelling

/-!
A film as one row, and the film read back from it. The title may be written as any number of
columns and the embedding with quotes around it or without: the row holds the film as long as
no column of the title after the second opens a list. The line of a film has quotes around
both, so that nothing in them is taken for a comma between columns or for a quote that closes
one.
-/

namespace FilmIndex
namespace Film
open Columns FilmIndex.Embedding Number Text

/-- A film as it stands in a film file. -/
def line (f : Film) : List Char :=
  (intText f.id).toList ++ ',' :: (quotedColumn f.title.toList ++ ',' ::
    ((intText f.releaseYear).toList ++ ',' :: '"' :: (formatChars f.embedding ++ ['"'])))

/-- The embedding as it stands in a row, with quotes around it or without. -/
def embeddingText (f : Film) (quoted : Bool) : List Char :=
  if quoted then '"' :: (formatChars f.embedding ++ ['"']) else formatChars f.embedding

/-- A film as a row in which the title has the given text. -/
def rowChars (f : Film) (titleText : List Char) (quoted : Bool) : List Char :=
  (intText f.id).toList ++ ',' :: (titleText ++ ',' ::
    ((intText f.releaseYear).toList ++ ',' :: f.embeddingText quoted))

/-- The numbers and the embedding of the film keep to the limits of the reader. -/
structure Bounded (f : Film) : Prop where
  id : (natText f.id.natAbs).length ≤ digitLimit
  year : (natText f.releaseYear.natAbs).length ≤ digitLimit
  embedding : (formatChars f.embedding).length ≤ columnLimit

/-- The film can stand on a line: its numbers and its texts keep to the limits of the
reader, its title has no line break and its embedding the given dimension. -/
structure Writable (dim : Int) (f : Film) : Prop where
  id : (natText f.id.natAbs).length ≤ digitLimit
  title : f.title.length ≤ columnLimit
  unbroken : Unbroken f.title.toList
  year : (natText f.releaseYear.natAbs).length ≤ digitLimit
  dimension : (f.embedding.length : Int) = dim
  embedding : (formatChars f.embedding).length ≤ columnLimit

theorem isOrdinary_of_mem_intText {n : Int} {c : Char} (h : c ∈ (intText n).toList) :
    isOrdinary c = true := by
  rcases mem_intText h with rfl | hd
  · rfl
  · rw [isOrdinary_iff]
    refine ⟨?_, ne_of_isDigit hd rfl, ne_of_isDigit hd rfl⟩
    rw [Columns.isBreak, Bool.or_eq_false_iff, beq_eq_false_iff_ne, beq_eq_false_iff_ne]
    exact ⟨ne_of_isDigit hd rfl, ne_of_isDigit hd rfl⟩

theorem intText_ne_nil (n : Int) : (intText n).toList ≠ [] := by
  rw [toList_intText]
  exact List.append_ne_nil_of_right_ne_nil _ (natText_ne_nil _)

theorem length_intText_le {n : Int} (h : (natText n.natAbs).length ≤ digitLimit) :
    (intText n).toList.length ≤ columnLimit := by
  have hlimit : digitLimit + 1 ≤ columnLimit := by decide
  rw [toList_intText, List.length_append]
  split
  next => rw [List.length_singleton]; omega
  next => rw [List.length_nil]; omega

theorem not_mem_formatChars {v : Embedding} {c : Char} (h : Layout.isDoubleChar c = false)
    (h' : c ∉ ['[', ']', ',', ' ']) : c ∉ formatChars v := by
  intro hc
  simp only [List.mem_cons, List.not_mem_nil, or_false, not_or] at h'
  rw [formatChars_eq, List.mem_cons, List.mem_append, List.mem_singleton] at hc
  rcases hc with hc | hc | hc
  · exact h'.1 hc
  · rcases mem_joined hc with hc | ⟨t, ht, hc⟩
    · rcases List.mem_cons.1 hc with hc | hc
      · exact h'.2.2.1 hc
      · exact h'.2.2.2 (List.mem_singleton.1 hc)
    · obtain ⟨x, -, rfl⟩ := List.mem_map.1 ht
      exact not_mem_elementText h hc
  · exact h'.2.1 hc

theorem flatMap_quoteTwice {cs : List Char} (h : '"' ∉ cs) : cs.flatMap quoteTwice = cs := by
  induction cs with
  | nil => rfl
  | cons c cs ih =>
      obtain ⟨hc, hcs⟩ := List.ne_and_not_mem_of_not_mem_cons h
      rw [List.flatMap_cons, ih hcs, quoteTwice, if_neg (Ne.symm hc), List.singleton_append]

theorem quotedColumn_formatChars (v : Embedding) :
    quotedColumn (formatChars v) = '"' :: (formatChars v ++ ['"']) := by
  rw [quotedColumn, flatMap_quoteTwice (not_mem_formatChars rfl (by decide))]

theorem spelled_intText (n : Int) : Spelled (intText n).toList (intText n).toList :=
  spelled_of_isOrdinary fun _ => isOrdinary_of_mem_intText

theorem unbroken_formatChars (v : Embedding) : Unbroken (formatChars v) := by
  intro c hc
  rw [Text.isBreak, Bool.or_eq_false_iff, beq_eq_false_iff_ne, beq_eq_false_iff_ne]
  constructor
  · rintro rfl
    exact not_mem_formatChars rfl (by decide) hc
  · rintro rfl
    exact not_mem_formatChars rfl (by decide) hc

theorem opensList_eq_false {column : List Char} (h : '[' ∉ column) : opensList column = false := by
  rw [← Bool.not_eq_true, opensList, beq_iff_eq]
  intro head
  exact h ((List.dropWhile_sublist isBlank).subset (List.mem_of_mem_head? head))

theorem opensList_intText (n : Int) : opensList (intText n).toList = false := by
  refine opensList_eq_false fun hmem => ?_
  rcases mem_intText hmem with h | h
  · cases h
  · cases h

theorem exists_embeddingColumns (f : Film) (quoted : Bool) :
    ∃ first rest, Parted (f.embeddingText quoted) (formatChars f.embedding) (first :: rest) ∧
      opensList first = true ∧
        ∀ c ∈ first :: rest, c.length ≤ (formatChars f.embedding).length := by
  cases quoted with
  | true =>
      have spelled := Spelled.quoted (unbroken_formatChars f.embedding)
      rw [quotedColumn_formatChars] at spelled
      exact ⟨_, [], spelled.parted, rfl, List.forall_mem_singleton.2 (Nat.le_refl _)⟩
  | false =>
      have start : ∀ p ∈ pieces ',' (formatChars f.embedding), p.head? ≠ some '"' := by
        intro p hp head
        have mem := (infix_of_mem_pieces hp).subset (List.mem_of_mem_head? head)
        exact not_mem_formatChars rfl (by decide) mem
      have parted := parted_pieces (unbroken_formatChars f.embedding) start
      obtain ⟨p, ps, hp⟩ :=
        List.exists_cons_of_ne_nil (pieces_ne_nil ',' (formatChars f.embedding).tail)
      have cut : pieces ',' (formatChars f.embedding) = ('[' :: p) :: ps :=
        pieces_cons (by decide) hp
      refine ⟨'[' :: p, ps, cut ▸ parted, rfl, fun c hc => ?_⟩
      exact (infix_of_mem_pieces (cut ▸ hc)).length_le

section Row
variable {f : Film} {titleText content : List Char} {title : List (List Char)}

theorem exists_parted_row (h : Parted titleText content title) (f : Film) (quoted : Bool) :
    ∃ first rest, Parted (f.rowChars titleText quoted) (f.rowChars content false)
        (((intText f.id).toList :: (title ++ [(intText f.releaseYear).toList])) ++ first :: rest) ∧
      opensList first = true ∧ joined [','] (first :: rest) = formatChars f.embedding ∧
        ∀ c ∈ first :: rest, c.length ≤ (formatChars f.embedding).length := by
  obtain ⟨first, rest, embedding, opens, length⟩ := exists_embeddingColumns f quoted
  have year := (spelled_intText f.releaseYear).parted.append embedding
  have parted := (spelled_intText f.id).parted.append (h.append year)
  refine ⟨first, rest, ?_, opens, embedding.whole, length⟩
  rw [List.cons_append, List.append_assoc]
  exact parted

theorem rowChars_ne_nil (f : Film) (titleText : List Char) (quoted : Bool) :
    f.rowChars titleText quoted ≠ [] :=
  List.append_ne_nil_of_left_ne_nil (intText_ne_nil f.id) _

theorem unbroken_row (h : Parted titleText content title) (f : Film) (quoted : Bool) :
    Unbroken (f.rowChars titleText quoted) := by
  obtain ⟨_, _, parted, -⟩ := exists_parted_row h f quoted
  exact parted.unbroken

theorem fits_row (h : Parted titleText content title) (bounded : f.Bounded) (short : Short title)
    (quoted : Bool) : Fits (f.rowChars titleText quoted) := by
  obtain ⟨first, rest, parted, -, -, length⟩ := exists_parted_row h f quoted
  have id := length_intText_le bounded.id
  have year := length_intText_le bounded.year
  have before : Short ((intText f.id).toList :: (title ++ [(intText f.releaseYear).toList])) :=
    List.forall_mem_cons.2 ⟨id, List.forall_mem_append.2 ⟨short, List.forall_mem_singleton.2 year⟩⟩
  rw [Fits, parted.parts_eq (rowChars_ne_nil f titleText quoted)]
  exact List.forall_mem_append.2 ⟨before, fun c hc => (length c hc).trans bounded.embedding⟩

theorem holds_row (h : Parted titleText f.title.toList title) (bounded : f.Bounded)
    (short : Short title) (plain : ∀ c ∈ title.drop 2, opensList c = false) (quoted : Bool) :
    Holds f.embedding.length (f.rowChars titleText quoted) f := by
  obtain ⟨first, rest, parted, opens, embedding, -⟩ := exists_parted_row h f quoted
  have columns := parted.parts_eq (rowChars_ne_nil f titleText quoted)
  refine .intro (fits_row h bounded short quoted) columns h.nonempty ?_ opens
    (integerChars?_intText bounded.id) ?_ (integerChars?_intText bounded.year) ?_
  · intro c hc
    rw [List.drop_append] at hc
    rcases List.mem_append.1 hc with hc | hc
    · exact plain c hc
    · rw [List.mem_singleton.1 (List.mem_of_mem_drop hc)]
      exact opensList_intText f.releaseYear
  · rw [h.whole, String.ofList_toList]
  · rw [embedding]
    exact parseChars_formatChars rfl

/-- The title as one column between quotes is read whatever is in it. -/
theorem holds_quotedRow (bounded : f.Bounded) (unbroken : Unbroken f.title.toList)
    (short : f.title.length ≤ columnLimit) (quoted : Bool) :
    Holds f.embedding.length (f.rowChars (quotedColumn f.title.toList) quoted) f := by
  rw [← String.length_toList] at short
  exact holds_row (Spelled.quoted unbroken).parted bounded (List.forall_mem_singleton.2 short)
    (List.forall_mem_nil _) quoted

end Row

theorem Writable.bounded {dim : Int} {f : Film} (h : f.Writable dim) : f.Bounded :=
  ⟨h.id, h.year, h.embedding⟩

theorem line_eq (f : Film) : f.line = f.rowChars (quotedColumn f.title.toList) true := rfl

theorem unbroken_line {f : Film} (h : Unbroken f.title.toList) : Unbroken f.line := by
  rw [line_eq]
  exact unbroken_row (Spelled.quoted h).parted f true

/-- A film is read back from its line. -/
theorem parseChars_line {dim : Int} {f : Film} (h : f.Writable dim) :
    parseChars dim f.line = .ok f := by
  have holds := holds_quotedRow h.bounded h.unbroken h.title true
  rw [h.dimension, ← line_eq] at holds
  exact (parseChars_eq_ok_iff (unbroken_line h.unbroken) f).2 holds

theorem line_not_blank (f : Film) : f.line.all isBlank = false := by
  rw [line, List.all_append, List.all_cons]
  have hcomma : isBlank ',' = false := rfl
  rw [hcomma, Bool.false_and, Bool.and_false]

end Film
end FilmIndex
