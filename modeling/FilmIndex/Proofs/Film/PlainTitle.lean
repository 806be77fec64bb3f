import FilmIndex.Proofs.Film.Line
import FilmIndex.Proofs.Film.ListForm

/-!
Titles without quotes around them. Such a title is read as its pieces between commas, and only
the first column after the third that opens a list tells where it ends. If a piece opens a list
too early, then year and embedding are taken for a part of the list; they bring in more commas
than the dimension allows, so that the row is no film, and never a film that was not meant.
-/

namespace FilmIndex
namespace Film
open Columns FilmIndex.Embedding Number Text

/-- The row of a film with its title as it is. -/
def plainRow (f : Film) (quoted : Bool) : List Char := f.rowChars f.title.toList quoted

/-- The row of a film with quotes around its title. -/
def quotedRow (f : Film) (quoted : Bool) : List Char :=
  f.rowChars (quotedColumn f.title.toList) quoted

def titleParts (f : Film) : List (List Char) := pieces ',' f.title.toList

/-- The title can do without quotes: none of its pieces begins with one. -/
structure PlainTitled (f : Film) : Prop extends Bounded f where
  unbroken : Unbroken f.title.toList
  start : ∀ p ∈ f.titleParts, p.head? ≠ some '"'
  short : ∀ p ∈ f.titleParts, p.length ≤ columnLimit

/-- A piece of the title, the third or a later one, would be taken for the first column of the
embedding. -/
def OpensEarly (f : Film) : Prop := ∃ p ∈ f.titleParts.drop 2, opensList p = true

instance : DecidablePred OpensEarly := fun f =>
  inferInstanceAs (Decidable (∃ p ∈ f.titleParts.drop 2, opensList p = true))

theorem PlainTitled.parted {f : Film} (h : f.PlainTitled) :
    Parted f.title.toList f.title.toList f.titleParts :=
  parted_pieces h.unbroken h.start

theorem not_opensEarly_iff (f : Film) :
    ¬ f.OpensEarly ↔ ∀ p ∈ f.titleParts.drop 2, opensList p = false := by
  simp [OpensEarly]

/-- A list that begins before the embedding has too many commas to be one of that dimension. -/
theorem not_embedding_of_append {v w : Embedding} {early list : List (List Char)}
    (hearly : early ≠ []) (hlist : list ≠ []) (whole : joined [','] list = formatChars v) :
    Embedding.parseChars v.length (joined [','] (early ++ list)) ≠ .ok w := by
  intro parsed
  have read : Embedding.parseChars v.length (formatChars v) = .ok v := parseChars_formatChars rfl
  have length := length_of_parseChars parsed
  have commas := count_comma_of_parseChars parsed
  rw [joined_append _ hearly hlist, whole, List.count_append, List.count_append,
    List.count_singleton_self, count_comma_of_parseChars read] at commas
  omega

/-- A row holds no film if its title opens a list too early: whatever list it has begins there
or before. -/
theorem not_holds_plainRow {f : Film} (h : f.PlainTitled) (early : f.OpensEarly) (quoted : Bool)
    (g : Film) : ¬ Holds f.embedding.length (f.plainRow quoted) g := by
  obtain ⟨first, rest, parted, -, embedding, -⟩ := exists_parted_row h.parted f quoted
  obtain ⟨p, hp, opens⟩ := early
  have mem (more : List (List Char)) : p ∈ (f.titleParts ++ more).drop 2 := by
    rw [List.drop_append]
    exact List.mem_append_left _ hp
  rintro ⟨-, columns, -, plain, -, -, -, -, parsed⟩
  rw [plainRow, parted.parts_eq (rowChars_ne_nil f f.title.toList quoted)] at columns
  -- The list of `g` begins after that of `f`, with it, or before it. After it or with it, the
  -- early piece would stand before a list that is the first to open.
  rcases List.append_eq_append_iff.1 (List.cons.inj columns).2 with
    ⟨more, longer, -⟩ | ⟨more, shorter, list⟩
  · rw [longer, List.append_assoc] at plain
    exact absurd opens (Bool.not_eq_true _ ▸ plain p (mem _))
  · cases more with
    | nil =>
        rw [List.append_nil] at shorter
        exact absurd opens (Bool.not_eq_true _ ▸ plain p (shorter ▸ mem _))
    | cons c more =>
        rw [list] at parsed
        exact not_embedding_of_append (List.cons_ne_nil _ _) (List.cons_ne_nil _ _) embedding parsed

theorem parseChars_plainRow {f : Film} (h : f.PlainTitled) (late : ¬ f.OpensEarly) (quoted : Bool) :
    parseChars f.embedding.length (f.plainRow quoted) = .ok f :=
  (parseChars_eq_ok_iff (unbroken_row h.parted f quoted) f).2
    (holds_row h.parted h.toBounded h.short ((not_opensEarly_iff f).1 late) quoted)

theorem exists_parseChars_plainRow {f : Film} (h : f.PlainTitled) (early : f.OpensEarly)
    (quoted : Bool) :
    ∃ e, parseChars f.embedding.length (f.plainRow quoted) = .error (.format e) := by
  have unbroken := unbroken_row h.parted f quoted
  cases parsed : parseChars f.embedding.length (f.plainRow quoted) with
  | ok g =>
      have holds := (parseChars_eq_ok_iff unbroken g).1 parsed
      exact absurd holds (not_holds_plainRow h early quoted g)
  | error e =>
      rcases parseChars_error unbroken parsed with ⟨unfit, -⟩ | ⟨-, fault, rfl⟩
      · exact absurd (fits_row h.parted h.toBounded h.short quoted) unfit
      · exact ⟨fault, rfl⟩

/-- A title with quotes around it is one column, which must not be too long. -/
theorem parseChars_quotedRow {f : Film} (bounded : f.Bounded) (unbroken : Unbroken f.title.toList)
    (quoted : Bool) :
    parseChars f.embedding.length (f.quotedRow quoted) =
      if f.title.length ≤ columnLimit then .ok f else .error (.columns .columnTooLong) := by
  have parted := (Spelled.quoted unbroken).parted
  have unbroken' := unbroken_row parted f quoted
  split
  next short =>
    exact (parseChars_eq_ok_iff unbroken' f).2 (holds_quotedRow bounded unbroken short quoted)
  next long =>
    obtain ⟨first, rest, row, -⟩ := exists_parted_row parted f quoted
    have unfit : ¬ Fits (f.quotedRow quoted) := by
      intro fits
      rw [Fits, quotedRow, row.parts_eq (rowChars_ne_nil f _ quoted)] at fits
      have title := fits f.title.toList (by simp)
      rw [String.length_toList] at title
      exact long title
    rw [parseChars]
    rcases read_cases unbroken' with ⟨fits, -⟩ | ⟨-, failed⟩
    · exact absurd fits unfit
    · rw [quotedRow, failed]

/-- The row without quotes gives the film unless its title opens a list too early, and then an
error; with quotes around the title it gives the film if the title is no longer than a column. -/
theorem plainRow_outcome {f : Film} (h : f.PlainTitled) (quoted : Bool) :
    (¬ f.OpensEarly → parseChars f.embedding.length (f.plainRow quoted) = .ok f) ∧
    (f.OpensEarly →
      ∃ e, parseChars f.embedding.length (f.plainRow quoted) = .error (.format e)) ∧
    (∀ g, parseChars f.embedding.length (f.plainRow quoted) = .ok g → g = f) ∧
    parseChars f.embedding.length (f.quotedRow quoted) =
      if f.title.length ≤ columnLimit then .ok f else .error (.columns .columnTooLong) := by
  refine ⟨fun late => parseChars_plainRow h late quoted,
    fun early => exists_parseChars_plainRow h early quoted, fun g parsed => ?_,
    parseChars_quotedRow h.toBounded h.unbroken quoted⟩
  by_cases early : f.OpensEarly
  · obtain ⟨e, failed⟩ := exists_parseChars_plainRow h early quoted
    cases failed.symm.trans parsed
  · exact (Except.ok.inj ((parseChars_plainRow h early quoted).symm.trans parsed)).symm

/-- Of two titles full of brackets and quotes, the second opens a list in its third piece. -/
theorem plainRow_outcome_brackets :
    let v := [(Double.infinite true).toFloat, (Double.finite true 0).toFloat]
    let late : Film := ⟨-7, "[A, \"B\",c [d", 1995, v⟩
    let early : Film := ⟨-7, "[A,\t[B, [c", 1995, v⟩
    late.PlainTitled ∧ early.PlainTitled ∧
      parseChars 2 (late.plainRow false) = .ok late ∧
      parseChars 2 (late.quotedRow true) = .ok late ∧
      ∃ e, parseChars 2 (early.plainRow true) = .error (.format e) := by
  intro v late early
  have hlate : late.PlainTitled :=
    ⟨⟨by decide, by decide, by decide +kernel⟩, by decide, by decide, by decide⟩
  have hearly : early.PlainTitled :=
    ⟨⟨by decide, by decide, by decide +kernel⟩, by decide, by decide, by decide⟩
  have short : late.title.length ≤ columnLimit := by decide
  have quotedRow := (plainRow_outcome hlate true).2.2.2
  rw [if_pos short] at quotedRow
  exact ⟨hlate, hearly, (plainRow_outcome hlate false).1 (by decide), quotedRow,
    (plainRow_outcome hearly true).2.1 (by decide)⟩

/-- A title of two pieces, neither of them too long, that is too long for one column. -/
theorem quotedRow_longTitle :
    let title := List.replicate columnLimit 'a' ++ [',']
    let f : Film := ⟨1, String.ofList title, 1995, [(Double.finite false 0).toFloat]⟩
    f.PlainTitled ∧ ¬ f.OpensEarly ∧ parseChars 1 (f.plainRow true) = .ok f ∧
      parseChars 1 (f.quotedRow true) = .error (.columns .columnTooLong) := by
  intro title f
  have letter {c : Char} (h : c ∈ List.replicate columnLimit 'a') : c = 'a' :=
    List.eq_of_mem_replicate h
  have comma : ',' ∉ List.replicate columnLimit 'a' := fun h => absurd (letter h) (by decide)
  have htitle : f.title.toList = title := String.toList_ofList
  have parts : f.titleParts = [List.replicate columnLimit 'a', []] := by
    rw [titleParts, htitle]
    exact pieces_append_sep comma []
  have unbroken : Unbroken f.title.toList := by
    rw [htitle]
    intro c hc
    rcases List.mem_append.1 hc with hc | hc
    · rw [letter hc]
      rfl
    · rw [List.mem_singleton.1 hc]
      rfl
  have plain : f.PlainTitled := by
    refine ⟨⟨by decide, by decide, by decide +kernel⟩, unbroken, ?_, ?_⟩
    · rw [parts]
      refine List.forall_mem_cons.2 ⟨fun head => ?_, List.forall_mem_singleton.2 nofun⟩
      cases letter (List.mem_of_mem_head? head)
    · rw [parts]
      exact List.forall_mem_cons.2 ⟨List.length_replicate.le,
        List.forall_mem_singleton.2 (Nat.zero_le _)⟩
  have late : ¬ f.OpensEarly := by
    rw [not_opensEarly_iff, parts]
    exact List.forall_mem_nil _
  have long : ¬ f.title.length ≤ columnLimit := by
    rw [← String.length_toList, htitle, List.length_append, List.length_replicate]
    exact Nat.not_succ_le_self columnLimit
  have failed := parseChars_quotedRow plain.toBounded unbroken true
  rw [if_neg long] at failed
  exact ⟨plain, late, parseChars_plainRow plain late true, failed⟩

end Film
end FilmIndex
