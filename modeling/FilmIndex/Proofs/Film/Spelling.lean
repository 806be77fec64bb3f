import FilmIndex.Proofs.Film.Columns
import Mathlib.Data.List.Forall2

/-!
Columns as they are written. A column stands between quotes with its own quotes doubled, or
as it is where it has no comma and does not begin with a quote; quotes further on in such a
column are part of it. Columns that are written so and put together with commas are found
again, however the two spellings alternate. So a text that is not between quotes is read as
its pieces between commas, none of which may begin with a quote.
-/

namespace FilmIndex
namespace Columns
open Text (Unbroken joined pieces)

/-- A quote inside a quoted column is doubled. -/
def quoteTwice (c : Char) : List Char := if c = '"' then ['"', '"'] else [c]

def quotedColumn (cs : List Char) : List Char := '"' :: (cs.flatMap quoteTwice ++ ['"'])

/-- A character that takes no part in the syntax of columns. -/
def isOrdinary (c : Char) : Bool := !isBreak c && c != '"' && c != ','

theorem isOrdinary_iff (c : Char) :
    isOrdinary c = true ↔ isBreak c = false ∧ c ≠ '"' ∧ c ≠ ',' := by
  simp [isOrdinary, and_assoc]

/-- A column and a way to write it. -/
inductive Spelled (column : List Char) : List Char → Prop
  | plain (unbroken : Unbroken column) (comma : ',' ∉ column) (start : column.head? ≠ some '"') :
      Spelled column column
  | quoted (unbroken : Unbroken column) : Spelled column (quotedColumn column)

theorem spelled_of_isOrdinary {cs : List Char} (h : ∀ c ∈ cs, isOrdinary c = true) :
    Spelled cs cs := by
  have parted (c : Char) (hc : c ∈ cs) := (isOrdinary_iff c).1 (h c hc)
  refine .plain (fun c hc => (parted c hc).1) (fun hc => (parted ',' hc).2.2 rfl) fun hstart => ?_
  exact (parted '"' (List.mem_of_mem_head? hstart)).2.1 rfl

theorem unbroken_quotedColumn {cs : List Char} (h : Unbroken cs) : Unbroken (quotedColumn cs) := by
  have quote : Text.isBreak '"' = false := rfl
  refine List.forall_mem_cons.2 ⟨quote, List.forall_mem_append.2 ⟨?_, ?_⟩⟩
  · intro c hc
    obtain ⟨c', hc', hmem⟩ := List.mem_flatMap.1 hc
    rw [quoteTwice] at hmem
    split at hmem
    · simp only [List.mem_cons, List.not_mem_nil, or_false, or_self] at hmem
      rw [hmem]
      exact quote
    · exact List.mem_singleton.1 hmem ▸ h c' hc'
  · exact List.forall_mem_singleton.2 quote

theorem Spelled.unbroken {column text : List Char} (h : Spelled column text) : Unbroken text := by
  cases h with
  | plain unbroken => exact unbroken
  | quoted unbroken => exact unbroken_quotedColumn unbroken

theorem unbroken_joined {columns texts : List (List Char)}
    (h : List.Forall₂ Spelled columns texts) :
    Unbroken (joined [','] texts) := by
  have each : ∀ text ∈ texts, Unbroken text :=
    ((List.forall₂_and_left ..).1 (h.flip.imp fun _ _ spelled => ⟨spelled.unbroken, spelled⟩)).1
  intro c hc
  rcases Text.mem_joined hc with hc | ⟨text, htext, hc⟩
  · exact List.mem_singleton.1 hc ▸ rfl
  · exact each text htext c hc

section Parts
variable {column cs rest : List Char} {row : List (List Char)}

theorem partsFrom_append_quoted :
    partsFrom .quoted column row (cs.flatMap quoteTwice ++ rest) =
      partsFrom .quoted (cs.reverse ++ column) row rest := by
  induction cs generalizing column with
  | nil => rfl
  | cons c cs ih =>
      have hfirst : partsFrom .quoted column row (quoteTwice c ++ (cs.flatMap quoteTwice ++ rest)) =
          partsFrom .quoted (c :: column) row (cs.flatMap quoteTwice ++ rest) := by
        rw [quoteTwice]
        by_cases hc : c = '"'
        · rw [if_pos hc, hc]
          rfl
        · have hstep : step .quoted c = .join .quoted := by simp [step, hc]
          rw [if_neg hc, List.singleton_append, partsFrom, hstep]
      rw [List.flatMap_cons, List.append_assoc, hfirst, ih, List.reverse_cons, List.append_assoc,
        List.singleton_append]

/-- A spelled column is read whole, and then a comma ends it. -/
theorem exists_place {text : List Char} (h : Spelled column text) (row : List (List Char)) :
    ∃ place : Place, place.isOpen = true ∧ step place ',' = .finish .columnStart ∧
      ∀ rest, partsFrom .columnStart [] row (text ++ rest) =
        partsFrom place column.reverse row rest := by
  cases h with
  | plain unbroken comma start =>
      cases column with
      | nil => exact ⟨.columnStart, rfl, rfl, fun rest => rfl⟩
      | cons c column =>
          have plain : ∀ x ∈ c :: column, isBreak x = false ∧ x ≠ ',' :=
            fun x hx => ⟨unbroken x hx, fun h => comma (h ▸ hx)⟩
          obtain ⟨⟨hbreak, hcomma⟩, hcs⟩ := List.forall_mem_cons.1 plain
          have hquote : c ≠ '"' := fun hc => start (congrArg some hc)
          have hstep : step .columnStart c = .join .plain := by
            simp [step, hbreak, hquote, hcomma]
          refine ⟨.plain, rfl, rfl, fun rest => ?_⟩
          rw [List.cons_append, partsFrom, hstep]
          simp only
          rw [partsFrom_append_plain hcs, List.reverse_cons]
  | quoted unbroken =>
      refine ⟨.quoteInQuoted, rfl, rfl, fun rest => ?_⟩
      have hopen : step .columnStart '"' = .move .quoted := rfl
      have hclose : step .quoted '"' = .move .quoteInQuoted := rfl
      rw [quotedColumn, List.cons_append, List.append_assoc, partsFrom, hopen]
      simp only
      rw [partsFrom_append_quoted, List.append_nil, List.singleton_append, partsFrom, hclose]

theorem partsFrom_joined {columns texts : List (List Char)} (h : List.Forall₂ Spelled columns texts)
    (nonempty : columns ≠ []) (row : List (List Char)) :
    partsFrom .columnStart [] row (joined [','] texts) = row.reverse ++ columns := by
  induction h generalizing row with
  | nil => exact absurd rfl nonempty
  | @cons column text columns texts spelled rest ih =>
      obtain ⟨place, isOpen, comma, read⟩ := exists_place spelled row
      cases rest with
      | nil =>
          have last := read []
          rw [List.append_nil, partsFrom, if_pos isOpen, List.reverse_reverse,
            List.reverse_cons] at last
          rw [Text.joined_cons, List.flatMap_nil, List.append_nil]
          exact last
      | cons spelled' rest =>
          rw [Text.joined_cons_cons, read, List.singleton_append, partsFrom, comma]
          simp only
          rw [List.reverse_reverse, ih (List.cons_ne_nil _ _), List.reverse_cons, List.append_assoc,
            List.singleton_append]

end Parts

/-- Before the first character of a line a column may begin as well as after a comma. -/
theorem parts_eq {line : List Char} (unbroken : Unbroken line) (nonempty : line ≠ []) :
    parts line = partsFrom .columnStart [] [] line := by
  obtain ⟨c, cs, rfl⟩ := List.exists_cons_of_ne_nil nonempty
  have hbreak : isBreak c = false := unbroken c List.mem_cons_self
  have hstep : step .lineStart c = step .columnStart c := by simp [step, hbreak]
  rw [parts, partsFrom, partsFrom, hstep]

theorem parts_joined {columns texts : List (List Char)} (h : List.Forall₂ Spelled columns texts)
    (nonempty : joined [','] texts ≠ []) : parts (joined [','] texts) = columns := by
  have some : columns ≠ [] := by
    rintro rfl
    cases h
    exact nonempty rfl
  rw [parts_eq (unbroken_joined h) nonempty, partsFrom_joined h some]
  rfl

/-- A text, and the columns it is read as, which put together give its content. -/
structure Parted (text content : List Char) (columns : List (List Char)) : Prop where
  nonempty : columns ≠ []
  spelled : ∃ texts, List.Forall₂ Spelled columns texts ∧ joined [','] texts = text
  whole : joined [','] columns = content

theorem Spelled.parted {column text : List Char} (h : Spelled column text) :
    Parted text column [column] :=
  ⟨List.cons_ne_nil _ _, ⟨[text], .cons h .nil, Text.joined_singleton ..⟩, Text.joined_singleton ..⟩

theorem parted_pieces {cs : List Char} (unbroken : Unbroken cs)
    (start : ∀ p ∈ pieces ',' cs, p.head? ≠ some '"') : Parted cs cs (pieces ',' cs) := by
  refine ⟨Text.pieces_ne_nil ',' cs, ⟨pieces ',' cs, ?_, Text.joined_pieces ',' cs⟩,
    Text.joined_pieces ',' cs⟩
  refine List.forall₂_same.2 fun p hp => .plain ?_ (Text.not_mem_of_mem_pieces hp) (start p hp)
  exact fun c hc => unbroken c ((Text.infix_of_mem_pieces hp).subset hc)

namespace Parted
variable {text content text' content' : List Char} {columns columns' : List (List Char)}

theorem append (h : Parted text content columns) (h' : Parted text' content' columns') :
    Parted (text ++ ',' :: text') (content ++ ',' :: content') (columns ++ columns') := by
  obtain ⟨nonempty, ⟨texts, spelled, htext⟩, whole⟩ := h
  obtain ⟨nonempty', ⟨texts', spelled', htext'⟩, whole'⟩ := h'
  have some : texts ≠ [] := by
    rintro rfl
    cases spelled
    exact nonempty rfl
  have some' : texts' ≠ [] := by
    rintro rfl
    cases spelled'
    exact nonempty' rfl
  refine ⟨List.append_ne_nil_of_left_ne_nil nonempty _,
    ⟨texts ++ texts', List.rel_append spelled spelled', ?_⟩, ?_⟩
  · rw [Text.joined_append _ some some', htext, htext', List.singleton_append]
  · rw [Text.joined_append _ nonempty nonempty', whole, whole', List.singleton_append]

theorem unbroken (h : Parted text content columns) : Unbroken text := by
  obtain ⟨-, ⟨texts, spelled, rfl⟩, -⟩ := h
  exact unbroken_joined spelled

theorem parts_eq (h : Parted text content columns) (nonempty : text ≠ []) :
    parts text = columns := by
  obtain ⟨-, ⟨texts, spelled, rfl⟩, -⟩ := h
  exact parts_joined spelled nonempty

end Parted

end Columns
end FilmIndex
