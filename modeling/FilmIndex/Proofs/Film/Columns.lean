import FilmIndex.Film.Columns
import FilmIndex.Proofs.Text.Lines

/-!
The columns of a line by themselves, whatever their length. On a line without a break inside
it the reader gives these columns, or finds one of them too long; it has no other error.
-/

namespace FilmIndex
namespace Columns
open Text (Unbroken)

/-- The columns when `column`, reversed, is under way and `row`, reversed, has been read
before it. What follows a line break does not count. -/
def partsFrom (place : Place) (column : List Char) (row : List (List Char)) :
    List Char → List (List Char)
  | [] => if place.isOpen then (column.reverse :: row).reverse else row.reverse
  | c :: cs =>
    match step place c with
    | .move next => partsFrom next column row cs
    | .finish next => partsFrom next [] (column.reverse :: row) cs
    | .join next => partsFrom next (c :: column) row cs
    | .refuse => row.reverse

def parts (line : List Char) : List (List Char) := partsFrom .lineStart [] [] line

/-- Columns that the reader accepts by their length. -/
def Short (columns : List (List Char)) : Prop := ∀ c ∈ columns, c.length ≤ columnLimit

/-- No column of the line is too long. -/
def Fits (line : List Char) : Prop := Short (parts line)

instance : DecidablePred Fits := fun line =>
  inferInstanceAs (Decidable (∀ c ∈ parts line, c.length ≤ columnLimit))

section
variable {place : Place} {column cs : List Char} {row : List (List Char)}

/-- Without a line break a character joins a column, ends one, or is a quote of its syntax. -/
theorem step_cases {c : Char} (unbroken : isBreak c = false) (hplace : place ≠ .afterBreak) :
    (∃ next, step place c = .move next ∧ next.isOpen = true) ∨
      step place c = .finish .columnStart ∨
        ∃ next, step place c = .join next ∧ next.isOpen = true := by
  cases place with
  | afterBreak => exact absurd rfl hplace
  | lineStart | columnStart | plain | quoted | quoteInQuoted =>
      simp only [step, unbroken, Bool.false_eq_true, if_false]
      split_ifs <;> simp [Place.isOpen]

theorem ne_afterBreak (h : place.isOpen = true) : place ≠ .afterBreak := by
  rintro rfl
  cases h

theorem mem_partsFrom_of_mem {r : List Char} (h : r ∈ row) : r ∈ partsFrom place column row cs := by
  induction cs generalizing place column row with
  | nil =>
      rw [partsFrom]
      split <;> simp [h]
  | cons c cs ih =>
      rw [partsFrom]
      split
      · exact ih h
      · exact ih (List.mem_cons_of_mem _ h)
      · exact ih h
      · exact List.mem_reverse.2 h

/-- A column that is under way is no longer than it will be. -/
theorem exists_longer (column : List Char) (row : List (List Char)) (unbroken : Unbroken cs)
    (hplace : place.isOpen = true) :
    ∃ p ∈ partsFrom place column row cs, column.length ≤ p.length := by
  induction cs generalizing place column row with
  | nil =>
      rw [partsFrom, if_pos hplace]
      exact ⟨column.reverse, by simp, by simp⟩
  | cons c cs ih =>
      obtain ⟨hc, hcs⟩ := List.forall_mem_cons.1 unbroken
      rcases step_cases hc (ne_afterBreak hplace) with ⟨next, hstep, hopen⟩ | hstep |
        ⟨next, hstep, hopen⟩
      · simp only [partsFrom, hstep]
        exact ih column row hcs hopen
      · simp only [partsFrom, hstep]
        exact ⟨column.reverse, mem_partsFrom_of_mem List.mem_cons_self, by simp⟩
      · simp only [partsFrom, hstep]
        obtain ⟨p, hp, length⟩ := ih (c :: column) row hcs hopen
        exact ⟨p, hp, by rw [List.length_cons] at length; omega⟩

theorem readFrom_cases (unbroken : Unbroken cs) (hplace : place ≠ .afterBreak)
    (hcolumn : column.length ≤ columnLimit) (hrow : Short row) :
    (Short (partsFrom place column row cs) ∧
      readFrom place column column.length row cs = .ok (partsFrom place column row cs)) ∨
    (¬ Short (partsFrom place column row cs) ∧
      readFrom place column column.length row cs = .error .columnTooLong) := by
  induction cs generalizing place column row with
  | nil =>
      refine .inl ⟨?_, rfl⟩
      rw [partsFrom]
      split
      · simpa [Short, or_imp, forall_and, hcolumn] using hrow
      · simpa [Short] using hrow
  | cons c cs ih =>
      obtain ⟨hc, hcs⟩ := List.forall_mem_cons.1 unbroken
      rcases step_cases hc hplace with ⟨next, hstep, hopen⟩ | hstep | ⟨next, hstep, hopen⟩
      · simp only [partsFrom, readFrom, hstep]
        exact ih hcs (ne_afterBreak hopen) hcolumn hrow
      · simp only [partsFrom, readFrom, hstep]
        have hrow : Short (column.reverse :: row) :=
          List.forall_mem_cons.2 ⟨by rwa [List.length_reverse], hrow⟩
        exact ih hcs nofun (Nat.zero_le _) hrow
      · simp only [partsFrom, readFrom, hstep]
        split
        · exact ih hcs (ne_afterBreak hopen) (by rwa [List.length_cons]) hrow
        · obtain ⟨p, hp, length⟩ := exists_longer (c :: column) row hcs hopen
          rw [List.length_cons] at length
          exact .inr ⟨fun short => by have := short p hp; omega, rfl⟩

end

theorem read_cases {line : List Char} (unbroken : Unbroken line) :
    (Fits line ∧ read line = .ok (parts line)) ∨
      (¬ Fits line ∧ read line = .error .columnTooLong) :=
  readFrom_cases unbroken nofun (Nat.zero_le _) nofun

theorem partsFrom_append_plain {column cs rest : List Char} {row : List (List Char)}
    (h : ∀ c ∈ cs, isBreak c = false ∧ c ≠ ',') :
    partsFrom .plain column row (cs ++ rest) = partsFrom .plain (cs.reverse ++ column) row rest := by
  induction cs generalizing column with
  | nil => rfl
  | cons c cs ih =>
      obtain ⟨⟨unbroken, comma⟩, hcs⟩ := List.forall_mem_cons.1 h
      have hstep : step .plain c = .join .plain := by simp [step, unbroken, comma]
      rw [List.cons_append, partsFrom, hstep]
      simp only
      rw [ih hcs, List.reverse_cons, List.append_assoc, List.singleton_append]

end Columns
end FilmIndex
