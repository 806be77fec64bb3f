import FilmIndex.Proofs.Film.Reading

/-!
What is reported of a film file that is text. Reading it gives the films of its lines or
names its first malformed line, but for one case: that line has a column that is too long.
-/

namespace FilmIndex
namespace Catalog
open Columns (Fits)
open Number (intText)
open Text (Unbroken lines)

theorem FirstMalformed.unique {dim : Int} {ls : List (List Char)} {number number' : Nat}
    {line line' : List Char} (h : FirstMalformed dim ls number line)
    (h' : FirstMalformed dim ls number' line') : number = number' ∧ line = line' := by
  obtain ⟨before, after, split, rfl, bad, goods⟩ := h
  obtain ⟨before', after', split', rfl, bad', goods'⟩ := h'
  rcases List.append_eq_append_iff.1 (split.symm.trans split') with
    ⟨between, rfl, rest⟩ | ⟨between, rfl, rest⟩
  · cases between with
    | nil => exact ⟨by rw [List.append_nil], (List.cons.inj rest).1⟩
    | cons l between =>
        obtain ⟨rfl, -⟩ := List.cons.inj rest
        exact absurd bad (goods' line (by simp))
  · cases between with
    | nil => exact ⟨by rw [List.append_nil], (List.cons.inj rest).1.symm⟩
    | cons l between =>
        obtain ⟨rfl, -⟩ := List.cons.inj rest
        exact absurd bad' (goods line' (by simp))

/-- What is promised of a file of some lines: their films, or an error whose number is that
of the first malformed line and whose message begins with it. -/
inductive Reported (dim : Int) (ls : List (List Char)) : Except CatalogError Catalog → Prop
  | films {films : Catalog} (h : Records dim ls films) : Reported dim ls (.ok films)
  | malformed {number : Nat} {line : List Char} {e : FormatError} {rest : String}
      (first : FirstMalformed dim ls number line)
      (message : (CatalogError.format number e).message = "line " ++ intText number ++ ": " ++ rest) :
      Reported dim ls (.error (.format number e))

end Catalog
end FilmIndex
