import FilmIndex.Program.Run
import FilmIndex.Proofs.Film.ListForm
import FilmIndex.Proofs.Film.Report

/-!
Film files read line by line. The lines are those between line breaks, each line that is not
blank is read by itself, and the first one that is refused ends the reading with its number; the
lines after it do not matter.
-/

namespace FilmIndex
namespace Catalog
open Number Text

/-- The lines that are not blank. -/
def filled (ls : List (List Char)) : List (List Char) := ls.filter fun l => !l.all isBlank

/-- The films that the lines are read as, one by one. -/
def ReadAs (dim : Int) (ls : List (List Char)) (films : Catalog) : Prop :=
  List.Forall₂ (fun l f => Film.parseChars dim l = .ok f) ls films

/-- No line is refused that is not blank. -/
def Good (dim : Int) (ls : List (List Char)) : Prop :=
  ∀ l ∈ filled ls, ∃ f, Film.parseChars dim l = .ok f

section
variable {dim : Int} {ls : List (List Char)} {films : Catalog}

theorem Records.length_embedding (h : Records dim ls films) :
    ∀ v ∈ films.embeddings, (v.length : Int) = dim := by
  induction h with
  | nil => exact List.forall_mem_nil _
  | blank _ _ ih => exact ih
  | film _ holds _ ih =>
      cases holds with
      | intro _ _ _ _ _ _ _ _ embedding =>
          exact List.forall_mem_cons.2 ⟨Embedding.length_of_parseChars embedding, ih⟩

theorem Records.writable_year (h : Records dim ls films) :
    ∀ f ∈ films, Number.Writable f.releaseYear := by
  induction h with
  | nil => exact List.forall_mem_nil _
  | blank _ _ ih => exact ih
  | film _ holds _ ih =>
      cases holds with
      | intro _ _ _ _ _ _ _ year _ =>
          exact List.forall_mem_cons.2 ⟨Number.writable_of_integerChars? year, ih⟩

theorem ReadAs.good (h : ReadAs dim (filled ls) films) : Good dim ls := by
  intro l hl
  obtain ⟨f, -, parsed⟩ := exists_of_mem_right h.flip hl
  exact ⟨f, parsed⟩

end

section
variable {files : Files} {path text : String} {dim : Int}

end

end Catalog

namespace Run
open Catalog Columns Number Text

end Run
end FilmIndex
