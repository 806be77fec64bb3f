import FilmIndex.Proofs.Film.Line
import FilmIndex.Proofs.Film.Reading

/-!
Film files. However blank lines are put between the lines of films, whatever the line
break and with or without one at the end, reading the file gives the films back.
-/

namespace FilmIndex
namespace Catalog
open Number Text

/-- The lines of the films in order, with any lines of white space alone among them. -/
inductive Lines : Catalog → List (List Char) → Prop
  | nil : Lines [] []
  | blank {films : Catalog} {l : List Char} {ls : List (List Char)} (white : l.all isBlank = true)
      (unbroken : Unbroken l) (rest : Lines films ls) : Lines films (l :: ls)
  | film (f : Film) {films : Catalog} {ls : List (List Char)} (rest : Lines films ls) :
      Lines (f :: films) (f.line :: ls)

namespace Lines

variable {films : Catalog} {ls : List (List Char)}

theorem unbroken {dim : Int} (h : Lines films ls) (hf : ∀ f ∈ films, f.Writable dim) :
    ∀ l ∈ ls, Unbroken l := by
  induction h with
  | nil => nofun
  | blank _ unbroken _ ih => exact List.forall_mem_cons.2 ⟨unbroken, ih hf⟩
  | film f _ ih =>
      rw [List.forall_mem_cons] at hf
      exact List.forall_mem_cons.2 ⟨Film.unbroken_line hf.1.unbroken, ih hf.2⟩

/-- An empty line at the end holds nothing. -/
theorem of_append_nil (h : Lines films (ls ++ [[]])) : Lines films ls := by
  generalize hl : ls ++ [[]] = ls' at h
  induction h generalizing ls with
  | nil => simp at hl
  | @blank films l ls' white unbroken rest ih =>
      cases ls with
      | nil =>
          obtain ⟨rfl, rfl⟩ := List.cons.inj hl
          exact rest
      | cons l' ls =>
          obtain ⟨rfl, rfl⟩ := List.cons.inj hl
          exact .blank white unbroken (ih rfl)
  | @film f films ls' rest ih =>
      cases ls with
      | nil =>
          have hline := Film.line_not_blank f
          rw [← (List.cons.inj hl).1] at hline
          cases hline
      | cons l' ls =>
          obtain ⟨rfl, rfl⟩ := List.cons.inj hl
          exact .film f (ih rfl)

theorem ofLinesFrom_eq {dim : Int} (h : Lines films ls) (hf : ∀ f ∈ films, f.Writable dim)
    (number : Nat) (read : Catalog) :
    ofLinesFrom dim number read ls = .ok (read.reverse ++ films) := by
  induction h generalizing number read with
  | nil => rw [ofLinesFrom, List.append_nil]
  | blank white _ _ ih => rw [ofLinesFrom, if_pos white, ih hf]
  | film f _ ih =>
      rw [List.forall_mem_cons] at hf
      have hblank : ¬ f.line.all isBlank = true := by
        rw [Film.line_not_blank]
        exact Bool.false_ne_true
      rw [ofLinesFrom, if_neg hblank, Film.parseChars_line hf.1]
      simp only
      rw [ih hf.2, List.reverse_cons, List.append_assoc, List.singleton_append]

end Lines

theorem get?_titlesById (films : Catalog) (id : Int) :
    Keyed.get? id films.titlesById = (films.reverse.find? (·.id == id)).map (·.title) := by
  rw [titlesById, Keyed.get?_ofList, ← List.map_reverse, List.find?_map, Option.map_map]
  rfl

/-- Films are read back from the file that they are written to, column by column, and the titles
by id are those of the last film of each id. -/
theorem read_written (files : Files) (path : String) (dim : Int) (films : Catalog)
    (ls : List (List Char)) (brk : LineBreak) (ended : Bool)
    (writable : ∀ f ∈ films, f.Writable dim) (lines : Lines films ls)
    (file : files path = .ok (String.ofList (written brk ended ls)).toUTF8) :
    read files dim path = .ok films ∧
      films.columns = ⟨films.map (·.id), films.map (·.title), films.map (·.releaseYear),
        films.map (·.embedding)⟩ ∧
      ∀ id, Keyed.get? id films.titlesById = (films.reverse.find? (·.id == id)).map (·.title) := by
  refine ⟨?_, films.columns_eq, films.get?_titlesById⟩
  rw [read, file]
  simp only
  rw [ofBytes_toUTF8, parse, String.toList_ofList, ofLines]
  rcases lines_written brk ended (lines.unbroken writable) with h | h
  · rw [h, lines.ofLinesFrom_eq writable]
    rfl
  · rw [h] at lines
    rw [lines.of_append_nil.ofLinesFrom_eq writable]
    rfl

/-- A title that looks like an embedding and a blank line do no harm, and the later of two
films with one id gives the title. -/
theorem read_written_sameId :
    let first : Film :=
      ⟨7, "[A, \"B\"], ", 2003, [Double.nan.toFloat, (Double.finite true 0).toFloat]⟩
    let second : Film :=
      ⟨7, "", -5, [(Double.finite false 1).toFloat, (Double.infinite true).toFloat]⟩
    let files : Files := fun _ =>
      .ok (String.ofList (written .both true [first.line, [' ', '\t'], second.line, []])).toUTF8
    read files 2 "films.csv" = .ok [first, second] ∧
      Keyed.get? 7 (titlesById [first, second]) = some "" := by
  intro first second files
  have writable : ∀ f ∈ [first, second], f.Writable 2 := by
    intro f hf
    rcases List.mem_pair.1 hf with rfl | rfl
    · exact ⟨by decide, by decide, by decide, by decide, rfl, by decide +kernel⟩
    · exact ⟨by decide, by decide, by decide, by decide, rfl, by decide +kernel⟩
  have lines : Lines [first, second] [first.line, [' ', '\t'], second.line, []] :=
    .film first (.blank rfl (by decide) (.film second (.blank rfl (by decide) .nil)))
  obtain ⟨hread, -, htitles⟩ :=
    read_written files "films.csv" 2 [first, second] _ .both true writable lines rfl
  exact ⟨hread, htitles 7⟩

end Catalog
end FilmIndex
