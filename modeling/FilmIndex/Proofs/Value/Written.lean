import FilmIndex.Value.Json
import Mathlib.Data.List.Basic

/-!
What the text of a record shows of its first field. A name of plain characters stands between
quotes as it is, and where another field follows, so does a comma.
-/

namespace FilmIndex
namespace Json

theorem writeText_plain {s : String} (h : ∀ c ∈ s.toList, escapedChar c = [c]) :
    writeText s = "\"" ++ s ++ "\"" := by
  have plain : s.toList.flatMap escapedChar = s.toList := by
    rw [List.flatMap_congr h, List.flatMap_singleton']
  rw [writeText, plain]
  apply String.toList_inj.1
  simp

theorem write_record_cons (depth : Nat) {k : String} {v : Value} {fields : Fields}
    (h : fields ≠ []) :
    ∃ others, write depth (.record ((k, v) :: fields)) =
      "\x7b" ++ newLine (depth + 1) ++ writeText k ++ ": " ++ write (depth + 1) v ++ "," ++
        others := by
  obtain ⟨⟨k', v'⟩, rest, rfl⟩ := List.exists_cons_of_ne_nil h
  rw [write, writeFields]
  refine ⟨newLine (depth + 1) ++ writeText k' ++ ": " ++ write (depth + 1) v' ++
    writeFields (depth + 1) rest ++ newLine depth ++ "\x7d", ?_⟩
  simp only [String.append_assoc]

end Json
end FilmIndex
