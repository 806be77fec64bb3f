import FilmIndex.Value.Same

/-!
Values that are the same as themselves. The value that is no number is not, so it must not
occur; and a record that is compared key by key has each key once.
-/

namespace FilmIndex
namespace Value

/-- A value of distinct keys in which every number is equal to itself. -/
inductive Sound : Value → Prop
  | null : Sound null
  | bool (b : Bool) : Sound (bool b)
  | int (n : Int) : Sound (int n)
  | float {x : Float} (h : (x == x) = true) : Sound (float x)
  | text (s : String) : Sound (text s)
  | list {items : List Value} (h : ∀ v ∈ items, Sound v) : Sound (list items)
  | record {fields : Fields} (keys : Keyed.Distinct fields) (h : ∀ f ∈ fields, Sound f.2) :
      Sound (record fields)

theorem sameItems_self {items : List Value} (h : ∀ v ∈ items, same v v = true) :
    sameItems items items = true := by
  induction items with
  | nil => rfl
  | cons v items ih =>
      obtain ⟨hv, hrest⟩ := List.forall_mem_cons.1 h
      rw [sameItems, hv, ih hrest]
      rfl

theorem sameFields_of_get? {fields others : Fields}
    (h : ∀ f ∈ fields, Keyed.get? f.1 others = some f.2 ∧ same f.2 f.2 = true) :
    sameFields fields others = true := by
  induction fields with
  | nil => rfl
  | cons f fields ih =>
      obtain ⟨⟨hget, hf⟩, hrest⟩ := List.forall_mem_cons.1 h
      rw [sameFields, hget, ih hrest]
      simp [hf]

theorem Sound.same_self {v : Value} (h : v.Sound) : same v v = true := by
  induction h with
  | null => rfl
  | bool b => exact beq_self_eq_true b
  | int n => exact beq_self_eq_true n
  | float h => exact h
  | text s => exact beq_self_eq_true s
  | list _ ih => exact sameItems_self ih
  | record keys _ ih =>
      rw [same, sameFields_of_get? fun f hf => ⟨Keyed.get?_of_mem keys hf, ih f hf⟩]
      simp

end Value
end FilmIndex
