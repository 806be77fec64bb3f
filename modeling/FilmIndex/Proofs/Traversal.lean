import Mathlib.Data.List.Forall2

/-!
A step that may fail, taken for each member of a list. There are results exactly if no step
fails, and then they are those of the members in their order.
-/

namespace FilmIndex

variable {α β γ ε : Type}

theorem exists_of_mem_right {R : α → β → Prop} {xs : List α} {ys : List β}
    (h : List.Forall₂ R xs ys) {y : β} (hy : y ∈ ys) : ∃ x ∈ xs, R x y := by
  induction h with
  | nil => cases hy
  | @cons x _ _ _ hR _ ih =>
      rcases List.mem_cons.1 hy with rfl | hy
      · exact ⟨x, List.mem_cons_self, hR⟩
      · obtain ⟨x', hx', hR'⟩ := ih hy
        exact ⟨x', List.mem_cons_of_mem _ hx', hR'⟩

theorem exists_mapM_ok {f : α → Except ε β} {g : γ → β} {P : α → γ → Prop} {xs : List α}
    (h : ∀ x ∈ xs, ∃ c, f x = .ok (g c) ∧ P x c) :
    ∃ cs, xs.mapM f = .ok (cs.map g) ∧ List.Forall₂ P xs cs := by
  induction xs with
  | nil => exact ⟨[], rfl, .nil⟩
  | cons x xs ih =>
      obtain ⟨⟨c, hc, hP⟩, hrest⟩ := List.forall_mem_cons.1 h
      obtain ⟨cs, hcs, hPs⟩ := ih hrest
      refine ⟨c :: cs, ?_, .cons hP hPs⟩
      rw [List.mapM_cons, hc, hcs]
      rfl

theorem mapM_eq_some_iff (f : α → Option β) (xs : List α) (ys : List β) :
    xs.mapM f = some ys ↔ List.Forall₂ (fun x y => f x = some y) xs ys := by
  induction xs generalizing ys with
  | nil => cases ys <;> simp
  | cons x xs ih =>
      rw [List.mapM_cons]
      cases hx : f x with
      | none => cases ys <;> simp [hx]
      | some y =>
          cases hxs : xs.mapM f with
          | none => cases ys <;> simp [hx, ← ih, hxs]
          | some zs => cases ys <;> simp [hx, ← ih, hxs]

theorem mapM_eq_none_iff (f : α → Option β) (xs : List α) :
    xs.mapM f = none ↔ ∃ x ∈ xs, f x = none := by
  induction xs with
  | nil => simp
  | cons x xs ih =>
      simp only [List.mapM_cons, List.mem_cons, exists_eq_or_imp, ← ih]
      cases f x <;> cases xs.mapM f <;> simp

theorem isSome_mapM (f : α → Option β) (xs : List α) :
    (xs.mapM f).isSome ↔ ∀ x ∈ xs, (f x).isSome := by
  simp only [Option.isSome_iff_ne_none, ne_eq, mapM_eq_none_iff, not_exists, not_and]

theorem exists_of_mem_mapM {f : α → Option β} {xs : List α} {ys : List β}
    (h : xs.mapM f = some ys) : ∀ y ∈ ys, ∃ x ∈ xs, f x = some y :=
  fun _ hy => exists_of_mem_right ((mapM_eq_some_iff f xs ys).1 h) hy

end FilmIndex
