/-!
The place of an element among elements that are ordered already. Where a
comparison is no order, as with a number that is none, the place depends on
which elements are looked at, so the search is fixed step by step.
-/

namespace FilmIndex
namespace Ranking

variable {α : Type}

/-- The end of those places from `low` on, below `high`, that lie before the place
sought, found by halving. -/
def halve (before : Nat → Bool) (low high : Nat) : Nat :=
  if low < high then
    let middle := low + (high - low) / 2
    if before middle then halve before (middle + 1) high else halve before low middle
  else high
termination_by high - low

/-- The last distance found inside and the first one beyond it, where each distance
tried is more than twice the one before and none reaches `limit`. -/
def widen (inside : Nat → Bool) (limit last next : Nat) : Nat × Nat :=
  if next < limit then
    if inside next then widen inside limit next (2 * next + 1) else (last, next)
  else (last, limit)
termination_by limit - next

/-- How many elements lie before the place sought, looked for from `hint` on in the
direction in which it is. -/
def boundary (before : α → Bool) (xs : List α) (hint : Nat) : Nat :=
  let items := xs.toArray
  let isBefore := fun i => items[i]?.any before
  if isBefore hint then
    let (last, next) := widen (fun d => isBefore (hint + d)) (items.size - hint) 0 1
    halve isBefore (hint + last + 1) (hint + next)
  else
    let (last, next) := widen (fun d => !isBefore (hint - d)) (hint + 1) 0 1
    halve isBefore (hint + 1 - next) (hint - last)

/-- An element put after all those that it is not less than. -/
def insert (less : α → α → Bool) (sorted : List α) (x : α) : List α :=
  let items := sorted.toArray
  let i := halve (fun i => items[i]?.any fun y => !less x y) 0 sorted.length
  sorted.take i ++ x :: sorted.drop i

theorem insert_perm (less : α → α → Bool) (sorted : List α) (x : α) :
    (insert less sorted x).Perm (x :: sorted) := by
  simp only [insert]
  refine List.perm_middle.trans (List.Perm.cons x ?_)
  rw [List.take_append_drop]

theorem foldl_insert_perm (less : α → α → Bool) (xs sorted : List α) :
    (xs.foldl (insert less) sorted).Perm (sorted ++ xs) := by
  induction xs generalizing sorted with
  | nil => simp
  | cons x xs ih =>
      simp only [List.foldl_cons]
      refine (ih _).trans (((insert_perm less sorted x).append_right xs).trans ?_)
      simpa using (List.perm_middle.symm : (x :: (sorted ++ xs)).Perm (sorted ++ x :: xs))

end Ranking
end FilmIndex
