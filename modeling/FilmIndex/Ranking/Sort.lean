import FilmIndex.Ranking.Merge

/-!
Ranking by a comparison. Elements of which neither is less keep their order. The
list is cut into runs that are ordered already, short ones are filled up by
insertion, and neighbouring runs are joined. Every choice on the way is fixed, so
the outcome is also fixed where the comparison is no order.
-/

namespace FilmIndex
namespace Ranking

variable {α : Type} (less : α → α → Bool)

/-- How many further elements, after one, keep to the run: each less than the
one before, or none so. -/
def runLength (falling : Bool) (last : α) : List α → Nat
  | [] => 0
  | x :: xs => if less x last == falling then runLength falling x xs + 1 else 0

/-- The length of the run at the front of a list, and whether it falls. -/
def frontRun : List α → Nat × Bool
  | x :: y :: rest => (runLength less (less y x) y rest + 2, less y x)
  | xs => (xs.length, false)

/-- The elements at the front in order, at least `shortest` of them, and the rest. -/
def cutRun (shortest : Nat) (xs : List α) : List α × List α :=
  let (length, falling) := frontRun less xs
  let run := if falling then (xs.take length).reverse else xs.take length
  let more := shortest - length
  (((xs.drop length).take more).foldl (insert less) run, (xs.drop length).drop more)

/-- The length halved until it is below 64, and rounded up: `extra` is one when a
half before was no whole number. Runs of this length make up the list evenly. -/
def shortestRun (extra n : Nat) : Nat :=
  if n < 64 then n + extra else shortestRun (max extra (n % 2)) (n / 2)
termination_by n

/-- Runs in order of place, with their place and the depth at which they meet the
next run. -/
structure Run (α : Type) where
  place : Nat
  elements : List α
  depth : Nat := 0

/-- The depth at which two places, given doubled, come apart when the whole length
is halved again and again. -/
def depthOf (total : Nat) : Nat → Nat → Nat → Nat
  | 0, _, _ => 1
  | fuel + 1, a, b =>
    if total ≤ a then depthOf total fuel (2 * (a - total)) (2 * (b - total)) + 1
    else if total ≤ b then 1
    else depthOf total fuel (2 * a) (2 * b) + 1

/-- Runs, the last one first, and the patience that merging has come to. -/
structure Runs (α : Type) where
  patience : Nat := Merge.longLeap
  runs : List (Run α) := []

namespace Runs

/-- The runs before the last one joined as far as they meet deeper than it does. -/
def settle (depth patience : Nat) : List (Run α) → Runs α
  | last :: earlier :: rest =>
    if depth < earlier.depth then
      let (patience, elements) := join less patience earlier.elements last.elements
      settle depth patience ({ earlier with elements } :: rest)
    else ⟨patience, last :: earlier :: rest⟩
  | runs => ⟨patience, runs⟩
termination_by runs => runs.length

def setDepth (depth : Nat) : List (Run α) → List (Run α)
  | last :: rest => { last with depth } :: rest
  | [] => []

def push (total place : Nat) (elements : List α) (s : Runs α) : Runs α :=
  match s.runs with
  | [] => { s with runs := [{ place, elements }] }
  | last :: _ =>
    let a := 2 * last.place + last.elements.length
    let depth := depthOf total total a (a + last.elements.length + elements.length)
    let settled := settle less depth s.patience s.runs
    { settled with runs := { place, elements } :: setDepth depth settled.runs }

/-- All runs joined. Of three runs the shorter of the outer ones is joined first. -/
def close (patience : Nat) : List (Run α) → List α
  | [] => []
  | [run] => run.elements
  | [last, earlier] => (join less patience earlier.elements last.elements).2
  | last :: middle :: first :: rest =>
    if first.elements.length < last.elements.length then
      let (patience, elements) := join less patience first.elements middle.elements
      close patience (last :: { first with elements } :: rest)
    else
      let (patience, elements) := join less patience middle.elements last.elements
      close patience ({ middle with elements } :: first :: rest)
termination_by runs => runs.length

/-- Run after run cut from the list and added. -/
def collect (shortest total : Nat) : Nat → List α → Runs α → Runs α
  | _, [], s => s
  | 0, x :: xs, s => s.push less total (total - (x :: xs).length) (x :: xs)
  | fuel + 1, x :: xs, s =>
    let (run, later) := cutRun less shortest (x :: xs)
    collect shortest total fuel later (s.push less total (total - (x :: xs).length) run)

end Runs

def sort (xs : List α) : List α :=
  let collected := Runs.collect less (shortestRun 0 xs.length) xs.length xs.length xs {}
  Runs.close less collected.patience collected.runs

theorem cutRun_perm (shortest : Nat) (xs : List α) :
    ((cutRun less shortest xs).1 ++ (cutRun less shortest xs).2).Perm xs := by
  simp only [cutRun]
  generalize (frontRun less xs).1 = length
  have h : (if (frontRun less xs).2 then (xs.take length).reverse else xs.take length).Perm
      (xs.take length) := by
    split
    · exact List.reverse_perm _
    · exact .refl _
  refine ((foldl_insert_perm less _ _).append_right _).trans ?_
  rw [List.append_assoc, List.take_append_drop]
  refine (h.append_right _).trans ?_
  rw [List.take_append_drop]

namespace Runs

/-- The elements of some runs in no particular order. -/
def elements (runs : List (Run α)) : List α := runs.flatMap (·.elements)

theorem elements_cons (run : Run α) (runs : List (Run α)) :
    elements (run :: runs) = run.elements ++ elements runs := rfl

theorem join_swap_perm (patience : Nat) (last earlier rest : List α) :
    ((join less patience earlier last).2 ++ rest).Perm (last ++ (earlier ++ rest)) := by
  rw [← List.append_assoc]
  exact ((join_perm less patience earlier last).trans List.perm_append_comm).append_right rest

theorem settle_perm (depth patience : Nat) (runs : List (Run α)) :
    (elements (settle less depth patience runs).runs).Perm (elements runs) := by
  fun_induction settle less depth patience runs with
  | case1 patience last earlier rest _ patience' joined h ih =>
      refine ih.trans ?_
      have := join_swap_perm less patience last.elements earlier.elements (elements rest)
      rw [h] at this
      exact this
  | case2 => exact .refl _
  | case3 => exact .refl _

theorem elements_setDepth (depth : Nat) (runs : List (Run α)) :
    elements (setDepth depth runs) = elements runs := by
  cases runs <;> rfl

theorem push_perm (total place : Nat) (added : List α) (s : Runs α) :
    (elements (s.push less total place added).runs).Perm (added ++ elements s.runs) := by
  unfold push
  split
  · next h => simp [elements, h]
  · rw [elements_cons, elements_setDepth]
    exact (settle_perm less _ _ _).append_left added

theorem close_perm (patience : Nat) (runs : List (Run α)) :
    (close less patience runs).Perm (elements runs) := by
  fun_induction close less patience runs with
  | case1 => exact .refl _
  | case2 patience run => simp [elements]
  | case3 patience last earlier =>
      simpa [elements] using join_swap_perm less patience last.elements earlier.elements []
  | case4 patience last middle first rest _ patience' joined h ih =>
      have := join_swap_perm less patience middle.elements first.elements (elements rest)
      rw [h] at this
      exact ih.trans (this.append_left last.elements)
  | case5 patience last middle first rest _ patience' joined h ih =>
      have := join_swap_perm less patience last.elements middle.elements (elements (first :: rest))
      rw [h] at this
      exact ih.trans this

theorem collect_perm (shortest total fuel : Nat) (xs : List α) (s : Runs α) :
    (elements (collect less shortest total fuel xs s).runs).Perm (xs ++ elements s.runs) := by
  induction fuel generalizing xs s with
  | zero =>
      cases xs with
      | nil => exact .refl _
      | cons x xs => exact push_perm less _ _ _ _
  | succ fuel ih =>
      cases xs with
      | nil => exact .refl _
      | cons x xs =>
          refine (ih _ _).trans ?_
          refine ((push_perm less _ _ _ _).append_left _).trans ?_
          rw [← List.append_assoc]
          exact (List.perm_append_comm.trans (cutRun_perm less shortest (x :: xs))).append_right _

end Runs

theorem sort_perm (xs : List α) : (sort less xs).Perm xs := by
  simp only [sort]
  refine (Runs.close_perm less _ _).trans ((Runs.collect_perm less _ _ _ _ _).trans ?_)
  simp [Runs.elements]

end Ranking
end FilmIndex
