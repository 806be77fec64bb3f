import FilmIndex.Ranking.Place

/-!
Two ordered lists merged into one. Elements are taken one at a time until one
list has won several times in a row; then whole stretches are taken in leaps, for
as long as these are long. How many wins it takes changes as merging goes on: it
grows when leaps turn out to be short, and shrinks while they are long.
-/

namespace FilmIndex
namespace Ranking

variable {α : Type}

/-- How merging goes on: one element at a time, with the number of wins in a row on
each side, or in leaps, of which `again` tells whether one came right before. -/
inductive Pace where
  | steps (lefts rights : Nat)
  | leaps (again : Bool)

/-- Two lists being merged, from their ends if `backward`, in which case they are
held reversed. Elements taken are in `done`, the latest first. -/
structure Merge (α : Type) where
  backward : Bool
  left : List α
  right : List α
  done : List α := []
  pace : Pace := .steps 0 0
  patience : Nat

namespace Merge

/-- Of the list that was set aside one element may be left, whose place is known. -/
def ended (m : Merge α) : Bool :=
  if m.backward then m.left.isEmpty || decide (m.right.length ≤ 1)
  else m.right.isEmpty || decide (m.left.length ≤ 1)

def takeLeft (n : Nat) (m : Merge α) : Merge α :=
  { m with left := m.left.drop n, done := (m.left.take n).reverse ++ m.done }

def takeRight (n : Nat) (m : Merge α) : Merge α :=
  { m with right := m.right.drop n, done := (m.right.take n).reverse ++ m.done }

def setPace (pace : Pace) (m : Merge α) : Merge α := { m with pace }

def unlessEnded (m : Merge α) (f : Merge α → Merge α) : Merge α := if m.ended then m else f m

variable (less : α → α → Bool)

/-- Wins in a row bring leaps when patience ends. -/
def paceAfter (m : Merge α) (lefts rights : Nat) : Pace :=
  if m.patience ≤ lefts + rights then .leaps false else .steps lefts rights

/-- One element taken. Of equal ones that of the left list comes first. -/
def single (lefts rights : Nat) (m : Merge α) : Merge α :=
  match m.left, m.right with
  | x :: _, y :: _ =>
    if less y x != m.backward then (m.takeRight 1).setPace (m.paceAfter 0 (rights + 1))
    else (m.takeLeft 1).setPace (m.paceAfter (lefts + 1) 0)
  | _, _ => m

/-- How many elements at the front of a list held by a merge belong next. -/
def leading (m : Merge α) (before : α → Bool) (xs : List α) : Nat :=
  if m.backward then xs.length - boundary before xs.reverse (xs.length - 1)
  else boundary before xs 0

/-- The elements of the left list that belong next, and how many they are. -/
def leapLeft (m : Merge α) : Nat × Merge α :=
  let n := m.right.head?.elim 0 fun y => m.leading (fun x => !less y x) m.left
  (n, m.takeLeft n)

def leapRight (m : Merge α) : Nat × Merge α :=
  let n := m.left.head?.elim 0 fun x => m.leading (fun y => less y x) m.right
  (n, m.takeRight n)

/-- A leap is worth while when it is this long. -/
def longLeap : Nat := 7

def afterLeaps (lefts rights : Nat) (m : Merge α) : Merge α :=
  if longLeap ≤ lefts ∨ longLeap ≤ rights then m.setPace (.leaps true)
  else { m with pace := .steps 0 0, patience := m.patience + 1 }

/-- Two leaps, one in each list, with an element of the other list after each. -/
def leap (again : Bool) (m : Merge α) : Merge α :=
  let m := if again && decide (1 < m.patience) then { m with patience := m.patience - 1 } else m
  let (lefts, m) := m.leapLeft less
  m.unlessEnded fun m => (m.takeRight 1).unlessEnded fun m =>
    let (rights, m) := m.leapRight less
    m.unlessEnded fun m => (m.takeLeft 1).unlessEnded (afterLeaps lefts rights)

def next (m : Merge α) : Merge α :=
  match m.pace with
  | .steps lefts rights => m.single less lefts rights
  | .leaps again => m.leap less again

def run : Nat → Merge α → Merge α
  | 0, m => m
  | n + 1, m => m.unlessEnded fun m => run n (m.next less)

def result (m : Merge α) : List α :=
  if m.backward then m.right.reverse ++ (m.left.reverse ++ m.done)
  else m.done.reverse ++ (m.right ++ m.left)

/-- Two lists, of which the first of the right one comes first and the last of the
left one comes last. The shorter list is set aside. -/
def start (patience : Nat) (left right : List α) : Merge α :=
  if left.length ≤ right.length then
    takeRight 1 { backward := false, left, right, patience }
  else
    takeLeft 1 { backward := true, left := left.reverse, right := right.reverse, patience }

/-- The elements of a merge in no particular order. -/
def elements (m : Merge α) : List α := m.done ++ (m.right ++ m.left)

theorem takeLeft_perm (n : Nat) (m : Merge α) : (m.takeLeft n).elements.Perm m.elements := by
  have h : ((m.left.take n).reverse ++ m.left.drop n).Perm m.left := by
    refine ((List.reverse_perm _).append_right _).trans ?_
    rw [List.take_append_drop]
  simp only [elements, takeLeft, List.append_assoc]
  refine (List.perm_append_comm_assoc _ _ _).trans (List.Perm.append_left m.done ?_)
  exact (List.perm_append_comm_assoc _ _ _).trans (List.Perm.append_left m.right h)

theorem takeRight_perm (n : Nat) (m : Merge α) : (m.takeRight n).elements.Perm m.elements := by
  have h : ((m.right.take n).reverse ++ m.right.drop n).Perm m.right := by
    refine ((List.reverse_perm _).append_right _).trans ?_
    rw [List.take_append_drop]
  simp only [elements, takeRight, List.append_assoc]
  refine (List.perm_append_comm_assoc _ _ _).trans (List.Perm.append_left m.done ?_)
  rw [← List.append_assoc]
  exact h.append_right m.left

theorem unlessEnded_perm (m : Merge α) (f : Merge α → Merge α)
    (h : (f m).elements.Perm m.elements) : (m.unlessEnded f).elements.Perm m.elements := by
  unfold unlessEnded
  split
  · exact .refl _
  · exact h

theorem single_perm (lefts rights : Nat) (m : Merge α) :
    (m.single less lefts rights).elements.Perm m.elements := by
  unfold single
  split
  · split
    · exact m.takeRight_perm 1
    · exact m.takeLeft_perm 1
  · exact .refl _

theorem afterLeaps_perm (lefts rights : Nat) (m : Merge α) :
    (m.afterLeaps lefts rights).elements.Perm m.elements := by
  unfold afterLeaps
  split <;> exact .refl _

theorem leap_perm (again : Bool) (m : Merge α) : (m.leap less again).elements.Perm m.elements := by
  unfold leap
  generalize hm : (if again && decide (1 < m.patience) then
    { m with patience := m.patience - 1 } else m) = m'
  have h : m'.elements = m.elements := by
    subst hm
    split <;> rfl
  rw [← h]
  refine (unlessEnded_perm _ _ ?_).trans (m'.takeLeft_perm _)
  refine (unlessEnded_perm _ _ ?_).trans (takeRight_perm 1 _)
  refine (unlessEnded_perm _ _ ?_).trans (takeRight_perm _ _)
  refine (unlessEnded_perm _ _ ?_).trans (takeLeft_perm 1 _)
  exact afterLeaps_perm _ _ _

theorem next_perm (m : Merge α) : (m.next less).elements.Perm m.elements := by
  unfold next
  split
  · exact single_perm less _ _ m
  · exact leap_perm less _ m

theorem run_perm (n : Nat) (m : Merge α) : (m.run less n).elements.Perm m.elements := by
  induction n generalizing m with
  | zero => exact .refl _
  | succ n ih => exact unlessEnded_perm m _ ((ih _).trans (next_perm less m))

theorem result_perm (m : Merge α) : m.result.Perm m.elements := by
  unfold result elements
  split
  · refine ((List.reverse_perm _).append ((List.reverse_perm _).append_right _)).trans ?_
    refine List.perm_append_comm.trans ?_
    refine (List.perm_append_comm.append_right _).trans ?_
    rw [List.append_assoc]
    exact List.perm_append_comm.append_left _
  · exact (List.reverse_perm _).append_right _

theorem start_perm (patience : Nat) (left right : List α) :
    (start patience left right).elements.Perm (left ++ right) := by
  unfold start
  split
  · refine (takeRight_perm 1 _).trans ?_
    simpa [elements] using List.perm_append_comm
  · refine (takeLeft_perm 1 _).trans ?_
    simp only [elements, List.nil_append]
    exact List.perm_append_comm.trans ((List.reverse_perm _).append (List.reverse_perm _))

end Merge

/-- Two ordered lists, the one right after the other, made into one. What stands
in its place already is kept out of the merge. -/
def join (less : α → α → Bool) (patience : Nat) (left right : List α) : Nat × List α :=
  let kept := right.head?.elim left.length fun y => boundary (fun x => !less y x) left 0
  let late := left.drop kept
  let moved := late.getLast?.elim 0 fun x => boundary (fun y => less y x) right (right.length - 1)
  if moved = 0 then (patience, left ++ right)
  else
    let early := right.take moved
    let merged := (Merge.start patience late early).run less (late.length + early.length)
    (merged.patience, left.take kept ++ (merged.result ++ right.drop moved))

theorem join_perm (less : α → α → Bool) (patience : Nat) (left right : List α) :
    (join less patience left right).2.Perm (left ++ right) := by
  simp only [join]
  split
  · exact .refl _
  · generalize hk : right.head?.elim left.length _ = kept
    generalize (left.drop kept).getLast?.elim 0 _ = moved
    have h := (Merge.result_perm _).trans ((Merge.run_perm less
      ((left.drop kept).length + (right.take moved).length) _).trans
        (Merge.start_perm patience (left.drop kept) (right.take moved)))
    refine ((h.append_right _).append_left _).trans ?_
    rw [List.append_assoc, List.take_append_drop, ← List.append_assoc, List.take_append_drop]

end Ranking
end FilmIndex
