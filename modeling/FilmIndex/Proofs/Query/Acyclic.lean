import Mathlib.Data.Finset.Card
import Mathlib.Data.Finset.Range
import Mathlib.Logic.Relation
import FilmIndex.Proofs.Query.Resolution

/-!
Which queries compilation takes for cyclic: those below which clauses go on without end. On
the way down to other clauses no part occurs twice, so a tree is no deeper than there are
parts.
-/

namespace FilmIndex
namespace Workbench

variable {w w' : Workbench} {parts : List (Part VectorPart)} {r : Ref}

/-- The part at `c` is a clause of the part at `r`. -/
def ClauseOf (parts : List (Part VectorPart)) (c r : Ref) : Prop :=
  ∃ p, parts[r]? = some p ∧ c ∈ p.clauses

/-- Clauses and names lead to parts. -/
structure Placed (w : Workbench) : Prop where
  clauses : ∀ p ∈ w.parts, ∀ c ∈ p.clauses, c < w.parts.length
  names : ∀ r, w.Named r → r < w.parts.length

/-! ## The depth of a tree -/

theorem isSome_tree?_succ (depth : Nat) :
    (tree? parts (depth + 1) r).isSome ↔
      ∃ p, parts[r]? = some p ∧ ∀ c ∈ p.clauses, (tree? parts depth c).isSome := by
  rw [tree?]
  cases parts[r]? with
  | none => simp
  | some p => cases p <;> simp [Part.clauses, isSome_mapM]

theorem acc_of_tree? {depth : Nat} (h : (tree? parts depth r).isSome) :
    Acc (ClauseOf parts) r := by
  induction depth generalizing r with
  | zero => cases h
  | succ depth ih =>
      obtain ⟨p, stands, below⟩ := (isSome_tree?_succ depth).1 h
      refine ⟨r, fun c ⟨p', stands', mem⟩ => ih (below c ?_)⟩
      cases stands.symm.trans stands'
      exact mem

theorem not_below_self (h : Acc (ClauseOf parts) r) :
    ¬ Relation.TransGen (ClauseOf parts) r r := by
  replace h := acc_transGen_iff.2 h
  induction h with
  | intro r _ ih => exact fun self => ih r self self

/-- The parts above are all different, hence the depth that is left is enough. -/
theorem isSome_tree? (placed : ∀ p ∈ parts, ∀ c ∈ p.clauses, c < parts.length)
    (h : Acc (ClauseOf parts) r) (inside : r < parts.length) {depth : Nat} {above : Finset Ref}
    (range : above ⊆ Finset.range parts.length)
    (below : ∀ a ∈ above, Relation.TransGen (ClauseOf parts) r a)
    (enough : parts.length < depth + above.card) : (tree? parts depth r).isSome := by
  induction h generalizing depth above with
  | intro r acc ih =>
      have fresh : r ∉ above := fun mem => not_below_self ⟨r, acc⟩ (below r mem)
      have range' : insert r above ⊆ Finset.range parts.length :=
        Finset.insert_subset (Finset.mem_range.2 inside) range
      have grown : (insert r above).card = above.card + 1 := Finset.card_insert_of_notMem fresh
      have bound := Finset.card_le_card range'
      rw [Finset.card_range] at bound
      obtain ⟨depth, rfl⟩ : ∃ d, depth = d + 1 := ⟨depth - 1, by omega⟩
      refine (isSome_tree?_succ depth).2 ⟨parts[r], List.getElem?_eq_getElem inside, ?_⟩
      intro c mem
      have child : ClauseOf parts c r := ⟨parts[r], List.getElem?_eq_getElem inside, mem⟩
      refine ih c child (placed _ (List.getElem_mem inside) c mem) range' ?_ (by omega)
      exact (Finset.forall_mem_insert _ _ _).2
        ⟨.single child, fun a mem => (below a mem).head child⟩

/-! ## Parts in place -/

theorem Placed.add (placed : w.Placed) {p : Part VectorPart}
    (below : ∀ c ∈ p.clauses, c < w.parts.length) : (w.add p).1.Placed := by
  have grown : w.parts.length ≤ (w.add p).1.parts.length :=
    (List.prefix_append w.parts [p]).length_le
  refine ⟨List.forall_mem_append.2 ⟨fun p mem c hc => ?_, ?_⟩, fun r named => ?_⟩
  · exact Nat.lt_of_lt_of_le (placed.clauses p mem c hc) grown
  · exact List.forall_mem_singleton.2 fun c hc => Nat.lt_of_lt_of_le (below c hc) grown
  · exact Nat.lt_of_lt_of_le (placed.names r named) grown

/-- A part that was made stands in its place, and so does all that came before it. -/
structure Made (made : Workbench × Ref) : Prop where
  placed : made.1.Placed
  inside : made.2 < made.1.parts.length

theorem made_add (placed : w.Placed) {p : Part VectorPart}
    (below : ∀ c ∈ p.clauses, c < w.parts.length) : Made (w.add p) :=
  ⟨placed.add below, by simp [add]⟩

theorem made_addTrees {cs : List (Clause VectorQuery)}
    (h : ∀ c ∈ cs, ∀ w : Workbench, w.Placed → Made (w.addTree c)) (placed : w.Placed) :
    (w.addTrees cs).1.Placed ∧ ∀ r ∈ (w.addTrees cs).2, r < (w.addTrees cs).1.parts.length := by
  induction cs generalizing w with
  | nil => exact ⟨placed, List.forall_mem_nil _⟩
  | cons c cs ih =>
      obtain ⟨hc, hcs⟩ := List.forall_mem_cons.1 h
      have first := hc w placed
      obtain ⟨placed', rest⟩ := ih hcs first.placed
      have grown : (w.addTree c).1.parts <+: ((w.addTree c).1.addTrees cs).1.parts :=
        (adds_addTrees (fun c _ => adds_addTree c) _).parts
      refine ⟨placed', List.forall_mem_cons.2 ⟨?_, rest⟩⟩
      exact Nat.lt_of_lt_of_le first.inside grown.length_le

theorem made_addTree (c : Clause VectorQuery) (placed : w.Placed) : Made (w.addTree c) := by
  induction c using Clause.clauseInduction generalizing w with
  | vector q =>
      have before : Placed { w with
          vectorLists := w.vectorLists ++ [q.vectors], tables := w.tables ++ [q.params] } :=
        ⟨placed.clauses, placed.names⟩
      exact made_add before (List.forall_mem_nil _)
  | filter _ | value _ => exact made_add placed (List.forall_mem_nil _)
  | must cs ih | should cs ih =>
      obtain ⟨placed', inside⟩ := made_addTrees (fun c hc w => ih c hc (w := w)) placed
      exact made_add placed' inside
  | mustNot c ih | whole c ih =>
      exact made_add (ih placed).placed (List.forall_mem_singleton.2 (ih placed).inside)

theorem Made.label {made : Workbench × Ref} (h : Made made) (name : String) :
    (label name made).Placed := by
  refine ⟨h.placed.clauses, fun r ⟨name', named⟩ => ?_⟩
  simp only [Workbench.label, find, Keyed.get?_put] at named
  cases same : name == name' with
  | true =>
      rw [same] at named
      cases named
      exact h.inside
  | false =>
      rw [same] at named
      exact h.placed.names r ⟨name', named⟩

theorem Placed.apply (placed : w.Placed) {c? : Option Change} {edit : Edit}
    (due : Due w c? edit) : (w.apply edit).Placed := by
  cases due with
  | nothing | missing _ | addVector _ _ | queryParam _ _ _ | requestParam _ =>
      exact ⟨placed.clauses, placed.names⟩
  | request _ _ keepAs? => cases keepAs? <;> exact ⟨placed.clauses, placed.names⟩
  | define name tree => exact (made_addTree tree placed).label name
  | build name _ named =>
      exact (made_add placed fun c mem => placed.names c (named c mem)).label name
  | @alter r p p' stands _ named =>
      have inside (c : Ref) (mem : c ∈ p'.clauses) : c < w.parts.length := by
        rcases named c mem with mem | named
        · exact placed.clauses p (List.mem_of_getElem? stands) c mem
        · exact placed.names c named
      constructor <;> simp only [Workbench.apply, List.length_set]
      · intro p'' mem
        rcases List.mem_or_eq_of_mem_set mem with mem | rfl
        · exact placed.clauses p'' mem
        · exact inside
      · exact placed.names

theorem Placed.step (placed : w.Placed) (s : Step) : (w.step s).2.Placed := by
  obtain ⟨edit, due, same⟩ := exists_due w s
  exact same ▸ placed.apply due

theorem Placed.after (placed : w.Placed) (steps : List Step) : (w.after steps).Placed := by
  induction steps generalizing w with
  | nil => exact placed
  | cons s steps ih => exact ih (placed.step s)

theorem placed_empty : Placed {} :=
  ⟨fun _ mem => absurd mem List.not_mem_nil, fun _ ⟨_, named⟩ => nomatch named⟩

theorem compile_eq_cyclic_iff (w : Workbench) (r : Ref) :
    w.compile r = .error .cyclic ↔ ¬ (tree? w.parts (w.parts.length + 1) r).isSome := by
  cases htree : tree? w.parts (w.parts.length + 1) r with
  | none => simp [compile, htree]
  | some tree =>
      cases hsole : tree.theVector with
      | error e => simp [compile, htree, hsole]
      | ok x => cases hfault : (w.query x.2).fault? <;> simp [compile, htree, hsole, hfault]

/-- In every session a query is found cyclic exactly if there is no end to the clauses below
it. -/
theorem compile_cyclic_iff (steps : List Step) :
    let w := after {} steps
    ∀ r, w.Named r → (w.compile r = .error .cyclic ↔ ¬ Acc (ClauseOf w.parts) r) := by
  intro w r named
  have placed : w.Placed := placed_empty.after steps
  rw [compile_eq_cyclic_iff, not_iff_not]
  refine ⟨acc_of_tree?, fun h => ?_⟩
  refine isSome_tree? placed.clauses h (placed.names r named) (Finset.empty_subset _) ?_ ?_
  · exact fun a mem => absurd mem (Finset.notMem_empty a)
  · rw [Finset.card_empty]
    omega

end Workbench
end FilmIndex
