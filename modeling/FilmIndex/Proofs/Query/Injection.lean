import FilmIndex.Proofs.Query.Meaning

/-!
Which values keep to their literals. A backslash in a value is written as it is, so it
takes with it whatever follows, at the end of the value the closing quote. Values
without one are read back as they were, alone, from a filter and from a whole tree; any
backslash is lost or moves the end of its literal.
-/

namespace FilmIndex
open Text

/-- The literals that stand in the text of a filter at the places of its values. -/
inductive Filter.ReadBack : Filter → List Literal → Prop
  | isIn {field : String} {values : List Value} {ls : List Literal} (proper : ∀ l ∈ ls, l.Proper)
      (text : (Expression.isIn field ls).chars = (Filter.isIn field values).chars) :
      ReadBack (.isIn field values) ls
  | between {field : String} {low high : Value} {l l' : Literal} (proper : l.Proper)
      (proper' : l'.Proper)
      (text : (Expression.between field l field l').chars = (Filter.between field low high).chars) :
      ReadBack (.between field low high) [l, l']

namespace Filter

theorem ReadBack.unique {f : Filter} {ls ls' : List Literal} (h : f.ReadBack ls)
    (h' : f.ReadBack ls') : ls = ls' := by
  cases h with
  | @isIn field values _ proper text =>
      cases h' with
      | isIn proper' text' =>
          have heq := text.trans text'.symm
          rw [Expression.chars, Expression.chars, List.append_assoc, List.append_assoc _ _ [']']]
            at heq
          exact (literals_unique proper proper' (List.append_cancel_left heq)).1
  | @between field low high l l₁ proper proper₁ text =>
      cases h' with
      | between proper' proper₁' text' =>
          have heq := congrArg (· ++ []) (text.trans text'.symm)
          simp only [Expression.between_append, List.cons.injEq, true_and,
            List.append_cancel_left_eq] at heq
          obtain ⟨rfl, upper⟩ := Literal.chars_unique proper proper'
            (Expression.follows_space _) (Expression.follows_space _) heq
          simp only [List.cons.injEq, true_and, List.append_cancel_left_eq] at upper
          obtain ⟨rfl, -⟩ := Literal.chars_unique proper₁ proper₁'
            (Expression.follows_bracket _) (Expression.follows_bracket _) upper
          rfl

/-- The values of a filter are read back when none of them has a backslash, and then only. -/
theorem readBack_iff (f : Filter) (h : ∀ v ∈ f.values, v.IsLiteral) :
    (∃ ls, f.ReadBack ls ∧ ls.map Literal.value = f.values) ↔ f.Unslashed := by
  constructor
  · rintro ⟨ls, hr, hv⟩
    cases hr with
    | @isIn field values _ proper text =>
        have hvs : ls.map Literal.value = values := hv
        subst hvs
        exact (Expression.tight_isIn _ proper).2 (Nat.le_of_eq (congrArg List.length text))
    | @between field low high l l' proper proper' text =>
        have hvs : [l.value, l'.value] = [low, high] := hv
        simp only [List.cons.injEq, and_true] at hvs
        obtain ⟨rfl, rfl⟩ := hvs
        exact (Expression.tight_between _ proper proper').2
          (Nat.le_of_eq (congrArg List.length text))
  · intro hu
    have hp := Literal.forall_proper_ofValue h hu
    refine ⟨f.values.map Literal.ofValue, ?_, Literal.map_value_ofValue h hu⟩
    cases f with
    | isIn field values =>
        refine .isIn hp ?_
        have hl := Literal.map_chars_ofValue h
        rw [Expression.chars, hl]
        rfl
    | between field low high =>
        obtain ⟨hlow, hhigh⟩ := List.forall_mem_cons.1 hp
        refine .between hlow (hhigh _ List.mem_cons_self) ?_
        obtain ⟨hlow, hhigh⟩ := List.forall_mem_cons.1 h
        rw [Expression.chars, Literal.chars_ofValue hlow,
          Literal.chars_ofValue (hhigh high List.mem_cons_self)]
        rfl

end Filter

/-- A text is read back from its literal, whatever follows, exactly when it has no
backslash; so are the values of a filter, and so is the condition of a request, clause
by clause. What is read back is one thing at most. -/
theorem kept_iff_noBackslash (v rest : List Char) (f : Filter) (c : Clause VectorQuery)
    (r : SearchRequest) (p : Condition) :
    (TextLiteral.read? (Filter.textLiteral v ++ rest) = some (v, rest) ↔ '\\' ∉ v) ∧
    ((∀ v ∈ f.values, v.IsLiteral) →
      ((∃ ls, f.ReadBack ls ∧ ls.map Literal.value = f.values) ↔ f.Unslashed) ∧
      ∀ ls ls', f.ReadBack ls → f.ReadBack ls' → ls = ls') ∧
    (c.compile = .ok r → r.condition? = some p → (∀ f ∈ c.filters, f.Simple) →
      ((∃ e : Expression, e.Reads p.chars ∧ e.Says p) ↔ ∀ f ∈ c.filters, f.Unslashed) ∧
      ∀ e e' : Expression, e.Reads p.chars → e'.Reads p.chars → e = e') := by
  refine ⟨TextLiteral.read?_textLiteral v rest, fun hf => ⟨f.readBack_iff hf, ?_⟩,
    fun hr hp hf => ⟨?_, ?_⟩⟩
  · exact fun ls ls' h h' => h.unique h'
  · rw [Clause.condition?_of_compile hr] at hp
    rw [← Clause.unslashed_of_condition?_iff hp]
    exact Expression.says_iff p (Clause.simple_of_condition? hp hf)
  · exact fun e e' h h' => h.unique h'

/-- Quotes are read back from a filter; a backslash is not read back from a tree. -/
theorem kept_quotes_not_backslashes :
    (∃ ls, (Filter.between "title" (.text "\"a\"") (.text "b")).ReadBack ls ∧
      ls.map Literal.value = [.text "\"a\"", .text "b"]) ∧
    ¬ ∃ e : Expression, e.Reads (Filter.isIn "title" [.text "a\\b"]).chars ∧
      e.Says (.test (.isIn "title" [.text "a\\b"])) := by
  obtain ⟨-, filters, trees⟩ := kept_iff_noBackslash [] []
    (.between "title" (.text "\"a\"") (.text "b"))
    (.must [.vector (.mk ⟨"embedding", 1⟩ [[.int 0]] "L2" (.int 3) []),
      .filter (.isIn "title" [.text "a\\b"])])
    ⟨[[.int 0]], "embedding", "L2", [], .int 3, some (.test (.isIn "title" [.text "a\\b"]))⟩
    (.test (.isIn "title" [.text "a\\b"]))
  have name : IsName "title" := ⟨_, _, rfl, rfl, List.all_eq_true.1 rfl⟩
  have simple : ∀ f ∈ [Filter.isIn "title" [.text "a\\b"]], f.Simple := by
    simp [Filter.Simple, Filter.field, Filter.values, Value.IsLiteral, name]
  refine ⟨(filters ?_).1.2 ?_, fun h => ?_⟩
  · simp [Filter.values, Value.IsLiteral]
  · simp [Filter.Unslashed, Filter.values, Value.Unslashed]
  · have slashed := (trees rfl rfl simple).1.1 h _ List.mem_cons_self
    exact slashed _ List.mem_cons_self (by decide)

/-- A backslash alone takes the closing quote with it; before a letter it is lost. -/
theorem backslash_not_kept :
    TextLiteral.read? (Filter.textLiteral ['\\'] ++ [']']) ≠ some (['\\'], [']']) ∧
    TextLiteral.read? (Filter.textLiteral ['a', '\\', 'b'] ++ [']']) =
      some (['a', 'b'], [']']) := by
  decide

end FilmIndex
