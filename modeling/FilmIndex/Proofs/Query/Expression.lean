import FilmIndex.Proofs.Query.Literal

/-!
Expressions as trees, apart from any query: what a server reads off a filter text.
An expression lists the literals that a field may equal, bounds a field from both
sides, negates in brackets, or brackets two or more expressions with one connective
between them. No text is written by two expressions, since the first characters
settle the form and every form marks its own end.
-/

namespace FilmIndex
open Text

/-- A character of a name. Beyond ASCII all letters and digits are admitted. -/
def isNameChar (c : Char) : Bool := c.isAlphanum || c == '_' || decide (0x80 ≤ c.toNat)

/-- A name has characters of names only and does not begin with a digit. -/
def IsName (s : String) : Prop :=
  ∃ c cs, s.toList = c :: cs ∧ c.isDigit = false ∧ ∀ c' ∈ c :: cs, isNameChar c' = true

inductive Expression where
  | isIn (name : String) (literals : List Literal)
  | between (lowName : String) (low : Literal) (highName : String) (high : Literal)
  | negation (e : Expression)
  | all (es : List Expression)
  | any (es : List Expression)

namespace Expression

/-- Induction on an expression, with the hypothesis for each operand. -/
@[elab_as_elim]
theorem expressionInduction {motive : Expression → Prop}
    (isIn : ∀ name literals, motive (isIn name literals))
    (between : ∀ lowName low highName high, motive (between lowName low highName high))
    (negation : ∀ e, motive e → motive (negation e))
    (all : ∀ es, (∀ e ∈ es, motive e) → motive (all es))
    (any : ∀ es, (∀ e ∈ es, motive e) → motive (any es)) (e : Expression) : motive e :=
  @Expression.rec motive (fun es => ∀ e ∈ es, motive e) isIn between negation all any
    (List.forall_mem_nil _) (fun _ _ he hes => List.forall_mem_cons.2 ⟨he, hes⟩) e

mutual

/-- The text of an expression. -/
def chars : Expression → List Char
  | isIn name literals =>
    name.toList ++ " in [".toList ++ joined ", ".toList (literals.map Literal.chars) ++ [']']
  | between lowName low highName high =>
    '(' :: (lowName.toList ++ " >= ".toList ++ low.chars ++ " and ".toList ++
      highName.toList ++ " <= ".toList ++ high.chars ++ [')'])
  | negation e => "not (".toList ++ chars e ++ [')']
  | all es => '(' :: (joined " and ".toList (charsOfEach es) ++ [')'])
  | any es => '(' :: (joined " or ".toList (charsOfEach es) ++ [')'])

def charsOfEach : List Expression → List (List Char)
  | [] => []
  | e :: es => chars e :: charsOfEach es

end

theorem charsOfEach_eq (es : List Expression) : charsOfEach es = es.map chars := by
  induction es with
  | nil => rfl
  | cons e es ih => rw [charsOfEach, ih, List.map_cons]

mutual

/-- Names are names, literals are literals, and a bracket holds at least two operands. -/
def Proper : Expression → Prop
  | isIn name literals => IsName name ∧ ∀ l ∈ literals, l.Proper
  | between lowName low highName high =>
    IsName lowName ∧ low.Proper ∧ IsName highName ∧ high.Proper
  | negation e => Proper e
  | all es => 2 ≤ es.length ∧ ProperEach es
  | any es => 2 ≤ es.length ∧ ProperEach es

def ProperEach : List Expression → Prop
  | [] => True
  | e :: es => Proper e ∧ ProperEach es

end

theorem properEach_iff (es : List Expression) : ProperEach es ↔ ∀ e ∈ es, e.Proper := by
  induction es with
  | nil => simp [ProperEach]
  | cons e es ih => rw [ProperEach, ih, List.forall_mem_cons]

/-- The expression is a reading of the text. -/
def Reads (e : Expression) (text : List Char) : Prop := e.Proper ∧ e.chars = text

theorem name_unique {n n' : String} (h : IsName n) (h' : IsName n') {s s' : List Char}
    (heq : n.toList ++ ' ' :: s = n'.toList ++ ' ' :: s') : n = n' ∧ s = s' := by
  obtain ⟨c, cs, hc, _, hn⟩ := h
  obtain ⟨c', cs', hc', _, hn'⟩ := h'
  have hspace (t : List Char) : ∀ c ∈ (' ' :: t).head?, isNameChar c = false := fun c hc => by
    cases hc; rfl
  rw [← hc] at hn
  rw [← hc'] at hn'
  obtain ⟨hl, hs⟩ := append_unique hn hn' (hspace s) (hspace s') heq
  exact ⟨String.toList_inj.1 hl, (List.cons.inj hs).2⟩

/-- The forms that the beginning of a text can tell apart. -/
inductive Form where
  | isIn
  | between
  | negation
  | bracket

def form : Expression → Form
  | isIn _ _ => .isIn
  | between _ _ _ _ => .between
  | negation _ => .negation
  | all _ | any _ => .bracket

/-- The form of an expression by a bracket, a name and what follows the name. -/
def formAt : List Char → Form
  | '(' :: cs =>
    match cs.dropWhile isNameChar with
    | ' ' :: '>' :: _ => .between
    | _ => .bracket
  | cs =>
    match cs.dropWhile isNameChar with
    | ' ' :: '(' :: _ => .negation
    | _ => .isIn

theorem dropWhile_name {n : String} (h : IsName n) (s : List Char) :
    (n.toList ++ ' ' :: s).dropWhile isNameChar = ' ' :: s := by
  obtain ⟨c, cs, hc, _, hn⟩ := h
  rw [← hc] at hn
  rw [List.dropWhile_append_of_pos hn]
  rfl

theorem isIn_append (name : String) (literals : List Literal) (s : List Char) :
    (isIn name literals).chars ++ s = name.toList ++ ' ' :: 'i' :: 'n' :: ' ' :: '[' ::
      (joined ", ".toList (literals.map Literal.chars) ++ ']' :: s) := by
  simp [chars]

theorem between_append (lowName : String) (low : Literal) (highName : String) (high : Literal)
    (s : List Char) :
    (between lowName low highName high).chars ++ s = '(' :: (lowName.toList ++ ' ' :: '>' :: '=' ::
      ' ' :: (low.chars ++ ' ' :: 'a' :: 'n' :: 'd' :: ' ' :: (highName.toList ++ ' ' :: '<' ::
        '=' :: ' ' :: (high.chars ++ ')' :: s)))) := by
  simp [chars]

theorem negation_append (e : Expression) (s : List Char) :
    (negation e).chars ++ s = "not (".toList ++ (e.chars ++ ')' :: s) := by
  simp [chars]

theorem all_append (es : List Expression) (s : List Char) :
    (all es).chars ++ s = '(' :: (joined " and ".toList (es.map chars) ++ ')' :: s) := by
  simp [chars, charsOfEach_eq]

theorem any_append (es : List Expression) (s : List Char) :
    (any es).chars ++ s = '(' :: (joined " or ".toList (es.map chars) ++ ')' :: s) := by
  simp [chars, charsOfEach_eq]

/-- No expression begins with a name and a bound on it. -/
theorem dropWhile_chars_ne {e : Expression} (h : e.Proper) (s s' : List Char) :
    (e.chars ++ s).dropWhile isNameChar ≠ ' ' :: '>' :: s' := by
  intro heq
  cases e with
  | isIn name literals =>
      rw [isIn_append, dropWhile_name h.1] at heq
      cases heq
  | between lowName low highName high => rw [between_append] at heq; cases heq
  | negation e => rw [negation_append] at heq; cases heq
  | all es => rw [all_append] at heq; cases heq
  | any es => rw [any_append] at heq; cases heq

theorem formAt_name {n : String} (h : IsName n) (s : List Char) :
    formAt (n.toList ++ ' ' :: 'i' :: s) = .isIn := by
  obtain ⟨c, cs, hc, _, hn⟩ := id h
  unfold formAt
  split
  next heq =>
    rw [hc] at heq
    have hp := hn c List.mem_cons_self
    rw [(List.cons.inj heq).1] at hp
    cases hp
  next =>
    rw [dropWhile_name h]
    rfl

theorem exists_operands {es : List Expression} (h : 2 ≤ es.length ∧ ProperEach es) :
    ∃ e₁ e₂ rest, es = e₁ :: e₂ :: rest ∧ ∀ e ∈ e₁ :: e₂ :: rest, e.Proper := by
  match es, h with
  | [], h => exact absurd h.1 (by decide)
  | [_], h => exact absurd h.1 (Nat.not_succ_le_self 1)
  | e₁ :: e₂ :: rest, h => exact ⟨e₁, e₂, rest, rfl, (properEach_iff _).1 h.2⟩

theorem formAt_bracket {es : List Expression} (h : 2 ≤ es.length ∧ ProperEach es)
    (sep s : List Char) :
    formAt ('(' :: (joined sep (es.map chars) ++ ')' :: s)) = .bracket := by
  obtain ⟨e₁, e₂, rest, rfl, hes⟩ := exists_operands h
  rw [List.map_cons, joined_cons, List.append_assoc, formAt]
  have h := hes e₁ List.mem_cons_self
  split
  next s' heq => exact absurd heq (dropWhile_chars_ne h _ s')
  next => rfl

theorem formAt_chars {e : Expression} (h : e.Proper) (s : List Char) :
    formAt (e.chars ++ s) = e.form := by
  cases e with
  | isIn name literals => rw [isIn_append, formAt_name h.1]; rfl
  | between lowName low highName high =>
      rw [between_append, formAt, dropWhile_name h.1]; rfl
  | negation e => rw [negation_append]; rfl
  | all es => rw [all_append, formAt_bracket h]; rfl
  | any es => rw [any_append, formAt_bracket h]; rfl

/-- Nothing else begins like the expression and all that follows it. -/
def Unique (e : Expression) : Prop :=
  e.Proper → ∀ e' s s', e'.Proper → e.chars ++ s = e'.chars ++ s' → e = e' ∧ s = s'

/-- Operands of one connective. -/
theorem operands_unique {d : Char} {sep : List Char} (hd : d ≠ ')') {es es' : List Expression}
    (ih : ∀ e ∈ es, e.Unique) (h : 2 ≤ es.length ∧ ProperEach es)
    (h' : 2 ≤ es'.length ∧ ProperEach es') {s s' : List Char}
    (heq : joined (d :: sep) (es.map chars) ++ ')' :: s =
      joined (d :: sep) (es'.map chars) ++ ')' :: s') : es = es' ∧ s = s' := by
  obtain ⟨e₁, e₂, rest, rfl, hes⟩ := exists_operands h
  obtain ⟨e₁', e₂', rest', rfl, hes'⟩ := exists_operands h'
  have hne (t t' : List Char) : d :: sep ++ t ≠ ')' :: t' := fun ht => hd (List.cons.inj ht).1
  exact @joined_unique _ chars (d :: sep) ')' (fun _ => True) (fun _ => trivial)
    (fun _ => trivial) hne _ _ _ _
    (fun a ha b hb t t' _ _ => ih a ha (hes a ha) b t t' (hes' b hb)) _ _ heq

/-- The two connectives differ after the first operand. -/
theorem operands_ne {es es' : List Expression} (ih : ∀ e ∈ es, e.Unique)
    (h : 2 ≤ es.length ∧ ProperEach es) (h' : 2 ≤ es'.length ∧ ProperEach es')
    {d d' : Char} (hd : d ≠ d') {sep sep' s s' : List Char} :
    joined (' ' :: d :: sep) (es.map chars) ++ s ≠
      joined (' ' :: d' :: sep') (es'.map chars) ++ s' := by
  obtain ⟨e₁, e₂, rest, rfl, hes⟩ := exists_operands h
  obtain ⟨e₁', e₂', rest', rfl, hes'⟩ := exists_operands h'
  intro heq
  simp only [List.map_cons, joined_cons, List.append_assoc] at heq
  obtain ⟨-, ht⟩ := ih e₁ List.mem_cons_self (hes e₁ List.mem_cons_self) e₁' _ _
    (hes' e₁' List.mem_cons_self) heq
  simp only [List.flatMap_cons, List.cons_append] at ht
  exact hd (List.cons.inj (List.cons.inj ht).2).1

theorem follows_space (s : List Char) : Literal.Follows (' ' :: s) := fun c hc => by
  cases hc; rfl

theorem follows_bracket (s : List Char) : Literal.Follows (')' :: s) := fun c hc => by
  cases hc; rfl

theorem unique (e : Expression) : e.Unique := by
  induction e using expressionInduction with
  | isIn name literals =>
      intro h e' s s' h' heq
      have hf := formAt_chars h' s'
      rw [← heq, formAt_chars h s] at hf
      cases e' with
      | isIn name' literals' =>
          rw [isIn_append, isIn_append] at heq
          obtain ⟨rfl, ht⟩ := name_unique h.1 h'.1 heq
          simp only [List.cons.injEq, true_and] at ht
          obtain ⟨rfl, rfl⟩ := literals_unique h.2 h'.2 ht
          exact ⟨rfl, rfl⟩
      | between _ _ _ _ | negation _ | all _ | any _ => cases hf
  | between n l n₁ l₁ =>
      intro h e' s s' h' heq
      have hf := formAt_chars h' s'
      rw [← heq, formAt_chars h s] at hf
      cases e' with
      | between n' l' n₁' l₁' =>
          rw [between_append, between_append] at heq
          obtain ⟨rfl, low⟩ := name_unique h.1 h'.1 (List.cons.inj heq).2
          simp only [List.cons.injEq, true_and] at low
          obtain ⟨rfl, upper⟩ :=
            Literal.chars_unique h.2.1 h'.2.1 (follows_space _) (follows_space _) low
          simp only [List.cons.injEq, true_and] at upper
          obtain ⟨rfl, high⟩ := name_unique h.2.2.1 h'.2.2.1 upper
          simp only [List.cons.injEq, true_and] at high
          obtain ⟨rfl, rest⟩ :=
            Literal.chars_unique h.2.2.2 h'.2.2.2 (follows_bracket _) (follows_bracket _) high
          exact ⟨rfl, (List.cons.inj rest).2⟩
      | isIn _ _ | negation _ | all _ | any _ => cases hf
  | negation e ih =>
      intro h e' s s' h' heq
      have hf := formAt_chars h' s'
      rw [← heq, formAt_chars h s] at hf
      cases e' with
      | negation e' =>
          rw [negation_append, negation_append] at heq
          obtain ⟨rfl, ht⟩ := ih h e' _ _ h' (List.append_cancel_left heq)
          exact ⟨rfl, (List.cons.inj ht).2⟩
      | isIn _ _ | between _ _ _ _ | all _ | any _ => cases hf
  | all es ih =>
      intro h e' s s' h' heq
      have hf := formAt_chars h' s'
      rw [← heq, formAt_chars h s] at hf
      rw [all_append] at heq
      cases e' with
      | all es' =>
          rw [all_append] at heq
          obtain ⟨rfl, rfl⟩ := operands_unique (by decide) ih h h' (List.cons.inj heq).2
          exact ⟨rfl, rfl⟩
      | any es' =>
          rw [any_append] at heq
          exact absurd (List.cons.inj heq).2 (operands_ne ih h h' (by decide))
      | isIn _ _ | between _ _ _ _ | negation _ => cases hf
  | any es ih =>
      intro h e' s s' h' heq
      have hf := formAt_chars h' s'
      rw [← heq, formAt_chars h s] at hf
      rw [any_append] at heq
      cases e' with
      | any es' =>
          rw [any_append] at heq
          obtain ⟨rfl, rfl⟩ := operands_unique (by decide) ih h h' (List.cons.inj heq).2
          exact ⟨rfl, rfl⟩
      | all es' =>
          rw [all_append] at heq
          exact absurd (List.cons.inj heq).2 (operands_ne ih h h' (by decide))
      | isIn _ _ | between _ _ _ _ | negation _ => cases hf

/-- A text has at most one reading. -/
theorem Reads.unique {e e' : Expression} {text : List Char} (h : e.Reads text)
    (h' : e'.Reads text) : e = e' :=
  (e.unique h.1 e' [] [] h'.1 (congrArg (· ++ []) (h.2.trans h'.2.symm))).1

end Expression
end FilmIndex
