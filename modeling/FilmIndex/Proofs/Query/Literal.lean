import FilmIndex.Number.Reading
import FilmIndex.Proofs.Query.TextLiteral

/-!
Literals and lists of them as they stand in a text. Where a literal ends is known from
the text itself as long as what follows continues no number, so a text is cut into
literals in one way only.
-/

namespace FilmIndex
open Text

/-- A run of characters of one class ends where the class ends. -/
theorem append_unique {p : Char → Bool} {a b s s' : List Char} (ha : ∀ c ∈ a, p c = true)
    (hb : ∀ c ∈ b, p c = true) (hs : ∀ c ∈ s.head?, p c = false)
    (hs' : ∀ c ∈ s'.head?, p c = false) (h : a ++ s = b ++ s') : a = b ∧ s = s' := by
  have hn {t : List Char} (ht : ∀ c ∈ t.head?, p c = false) : t.takeWhile p = [] := by
    cases t with
    | nil => rfl
    | cons c t => rw [List.takeWhile_cons, ht c rfl]; rfl
  have hab : a = b := by
    have ht := congrArg (List.takeWhile p) h
    rwa [List.takeWhile_append_of_pos ha, List.takeWhile_append_of_pos hb, hn hs, hn hs',
      List.append_nil, List.append_nil] at ht
  exact ⟨hab, List.append_cancel_left (hab ▸ h)⟩

section Lists

variable {α : Type} {y : α → List Char} {sep : List Char} {stop : Char}
  {follows : List Char → Prop}

theorem follows_flatMap (hsep : ∀ s, follows (sep ++ s)) (hstop : ∀ s, follows (stop :: s))
    (xs : List α) (s : List Char) :
    follows ((xs.map y).flatMap (sep ++ ·) ++ stop :: s) := by
  cases xs with
  | nil => exact hstop s
  | cons x xs =>
      rw [List.map_cons, List.flatMap_cons, List.append_assoc, List.append_assoc]
      exact hsep _

/-- Items after separators, up to the character that stops them, are the same ones
when each item ends at the same place. -/
theorem flatMap_unique (hsep : ∀ s, follows (sep ++ s)) (hstop : ∀ s, follows (stop :: s))
    (hne : ∀ s s', sep ++ s ≠ stop :: s') (xs xs' : List α)
    (item : ∀ x ∈ xs, ∀ x' ∈ xs', ∀ s s', follows s → follows s' →
      y x ++ s = y x' ++ s' → x = x' ∧ s = s') {s s' : List Char}
    (h : (xs.map y).flatMap (sep ++ ·) ++ stop :: s =
      (xs'.map y).flatMap (sep ++ ·) ++ stop :: s') : xs = xs' ∧ s = s' := by
  induction xs generalizing xs' with
  | nil =>
      cases xs' with
      | nil => exact ⟨rfl, (List.cons.inj h).2⟩
      | cons x' xs' =>
          rw [List.map_cons, List.flatMap_cons, List.append_assoc, List.append_assoc] at h
          exact absurd h.symm (hne _ _)
  | cons x xs ih =>
      cases xs' with
      | nil =>
          rw [List.map_cons, List.flatMap_cons, List.append_assoc, List.append_assoc] at h
          exact absurd h (hne _ _)
      | cons x' xs' =>
          simp only [List.map_cons, List.flatMap_cons, List.append_assoc] at h
          obtain ⟨rfl, ht⟩ := item x List.mem_cons_self x' List.mem_cons_self _ _
            (follows_flatMap hsep hstop xs s) (follows_flatMap hsep hstop xs' s')
            (List.append_cancel_left h)
          obtain ⟨rfl, rfl⟩ := ih xs'
            (fun a ha b hb => item a (List.mem_cons_of_mem x ha) b (List.mem_cons_of_mem x hb)) ht
          exact ⟨rfl, rfl⟩

theorem joined_unique (hsep : ∀ s, follows (sep ++ s)) (hstop : ∀ s, follows (stop :: s))
    (hne : ∀ s s', sep ++ s ≠ stop :: s') {x x' : α} {xs xs' : List α}
    (item : ∀ a ∈ x :: xs, ∀ b ∈ x' :: xs', ∀ s s', follows s → follows s' →
      y a ++ s = y b ++ s' → a = b ∧ s = s') {s s' : List Char}
    (h : joined sep ((x :: xs).map y) ++ stop :: s =
      joined sep ((x' :: xs').map y) ++ stop :: s') : x :: xs = x' :: xs' ∧ s = s' := by
  simp only [List.map_cons, joined_cons, List.append_assoc] at h
  obtain ⟨rfl, ht⟩ := item x List.mem_cons_self x' List.mem_cons_self _ _
    (follows_flatMap hsep hstop xs s) (follows_flatMap hsep hstop xs' s') h
  obtain ⟨rfl, rfl⟩ := flatMap_unique hsep hstop hne xs xs'
    (fun a ha b hb => item a (List.mem_cons_of_mem x ha) b (List.mem_cons_of_mem x hb)) ht
  exact ⟨rfl, rfl⟩

end Lists

/-- A literal as it stands in a text. -/
inductive Literal where
  | int (negative : Bool) (digits : List Char)
  | truth (b : Bool)
  | text (body : List Char)

namespace Literal

def chars : Literal → List Char
  | int negative digits => (if negative then ['-'] else []) ++ digits
  | truth b => (if b then "true" else "false").toList
  | text body => '"' :: (body ++ ['"'])

def Proper : Literal → Prop
  | int _ digits => digits ≠ [] ∧ ∀ c ∈ digits, c.isDigit = true
  | truth _ => True
  | text body => TextLiteral.IsBody body

def value : Literal → Value
  | int negative digits => .int (Number.withSign negative (Nat.ofDigitChars 10 digits 0))
  | truth b => .bool b
  | text body => .text (String.ofList (TextLiteral.unescaped body))

def isNumeralChar (c : Char) : Bool := c == '-' || c.isDigit

/-- What stands after a literal continues no number. -/
def Follows (s : List Char) : Prop := ∀ c ∈ s.head?, isNumeralChar c = false

inductive Kind where
  | int
  | truth
  | text

def kind : Literal → Kind
  | int _ _ => .int
  | truth _ => .truth
  | text _ => .text

/-- The kind of a literal by its first character. -/
def kindAt : List Char → Kind
  | '"' :: _ => .text
  | 't' :: _ | 'f' :: _ => .truth
  | _ => .int

theorem isNumeralChar_of_mem {negative : Bool} {digits : List Char}
    (h : (int negative digits).Proper) :
    ∀ c ∈ (int negative digits).chars, isNumeralChar c = true := by
  intro c hc
  rcases List.mem_append.1 hc with hc | hc
  · cases negative with
    | true => rw [List.mem_singleton.1 hc]; rfl
    | false => cases hc
  · rw [isNumeralChar, h.2 c hc, Bool.or_true]

theorem exists_int_chars {negative : Bool} {digits : List Char}
    (h : (int negative digits).Proper) :
    ∃ c cs, (int negative digits).chars = c :: cs ∧ isNumeralChar c = true := by
  have hne : (int negative digits).chars ≠ [] := List.append_ne_nil_of_right_ne_nil _ h.1
  obtain ⟨c, cs, hc⟩ := List.exists_cons_of_ne_nil hne
  exact ⟨c, cs, hc, isNumeralChar_of_mem h c (hc ▸ List.mem_cons_self)⟩

theorem kindAt_chars {l : Literal} (h : l.Proper) (s : List Char) :
    kindAt (l.chars ++ s) = l.kind := by
  cases l with
  | int negative digits =>
      obtain ⟨c, cs, hc, hn⟩ := exists_int_chars h
      rw [hc, List.cons_append]
      unfold kindAt
      split
      next heq => rw [(List.cons.inj heq).1] at hn; cases hn
      next heq => rw [(List.cons.inj heq).1] at hn; cases hn
      next heq => rw [(List.cons.inj heq).1] at hn; cases hn
      next => rfl
  | truth b => cases b <;> rfl
  | text body => rfl

theorem chars_append_ne {l : Literal} (h : l.Proper) (s s' : List Char) :
    l.chars ++ s ≠ ']' :: s' := by
  intro heq
  cases l with
  | int negative digits =>
      obtain ⟨c, cs, hc, hn⟩ := exists_int_chars h
      rw [hc, List.cons_append] at heq
      rw [(List.cons.inj heq).1] at hn
      cases hn
  | truth b => cases b <;> cases (List.cons.inj heq).1
  | text body => cases (List.cons.inj heq).1

theorem eq_of_int_chars {n n' : Bool} {ds ds' : List Char} (h : (int n ds).Proper)
    (h' : (int n' ds').Proper) (heq : (int n ds).chars = (int n' ds').chars) :
    int n ds = int n' ds' := by
  have minus {ds ds' : List Char} (hd : ∀ c ∈ ds, c.isDigit = true) : ds ≠ '-' :: ds' := by
    rintro rfl
    exact absurd (hd '-' List.mem_cons_self) (by decide)
  cases n with
  | true =>
      cases n' with
      | true => exact congrArg (int true) (List.cons.inj heq).2
      | false => exact absurd heq.symm (minus h'.2)
  | false =>
      cases n' with
      | true => exact absurd heq (minus h.2)
      | false => exact congrArg (int false) heq

theorem chars_unique {l l' : Literal} (h : l.Proper) (h' : l'.Proper) {s s' : List Char}
    (hs : Follows s) (hs' : Follows s') (heq : l.chars ++ s = l'.chars ++ s') :
    l = l' ∧ s = s' := by
  have hk : l.kind = l'.kind := by rw [← kindAt_chars h s, heq, kindAt_chars h' s']
  cases l with
  | int n ds =>
      cases l' with
      | int n' ds' =>
          obtain ⟨hds, rfl⟩ :=
            append_unique (isNumeralChar_of_mem h) (isNumeralChar_of_mem h') hs hs' heq
          exact ⟨eq_of_int_chars h h' hds, rfl⟩
      | truth _ | text _ => cases hk
  | truth b =>
      cases l' with
      | truth b' => cases b <;> cases b' <;> simp_all [chars]
      | int _ _ | text _ => cases hk
  | text body =>
      cases l' with
      | text body' =>
          simp only [chars, List.cons_append, List.append_assoc, List.nil_append] at heq
          have hr := TextLiteral.body?_append h s
          rw [(List.cons.inj heq).2, TextLiteral.body?_append h' s'] at hr
          cases hr
          exact ⟨rfl, rfl⟩
      | int _ _ | truth _ => cases hk

end Literal

/-- A list of literals up to the closing bracket. -/
theorem literals_unique {ls ls' : List Literal} (h : ∀ l ∈ ls, l.Proper)
    (h' : ∀ l ∈ ls', l.Proper) {s s' : List Char}
    (heq : joined ", ".toList (ls.map Literal.chars) ++ ']' :: s =
      joined ", ".toList (ls'.map Literal.chars) ++ ']' :: s') : ls = ls' ∧ s = s' := by
  have hsep (t : List Char) : Literal.Follows (", ".toList ++ t) := fun c hc => by
    cases hc; rfl
  have hstop (t : List Char) : Literal.Follows (']' :: t) := fun c hc => by cases hc; rfl
  have hne (t t' : List Char) : ", ".toList ++ t ≠ ']' :: t' := fun ht => by
    cases (List.cons.inj ht).1
  cases ls with
  | nil =>
      cases ls' with
      | nil => exact ⟨rfl, (List.cons.inj heq).2⟩
      | cons l' ls' =>
          rw [List.map_cons, joined_cons, List.append_assoc] at heq
          exact absurd heq.symm (Literal.chars_append_ne (h' l' List.mem_cons_self) _ _)
  | cons l ls =>
      cases ls' with
      | nil =>
          rw [List.map_cons, joined_cons, List.append_assoc] at heq
          exact absurd heq (Literal.chars_append_ne (h l List.mem_cons_self) _ _)
      | cons l' ls' =>
          exact joined_unique hsep hstop hne
            (fun a ha b hb _ _ hs hs' => Literal.chars_unique (h a ha) (h' b hb) hs hs') heq

end FilmIndex
