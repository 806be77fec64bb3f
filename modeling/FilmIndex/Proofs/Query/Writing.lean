import FilmIndex.Proofs.Number.Numeral
import FilmIndex.Proofs.Query.Expression
import FilmIndex.Query.Clause
import Mathlib.Data.List.Forall2

/-!
What the text of a condition says. An expression says a condition when it has the same
shape, the same fields and literals of the same values. The text of a condition over
names, numbers, truth values and texts has a reading that says the condition exactly
when no backslash stands in its texts: a reading that says it cannot be shorter than
what is written, and each backslash would make it longer.
-/

namespace FilmIndex
open Number Text

namespace Value

/-- The kinds of values that literals stand for. -/
def IsLiteral : Value → Prop
  | .int _ | .bool _ | .text _ => True
  | _ => False

/-- No backslash stands in the value, should it be a text. -/
def Unslashed : Value → Prop
  | .text s => '\\' ∉ s.toList
  | _ => True

end Value

namespace Filter

def field : Filter → String
  | isIn field _ => field
  | between field _ _ => field

def values : Filter → List Value
  | isIn _ values => values
  | between _ low high => [low, high]

/-- The field has a name, and the values are numbers, truth values or texts. -/
def Simple (f : Filter) : Prop := IsName f.field ∧ ∀ v ∈ f.values, v.IsLiteral

def Unslashed (f : Filter) : Prop := ∀ v ∈ f.values, v.Unslashed

end Filter

namespace Condition

mutual

/-- The tests of a condition in reading order. -/
def filters : Condition → List Filter
  | test f => [f]
  | all cs => filtersOfEach cs
  | any cs => filtersOfEach cs
  | negation c => filters c

def filtersOfEach : List Condition → List Filter
  | [] => []
  | c :: cs => filters c ++ filtersOfEach cs

end

theorem filtersOfEach_eq (cs : List Condition) : filtersOfEach cs = cs.flatMap filters := by
  induction cs with
  | nil => rfl
  | cons c cs ih => rw [filtersOfEach, ih, List.flatMap_cons]

mutual

/-- What is taken together are at least two conditions. -/
def Grouped : Condition → Prop
  | test _ => True
  | all cs => 2 ≤ cs.length ∧ GroupedEach cs
  | any cs => 2 ≤ cs.length ∧ GroupedEach cs
  | negation c => Grouped c

def GroupedEach : List Condition → Prop
  | [] => True
  | c :: cs => Grouped c ∧ GroupedEach cs

end

theorem groupedEach_iff (cs : List Condition) : GroupedEach cs ↔ ∀ c ∈ cs, c.Grouped := by
  induction cs with
  | nil => simp [GroupedEach]
  | cons c cs ih => rw [GroupedEach, ih, List.forall_mem_cons]

end Condition

namespace Expression

mutual

/-- The expression says what the condition asks. -/
def Says : Expression → Condition → Prop
  | isIn name literals, .test (.isIn field values) =>
    name = field ∧ literals.map Literal.value = values
  | between lowName low highName high, .test (.between field low' high') =>
    (lowName = field ∧ low.value = low') ∧ highName = field ∧ high.value = high'
  | negation e, .negation c => Says e c
  | all es, .all cs => SaysEach es cs
  | any es, .any cs => SaysEach es cs
  | _, _ => False

def SaysEach : List Expression → List Condition → Prop
  | [], [] => True
  | e :: es, c :: cs => Says e c ∧ SaysEach es cs
  | _, _ => False

end

namespace Says

variable {c : Condition}

theorem isIn_eq {name : String} {literals : List Literal} (h : (isIn name literals).Says c) :
    c = .test (.isIn name (literals.map Literal.value)) := by
  cases c with
  | test f =>
      cases f with
      | isIn field values =>
          obtain ⟨rfl, rfl⟩ := h
          rfl
      | between _ _ _ => cases h
  | all _ | any _ | negation _ => cases h

theorem between_eq {lowName highName : String} {low high : Literal}
    (h : (between lowName low highName high).Says c) :
    lowName = highName ∧ c = .test (.between lowName low.value high.value) := by
  cases c with
  | test f =>
      cases f with
      | isIn _ _ => cases h
      | between field low' high' =>
          obtain ⟨⟨rfl, rfl⟩, rfl, rfl⟩ := h
          exact ⟨rfl, rfl⟩
  | all _ | any _ | negation _ => cases h

theorem negation_eq {e : Expression} (h : (negation e).Says c) :
    ∃ c', c = .negation c' ∧ e.Says c' := by
  cases c with
  | negation c' => exact ⟨c', rfl, h⟩
  | test f => cases f <;> cases h
  | all _ | any _ => cases h

theorem all_eq {es : List Expression} (h : (all es).Says c) :
    ∃ cs, c = .all cs ∧ SaysEach es cs := by
  cases c with
  | all cs => exact ⟨cs, rfl, h⟩
  | test f => cases f <;> cases h
  | any _ | negation _ => cases h

theorem any_eq {es : List Expression} (h : (any es).Says c) :
    ∃ cs, c = .any cs ∧ SaysEach es cs := by
  cases c with
  | any cs => exact ⟨cs, rfl, h⟩
  | test f => cases f <;> cases h
  | all _ | negation _ => cases h

end Says

end Expression

namespace Literal

/-- The literal that is written for a value. -/
def ofValue : Value → Literal
  | .int n => .int (decide (n < 0)) (natText n.natAbs)
  | .bool b => .truth b
  | .text s => .text (s.toList.flatMap Filter.quoteChar)
  | _ => .truth false

theorem literal_int (n : Int) :
    Filter.literal (.int n) = (if n < 0 then ['-'] else []) ++ natText n.natAbs := by
  rw [← toList_intText]
  rfl

theorem chars_ofValue {v : Value} (h : v.IsLiteral) : (ofValue v).chars = Filter.literal v := by
  cases v with
  | int n => simp [ofValue, chars, literal_int]
  | bool b => rfl
  | text s => rfl
  | null | float _ | list _ | record _ => cases h

theorem proper_ofValue {v : Value} (h : v.IsLiteral) (hu : v.Unslashed) :
    (ofValue v).Proper ∧ (ofValue v).value = v := by
  cases v with
  | int n =>
      refine ⟨⟨Nat.toDigits_ne_nil, fun c => isDigit_of_mem_natText⟩, ?_⟩
      rw [ofValue, value, natText, Nat.ofDigitChars_ten_toDigits, withSign_natAbs]
  | bool b => exact ⟨trivial, rfl⟩
  | text s =>
      obtain ⟨hb, hv⟩ := TextLiteral.isBody_flatMap_quoteChar hu
      refine ⟨hb, ?_⟩
      rw [ofValue, value, hv, String.ofList_toList]
  | null | float _ | list _ | record _ => cases h

theorem map_chars_ofValue {vs : List Value} (h : ∀ v ∈ vs, v.IsLiteral) :
    (vs.map ofValue).map chars = vs.map Filter.literal := by
  rw [List.map_map]
  exact List.map_congr_left fun v hv => chars_ofValue (h v hv)

theorem forall_proper_ofValue {vs : List Value} (h : ∀ v ∈ vs, v.IsLiteral)
    (hu : ∀ v ∈ vs, v.Unslashed) : ∀ l ∈ vs.map ofValue, l.Proper :=
  List.forall_mem_map.2 fun v hv => (proper_ofValue (h v hv) (hu v hv)).1

theorem map_value_ofValue {vs : List Value} (h : ∀ v ∈ vs, v.IsLiteral)
    (hu : ∀ v ∈ vs, v.Unslashed) : (vs.map ofValue).map value = vs := by
  rw [List.map_map]
  exact (List.map_congr_left fun v hv => (proper_ofValue (h v hv) (hu v hv)).2).trans
    (List.map_id vs)

end Literal

/-- One length is at most another, and reaches it only under a condition. -/
def Tight (a b : Nat) (p : Prop) : Prop := a ≤ b ∧ (b ≤ a → p)

namespace Tight

theorem add {a b c d : Nat} {p q : Prop} (h : Tight a b p) (k : Tight c d q) :
    Tight (a + c) (b + d) (p ∧ q) :=
  ⟨Nat.add_le_add h.1 k.1, fun hl => ⟨h.2 (by have := k.1; omega), k.2 (by have := h.1; omega)⟩⟩

theorem shift {a b : Nat} {p : Prop} (n : Nat) (h : Tight a b p) : Tight (n + a) (n + b) p :=
  ⟨Nat.add_le_add_left h.1 n, fun hl => h.2 (by omega)⟩

theorem imp {a b : Nat} {p q : Prop} (h : Tight a b p) (hpq : p → q) : Tight a b q :=
  ⟨h.1, fun hl => hpq (h.2 hl)⟩

theorem surround {y z : List Char} {p : Prop} (pre post : List Char)
    (h : Tight y.length z.length p) :
    Tight (pre ++ y ++ post).length (pre ++ z ++ post).length p := by
  simp only [List.length_append, Nat.add_comm _ post.length]
  exact (h.shift pre.length).shift post.length

theorem append {y z y' z' : List Char} {p q : Prop} (h : Tight y.length z.length p)
    (k : Tight y'.length z'.length q) : Tight (y ++ y').length (z ++ z').length (p ∧ q) := by
  simp only [List.length_append]
  exact h.add k

section Lists

variable {α β : Type} {y : α → List Char} {z : β → List Char} {p : α → Prop}

theorem flatMap (sep : List Char) {xs : List α} {ys : List β}
    (h : List.Forall₂ (fun a b => Tight (y a).length (z b).length (p a)) xs ys) :
    Tight ((xs.map y).flatMap (sep ++ ·)).length ((ys.map z).flatMap (sep ++ ·)).length
      (∀ a ∈ xs, p a) := by
  induction h with
  | nil => exact ⟨Nat.le_refl 0, fun _ => List.forall_mem_nil p⟩
  | cons hab _ ih =>
      simp only [List.map_cons, List.flatMap_cons, List.length_append]
      exact ((hab.shift sep.length).add ih).imp List.forall_mem_cons.2

theorem joined (sep : List Char) {xs : List α} {ys : List β}
    (h : List.Forall₂ (fun a b => Tight (y a).length (z b).length (p a)) xs ys) :
    Tight (Text.joined sep (xs.map y)).length (Text.joined sep (ys.map z)).length
      (∀ a ∈ xs, p a) := by
  cases h with
  | nil => exact ⟨Nat.le_refl 0, fun _ => List.forall_mem_nil p⟩
  | cons hab hrest =>
      simp only [List.map_cons, joined_cons, List.length_append]
      exact (hab.add (flatMap sep hrest)).imp List.forall_mem_cons.2

end Lists
end Tight

/-- A literal of the value is at least as long as the one that is written, and longer
if the value has a backslash. -/
theorem Literal.tight {l : Literal} (h : l.Proper) :
    Tight (Filter.literal l.value).length l.chars.length l.value.Unslashed := by
  cases l with
  | int negative digits =>
      refine ⟨?_, fun _ => trivial⟩
      have hl := length_natText_le h.1 h.2
      rw [Literal.value, Literal.literal_int, natAbs_withSign, List.length_append, Literal.chars,
        List.length_append]
      refine Nat.add_le_add ?_ hl
      cases negative with
      | true => split <;> simp
      | false => simp [withSign]
  | truth b => exact ⟨Nat.le_refl _, fun _ => trivial⟩
  | text body =>
      have hl := TextLiteral.length_add_count_le h
      have hv : (Filter.literal (Literal.text body).value).length =
          (TextLiteral.unescaped body).length + (TextLiteral.unescaped body).count '"' + 2 := by
        rw [Literal.value, Filter.literal, String.toList_ofList, Filter.textLiteral,
          List.length_cons, List.length_append, TextLiteral.length_flatMap_quoteChar]
        rfl
      have hc : (Literal.text body).chars.length = body.length + 2 := by
        simp [Literal.chars]
      rw [hv, hc]
      refine ⟨by omega, fun hle => ?_⟩
      rw [Literal.value, Value.Unslashed, String.toList_ofList, ← List.count_eq_zero]
      omega

namespace Condition

/-- Names, numbers, truth values and texts only, and no connective alone. -/
structure Simple (c : Condition) : Prop where
  grouped : c.Grouped
  filters : ∀ f ∈ c.filters, f.Simple

def Unslashed (c : Condition) : Prop := ∀ f ∈ c.filters, f.Unslashed

theorem unslashed_operands (cs : List Condition) :
    (∀ f ∈ filtersOfEach cs, f.Unslashed) ↔ ∀ c ∈ cs, c.Unslashed := by
  rw [filtersOfEach_eq, List.forall_mem_flatMap]
  rfl

theorem simple_operands {cs : List Condition} (hg : GroupedEach cs)
    (hf : ∀ f ∈ filtersOfEach cs, f.Simple) : ∀ c ∈ cs, c.Simple := by
  rw [groupedEach_iff] at hg
  rw [filtersOfEach_eq, List.forall_mem_flatMap] at hf
  exact fun c hc => ⟨hg c hc, hf c hc⟩

end Condition

namespace Expression

theorem saysEach_iff (es : List Expression) (cs : List Condition) :
    SaysEach es cs ↔ List.Forall₂ Says es cs := by
  induction es generalizing cs with
  | nil =>
      cases cs with
      | nil => exact ⟨fun _ => .nil, fun _ => trivial⟩
      | cons c cs => exact ⟨False.elim, nofun⟩
  | cons e es ih =>
      cases cs with
      | nil => exact ⟨False.elim, nofun⟩
      | cons c cs => rw [SaysEach, ih, List.forall₂_cons]

theorem tight_operands {es : List Expression} {cs : List Condition} (sep : List Char)
    (ih : ∀ e ∈ es, e.Proper → ∀ c, e.Says c → Tight c.chars.length e.chars.length c.Unslashed)
    (h : ProperEach es) (hc : SaysEach es cs) :
    Tight (joined sep (cs.map Condition.chars)).length (joined sep (es.map chars)).length
      (∀ c ∈ cs, c.Unslashed) := by
  refine Tight.joined sep ?_
  rw [saysEach_iff] at hc
  rw [properEach_iff] at h
  induction hc with
  | nil => exact .nil
  | @cons e c es cs hec _ iht =>
      rw [List.forall_mem_cons] at ih h
      exact .cons (ih.1 h.1 c hec) (iht ih.2 h.2)

theorem tight_literals {ls : List Literal} (h : ∀ l ∈ ls, l.Proper) :
    Tight (joined ", ".toList ((ls.map Literal.value).map Filter.literal)).length
      (joined ", ".toList (ls.map Literal.chars)).length
      (∀ v ∈ ls.map Literal.value, v.Unslashed) := by
  refine Tight.joined ", ".toList ?_
  induction ls with
  | nil => exact .nil
  | cons l ls ih =>
      rw [List.forall_mem_cons] at h
      exact .cons (Literal.tight h.1) (ih h.2)

theorem tight_isIn (name : String) {ls : List Literal} (h : ∀ l ∈ ls, l.Proper) :
    Tight (Filter.isIn name (ls.map Literal.value)).chars.length (isIn name ls).chars.length
      (Filter.isIn name (ls.map Literal.value)).Unslashed :=
  (tight_literals h).surround (name.toList ++ " in [".toList) [']']

theorem tight_between (name : String) {low high : Literal} (h : low.Proper) (h' : high.Proper) :
    Tight (Filter.between name low.value high.value).chars.length
      (between name low name high).chars.length
      (Filter.between name low.value high.value).Unslashed := by
  have hlow := (Literal.tight h).surround ('(' :: (name.toList ++ " >= ".toList))
    (" and ".toList ++ name.toList ++ " <= ".toList)
  have hhigh := (Literal.tight h').surround [] [')']
  have hb := hlow.append hhigh
  simp only [List.cons_append, List.nil_append, List.append_assoc] at hb
  simp only [Filter.chars, chars, List.append_assoc]
  refine hb.imp ?_
  rintro ⟨hlow, hhigh⟩ v hv
  rcases List.mem_cons.1 hv with rfl | hv
  · exact hlow
  · rw [List.mem_singleton.1 hv]
    exact hhigh

/-- A reading that says a condition is no shorter than its text. -/
theorem tight (e : Expression) (h : e.Proper) (c : Condition) (hc : e.Says c) :
    Tight c.chars.length e.chars.length c.Unslashed := by
  induction e using expressionInduction generalizing c with
  | isIn name literals =>
      obtain rfl := hc.isIn_eq
      exact (tight_isIn name h.2).imp fun hu => List.forall_mem_singleton.2 hu
  | between lowName low highName high =>
      obtain ⟨rfl, rfl⟩ := hc.between_eq
      exact (tight_between lowName h.2.1 h.2.2.2).imp fun hu => List.forall_mem_singleton.2 hu
  | negation e ih =>
      obtain ⟨c, rfl, hc⟩ := hc.negation_eq
      exact (ih h c hc).surround "not (".toList [')']
  | all es ih =>
      obtain ⟨cs, rfl, hc⟩ := hc.all_eq
      rw [Condition.chars, chars, Condition.charsOfEach_eq, charsOfEach_eq]
      have ho := (tight_operands " and ".toList ih h.2 hc).surround ['('] [')']
      exact ho.imp (Condition.unslashed_operands cs).2
  | any es ih =>
      obtain ⟨cs, rfl, hc⟩ := hc.any_eq
      rw [Condition.chars, chars, Condition.charsOfEach_eq, charsOfEach_eq]
      have ho := (tight_operands " or ".toList ih h.2 hc).surround ['('] [')']
      exact ho.imp (Condition.unslashed_operands cs).2

mutual

/-- The expression that the text of a condition is meant to be read as. -/
def ofCondition : Condition → Expression
  | .test (.isIn field values) => isIn field (values.map Literal.ofValue)
  | .test (.between field low high) =>
    between field (Literal.ofValue low) field (Literal.ofValue high)
  | .all cs => all (ofEach cs)
  | .any cs => any (ofEach cs)
  | .negation c => negation (ofCondition c)

def ofEach : List Condition → List Expression
  | [] => []
  | c :: cs => ofCondition c :: ofEach cs

end

theorem ofEach_eq (cs : List Condition) : ofEach cs = cs.map ofCondition := by
  induction cs with
  | nil => rfl
  | cons c cs ih => rw [ofEach, ih, List.map_cons]

theorem map_chars_ofEach {cs : List Condition}
    (h : ∀ c ∈ cs, (ofCondition c).chars = c.chars) :
    (ofEach cs).map chars = cs.map Condition.chars := by
  rw [ofEach_eq, List.map_map]
  exact List.map_congr_left h

theorem saysEach_ofEach {cs : List Condition} (h : ∀ c ∈ cs, (ofCondition c).Says c) :
    SaysEach (ofEach cs) cs := by
  rw [saysEach_iff, ofEach_eq, List.forall₂_map_left_iff, List.forall₂_same]
  exact h

theorem chars_ofCondition (c : Condition) (h : c.Simple) : (ofCondition c).chars = c.chars := by
  induction c using Condition.conditionInduction with
  | test f =>
      have hf := (h.filters f (List.mem_singleton.2 rfl)).2
      cases f with
      | isIn field values =>
          have hl : (values.map Literal.ofValue).map Literal.chars = values.map Filter.literal :=
            Literal.map_chars_ofValue hf
          rw [ofCondition, chars, hl]
          rfl
      | between field low high =>
          rw [ofCondition, chars, Condition.chars, Filter.chars,
            Literal.chars_ofValue (hf low List.mem_cons_self),
            Literal.chars_ofValue (hf high (List.mem_cons_of_mem low List.mem_cons_self))]
  | all cs ih | any cs ih =>
      have hs := Condition.simple_operands h.grouped.2 h.filters
      rw [ofCondition, chars, Condition.chars, charsOfEach_eq, Condition.charsOfEach_eq,
        map_chars_ofEach fun c hc => ih c hc (hs c hc)]
  | negation c ih =>
      rw [ofCondition, chars, Condition.chars, ih ⟨h.grouped, h.filters⟩]

theorem proper_ofCondition (c : Condition) (h : c.Simple) (hu : c.Unslashed) :
    (ofCondition c).Proper := by
  induction c using Condition.conditionInduction with
  | test f =>
      obtain ⟨hn, hf⟩ := h.filters f (List.mem_singleton.2 rfl)
      have hp := Literal.forall_proper_ofValue hf (hu f (List.mem_singleton.2 rfl))
      cases f with
      | isIn field values => exact ⟨hn, hp⟩
      | between field low high =>
          exact ⟨hn, hp _ List.mem_cons_self, hn,
            hp _ (List.mem_cons_of_mem _ List.mem_cons_self)⟩
  | all cs ih | any cs ih =>
      have hs := Condition.simple_operands h.grouped.2 h.filters
      have hus := (Condition.unslashed_operands cs).1 hu
      rw [ofCondition, Proper, properEach_iff, ofEach_eq, List.length_map, List.forall_mem_map]
      exact ⟨h.grouped.1, fun c hc => ih c hc (hs c hc) (hus c hc)⟩
  | negation c ih => exact ih ⟨h.grouped, h.filters⟩ hu

theorem says_ofCondition (c : Condition) (h : c.Simple) (hu : c.Unslashed) :
    (ofCondition c).Says c := by
  induction c using Condition.conditionInduction with
  | test f =>
      have hv := Literal.map_value_ofValue (h.filters f (List.mem_singleton.2 rfl)).2
        (hu f (List.mem_singleton.2 rfl))
      cases f with
      | isIn field values => exact ⟨rfl, hv⟩
      | between field low high =>
          obtain ⟨hlow, hrest⟩ := List.cons.inj hv
          exact ⟨⟨rfl, hlow⟩, rfl, (List.cons.inj hrest).1⟩
  | all cs ih | any cs ih =>
      have hs := Condition.simple_operands h.grouped.2 h.filters
      have hus := (Condition.unslashed_operands cs).1 hu
      exact saysEach_ofEach fun c hc => ih c hc (hs c hc) (hus c hc)
  | negation c ih => exact ih ⟨h.grouped, h.filters⟩ hu

/-- The text of a condition is read as what it was written for when no text in it has
a backslash, and then only. -/
theorem says_iff (c : Condition) (h : c.Simple) :
    (∃ e : Expression, e.Reads c.chars ∧ e.Says c) ↔ c.Unslashed := by
  refine ⟨?_, fun hu => ?_⟩
  · rintro ⟨e, ⟨hp, hr⟩, hs⟩
    exact (tight e hp c hs).2 (Nat.le_of_eq (congrArg List.length hr))
  · exact ⟨ofCondition c, ⟨proper_ofCondition c h hu, chars_ofCondition c h⟩,
      says_ofCondition c h hu⟩

end Expression
end FilmIndex
