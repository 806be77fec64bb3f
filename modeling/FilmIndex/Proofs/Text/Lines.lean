import FilmIndex.Text.Lines
import FilmIndex.Text.Pieces
import Mathlib.Data.List.Basic

/-!
Texts written line by line. With one line break throughout, whichever it is, the lines are
found again; a last line without its break is found unless it is empty. Whatever breaks stand
in a text, there is one way to cut it into lines that leaves no carriage return and line feed
apart which stand together.
-/

namespace FilmIndex
namespace Text

inductive LineBreak where
  | lineFeed
  | carriageReturn
  | both

def LineBreak.chars : LineBreak → List Char
  | lineFeed => ['\n']
  | carriageReturn => ['\r']
  | both => ['\r', '\n']

/-- Whether the break leaves open that a line feed follows and belongs to it. -/
def LineBreak.isReturn : LineBreak → Bool
  | carriageReturn => true
  | _ => false

/-- No line break stands in the line. -/
def Unbroken (line : List Char) : Prop := ∀ c ∈ line, isBreak c = false

instance : DecidablePred Unbroken := fun line =>
  decidable_of_iff (line.all (!isBreak ·) = true) (by simp [Unbroken])

theorem linesFrom_append {l : List Char} (h : Unbroken l) (line rest : List Char) (after : Bool) :
    linesFrom line after (l ++ rest) = linesFrom (l.reverse ++ line) (after && l.isEmpty) rest := by
  induction l generalizing line after with
  | nil => simp
  | cons c l ih =>
      obtain ⟨hc, hl⟩ := List.forall_mem_cons.1 h
      rw [isBreak, Bool.or_eq_false_iff, beq_eq_false_iff_ne, beq_eq_false_iff_ne] at hc
      rw [List.cons_append, linesFrom, if_neg hc.1, if_neg hc.2, ih hl]
      simp

theorem linesFrom_break (brk : LineBreak) (line rest : List Char) {after : Bool}
    (h : after = true → brk.isReturn = true) :
    linesFrom line after (brk.chars ++ rest) =
      line.reverse :: linesFrom [] brk.isReturn rest := by
  cases brk with
  | lineFeed =>
      have hfalse : after = false := by
        rw [← Bool.not_eq_true]
        intro ha
        cases h ha
      rw [hfalse]
      rfl
  | carriageReturn | both => rfl

theorem linesFrom_nil {l : List Char} (h : Unbroken l) (after : Bool) :
    linesFrom [] after l = if l.isEmpty then [] else [l] := by
  have hend := linesFrom_append h [] [] after
  rw [List.append_nil, List.append_nil] at hend
  rw [hend, linesFrom, List.isEmpty_reverse, List.reverse_reverse]

theorem linesFrom_ended (brk : LineBreak) {ls : List (List Char)} (h : ∀ l ∈ ls, Unbroken l)
    {last : List Char} (hlast : Unbroken last) (after : Bool)
    (hafter : after = true → brk.isReturn = true) :
    linesFrom [] after (ls.flatMap (· ++ brk.chars) ++ last) =
      ls ++ if last.isEmpty then [] else [last] := by
  induction ls generalizing after with
  | nil => exact linesFrom_nil hlast after
  | cons l ls ih =>
      obtain ⟨hl, hls⟩ := List.forall_mem_cons.1 h
      have hbreak : (after && l.isEmpty) = true → brk.isReturn = true := by
        intro ha
        rw [Bool.and_eq_true] at ha
        exact hafter ha.1
      rw [List.flatMap_cons, List.append_assoc, List.append_assoc, linesFrom_append hl,
        linesFrom_break brk _ _ hbreak, ih hls brk.isReturn id, List.append_nil,
        List.reverse_reverse, List.cons_append]

/-- A text of lines with one line break throughout, also after the last one or not. -/
def written (brk : LineBreak) (ended : Bool) (ls : List (List Char)) : List Char :=
  if ended then ls.flatMap (· ++ brk.chars) else joined brk.chars ls

/-- The lines are found again; an empty last line without its break is none. -/
theorem lines_written (brk : LineBreak) (ended : Bool) {ls : List (List Char)}
    (h : ∀ l ∈ ls, Unbroken l) :
    lines (written brk ended ls) = ls ∨ ls = lines (written brk ended ls) ++ [[]] := by
  have hnil : Unbroken [] := nofun
  cases ended with
  | true =>
      have hlines := linesFrom_ended brk h hnil false nofun
      rw [List.append_nil] at hlines
      exact .inl (hlines.trans (List.append_nil ls))
  | false =>
      rcases List.eq_nil_or_concat ls with rfl | ⟨init, last, rfl⟩
      · exact .inl rfl
      · rw [List.concat_eq_append] at h ⊢
        rw [List.forall_mem_append, List.forall_mem_singleton] at h
        have hlines := linesFrom_ended brk h.1 h.2 false nofun
        rw [← joined_concat] at hlines
        change lines (written brk false (init ++ [last])) = _ at hlines
        rw [hlines]
        cases last with
        | nil => exact .inr (by simp)
        | cons c last => exact .inl rfl

theorem Unbroken.reverse {line : List Char} (h : Unbroken line) : Unbroken line.reverse :=
  fun c hc => h c (List.mem_reverse.1 hc)

theorem unbroken_of_mem_linesFrom {line cs l : List Char} {after : Bool} (h : Unbroken line)
    (hl : l ∈ linesFrom line after cs) : Unbroken l := by
  have empty : Unbroken [] := List.forall_mem_nil _
  induction cs generalizing line after with
  | nil =>
      rw [linesFrom] at hl
      split at hl
      · cases hl
      · exact List.mem_singleton.1 hl ▸ h.reverse
  | cons c cs ih =>
      rw [linesFrom] at hl
      split at hl
      · split at hl
        · exact ih empty hl
        · rcases List.mem_cons.1 hl with rfl | hl
          · exact h.reverse
          · exact ih empty hl
      · split at hl
        · rcases List.mem_cons.1 hl with rfl | hl
          · exact h.reverse
          · exact ih empty hl
        · exact ih (List.forall_mem_cons.2 ⟨by simp [isBreak, *], h⟩) hl

theorem unbroken_of_mem_lines {cs l : List Char} (h : l ∈ lines cs) : Unbroken l :=
  unbroken_of_mem_linesFrom (List.forall_mem_nil _) h

/-- A text cut into lines, each ended by a break of its own but the last one, which may also end
with the text. A carriage return and the line feed after it are one break. -/
inductive Cut : List Char → List (List Char) → Prop
  | nil : Cut [] []
  | last {l : List Char} (nonempty : l ≠ []) (unbroken : Unbroken l) : Cut l [l]
  | line {l cs : List Char} {ls : List (List Char)} (unbroken : Unbroken l) (brk : LineBreak)
      (whole : brk = .carriageReturn → cs.head? ≠ some '\n') (rest : Cut cs ls) :
      Cut (l ++ (brk.chars ++ cs)) (l :: ls)

/-- What is left to read after a carriage return, if there was one. -/
def afterReturn (after : Bool) (cs : List Char) : List Char :=
  if after = true ∧ cs.head? = some '\n' then cs.tail else cs

theorem linesFrom_afterReturn (after : Bool) (cs : List Char) :
    linesFrom [] after cs = lines (afterReturn after cs) := by
  rw [afterReturn]
  split
  next h =>
    obtain ⟨rfl, hhead⟩ := h
    cases cs with
    | nil => cases hhead
    | cons c cs =>
        cases hhead
        rfl
  next h =>
    cases after with
    | false => rfl
    | true =>
        cases cs with
        | nil => rfl
        | cons c cs =>
            have hc : c ≠ '\n' := fun hc => h ⟨rfl, congrArg some hc⟩
            rw [lines, linesFrom, linesFrom, if_neg hc, if_neg hc]

theorem Cut.lines_eq {cs : List Char} {ls : List (List Char)} (h : Cut cs ls) : lines cs = ls := by
  induction h with
  | nil => rfl
  | last nonempty unbroken =>
      rw [lines, linesFrom_nil unbroken, if_neg (mt List.isEmpty_iff.1 nonempty)]
  | @line l cs ls unbroken brk whole rest ih =>
      have apart : afterReturn brk.isReturn cs = cs := by
        refine if_neg fun h => ?_
        cases brk with
        | carriageReturn => exact whole rfl h.2
        | lineFeed | both => cases h.1
      have ended := @linesFrom_break brk (l.reverse ++ []) cs false nofun
      rw [lines, linesFrom_append unbroken, Bool.false_and, ended, linesFrom_afterReturn, apart, ih,
        List.append_nil, List.reverse_reverse]

theorem Cut.unbroken {cs : List Char} {ls : List (List Char)} (h : Cut cs ls) :
    ∀ l ∈ ls, Unbroken l := by
  rw [← h.lines_eq]
  exact fun l hl => unbroken_of_mem_lines hl

end Text
end FilmIndex
