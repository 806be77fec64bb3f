import FilmIndex.Film.Catalog
import FilmIndex.Proofs.Film.Columns
import FilmIndex.Proofs.Text.Utf8
import Mathlib.Data.List.TakeWhile

/-!
Film files that are not written as they should be. A line holds a film or is malformed, and
the first malformed line of a file is where its reading ends. A file gives films if it can
be opened, is text, and has no malformed line; otherwise it gives none.
-/

namespace FilmIndex
open Text (Unbroken isBlank lines joined)

namespace Film
open Columns Number

/-- A line with the film that it holds: an id, a title that may have several columns, a year,
and an embedding, which begins at the first column after the third that opens a list. -/
inductive Holds (dim : Int) (line : List Char) (f : Film) : Prop
  | intro {idText yearText first : List Char} {title rest : List (List Char)} (fits : Fits line)
      (columns : parts line = (idText :: (title ++ [yearText])) ++ first :: rest)
      (titled : title ≠ [])
      (before : ∀ c ∈ (title ++ [yearText]).drop 2, opensList c = false)
      (opens : opensList first = true)
      (id : integerChars? idText = some f.id)
      (name : f.title = String.ofList (joined [','] title))
      (year : integerChars? yearText = some f.releaseYear)
      (embedding : Embedding.parseChars dim (joined [','] (first :: rest)) = .ok f.embedding)

theorem splitAtEmbedding?_eq_some_iff (columns before list : List (List Char)) :
    splitAtEmbedding? columns = some (before, list) ↔
      columns = before ++ list ∧ 3 ≤ before.length ∧ (∀ c ∈ before.drop 3, opensList c = false) ∧
        ∃ first rest, list = first :: rest ∧ opensList first = true := by
  constructor
  · intro h
    rw [splitAtEmbedding?] at h
    split at h
    · cases h
    rename_i nonempty
    obtain ⟨rfl, rfl⟩ := Prod.mk.inj (Option.some.inj h)
    have cut := List.takeWhile_append_dropWhile (p := fun c => !opensList c) (l := columns.drop 3)
    obtain ⟨first, rest, hlist⟩ := List.exists_cons_of_ne_nil (mt List.isEmpty_iff.2 nonempty)
    have opens := List.head?_dropWhile_not (fun c => !opensList c) (columns.drop 3)
    rw [hlist, List.head?_cons] at opens
    have three : (columns.take 3).length = 3 := by
      have long : columns.drop 3 ≠ [] := by
        intro none
        rw [none] at hlist
        cases hlist
      rw [ne_eq, List.drop_eq_nil_iff] at long
      rw [List.length_take]
      omega
    refine ⟨?_, by simp [three], ?_, first, rest, hlist, by simpa using opens⟩
    · rw [List.append_assoc, cut, List.take_append_drop]
    · intro c hc
      rw [List.drop_append_of_le_length (Nat.le_of_eq three.symm),
        List.drop_of_length_le (Nat.le_of_eq three)] at hc
      simpa using List.mem_takeWhile_imp hc
  · rintro ⟨rfl, three, plain, first, rest, rfl, opens⟩
    have plain : ∀ c ∈ before.drop 3, (!opensList c) = true := fun c hc => by simp [plain c hc]
    rw [splitAtEmbedding?, List.take_append_of_le_length three, List.drop_append_of_le_length three,
      List.takeWhile_append_of_pos plain, List.dropWhile_append_of_pos plain]
    simp [opens]

/-- The columns before an embedding are an id, at least one of a title, and a year. -/
theorem exists_columns {before : List (List Char)} (h : 3 ≤ before.length) :
    ∃ idText title yearText, before = idText :: (title ++ [yearText]) ∧ title ≠ [] := by
  have nonempty : 0 < before.length := by omega
  obtain ⟨idText, more, rfl⟩ := List.exists_cons_of_length_pos nonempty
  rw [List.length_cons] at h
  rcases List.eq_nil_or_concat more with rfl | ⟨title, yearText, rfl⟩
  · simp at h
  · refine ⟨idText, title, yearText, by rw [List.concat_eq_append], ?_⟩
    rintro rfl
    simp at h

theorem ofColumns_eq_ok_iff {columns title list : List (List Char)} {idText yearText : List Char}
    (h : splitAtEmbedding? columns = some (idText :: (title ++ [yearText]), list)) (dim : Int)
    (line : List Char) (f : Film) :
    ofColumns dim line columns = .ok f ↔ integerChars? idText = some f.id ∧
      f.title = String.ofList (joined [','] title) ∧ integerChars? yearText = some f.releaseYear ∧
        Embedding.parseChars dim (joined [','] list) = .ok f.embedding := by
  have last : (idText :: (title ++ [yearText])).getLast? = some yearText := by
    rw [← List.cons_append, List.getLast?_concat]
  have middle : ((idText :: (title ++ [yearText])).drop 1).dropLast = title := by simp
  simp only [ofColumns, h, List.head?_cons, last, middle, Option.bind_some]
  obtain ⟨id, name, year, embedding⟩ := f
  cases integerChars? idText <;> cases integerChars? yearText <;>
    cases Embedding.parseChars dim (joined [','] list) <;> simp [eq_comm]

theorem ofColumns_parts_iff {dim : Int} {line : List Char} {f : Film} (fits : Fits line) :
    ofColumns dim line (parts line) = .ok f ↔ Holds dim line f := by
  constructor
  · intro h
    cases hsplit : splitAtEmbedding? (parts line) with
    | none =>
        rw [ofColumns, hsplit] at h
        cases h
    | some p =>
        obtain ⟨columns, three, plain, first, rest, list, opens⟩ :=
          (splitAtEmbedding?_eq_some_iff _ p.1 p.2).1 hsplit
        obtain ⟨idText, title, yearText, before, titled⟩ := exists_columns three
        have parted : splitAtEmbedding? (parts line) =
            some (idText :: (title ++ [yearText]), first :: rest) := by rw [hsplit, ← before, ← list]
        obtain ⟨id, name, year, embedding⟩ := (ofColumns_eq_ok_iff parted dim line f).1 h
        rw [before, list] at columns
        rw [before, List.drop_succ_cons] at plain
        exact .intro fits columns titled plain opens id name year embedding
  · rintro ⟨_, columns, titled, plain, opens, id, name, year, embedding⟩
    refine (ofColumns_eq_ok_iff ((splitAtEmbedding?_eq_some_iff _ _ _).2
      ⟨columns, ?_, plain, _, _, rfl, opens⟩) dim line f).2 ⟨id, name, year, embedding⟩
    have := List.length_pos_iff.2 titled
    simp only [List.length_cons, List.length_append, List.length_nil]
    omega

/-- A line is read as a film exactly if it holds that film. -/
theorem parseChars_eq_ok_iff {dim : Int} {line : List Char} (unbroken : Unbroken line) (f : Film) :
    parseChars dim line = .ok f ↔ Holds dim line f := by
  rw [parseChars]
  rcases read_cases unbroken with ⟨fits, hread⟩ | ⟨unfit, hread⟩ <;> rw [hread]
  · simp only
    rw [← ofColumns_parts_iff fits]
    cases ofColumns dim line (parts line) <;> simp [Except.mapError]
  · exact ⟨nofun, fun h => by cases h with | intro fits => exact absurd fits unfit⟩

/-- The only error of a line beside those of its format is a column that is too long. -/
theorem parseChars_error {dim : Int} {line : List Char} (unbroken : Unbroken line) {e : RowError}
    (h : parseChars dim line = .error e) :
    (¬ Fits line ∧ e = .columns .columnTooLong) ∨ (Fits line ∧ ∃ fault, e = .format fault) := by
  rw [parseChars] at h
  rcases read_cases unbroken with ⟨fits, hread⟩ | ⟨unfit, hread⟩ <;> rw [hread] at h
  · simp only at h
    cases hcolumns : ofColumns dim line (parts line) with
    | ok f =>
        rw [hcolumns] at h
        cases h
    | error fault =>
        rw [hcolumns] at h
        cases h
        exact .inr ⟨fits, fault, rfl⟩
  · cases h
    exact .inl ⟨unfit, rfl⟩

end Film

namespace Catalog
open Film

/-- A line that is not blank and holds no film. -/
def Malformed (dim : Int) (line : List Char) : Prop :=
  line.all isBlank = false ∧ ∀ f, ¬ Film.Holds dim line f

/-- The line with the given number, counted from one, is the first malformed one. -/
def FirstMalformed (dim : Int) (ls : List (List Char)) (number : Nat) (line : List Char) : Prop :=
  ∃ before after, ls = before ++ line :: after ∧ number = before.length + 1 ∧
    Malformed dim line ∧ ∀ l ∈ before, ¬ Malformed dim l

/-- The films that the lines hold, in their order. -/
inductive Records (dim : Int) : List (List Char) → Catalog → Prop
  | nil : Records dim [] []
  | blank {l : List Char} {ls : List (List Char)} {films : Catalog} (white : l.all isBlank = true)
      (rest : Records dim ls films) : Records dim (l :: ls) films
  | film {l : List Char} {ls : List (List Char)} {f : Film} {films : Catalog}
      (text : l.all isBlank = false) (holds : Film.Holds dim l f) (rest : Records dim ls films) :
      Records dim (l :: ls) (f :: films)

/-- The error of a line as an error of its file. -/
def ofRowError (number : Nat) : RowError → CatalogError
  | .columns e => .columns e
  | .format e => .format number e

theorem Records.not_malformed {dim : Int} {ls : List (List Char)} {films : Catalog}
    (h : Records dim ls films) : ∀ l ∈ ls, ¬ Malformed dim l := by
  induction h with
  | nil => exact List.forall_mem_nil _
  | blank white _ ih =>
      exact List.forall_mem_cons.2 ⟨fun bad => absurd (white.symm.trans bad.1) nofun, ih⟩
  | film _ holds _ ih => exact List.forall_mem_cons.2 ⟨fun bad => bad.2 _ holds, ih⟩

/-- A line that is not malformed adds its film, if it has one, and reading goes on. -/
theorem exists_records_cons {dim : Int} {line : List Char} (unbroken : Unbroken line)
    (good : ¬ Malformed dim line) :
    ∃ here : Catalog, (∀ ls films, Records dim ls films → Records dim (line :: ls) (here ++ films)) ∧
      ∀ number read ls, ofLinesFrom dim number read (line :: ls) =
        ofLinesFrom dim (number + 1) (here.reverse ++ read) ls := by
  by_cases white : line.all isBlank = true
  · refine ⟨[], fun _ _ rest => .blank white rest, fun number read ls => ?_⟩
    rw [ofLinesFrom, if_pos white]
    rfl
  · have text : line.all isBlank = false := Bool.not_eq_true _ ▸ white
    obtain ⟨f, holds⟩ : ∃ f, Film.Holds dim line f := by
      by_contra none
      exact good ⟨text, not_exists.1 none⟩
    refine ⟨[f], fun _ _ rest => .film text holds rest, fun number read ls => ?_⟩
    rw [ofLinesFrom, if_neg white, (Film.parseChars_eq_ok_iff unbroken f).2 holds]
    rfl

theorem exists_error_of_malformed {dim : Int} {line : List Char} (unbroken : Unbroken line)
    (bad : Malformed dim line) :
    ∃ e, Film.parseChars dim line = .error e ∧
      ∀ number read ls, ofLinesFrom dim number read (line :: ls) = .error (ofRowError number e) := by
  cases hparse : Film.parseChars dim line with
  | ok f => exact absurd ((Film.parseChars_eq_ok_iff unbroken f).1 hparse) (bad.2 f)
  | error e =>
      refine ⟨e, rfl, fun number read ls => ?_⟩
      rw [ofLinesFrom, if_neg (by rw [bad.1]; nofun), hparse]
      cases e <;> rfl

/-- Lines are read up to the first malformed one, whose error is that of the whole. -/
theorem ofLinesFrom_cases {dim : Int} {ls : List (List Char)} (unbroken : ∀ l ∈ ls, Unbroken l)
    (number : Nat) (read : Catalog) :
    (∃ films, Records dim ls films ∧
      ofLinesFrom dim number read ls = .ok (read.reverse ++ films)) ∨
    ∃ before line after e, ls = before ++ line :: after ∧ (∀ l ∈ before, ¬ Malformed dim l) ∧
      Malformed dim line ∧ Film.parseChars dim line = .error e ∧
        ofLinesFrom dim number read ls = .error (ofRowError (number + before.length) e) := by
  induction ls generalizing number read with
  | nil => exact .inl ⟨[], .nil, by rw [ofLinesFrom, List.append_nil]⟩
  | cons line ls ih =>
      obtain ⟨hline, hls⟩ := List.forall_mem_cons.1 unbroken
      by_cases bad : Malformed dim line
      · obtain ⟨e, parsed, failed⟩ := exists_error_of_malformed hline bad
        exact .inr ⟨[], line, ls, e, rfl, List.forall_mem_nil _, bad, parsed, failed number read ls⟩
      · obtain ⟨here, records, next⟩ := exists_records_cons hline bad
        rcases ih hls (number + 1) (here.reverse ++ read) with ⟨films, rest, done⟩ |
          ⟨before, line', after, e, split, goods, bad', parsed, failed⟩
        · refine .inl ⟨here ++ films, records ls films rest, ?_⟩
          rw [next, done, List.reverse_append, List.reverse_reverse, List.append_assoc]
        · refine .inr ⟨line :: before, line', after, e, by rw [split, List.cons_append],
            List.forall_mem_cons.2 ⟨bad, goods⟩, bad', parsed, ?_⟩
          rw [next, failed, List.length_cons, Nat.add_right_comm, Nat.add_assoc]

theorem ofBytes_toUTF8 (dim : Int) (text : String) : ofBytes dim text.toUTF8 = parse dim text := by
  rw [ofBytes, Text.Utf8.fromUTF8?_eq_some_iff.2 rfl]

theorem read_toUTF8 {files : Files} {path text : String} (opened : files path = .ok text.toUTF8)
    (dim : Int) : read files dim path = parse dim text := by
  rw [read, opened]
  exact ofBytes_toUTF8 dim text

/-- The outcome of reading a file of text. -/
theorem read_cases {files : Files} {path : String} {text : String}
    (opened : files path = .ok text.toUTF8) (dim : Int) :
    (∃ films, Records dim (lines text.toList) films ∧ read files dim path = .ok films) ∨
    ∃ number line e, FirstMalformed dim (lines text.toList) number line ∧
      Film.parseChars dim line = .error e ∧
        read files dim path = .error (ofRowError number e) := by
  rw [read_toUTF8 opened, parse, ofLines]
  rcases ofLinesFrom_cases (fun l hl => Text.unbroken_of_mem_lines hl) 1 [] with
    ⟨films, records, done⟩ | ⟨before, line, after, e, split, goods, bad, parsed, failed⟩
  · exact .inl ⟨films, records, done⟩
  · exact .inr ⟨_, line, e, ⟨before, after, split, Nat.add_comm 1 _, bad, goods⟩, parsed, failed⟩

/-- Why a path gives no films: it cannot be opened, its bytes are no text, or the text has
a malformed line. -/
inductive Unreadable (files : Files) (dim : Int) (path : String) : Prop
  | unopened {e : DiskError} (h : files path = .error e)
  | undecodable {bytes : ByteArray} (opened : files path = .ok bytes) (h : ¬ bytes.IsValidUTF8)
  | malformed {text : String} {line : List Char} (opened : files path = .ok text.toUTF8)
      (mem : line ∈ lines text.toList) (h : Malformed dim line)

theorem exists_toUTF8 {bytes : ByteArray} (h : bytes.IsValidUTF8) :
    ∃ text : String, bytes = text.toUTF8 := ⟨String.ofByteArray bytes h, rfl⟩

/-- Bytes that are no text give no films, whatever lines they begin with. -/
theorem exists_ofBytes_error {bytes : ByteArray} (h : ¬ bytes.IsValidUTF8) (dim : Int) :
    ∃ e, ofBytes dim bytes = .error e := by
  rw [ofBytes, String.fromUTF8?, dif_neg h]
  cases hfault : Text.Utf8.fault? bytes.toList with
  | none => exact absurd (Text.Utf8.isValidUTF8_of_fault? hfault) h
  | some fault =>
      simp only
      split
      · exact ⟨_, rfl⟩
      · exact ⟨_, rfl⟩

/-- What gives films is a text, and they are those of its lines. -/
theorem records_of_read {files : Files} {dim : Int} {path : String} {films : Catalog}
    (h : read files dim path = .ok films) : ∃ text : String,
      files path = .ok text.toUTF8 ∧ Records dim (lines text.toList) films := by
  cases opened : files path with
  | error e =>
      rw [read, opened] at h
      cases h
  | ok bytes =>
      by_cases valid : bytes.IsValidUTF8
      · obtain ⟨text, rfl⟩ := exists_toUTF8 valid
        rcases read_cases opened dim with ⟨films', records, done⟩ | ⟨_, _, _, -, -, failed⟩
        · obtain rfl : films' = films := Except.ok.inj (done.symm.trans h)
          exact ⟨text, rfl, records⟩
        · cases failed.symm.trans h
      · obtain ⟨e, failed⟩ := exists_ofBytes_error valid dim
        rw [read, opened] at h
        cases failed.symm.trans h

/-- A file gives no films exactly if there is one of the reasons for it. -/
theorem exists_read_error_iff (files : Files) (dim : Int) (path : String) :
    (∃ e, read files dim path = .error e) ↔ Unreadable files dim path := by
  constructor
  · rintro ⟨e, failed⟩
    cases opened : files path with
    | error e => exact .unopened opened
    | ok bytes =>
        by_cases valid : bytes.IsValidUTF8
        · obtain ⟨text, rfl⟩ := exists_toUTF8 valid
          rcases read_cases opened dim with ⟨films, -, done⟩ |
            ⟨_, line, _, ⟨before, after, split, -, bad, -⟩, -⟩
          · cases done.symm.trans failed
          · exact .malformed opened (by rw [split]; simp) bad
        · exact .undecodable opened valid
  · intro h
    cases h with
    | @unopened e h => exact ⟨.disk path e, by rw [read, h]⟩
    | undecodable opened h =>
        rw [read, opened]
        exact exists_ofBytes_error h dim
    | malformed opened mem h =>
        rcases read_cases opened dim with ⟨films, records, -⟩ | ⟨_, _, _, -, -, failed⟩
        · exact absurd h (records.not_malformed _ mem)
        · exact ⟨_, failed⟩

end Catalog
end FilmIndex
