import FilmIndex.Proofs.Film.LineByLine
import FilmIndex.Proofs.Program.Returned
import Mathlib.Data.Fintype.Card

/-!
When the hits of a run are films of the file, title and all. The titles reach the hits on
another way than the rest, and of several films with one id only the last one has its title
there. So every hit is a film just if each film could as well have that title. A file of films
whose embeddings are too long for a vector to search for gives no hits at all.
-/

namespace FilmIndex

/-- A hit is a film, but for its distance. -/
structure Hit.Is (f : Film) (h : Hit) : Prop where
  id : h.id = .int f.id
  title : h.title = .text f.title
  fields : h.fields =
    [("release_year", .int f.releaseYear), ("embedding", Value.floats f.embedding)]

/-- There is a film with the id, the year and the embedding of this one that has the last
title of the id. -/
def Catalog.Titled (films : Catalog) (f : Film) : Prop :=
  ∃ g ∈ films, (g.id = f.id ∧ g.releaseYear = f.releaseYear ∧ g.embedding = f.embedding) ∧
    ∃ last, films.LastOf f.id last ∧ g.title = last.title

namespace Catalog

variable {films : Catalog} {f g last : Film} {id : Int}

theorem LastOf.unique (h : films.LastOf id f) (h' : films.LastOf id g) : f = g := by
  rw [← find?_reverse_eq_some_iff] at h h'
  exact Option.some.inj (h.symm.trans h')

theorem LastOf.mem (h : films.LastOf id f) : f ∈ films := by
  obtain ⟨_, _, rfl, _⟩ := h
  exact List.mem_append_right _ List.mem_cons_self

theorem LastOf.id_eq (h : films.LastOf id f) : f.id = id := by
  obtain ⟨_, _, _, hid, _⟩ := h
  exact hid

theorem titled_of_nodup (distinct : films.ids.Nodup) (h : f ∈ films) : films.Titled f := by
  obtain ⟨last, hlast⟩ := exists_lastOf h
  obtain rfl := List.inj_on_of_nodup_map distinct hlast.mem h hlast.id_eq
  exact ⟨last, h, ⟨rfl, rfl, rfl⟩, last, hlast, rfl⟩

end Catalog

theorem floats_injective {xs ys : List Float} (h : Value.floats xs = Value.floats ys) : xs = ys := by
  have injective : Function.Injective Value.float := fun _ _ h => by cases h; rfl
  exact injective.list_map (Value.list.inj h)

theorem Hit.IsOf.exists_is_iff {films : Catalog} {f : Film} {h : Hit} (of : h.IsOf films f) :
    (∃ g ∈ films, h.Is g) ↔ films.Titled f := by
  obtain ⟨last, hlast, title⟩ := of.title
  constructor
  · rintro ⟨g, hg, is⟩
    have fields := is.fields.symm.trans of.fields
    simp only [List.cons.injEq, Prod.mk.injEq, Value.int.injEq, true_and, and_true] at fields
    refine ⟨g, hg, ⟨Value.int.inj (is.id.symm.trans of.id), fields.1, floats_injective fields.2⟩,
      last, hlast, Value.text.inj (is.title.symm.trans title)⟩
  · rintro ⟨g, hg, ⟨id, year, embedding⟩, last', hlast', htitle⟩
    obtain rfl := hlast.unique hlast'
    exact ⟨g, hg, by rw [of.id, id], by rw [title, htitle], by rw [of.fields, year, embedding]⟩

namespace Settings

/-- Any file, dimension, years and number of hits can be given. -/
theorem exists_load (path : String) {dim k : Int} (hdim : 0 < dim) (hk : 0 < k) (years : List Int) :
    ∃ src s, load src = .ok s ∧ s.csvPath = path ∧ s.dimension = dim ∧ s.topK = k ∧
      s.releaseYears = years ∧ s.querySeed = some 0 ∧ s.milvusPort = defaults.milvusPort ∧
      s.nlist = defaults.nlist := by
  let src : Sources := { given := [("csv_path", .text path), ("dimension", .int dim),
    ("top_k", .int k), ("release_years", .list (years.map Value.int)), ("query_seed", .int 0)] }
  let s : Settings := { defaults with
    csvPath := path, dimension := dim, topK := k, releaseYears := years, querySeed := some 0 }
  have dimension : src.value? .dimension = some (.int dim) := by cbv
  have topK : src.value? .topK = some (.int k) := by cbv
  have releaseYears : Settings.years src.value? [1995, 2002] = .valid years := by
    have value : src.value? .releaseYears = some (.list (years.map Value.int)) := by cbv
    rw [Settings.years, value]
    exact itemsFrom_ints 0 years
  have checked : check src.value? = .valid s := by
    rw [check, positiveOf_given dimension hdim, positiveOf_given topK hk, releaseYears]
    cbv
  have readable : src.unreadable? = none := by cbv
  refine ⟨src, s, ?_, rfl, rfl, rfl, rfl, rfl, rfl, rfl⟩
  rw [load, readable, checked]

end Settings

/-- All places are among as many different ones as there are. -/
theorem mem_of_nodup {n : Nat} {places : List (Fin n)} (nodup : places.Nodup)
    (length : n ≤ places.length) (i : Fin n) : i ∈ places := by
  have card : places.toFinset.card = n := by
    refine le_antisymm ?_ ?_
    · simpa using Finset.card_le_univ places.toFinset
    · rwa [List.toFinset_card_of_nodup nodup]
  have all : places.toFinset = Finset.univ := by
    refine Finset.eq_univ_of_card _ ?_
    rw [card, Fintype.card_fin]
  exact List.mem_toFinset.1 (all ▸ Finset.mem_univ i)

namespace Run

variable {files : Files} {path : String} {dim : Int} {films : Catalog}

/-- Every hit of a run that returns is of some film of the file. -/
theorem exists_isOf {s : Settings} {around : Surroundings} {before : Session}
    {hits : List (List Hit)} (returned : (run s around before).1 = .ok hits)
    (read : Catalog.read around.files s.dimension s.csvPath = .ok films) {group : List Hit}
    (hgroup : group ∈ hits) {h : Hit} (hh : h ∈ group) : ∃ f ∈ films, h.IsOf films f := by
  obtain ⟨films', request, read', made, answered, -⟩ := returned_cases returned
  obtain rfl : films' = films := Except.ok.inj (read'.symm.trans read)
  obtain ⟨_, rfl, finds⟩ := finds_of_answer made answered
  obtain rfl := List.mem_singleton.1 hgroup
  obtain ⟨places, -, rows⟩ := finds.places
  obtain ⟨i, -, -, of⟩ := exists_of_mem_right rows hh
  exact ⟨films'.get i, List.get_mem films' i, of⟩

/-- Some run finds every film of the file, if a vector can be as long as their embeddings. Its
server has a count of its own, so that it does not matter how many films there are. -/
theorem exists_run (read : Catalog.read files dim path = .ok films) (positive : 0 < dim)
    (short : 4 * dim < 2 ^ 63) (inhabited : films ≠ []) :
    ∃ src s before hits, Settings.load src = .ok s ∧ s.csvPath = path ∧ s.dimension = dim ∧
      (run s { files } before).1 = .ok hits ∧
      ∀ f ∈ films, ∃ group ∈ hits, ∃ h ∈ group, h.IsOf films f := by
  have many : 0 < (films.length : Int) := by
    have := List.length_pos_iff.2 inhabited
    omega
  obtain ⟨src, s, valid, rfl, rfl, topK, years, seed, port, nlist⟩ :=
    Settings.exists_load path positive many (films.map Film.releaseYear)
  let around : Surroundings := { files }
  let before : Session := { server := { extraStats := [("row_count", .int 0)] } }
  obtain ⟨text, -, records⟩ := Catalog.records_of_read read
  have enough : s.Sufficient around.memory := by
    refine ⟨⟨by simpa [years] using inhabited, ?_, fun seed' h => ?_, short, ?_⟩, ?_, ?_⟩
    · rw [years]
      exact List.forall_mem_map.2 records.writable_year
    · rw [seed] at h
      cases h
      decide
    · have memory : around.memory = 0x7FFFFFFFFFFFFFFF := rfl
      omega
    · rw [port]
      decide
    · rw [nlist]
      decide
  have tells : Tells films before.server.extraStats := by
    intro name v member other
    obtain ⟨rfl, rfl⟩ := Prod.mk.inj (List.mem_singleton.1 member)
    decide
  obtain ⟨hits, returned⟩ := returned_of_sufficient (Settings.positive_of_load valid)
    (read : Catalog.read around.files s.dimension s.csvPath = .ok films) enough tells
    (undisturbed_of_unplanned rfl)
  refine ⟨src, s, before, hits, valid, rfl, rfl, returned, fun f hf => ?_⟩
  obtain ⟨films', request, read', made, answered, -⟩ := returned_cases returned
  obtain rfl : films' = films := Except.ok.inj (read'.symm.trans read)
  obtain ⟨group, rfl, finds⟩ := finds_of_answer made answered
  obtain ⟨places, nodup, rows⟩ := finds.places
  have all : films'.countP (fun f => s.releaseYears.contains f.releaseYear) = films'.length := by
    refine List.countP_eq_length.2 fun f hf => ?_
    rw [years]
    exact List.contains_iff_mem.2 (List.mem_map_of_mem hf)
  have length : films'.length ≤ places.length := by
    have found := finds.length
    rw [topK, all, ← rows.length_eq] at found
    omega
  obtain ⟨i, rfl⟩ := List.mem_iff_get.1 hf
  obtain ⟨h, hh, -, of⟩ := exists_of_mem_right rows.flip (mem_of_nodup nodup length i)
  exact ⟨group, List.mem_singleton.2 rfl, h, hh, of⟩

theorem dimension_of_returned {src : Sources} {s : Settings} (valid : Settings.load src = .ok s)
    {around : Surroundings} {before : Session} {hits : List (List Hit)}
    (returned : (run s around before).1 = .ok hits) : 4 * s.dimension < 2 ^ 63 := by
  obtain ⟨films, request, read, -⟩ := returned_cases returned
  exact (sufficient_of_returned (Settings.positive_of_load valid) read returned).1.word

/-- The hits of all runs on a file are films of the file just if each of the films could have
the last title of its id, or if its embeddings are too long for a run to return. So they are if
the ids are distinct. -/
theorem run_hits_films_iff (read : Catalog.read files dim path = .ok films) (positive : 0 < dim) :
    ((∀ src s (around : Surroundings) before hits, Settings.load src = .ok s →
        s.csvPath = path → s.dimension = dim → around.files = files →
        (run s around before).1 = .ok hits → ∀ group ∈ hits, ∀ h ∈ group, ∃ f ∈ films, h.Is f) ↔
      (4 * dim < 2 ^ 63 → ∀ f ∈ films, films.Titled f)) ∧
    (films.ids.Nodup → ∀ f ∈ films, films.Titled f) := by
  refine ⟨⟨fun real short f hf => ?_, fun titled => ?_⟩,
    fun distinct f => Catalog.titled_of_nodup distinct⟩
  · obtain ⟨src, s, before, hits, valid, hpath, hdim, returned, every⟩ :=
      exists_run read positive short (List.ne_nil_of_mem hf)
    obtain ⟨group, hgroup, h, hh, of⟩ := every f hf
    exact of.exists_is_iff.1
      (real src s _ before hits valid hpath hdim rfl returned group hgroup h hh)
  · rintro src s around before hits valid rfl rfl rfl returned group hgroup h hh
    obtain ⟨f, hf, of⟩ := exists_isOf returned read hgroup hh
    exact of.exists_is_iff.2 (titled (dimension_of_returned valid returned) f hf)

/-- Of two films with one id the first one is not titled. -/
theorem run_hits_films_sharedId :
    ∃ films, Catalog.read sharedId.files oneYear.dimension oneYear.csvPath = .ok films ∧
      0 < oneYear.dimension ∧
      ¬ ∀ src s (around : Surroundings) before hits, Settings.load src = .ok s →
        s.csvPath = oneYear.csvPath → s.dimension = oneYear.dimension →
        around.files = sharedId.files → (run s around before).1 = .ok hits →
        ∀ group ∈ hits, ∀ h ∈ group, ∃ f ∈ films, h.Is f := by
  obtain ⟨f, g, read, ⟨fid, ftitle, fyear⟩, gid, gtitle, gyear⟩ := read_sharedId
  refine ⟨[f, g], read, by decide, fun real => ?_⟩
  have titled := (run_hits_films_iff read (by decide)).1.1 real (by decide) f List.mem_cons_self
  obtain ⟨x, hx, ⟨-, year, -⟩, last, hlast, title⟩ := titled
  have lastOf : Catalog.LastOf [f, g] f.id g := ⟨[f], [], rfl, gid.trans fid.symm, by simp⟩
  obtain rfl := hlast.unique lastOf
  rcases List.mem_pair.1 hx with rfl | rfl
  · rw [ftitle, gtitle] at title
    exact absurd title (by decide)
  · rw [fyear, gyear] at year
    exact absurd year (by decide)

/-- The film of 1995 is found under the title of the film of 2002. -/
theorem run_hit_noFilm :
    Settings.load { given := [("dimension", .int 1), ("release_years", .list [.int 1995]),
      ("query_seed", .int 7)] } = .ok oneYear ∧
    ∃ films hits h, Catalog.read sharedId.files oneYear.dimension oneYear.csvPath = .ok films ∧
      (run oneYear sharedId {}).1 = .ok hits ∧ [h] ∈ hits ∧ ∀ f ∈ films, ¬ h.Is f := by
  refine ⟨rfl, ?_⟩
  obtain ⟨f, g, read, ⟨fid, ftitle, fyear⟩, gid, gtitle, gyear⟩ := read_sharedId
  obtain ⟨hits, returned⟩ := returned_sharedId
  obtain ⟨films, request, read', made, answered, -⟩ := returned_cases returned
  obtain rfl : films = [f, g] := Except.ok.inj (read'.symm.trans read)
  obtain ⟨group, rfl, finds⟩ := finds_of_answer made answered
  have years : oneYear.releaseYears = [1995] := rfl
  have topK : oneYear.topK = 3 := rfl
  have count : List.countP (fun f : Film => oneYear.releaseYears.contains f.releaseYear) [f, g] =
      1 := by
    rw [years]
    simp [fyear, gyear]
  have length := finds.length
  rw [topK, count] at length
  obtain ⟨h, rfl⟩ := List.length_eq_one_iff.1 (show group.length = 1 by omega)
  obtain ⟨places, -, rows⟩ := finds.places
  obtain ⟨i, -, year, of⟩ := exists_of_mem_right rows (List.mem_singleton.2 rfl)
  obtain ⟨last, hlast, title⟩ := of.title
  refine ⟨[f, g], [[h]], h, read, returned, List.mem_singleton.2 rfl, ?_⟩
  match i with
  | ⟨1, _⟩ =>
      rw [years] at year
      simp [gyear] at year
  | ⟨0, _⟩ =>
      have lastOf : Catalog.LastOf [f, g] f.id g := ⟨[f], [], rfl, gid.trans fid.symm, by simp⟩
      obtain rfl := hlast.unique lastOf
      intro x hx is
      rcases List.mem_pair.1 hx with rfl | rfl
      · have same := is.title.symm.trans title
        rw [ftitle, gtitle] at same
        exact absurd (Value.text.inj same) (by decide)
      · have same := is.fields.symm.trans of.fields
        simp [fyear, gyear] at same

end Run
end FilmIndex
