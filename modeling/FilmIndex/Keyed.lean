/-!
Lists of keys and values in the order in which the keys were first set. Setting
a key again changes its value and keeps its place.
-/

namespace FilmIndex
namespace Keyed

variable {κ α : Type} [BEq κ]

def put (k : κ) (v : α) : List (κ × α) → List (κ × α)
  | [] => [(k, v)]
  | (k', v') :: rest => if k' == k then (k', v) :: rest else (k', v') :: put k v rest

/-- Every pair of the second list set in turn. -/
def putAll (entries more : List (κ × α)) : List (κ × α) :=
  more.foldl (fun es e => put e.1 e.2 es) entries

def ofList (entries : List (κ × α)) : List (κ × α) := putAll [] entries

def get? (k : κ) : List (κ × α) → Option α
  | [] => none
  | (k', v) :: rest => if k' == k then some v else get? k rest

def erase (k : κ) (entries : List (κ × α)) : List (κ × α) := entries.filter fun e => !(e.1 == k)

theorem put_ne_nil (k : κ) (v : α) (entries : List (κ × α)) : put k v entries ≠ [] := by
  cases entries with
  | nil => exact List.cons_ne_nil _ _
  | cons e rest =>
      rw [put]
      split <;> exact List.cons_ne_nil _ _

/-- The first key stays the first. -/
theorem exists_putAll_cons (k : κ) (v : α) (rest more : List (κ × α)) :
    ∃ v' rest', putAll ((k, v) :: rest) more = (k, v') :: rest' := by
  induction more generalizing v rest with
  | nil => exact ⟨v, rest, rfl⟩
  | cons e more ih =>
      have first : putAll ((k, v) :: rest) (e :: more) =
          putAll (put e.1 e.2 ((k, v) :: rest)) more := rfl
      rw [first, put]
      split
      · exact ih e.2 rest
      · exact ih v (put e.1 e.2 rest)

theorem get?_put [LawfulBEq κ] (k k' : κ) (v : α) (entries : List (κ × α)) :
    get? k' (put k v entries) = if k == k' then some v else get? k' entries := by
  induction entries with
  | nil => simp [put, get?]
  | cons e rest ih =>
      obtain ⟨a, b⟩ := e
      by_cases h : a = k
      · subst h; by_cases h' : a = k' <;> simp [put, get?, h']
      · by_cases h' : a = k'
        · subst h'; simp [put, get?, h, Ne.symm h]
        · simp [put, get?, h, h', ih]

theorem get?_putAll [LawfulBEq κ] (k : κ) (entries more : List (κ × α)) :
    get? k (putAll entries more) =
      ((more.reverse.find? (·.1 == k)).map (·.2)).or (get? k entries) := by
  induction more generalizing entries with
  | nil => rfl
  | cons e more ih =>
      have hput : putAll entries (e :: more) = putAll (put e.1 e.2 entries) more := rfl
      rw [hput, ih, get?_put, List.reverse_cons, List.find?_append, Option.map_or, Option.or_assoc]
      by_cases h : e.1 = k
      · simp [h]
      · simp [h]

/-- Of several values set for a key the last one counts. -/
theorem get?_ofList [LawfulBEq κ] (k : κ) (entries : List (κ × α)) :
    get? k (ofList entries) = (entries.reverse.find? (·.1 == k)).map (·.2) := by
  rw [ofList, get?_putAll, get?, Option.or_none]

theorem mem_of_get?_ofList [LawfulBEq κ] {k : κ} {v : α} {entries : List (κ × α)}
    (h : get? k (ofList entries) = some v) : (k, v) ∈ entries := by
  rw [get?_ofList] at h
  obtain ⟨⟨a, b⟩, hfound, rfl⟩ := Option.map_eq_some_iff.1 h
  have hkey : (a == k) = true := List.find?_some (p := fun e : κ × α => e.1 == k) hfound
  obtain rfl := eq_of_beq hkey
  exact List.mem_reverse.1 (List.mem_of_find?_eq_some hfound)

theorem get?_erase [LawfulBEq κ] (k k' : κ) (entries : List (κ × α)) :
    get? k' (erase k entries) = if k == k' then none else get? k' entries := by
  induction entries with
  | nil => simp [erase, get?]
  | cons e rest ih =>
      obtain ⟨a, b⟩ := e
      have hrest : erase k ((a, b) :: rest) =
          if a == k then erase k rest else (a, b) :: erase k rest := by
        by_cases h : a = k <;> simp [erase, h]
      rw [hrest]
      by_cases h : a = k
      · subst h
        by_cases h' : a = k' <;> simp_all [get?]
      · by_cases h' : a = k'
        · subst h'
          simp [get?, h, Ne.symm h]
        · simp [get?, h, h', ih]

theorem erase_erase (k : κ) (entries : List (κ × α)) :
    erase k (erase k entries) = erase k entries := by
  simp [erase, List.filter_filter]

theorem erase_put [LawfulBEq κ] (k : κ) (v : α) (entries : List (κ × α)) :
    erase k (put k v entries) = erase k entries := by
  induction entries with
  | nil => simp [put, erase]
  | cons e rest ih =>
      by_cases h : e.1 = k
      · simp [put, erase, h]
      · simp only [erase] at ih ⊢
        simp [put, h, ih]

/-! ## Distinct keys -/

/-- No key is listed twice. -/
def Distinct (entries : List (κ × α)) : Prop := (entries.map (·.1)).Nodup

theorem Distinct.erase (k : κ) {entries : List (κ × α)} (h : Distinct entries) :
    Distinct (erase k entries) := List.Nodup.sublist (List.filter_sublist.map _) h

theorem mem_of_mem_put [LawfulBEq κ] {k : κ} {v : α} {entries : List (κ × α)} {e : κ × α}
    (h : e ∈ put k v entries) : e = (k, v) ∨ e ∈ entries := by
  induction entries with
  | nil => exact .inl (List.mem_singleton.1 h)
  | cons a rest ih =>
      by_cases ha : a.1 = k
      · simp only [put, ha, beq_self_eq_true, if_true] at h
        exact (List.mem_cons.1 h).imp_right (List.mem_cons_of_mem _)
      · simp only [put, beq_iff_eq, ha, if_false] at h
        rcases List.mem_cons.1 h with rfl | h
        · exact .inr List.mem_cons_self
        · exact (ih h).imp_right (List.mem_cons_of_mem _)

theorem keys_put [LawfulBEq κ] (k : κ) (v : α) (entries : List (κ × α)) :
    (put k v entries).map (·.1) =
      if (get? k entries).isSome then entries.map (·.1) else entries.map (·.1) ++ [k] := by
  induction entries with
  | nil => rfl
  | cons e rest ih =>
      by_cases h : e.1 = k
      · simp [put, get?, h]
      · by_cases hg : (get? k rest).isSome <;> simp [put, get?, h, ih, hg]

theorem get?_eq_none_iff [LawfulBEq κ] (k : κ) (entries : List (κ × α)) :
    get? k entries = none ↔ ∀ e ∈ entries, e.1 ≠ k := by
  induction entries with
  | nil => simp [get?]
  | cons e rest ih => by_cases h : e.1 = k <;> simp [get?, h, ih]

theorem erase_of_absent [LawfulBEq κ] {k : κ} {entries : List (κ × α)}
    (h : get? k entries = none) : erase k entries = entries := by
  rw [get?_eq_none_iff] at h
  exact List.filter_eq_self.2 fun e he => by simp [h e he]

theorem put_of_absent [LawfulBEq κ] {k : κ} {entries : List (κ × α)} (h : get? k entries = none)
    (v : α) : put k v entries = entries ++ [(k, v)] := by
  induction entries with
  | nil => rfl
  | cons e rest ih =>
      obtain ⟨ne, hrest⟩ : e.1 ≠ k ∧ get? k rest = none := by
        simpa [get?_eq_none_iff] using h
      simp [put, ne, ih hrest]

/-- A key that is set anew comes last. -/
theorem put_erase [LawfulBEq κ] (k : κ) (v : α) (entries : List (κ × α)) :
    put k v (erase k entries) = erase k entries ++ [(k, v)] :=
  put_of_absent (by simp [get?_erase]) v

theorem Distinct.put [LawfulBEq κ] (k : κ) (v : α) {entries : List (κ × α)}
    (h : Distinct entries) : Distinct (put k v entries) := by
  rw [Distinct, keys_put]
  split
  · exact h
  · rename_i absent
    rw [Bool.not_eq_true, Option.isSome_eq_false_iff, Option.isNone_iff_eq_none,
      get?_eq_none_iff] at absent
    refine List.nodup_append.2 ⟨h, by simp, fun a ha b hb => ?_⟩
    obtain ⟨e, he, rfl⟩ := List.mem_map.1 ha
    rw [List.mem_singleton.1 hb]
    exact absent e he

theorem Distinct.ofList [LawfulBEq κ] (entries : List (κ × α)) : Distinct (ofList entries) := by
  suffices h : ∀ more : List (κ × α), Distinct more → Distinct (putAll more entries) from
    h [] List.nodup_nil
  induction entries with
  | nil => exact fun _ h => h
  | cons e entries ih => exact fun _ h => ih _ (h.put e.1 e.2)

theorem get?_of_mem [LawfulBEq κ] {k : κ} {v : α} {entries : List (κ × α)}
    (h : Distinct entries) (hmem : (k, v) ∈ entries) : get? k entries = some v := by
  induction entries with
  | nil => cases hmem
  | cons e rest ih =>
      obtain ⟨first, rest'⟩ := List.nodup_cons.1 h
      rcases List.mem_cons.1 hmem with rfl | hmem
      · simp [get?]
      · have ne : e.1 ≠ k := fun he => first (List.mem_map.2 ⟨(k, v), hmem, he.symm⟩)
        simp [get?, ne, ih rest' hmem]

theorem mem_iff_get? [LawfulBEq κ] {k : κ} {v : α} {entries : List (κ × α)}
    (h : Distinct entries) : (k, v) ∈ entries ↔ get? k entries = some v := by
  refine ⟨get?_of_mem h, fun found => ?_⟩
  induction entries with
  | nil => cases found
  | cons e rest ih =>
      by_cases hk : e.1 = k
      · obtain rfl : e.2 = v := by simpa [get?, hk] using found
        rw [← hk]
        exact List.mem_cons_self
      · refine List.mem_cons_of_mem _ (ih (List.nodup_cons.1 h).2 ?_)
        simpa [get?, hk] using found

theorem mem_put_iff [LawfulBEq κ] {k k' : κ} {v v' : α} {entries : List (κ × α)}
    (h : Distinct entries) :
    (k', v') ∈ put k v entries ↔ (k = k' ∧ v = v') ∨ (k ≠ k' ∧ (k', v') ∈ entries) := by
  rw [mem_iff_get? (h.put k v), mem_iff_get? h, get?_put]
  by_cases hk : k = k' <;> simp [hk]

/-- Where no key is listed twice, it does not matter from which end a key is looked up. -/
theorem find?_reverse [LawfulBEq κ] (k : κ) {entries : List (κ × α)} (h : Distinct entries) :
    (entries.reverse.find? (·.1 == k)).map (·.2) = get? k entries := by
  cases hfound : entries.reverse.find? (·.1 == k) with
  | none =>
      refine ((get?_eq_none_iff k entries).2 fun e he => ?_).symm
      simpa using List.find?_eq_none.1 hfound e (List.mem_reverse.2 he)
  | some e =>
      have hkey : (e.1 == k) = true := List.find?_some (p := fun e : κ × α => e.1 == k) hfound
      have hmem := List.mem_reverse.1 (List.mem_of_find?_eq_some hfound)
      exact (get?_of_mem h (eq_of_beq hkey ▸ hmem)).symm

theorem put_put (k : κ) (v w : α) [LawfulBEq κ] (entries : List (κ × α)) :
    put k w (put k v entries) = put k w entries := by
  induction entries with
  | nil => simp [put]
  | cons e rest ih => by_cases h : e.1 = k <;> simp [put, h, ih]

/-! ## The order of the keys -/

theorem isSome_get?_iff [LawfulBEq κ] (k : κ) (entries : List (κ × α)) :
    (get? k entries).isSome ↔ k ∈ entries.map (·.1) := by
  rw [Option.isSome_iff_ne_none, ne_eq, get?_eq_none_iff]
  simp

theorem removeAll_concat [LawfulBEq κ] (xs ys : List κ) (k : κ) :
    xs.removeAll (ys ++ [k]) = (xs.removeAll ys).filter fun x => !x == k := by
  rw [List.removeAll, List.removeAll, List.filter_filter]
  refine List.filter_congr fun x _ => ?_
  rw [List.elem_eq_contains, List.elem_eq_contains, List.contains_append, Bool.not_or,
    Bool.and_comm]
  simp

/-- The keys stay in their places; new ones follow in the order in which they are first set. -/
theorem keys_putAll [LawfulBEq κ] (entries more : List (κ × α)) :
    (putAll entries more).map (·.1) =
      entries.map (·.1) ++ ((more.map (·.1)).removeAll (entries.map (·.1))).eraseDups := by
  induction more generalizing entries with
  | nil => exact (List.append_nil _).symm
  | cons e more ih =>
      have first : putAll entries (e :: more) = putAll (put e.1 e.2 entries) more := rfl
      rw [first, ih, keys_put, List.map_cons]
      by_cases h : (get? e.1 entries).isSome
      · have there := (isSome_get?_iff e.1 entries).1 h
        simp [h, List.removeAll, there]
      · have absent := mt (isSome_get?_iff e.1 entries).2 h
        rw [if_neg h, removeAll_concat, List.removeAll, List.removeAll, List.filter_cons_of_pos,
          List.eraseDups_cons, List.append_assoc]
        · rfl
        · simpa using absent

theorem keys_ofList [LawfulBEq κ] (entries : List (κ × α)) :
    (ofList entries).map (·.1) = (entries.map (·.1)).eraseDups := by
  rw [ofList, keys_putAll, List.map_nil, List.nil_append, List.removeAll]
  exact congrArg List.eraseDups (List.filter_eq_self.2 fun _ _ => rfl)

/-! ## Some of the keys -/

section
variable [LawfulBEq κ] (p : κ → Bool)

theorem get?_filter {k : κ} (h : p k = true) (entries : List (κ × α)) :
    get? k (entries.filter (p ·.1)) = get? k entries := by
  induction entries with
  | nil => rfl
  | cons e rest ih =>
      by_cases he : e.1 = k
      · simp [get?, he, h]
      · cases hp : p e.1 <;> simp [get?, he, hp, ih]

theorem filter_put (k : κ) (v : α) (entries : List (κ × α)) :
    (put k v entries).filter (p ·.1) =
      if p k then put k v (entries.filter (p ·.1)) else entries.filter (p ·.1) := by
  induction entries with
  | nil => cases hp : p k <;> simp [put, hp]
  | cons e rest ih =>
      by_cases he : e.1 = k
      · subst he
        cases hp : p e.1 <;> simp [put, hp]
      · cases hp : p e.1 <;> cases hk : p k <;> simp_all [put]

theorem filter_putAll (entries more : List (κ × α)) :
    (putAll entries more).filter (p ·.1) =
      putAll (entries.filter (p ·.1)) (more.filter (p ·.1)) := by
  induction more generalizing entries with
  | nil => rfl
  | cons e more ih =>
      have first : putAll entries (e :: more) = putAll (put e.1 e.2 entries) more := rfl
      rw [first, ih, filter_put, List.filter_cons]
      cases hp : p e.1 <;> rfl

end

end Keyed
end FilmIndex
