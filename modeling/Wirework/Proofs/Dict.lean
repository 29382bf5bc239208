import Wirework.Dict

/-!
# Look-ups in dictionaries

What `get?` finds after each operation on a dictionary. Since keys are distinct, an entry of the
list and a look-up that finds it are the same thing (`mem_entries_iff`); the other laws follow
from there, without another induction over entries.
-/

namespace Wirework.Dict

variable {β γ : Type} {d : Dict β} {k k' : String} {v : β}

/-! ## Entries and look-ups -/

theorem lookup_eq_some_iff {es : List (String × β)} (hnd : (es.map Prod.fst).Nodup) :
    es.lookup k = some v ↔ (k, v) ∈ es := by
  induction es with
  | nil => simp
  | cons e rest ih =>
    obtain ⟨a, b⟩ := e
    rw [List.map_cons, List.nodup_cons] at hnd
    by_cases hk : k = a
    · subst hk
      have hnot : (k, v) ∉ rest := fun hm => hnd.1 (List.mem_map.mpr ⟨(k, v), hm, rfl⟩)
      simp [hnot, eq_comm]
    · have hbeq : (k == a) = false := by simpa using hk
      simp [List.lookup_cons, hbeq, hk, ih hnd.2]

theorem mem_entries_iff : (k, v) ∈ d.entries ↔ d.get? k = some v :=
  (lookup_eq_some_iff d.nodup).symm

theorem mem_values_iff : v ∈ d.values ↔ ∃ k, d.get? k = some v := by
  simp only [values, List.mem_map, Prod.exists, exists_eq_right, mem_entries_iff]

theorem contains_iff_mem_keys : d.contains k = true ↔ k ∈ d.keys := by
  simp [contains, keys]

theorem contains_iff : d.contains k = true ↔ ∃ v, d.get? k = some v := by
  simp only [contains, List.any_eq_true, decide_eq_true_eq, Prod.exists, ← mem_entries_iff]
  constructor
  · rintro ⟨a, b, hm, rfl⟩
    exact ⟨b, hm⟩
  · rintro ⟨b, hm⟩
    exact ⟨k, b, hm, rfl⟩

theorem contains_eq_false_iff : d.contains k = false ↔ d.get? k = none := by
  rw [← Bool.not_eq_true, contains_iff, Option.eq_none_iff_forall_ne_some]
  exact not_exists

/-! ## Operations -/

theorem lookup_put (es : List (String × β)) :
    (put k v es).lookup k' = if k' = k then some v else es.lookup k' := by
  induction es with
  | nil =>
    by_cases h : k' = k
    · simp [put, h]
    · have hbeq : (k' == k) = false := by simpa using h
      simp [put, List.lookup_cons, hbeq, h]
  | cons e rest ih =>
    obtain ⟨a, b⟩ := e
    by_cases h : k' = a
    · subst h
      by_cases hk : k' = k <;> simp [put, hk]
    · have hbeq : (k' == a) = false := by simpa using h
      by_cases ha : a = k
      · subst ha
        simp [put, List.lookup_cons, hbeq, h]
      · simp [put, List.lookup_cons, ha, hbeq, ih]

theorem get?_insert : (d.insert k v).get? k' = if k' = k then some v else d.get? k' :=
  lookup_put d.entries

theorem get?_insert_cases {u : β} (h : (d.insert k v).get? k' = some u) :
    (k' = k ∧ u = v) ∨ (k' ≠ k ∧ d.get? k' = some u) := by
  rw [get?_insert] at h
  by_cases hk : k' = k
  · rw [if_pos hk] at h
    exact Or.inl ⟨hk, (Option.some.inj h).symm⟩
  · rw [if_neg hk] at h
    exact Or.inr ⟨hk, h⟩

@[simp] theorem get?_insert_self : (d.insert k v).get? k = some v := by
  rw [get?_insert, if_pos rfl]

theorem get?_insert_of_ne (h : k' ≠ k) : (d.insert k v).get? k' = d.get? k' := by
  rw [get?_insert, if_neg h]

theorem get?_filter_eq_some_iff {p : String → β → Bool} :
    (d.filter p).get? k = some v ↔ d.get? k = some v ∧ p k v = true := by
  rw [← mem_entries_iff, ← mem_entries_iff]
  exact List.mem_filter

theorem get?_erase : (d.erase k).get? k' = if k' = k then none else d.get? k' := by
  refine Option.ext fun v => ?_
  rw [erase, get?_filter_eq_some_iff]
  by_cases h : k' = k <;> simp [h]

theorem get?_mapValues (f : β → γ) : (d.mapValues f).get? k = (d.get? k).map f := by
  refine Option.ext fun c => ?_
  rw [← mem_entries_iff, Option.map_eq_some_iff]
  simp only [mapValues, List.mem_map, Prod.mk.injEq, Prod.exists]
  constructor
  · rintro ⟨a, b, hm, rfl, rfl⟩
    exact ⟨b, mem_entries_iff.mp hm, rfl⟩
  · rintro ⟨b, hm, rfl⟩
    exact ⟨k, b, mem_entries_iff.mpr hm, rfl, rfl⟩

theorem get?_modify (f : β → β) :
    (d.modify k f).get? k' = if k' = k then (d.get? k').map f else d.get? k' := by
  have hmem : ∀ c, (k', c) ∈ (d.modify k f).entries ↔
      ∃ b, d.get? k' = some b ∧ (if k' = k then f b else b) = c := by
    intro c
    simp only [modify, List.mem_map, Prod.exists]
    constructor
    · rintro ⟨a, b, hm, heq⟩
      by_cases ha : a = k
      · rw [if_pos ha, Prod.mk.injEq] at heq
        obtain ⟨rfl, rfl⟩ := heq
        exact ⟨b, mem_entries_iff.mp hm, by rw [if_pos ha]⟩
      · rw [if_neg ha, Prod.mk.injEq] at heq
        obtain ⟨rfl, rfl⟩ := heq
        exact ⟨b, mem_entries_iff.mp hm, by rw [if_neg ha]⟩
    · rintro ⟨b, hb, rfl⟩
      refine ⟨k', b, mem_entries_iff.mpr hb, ?_⟩
      by_cases hk : k' = k <;> simp [hk]
  refine Option.ext fun c => ?_
  rw [← mem_entries_iff, hmem]
  by_cases hk : k' = k
  · simp only [hk, if_true, Option.map_eq_some_iff]
  · simp [hk]

theorem filter_congr {p q : String → β → Bool} (h : ∀ k v, d.get? k = some v → p k v = q k v) :
    d.filter p = d.filter q := by
  have he : d.entries.filter (fun e => p e.1 e.2) = d.entries.filter fun e => q e.1 e.2 :=
    List.filter_congr fun e hm => h e.1 e.2 (mem_entries_iff.mp hm)
  simpa only [filter, mk.injEq] using he

theorem filter_true : (d.filter fun _ _ => true) = d := by
  cases d
  simp [filter]

theorem filter_filter {p q : String → β → Bool} :
    (d.filter p).filter q = d.filter fun k v => p k v && q k v := by
  simp only [filter, List.filter_filter, Bool.and_comm]

/-! ## Lists of entries -/

theorem eq_of_entries_eq {d d' : Dict β} (h : d.entries = d'.entries) : d = d' := by
  cases d
  cases d'
  cases h
  rfl

theorem values_mapValues (f : β → γ) : (d.mapValues f).values = d.values.map f := by
  simp [values, mapValues, Function.comp_def]

theorem mapValues_eq_self_iff {f : β → β} : d.mapValues f = d ↔ ∀ v ∈ d.values, f v = v := by
  have hid : d.entries.map id = d.entries := List.map_id _
  rw [values, List.forall_mem_map]
  constructor
  · intro h e he
    have hentries : (d.entries.map fun e => (e.1, f e.2)) = d.entries.map id :=
      (congrArg entries h).trans hid.symm
    exact congrArg Prod.snd (List.map_inj_left.mp hentries e he)
  · intro h
    refine eq_of_entries_eq ((List.map_congr_left fun e he => ?_).trans hid)
    rw [h e he]
    rfl

theorem put_of_not_mem {es : List (String × β)} (h : k ∉ es.map Prod.fst) :
    put k v es = es ++ [(k, v)] := by
  induction es with
  | nil => rfl
  | cons e rest ih =>
    rw [List.map_cons, List.mem_cons, not_or] at h
    rw [put, if_neg fun he => h.1 he.symm, ih h.2, List.cons_append]

theorem entries_insert (h : d.get? k = none) : (d.insert k v).entries = d.entries ++ [(k, v)] := by
  refine put_of_not_mem fun hm => ?_
  obtain ⟨u, hu⟩ := contains_iff.mp (contains_iff_mem_keys.mpr hm)
  cases h.symm.trans hu

theorem entries_foldl_insert {es : List (String × β)}
    (h : ((d.entries ++ es).map Prod.fst).Nodup) :
    (es.foldl (fun d e => d.insert e.1 e.2) d).entries = d.entries ++ es := by
  induction es generalizing d with
  | nil => simp
  | cons e rest ih =>
    have hnew : e.1 ∉ d.entries.map Prod.fst := by
      rw [List.map_append, List.map_cons, List.nodup_append] at h
      exact fun hm => h.2.2 e.1 hm e.1 (List.mem_cons_self ..) rfl
    have hentries : (d.insert e.1 e.2).entries = d.entries ++ [e] := put_of_not_mem hnew
    rw [List.foldl_cons, ih, hentries, List.append_assoc, List.singleton_append]
    rwa [hentries, List.append_assoc, List.singleton_append]

/-- A dictionary has the entries it was made from exactly if their keys are distinct. -/
theorem entries_ofList_iff {es : List (String × β)} :
    (ofList es).entries = es ↔ (es.map Prod.fst).Nodup := by
  constructor
  · intro h
    have hnodup := (ofList es).nodup
    rwa [h] at hnodup
  · intro h
    have hempty : ((empty : Dict β).entries ++ es).map Prod.fst = es.map Prod.fst := rfl
    exact entries_foldl_insert (hempty ▸ h)

theorem get?_foldl_insert (es : List (String × β)) :
    (es.foldl (fun d e => d.insert e.1 e.2) d).get? k = (es.reverse.lookup k).or (d.get? k) := by
  induction es generalizing d with
  | nil => simp
  | cons e rest ih =>
    obtain ⟨a, b⟩ := e
    rw [List.foldl_cons, ih, List.reverse_cons, List.lookup_append, get?_insert, Option.or_assoc]
    congr 1
    by_cases hk : k = a
    · simp [hk]
    · have hbeq : (k == a) = false := by simpa using hk
      simp [List.lookup_cons, hbeq, hk]

/-- Under a key stands the last of the values that were given for it. -/
theorem get?_ofList (es : List (String × β)) : (ofList es).get? k = es.reverse.lookup k := by
  rw [ofList, get?_foldl_insert]
  exact Option.or_none

theorem mem_of_get?_ofList {es : List (String × β)} (h : (ofList es).get? k = some v) :
    (k, v) ∈ es := by
  rw [get?_ofList, List.lookup_eq_some_iff] at h
  obtain ⟨before, after, hsplit, -⟩ := h
  rw [← List.mem_reverse, hsplit]
  simp

theorem contains_ofList_iff {es : List (String × β)} :
    (ofList es).contains k = true ↔ k ∈ es.map Prod.fst := by
  rw [contains_iff]
  constructor
  · rintro ⟨v, hv⟩
    exact List.mem_map_of_mem (mem_of_get?_ofList hv)
  · intro h
    obtain ⟨e, he, rfl⟩ := List.mem_map.mp h
    cases hget : (ofList es).get? e.1 with
    | some v => exact ⟨v, rfl⟩
    | none =>
      rw [get?_ofList, List.lookup_eq_none_iff] at hget
      exact absurd (hget e (List.mem_reverse.mpr he)) (by simp)

/-- A key for which only one value was given has that value. -/
theorem get?_ofList_of_forall {es : List (String × β)} (hm : (k, v) ∈ es)
    (hall : ∀ u, (k, u) ∈ es → u = v) : (ofList es).get? k = some v := by
  obtain ⟨u, hu⟩ := contains_iff.mp (contains_ofList_iff.mpr (List.mem_map_of_mem hm))
  rw [hu, hall u (mem_of_get?_ofList hu)]

end Wirework.Dict
