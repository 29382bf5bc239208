import Wirework.Proofs.Json.Document

/-!
# Settled data

Where a key occurs twice in an object, the last value counts. Main statements: merging keys leaves
one entry for each and changes nothing where there was one already (`nodup_mergeKeys`,
`mergeKeys_of_nodup`), and what a document holds of a value comes back settled, as the value itself
if that was JSON data (`settle_printed_of_isJson`, `isJson_settle_printed`).
-/

namespace Wirework.Data

variable {α : Type} {d : Data}

/-! ## Keys -/

/-- One entry put among those that are merged already. -/
def mergeKey (done : List (String × α)) (e : String × α) : List (String × α) :=
  if done.any (·.1 = e.1) then done.map fun d => if d.1 = e.1 then (d.1, e.2) else d
  else done ++ [e]

theorem nodup_mergeKey {done : List (String × α)} (h : (done.map Prod.fst).Nodup)
    (e : String × α) : ((mergeKey done e).map Prod.fst).Nodup := by
  unfold mergeKey
  split
  · have hkeys : (done.map fun d => if d.1 = e.1 then (d.1, e.2) else d).map Prod.fst =
        done.map Prod.fst := by
      rw [List.map_map]
      refine List.map_congr_left fun d _ => ?_
      simp only [Function.comp_apply]
      split <;> rfl
    rwa [hkeys]
  · rename_i hnew
    rw [List.map_append, List.map_singleton, List.nodup_append]
    refine ⟨h, by simp, ?_⟩
    rintro a ha b hb rfl
    obtain ⟨d, hd, rfl⟩ := List.mem_map.mp ha
    rw [List.mem_singleton] at hb
    exact hnew (List.any_eq_true.mpr ⟨d, hd, by simpa using hb⟩)

theorem nodup_mergeKeys (entries : List (String × α)) :
    ((mergeKeys entries).map Prod.fst).Nodup := by
  have hfold : ∀ done : List (String × α), (done.map Prod.fst).Nodup →
      ((entries.foldl mergeKey done).map Prod.fst).Nodup := by
    induction entries with
    | nil => exact fun _ h => h
    | cons e entries ih => exact fun done h => ih _ (nodup_mergeKey h e)
  exact hfold [] List.nodup_nil

theorem mem_mergeKey {done : List (String × α)} {e x : String × α} (h : x ∈ mergeKey done e) :
    (∃ d ∈ done, d.2 = x.2) ∨ e.2 = x.2 := by
  unfold mergeKey at h
  split at h
  · obtain ⟨d, hd, rfl⟩ := List.mem_map.mp h
    split
    · exact Or.inr rfl
    · exact Or.inl ⟨d, hd, rfl⟩
  · rcases List.mem_append.mp h with h | h
    · exact Or.inl ⟨x, h, rfl⟩
    · rw [List.mem_singleton.mp h]
      exact Or.inr rfl

theorem mem_mergeKeys {entries : List (String × α)} {x : String × α} (h : x ∈ mergeKeys entries) :
    ∃ e ∈ entries, e.2 = x.2 := by
  have hfold : ∀ done : List (String × α), x ∈ entries.foldl mergeKey done →
      (∃ d ∈ done, d.2 = x.2) ∨ ∃ e ∈ entries, e.2 = x.2 := by
    clear h
    induction entries with
    | nil => exact fun done h => Or.inl ⟨x, h, rfl⟩
    | cons e entries ih =>
      intro done h
      rcases ih _ h with ⟨d, hd, hval⟩ | ⟨e', he', hval⟩
      · rcases mem_mergeKey hd with ⟨d', hd', hval'⟩ | hval'
        · exact Or.inl ⟨d', hd', hval'.trans hval⟩
        · exact Or.inr ⟨e, List.mem_cons_self, hval'.trans hval⟩
      · exact Or.inr ⟨e', List.mem_cons_of_mem _ he', hval⟩
  rcases hfold [] h with ⟨d, hd, -⟩ | h
  · cases hd
  · exact h

theorem mergeKeys_of_nodup {entries : List (String × α)} (h : (entries.map Prod.fst).Nodup) :
    mergeKeys entries = entries := by
  have hfold : ∀ done : List (String × α), ((done ++ entries).map Prod.fst).Nodup →
      entries.foldl mergeKey done = done ++ entries := by
    clear h
    induction entries with
    | nil => exact fun done _ => (List.append_nil done).symm
    | cons e entries ih =>
      intro done h
      have hnew : done.any (·.1 = e.1) = false := by
        rw [List.any_eq_false]
        intro d hd heq
        rw [List.map_append, List.nodup_append] at h
        exact h.2.2 d.1 (List.mem_map_of_mem hd) e.1 (by simp) (by simpa using heq)
      have hstep : mergeKey done e = done ++ [e] := by
        unfold mergeKey
        rw [hnew]
        rfl
      rw [List.foldl_cons, hstep, ih (done ++ [e]) (by rwa [List.append_assoc]), List.append_assoc]
      rfl
  exact hfold [] h

/-! ## Values -/

theorem settleItems_eq (items : List Data) : settleItems items = items.map settle := by
  induction items with
  | nil => rfl
  | cons d items ih => rw [settleItems, ih, List.map_cons]

theorem settleEntries_eq (entries : List (String × Data)) :
    settleEntries entries = entries.map fun e => (e.1, e.2.settle) := by
  induction entries with
  | nil => rfl
  | cons e entries ih => rw [settleEntries, ih, List.map_cons]

/-- JSON data: numbers have digits, keys are texts, and no key of an object occurs twice. -/
inductive IsJson : Data → Prop where
  | null : IsJson .null
  | bool (b : Bool) : IsJson (.bool b)
  | int (n : Int) : IsJson (.int n)
  | float {x : Double} (h : x.isFinite = true) : IsJson (.float x)
  | text (s : String) : IsJson (.text s)
  | list {items : List Data} (h : ∀ d ∈ items, IsJson d) : IsJson (.list items)
  | object {entries : List (String × Data)} (hkeys : (entries.map Prod.fst).Nodup)
      (h : ∀ e ∈ entries, IsJson e.2) : IsJson (.object entries)

theorem settle_printed_of_isJson (h : d.IsJson) : d.printed.settle = d := by
  induction h with
  | null => rfl
  | bool b => rfl
  | int n => rfl
  | float hx =>
    rw [printed, if_pos hx]
    rfl
  | text s => rfl
  | list hitems ih =>
    rename_i items
    have hsame : (items.map printed).map settle = items := by
      rw [List.map_map]
      exact (List.map_congr_left ih).trans (List.map_id items)
    rw [printed_list, settle, settleItems_eq, hsame]
  | object hkeys hentries ih =>
    rename_i entries
    have hsame : (entries.map fun e => (e.1, e.2.printed)).map (fun e => (e.1, e.2.settle)) =
        entries := by
      rw [List.map_map]
      conv_rhs => rw [← List.map_id entries]
      exact List.map_congr_left fun e he => Prod.ext rfl (ih e he)
    rw [printed_object, settle, settleEntries_eq, hsame, mergeKeys_of_nodup hkeys]

theorem isJson_settle_list {items : List Data} (h : ∀ d ∈ items, d.settle.IsJson) :
    (Data.list items).settle.IsJson := by
  rw [settle, settleItems_eq]
  refine .list fun d hd => ?_
  obtain ⟨d', hd', rfl⟩ := List.mem_map.mp hd
  exact h d' hd'

theorem isJson_settle_object {entries : List (String × Data)}
    (h : ∀ e ∈ entries, e.2.settle.IsJson) : (Data.object entries).settle.IsJson := by
  rw [settle, settleEntries_eq]
  refine .object (nodup_mergeKeys _) fun e he => ?_
  obtain ⟨e', he', hval⟩ := mem_mergeKeys he
  obtain ⟨e'', he'', rfl⟩ := List.mem_map.mp he'
  rw [← hval]
  exact h e'' he''

theorem isJson_settle_float (x : Double) :
    (if x.isFinite then Data.float x else Data.null).settle.IsJson := by
  split
  · exact .float ‹_›
  · exact .null

mutual

theorem isJson_printedContent (v : Setting) : v.printedContent.settle.IsJson := by
  cases v with
  | null => exact .null
  | bool b => exact .bool b
  | int n => exact .int n
  | float x => exact isJson_settle_float x
  | string s => exact .text s
  | array items => exact isJson_settle_list (isJson_printedSettings items)
  | object entries => exact isJson_settle_object (isJson_printedFields entries)

theorem isJson_printedSettings (items : List Setting) :
    ∀ d ∈ Setting.printedItems items, d.settle.IsJson := by
  cases items with
  | nil => exact fun _ h => nomatch h
  | cons v items =>
    refine List.forall_mem_cons.mpr ⟨isJson_settle_object ?_, isJson_printedSettings items⟩
    exact List.forall_mem_cons.mpr
      ⟨.text _, List.forall_mem_singleton.mpr (isJson_printedContent v)⟩

theorem isJson_printedFields (entries : List (String × Setting)) :
    ∀ e ∈ Setting.printedEntries entries, e.2.settle.IsJson := by
  cases entries with
  | nil => exact fun _ h => nomatch h
  | cons e entries =>
    obtain ⟨key, v⟩ := e
    refine List.forall_mem_cons.mpr ⟨isJson_settle_object ?_, isJson_printedFields entries⟩
    exact List.forall_mem_cons.mpr
      ⟨.text _, List.forall_mem_singleton.mpr (isJson_printedContent v)⟩

end

mutual

theorem isJson_settle_printed (d : Data) : d.printed.settle.IsJson := by
  cases d with
  | null => exact .null
  | bool b => exact .bool b
  | int n => exact .int n
  | float x => exact isJson_settle_float x
  | text s => exact .text s
  | list items => exact isJson_settle_list (isJson_printedItems items)
  | tuple items => exact isJson_settle_list (isJson_printedItems items)
  | object entries => exact isJson_settle_object (isJson_printedEntries entries)
  | mapping pairs => exact isJson_settle_object (isJson_printedPairs pairs)
  | member _ _ value => exact isJson_settle_printed value
  | setting v =>
    refine isJson_settle_object (List.forall_mem_cons.mpr ⟨.text _, ?_⟩)
    exact List.forall_mem_singleton.mpr (isJson_printedContent v)
  | kind k => exact .text k.label
  | named s => exact .null
  | sealed => exact .null

theorem isJson_printedItems (items : List Data) : ∀ d ∈ printedItems items, d.settle.IsJson := by
  cases items with
  | nil => exact fun _ h => nomatch h
  | cons d items =>
    exact List.forall_mem_cons.mpr ⟨isJson_settle_printed d, isJson_printedItems items⟩

theorem isJson_printedEntries (entries : List (String × Data)) :
    ∀ e ∈ printedEntries entries, e.2.settle.IsJson := by
  cases entries with
  | nil => exact fun _ h => nomatch h
  | cons e entries =>
    obtain ⟨key, d⟩ := e
    exact List.forall_mem_cons.mpr ⟨isJson_settle_printed d, isJson_printedEntries entries⟩

theorem isJson_printedPairs (pairs : List (Data × Data)) :
    ∀ e ∈ printedPairs pairs, e.2.settle.IsJson := by
  cases pairs with
  | nil => exact fun _ h => nomatch h
  | cons e pairs =>
    obtain ⟨key, d⟩ := e
    exact List.forall_mem_cons.mpr ⟨isJson_settle_printed d, isJson_printedPairs pairs⟩

end

end Wirework.Data
