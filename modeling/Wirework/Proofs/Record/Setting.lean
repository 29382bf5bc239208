import Wirework.Proofs.Record.Restoring
import Wirework.Record.Nesting
import Wirework.Record.Setting

/-!
# Settings read back

A setting comes back from a document exactly if its numbers have digits, and as it was if moreover
no key of an object occurs twice in it. Settings hold settings, so the proofs go by recursion on them.
Without a document in between, settings and native values stand for each other one to one, whatever
their numbers are (`ofData_plain_inverse`).
-/

namespace Wirework.Setting

open Reading (Yields)

instance : Labelled.Lawful Kind := ⟨fun k => by cases k <;> decide⟩

/-- All numbers in the setting have digits. -/
inductive IsFinite : Setting → Prop where
  | null : IsFinite .null
  | bool (b : Bool) : IsFinite (.bool b)
  | int (n : Int) : IsFinite (.int n)
  | float {x : Double} (h : x.isFinite = true) : IsFinite (.float x)
  | string (s : String) : IsFinite (.string s)
  | array {items : List Setting} (h : ∀ v ∈ items, IsFinite v) : IsFinite (.array items)
  | object {entries : List (String × Setting)} (h : ∀ e ∈ entries, IsFinite e.2) :
      IsFinite (.object entries)

/-- No key of an object occurs twice in the setting. -/
inductive HasKeys : Setting → Prop where
  | null : HasKeys .null
  | bool (b : Bool) : HasKeys (.bool b)
  | int (n : Int) : HasKeys (.int n)
  | float (x : Double) : HasKeys (.float x)
  | string (s : String) : HasKeys (.string s)
  | array {items : List Setting} (h : ∀ v ∈ items, HasKeys v) : HasKeys (.array items)
  | object {entries : List (String × Setting)} (hkeys : (entries.map Prod.fst).Nodup)
      (h : ∀ e ∈ entries, HasKeys e.2) : HasKeys (.object entries)

mutual

def restored? : Setting → Option Setting
  | .float x => if x.isFinite then some (.float x) else none
  | .array items => (restoredItems? items).map .array
  | .object entries => (restoredEntries? entries).map fun es => .object (Data.mergeKeys es)
  | v => some v

def restoredItems? : List Setting → Option (List Setting)
  | [] => some []
  | v :: rest => do
    let first ← restored? v
    let others ← restoredItems? rest
    return first :: others

def restoredEntries? : List (String × Setting) → Option (List (String × Setting))
  | [] => some []
  | (key, v) :: rest => do
    let first ← restored? v
    let others ← restoredEntries? rest
    return (key, first) :: others

end

/-! ## Reading -/

theorem fit_yields (path : List String) {k : Kind} {v : Setting} (h : v.kind = k) :
    (fit path k (.fits v)).Yields (some v) := by
  subst h
  have hfit : fit path v.kind (.fits v) = pure v := by cases v <;> rfl
  rw [hfit]
  exact Reading.yields_pure v

theorem kind_eq (path : List String) (k : Kind) (c : Data) :
    (Record.Source.ofEntries path [("kind", .text k.label), ("value", c)]).fieldOr "kind" Kind.null =
      pure k :=
  Record.read_label ("kind" :: path) k

theorem assemble_yields (path : List String) (k : Kind) {c : Data} {o o' : Option Setting}
    (hread : (readAny c).Yields (some (o.map Content.fits))) (hnone : o = none → o' = none)
    (hfit : ∀ v, o = some v → (fit path k (.fits v)).Yields o') :
    (assemble (.ofEntries path [("kind", .text k.label), ("value", c)]) (some (readAny c))).Yields
      o' := by
  unfold assemble
  refine Yields.checked (o := o.map fun v => (k, Content.fits v)) ?_ ?_ ?_
  · rw [kind_eq, pure_bind]
    refine hread.then ?_
    cases o with
    | none => exact (Reading.yields_complain _ _).bind fun v => Reading.yields_pure (k, v)
    | some v => exact Reading.yields_pure (k, Content.fits v)
  · simpa using hnone
  · intro p hp
    obtain ⟨v, hv, rfl⟩ := Option.map_eq_some_iff.mp hp
    exact hfit v hv

theorem read_printed (path : List String) (v : Setting) :
    read path v.printed = .deeper path (assemble (.ofEntries path
      [("kind", .text v.kind.label), ("value", v.printedContent)])
        (some (readAny v.printedContent))) := by
  rw [printed, read]
  rfl

/-- A setting comes back if its content does, with the same kind. -/
theorem read_yields_of_content (path : List String) {v : Setting}
    (hread : (readAny v.printedContent).Yields (some (v.restored?.map Content.fits)))
    (hkind : ∀ u, v.restored? = some u → u.kind = v.kind) :
    (read path v.printed).Yields v.restored? := by
  rw [read_printed]
  refine (assemble_yields path v.kind hread id fun u hu => ?_).deeper path
  rw [hu]
  exact fit_yields path (hkind u hu)

/-- A setting without parts is its own content. -/
theorem read_yields_of_scalar (path : List String) {v : Setting}
    (hread : readAny v.printedContent = pure (some (.fits v))) (hv : v.restored? = some v) :
    (read path v.printed).Yields v.restored? := by
  refine read_yields_of_content path ?_ fun u hu => ?_
  · rw [hread, hv]
    exact Reading.yields_pure _
  · rw [Option.some.inj (hv.symm.trans hu)]

/-- A number without digits is printed as a null, which does not fit its kind. -/
theorem read_yields_of_not_finite (path : List String) {x : Double} (hx : ¬x.isFinite = true) :
    (read path (printed (.float x))).Yields (restored? (.float x)) := by
  have hcontent : printedContent (.float x) = .null := by rw [printedContent, if_neg hx]
  rw [read_printed, restored?, if_neg hx, hcontent]
  refine Reading.Yields.deeper ?_ path
  refine assemble_yields path .float (o := some .null) (Reading.yields_pure _) nofun ?_
  rintro u hu
  obtain rfl := Option.some.inj hu
  exact Reading.yields_complain path _

mutual

theorem read_yields (path : List String) (v : Setting) :
    (read path v.printed).Yields v.restored? := by
  cases v with
  | null => exact read_yields_of_scalar path rfl rfl
  | bool b => exact read_yields_of_scalar path rfl rfl
  | int n => exact read_yields_of_scalar path rfl rfl
  | string s => exact read_yields_of_scalar path rfl rfl
  | float x =>
    by_cases hx : x.isFinite = true
    · refine read_yields_of_scalar path ?_ ?_
      · rw [printedContent, if_pos hx, readAny]
      · rw [restored?, if_pos hx]
    · exact read_yields_of_not_finite path hx
  | array items =>
    refine read_yields_of_content path ?_ fun u hu => ?_
    · rw [printedContent, readAny, restored?, Option.map_map]
      exact (readItems_yields items).attempt.then (Reading.yields_pure _)
    · obtain ⟨vs, -, rfl⟩ := Option.map_eq_some_iff.mp hu
      rfl
  | object entries =>
    refine read_yields_of_content path ?_ fun u hu => ?_
    · rw [printedContent, readAny, restored?, Option.map_map]
      exact (readEntries_yields entries).attempt.then (Reading.yields_pure _)
    · obtain ⟨es, -, rfl⟩ := Option.map_eq_some_iff.mp hu
      rfl

theorem readItems_yields (items : List Setting) :
    (readItems (printedItems items)).Yields (restoredItems? items) := by
  cases items with
  | nil => exact Reading.yields_pure []
  | cons v items =>
    rw [printedItems, readItems, restoredItems?]
    exact (read_yields [] v).bind fun first =>
      (readItems_yields items).bind fun others => Reading.yields_pure (first :: others)

theorem readEntries_yields (entries : List (String × Setting)) :
    (readEntries (printedEntries entries)).Yields (restoredEntries? entries) := by
  cases entries with
  | nil => exact Reading.yields_pure []
  | cons e entries =>
    obtain ⟨key, v⟩ := e
    rw [printedEntries, readEntries, restoredEntries?]
    exact (read_yields [] v).bind fun first =>
      (readEntries_yields entries).bind fun others => Reading.yields_pure ((key, first) :: others)

end

/-! ## What comes back -/

mutual

theorem isSome_restored? (v : Setting) : v.restored?.isSome = true ↔ v.IsFinite := by
  cases v with
  | null => exact iff_of_true rfl .null
  | bool b => exact iff_of_true rfl (.bool b)
  | int n => exact iff_of_true rfl (.int n)
  | string s => exact iff_of_true rfl (.string s)
  | float x =>
    rw [restored?]
    split
    · exact iff_of_true rfl (.float ‹_›)
    · refine iff_of_false nofun ?_
      rintro ⟨⟩
      contradiction
  | array items =>
    rw [restored?, Option.isSome_map, isSome_restoredItems? items]
    exact ⟨.array, fun h => by cases h; assumption⟩
  | object entries =>
    rw [restored?, Option.isSome_map, isSome_restoredEntries? entries]
    exact ⟨.object, fun h => by cases h; assumption⟩

theorem isSome_restoredItems? (items : List Setting) :
    (restoredItems? items).isSome = true ↔ ∀ v ∈ items, v.IsFinite := by
  cases items with
  | nil => exact iff_of_true rfl nofun
  | cons v items =>
    rw [List.forall_mem_cons, ← isSome_restored? v, ← isSome_restoredItems? items, restoredItems?]
    cases v.restored? with
    | none => simp
    | some u => cases restoredItems? items <;> simp

theorem isSome_restoredEntries? (entries : List (String × Setting)) :
    (restoredEntries? entries).isSome = true ↔ ∀ e ∈ entries, e.2.IsFinite := by
  cases entries with
  | nil => exact iff_of_true rfl nofun
  | cons e entries =>
    obtain ⟨key, v⟩ := e
    rw [List.forall_mem_cons, ← isSome_restored? v, ← isSome_restoredEntries? entries,
      restoredEntries?]
    cases v.restored? with
    | none => simp
    | some u => cases restoredEntries? entries <;> simp

end

mutual

theorem restored?_of_isFinite {v : Setting} (hfinite : v.IsFinite) (hkeys : v.HasKeys) :
    v.restored? = some v := by
  cases v with
  | null => rfl
  | bool b => rfl
  | int n => rfl
  | string s => rfl
  | float x =>
    cases hfinite with
    | float h => rw [restored?, if_pos h]
  | array items =>
    cases hfinite with
    | array hf =>
      cases hkeys with
      | array hk => rw [restored?, restoredItems?_of_isFinite hf hk, Option.map_some]
  | object entries =>
    cases hfinite with
    | object hf =>
      cases hkeys with
      | object hnodup hk =>
        rw [restored?, restoredEntries?_of_isFinite hf hk, Option.map_some,
          Data.mergeKeys_of_nodup hnodup]

theorem restoredItems?_of_isFinite {items : List Setting} (hfinite : ∀ v ∈ items, v.IsFinite)
    (hkeys : ∀ v ∈ items, v.HasKeys) : restoredItems? items = some items := by
  cases items with
  | nil => rfl
  | cons v items =>
    obtain ⟨hf, hfs⟩ := List.forall_mem_cons.mp hfinite
    obtain ⟨hk, hks⟩ := List.forall_mem_cons.mp hkeys
    rw [restoredItems?, restored?_of_isFinite hf hk, restoredItems?_of_isFinite hfs hks]
    rfl

theorem restoredEntries?_of_isFinite {entries : List (String × Setting)}
    (hfinite : ∀ e ∈ entries, e.2.IsFinite) (hkeys : ∀ e ∈ entries, e.2.HasKeys) :
    restoredEntries? entries = some entries := by
  cases entries with
  | nil => rfl
  | cons e entries =>
    obtain ⟨key, v⟩ := e
    obtain ⟨hf, hfs⟩ := List.forall_mem_cons.mp hfinite
    obtain ⟨hk, hks⟩ := List.forall_mem_cons.mp hkeys
    rw [restoredEntries?, restored?_of_isFinite hf hk, restoredEntries?_of_isFinite hfs hks]
    rfl

end

mutual

/-- What has come back would come back as it is. -/
theorem faithful_of_restored? {v u : Setting} (h : v.restored? = some u) :
    u.IsFinite ∧ u.HasKeys := by
  cases v with
  | null =>
    obtain rfl := Option.some.inj h
    exact ⟨.null, .null⟩
  | bool b =>
    obtain rfl := Option.some.inj h
    exact ⟨.bool b, .bool b⟩
  | int n =>
    obtain rfl := Option.some.inj h
    exact ⟨.int n, .int n⟩
  | string s =>
    obtain rfl := Option.some.inj h
    exact ⟨.string s, .string s⟩
  | float x =>
    rw [restored?] at h
    split at h
    · obtain rfl := Option.some.inj h
      exact ⟨.float ‹_›, .float x⟩
    · cases h
  | array items =>
    obtain ⟨vs, hvs, rfl⟩ := Option.map_eq_some_iff.mp h
    have hall := faithful_of_restoredItems? hvs
    exact ⟨.array fun v hv => (hall v hv).1, .array fun v hv => (hall v hv).2⟩
  | object entries =>
    obtain ⟨es, hes, rfl⟩ := Option.map_eq_some_iff.mp h
    have hall : ∀ e ∈ Data.mergeKeys es, e.2.IsFinite ∧ e.2.HasKeys := by
      intro e he
      obtain ⟨e', he', hval⟩ := Data.mem_mergeKeys he
      rw [← hval]
      exact faithful_of_restoredEntries? hes e' he'
    exact ⟨.object fun e he => (hall e he).1,
      .object (Data.nodup_mergeKeys es) fun e he => (hall e he).2⟩

theorem faithful_of_restoredItems? {items vs : List Setting} (h : restoredItems? items = some vs) :
    ∀ v ∈ vs, v.IsFinite ∧ v.HasKeys := by
  cases items with
  | nil =>
    obtain rfl := Option.some.inj h
    exact fun _ h => nomatch h
  | cons v items =>
    simp only [restoredItems?, Option.bind_eq_bind, Option.bind_eq_some_iff] at h
    obtain ⟨first, hfirst, others, hothers, hall⟩ := h
    obtain rfl := Option.some.inj hall
    exact List.forall_mem_cons.mpr
      ⟨faithful_of_restored? hfirst, faithful_of_restoredItems? hothers⟩

theorem faithful_of_restoredEntries? {entries es : List (String × Setting)}
    (h : restoredEntries? entries = some es) : ∀ e ∈ es, e.2.IsFinite ∧ e.2.HasKeys := by
  cases entries with
  | nil =>
    obtain rfl := Option.some.inj h
    exact fun _ h => nomatch h
  | cons e entries =>
    obtain ⟨key, v⟩ := e
    simp only [restoredEntries?, Option.bind_eq_bind, Option.bind_eq_some_iff] at h
    obtain ⟨first, hfirst, others, hothers, hall⟩ := h
    obtain rfl := Option.some.inj hall
    exact List.forall_mem_cons.mpr
      ⟨faithful_of_restored? hfirst, faithful_of_restoredEntries? hothers⟩

end

/-! ## Writing -/

theorem writable_record {k : Kind} {c : Data} (h : c.Writable) :
    (Data.object [("kind", .text k.label), ("value", c)]).Writable :=
  Data.writable_object (List.forall_mem_cons.mpr
    ⟨Data.writable_text _, List.forall_mem_singleton.mpr h⟩)

mutual

theorem writable_contentData (v : Setting) : v.contentData.Writable := by
  cases v with
  | array items =>
    rw [contentData]
    exact Data.writable_list (writable_itemsData items)
  | object entries =>
    rw [contentData]
    exact Data.writable_object (writable_entriesData entries)
  | _ =>
    rw [contentData]
    exact fun _ _ => rfl

theorem writable_itemsData (items : List Setting) : ∀ d ∈ itemsData items, d.Writable := by
  cases items with
  | nil =>
    rw [itemsData]
    exact fun _ h => nomatch h
  | cons v items =>
    rw [itemsData, toData]
    exact List.forall_mem_cons.mpr
      ⟨writable_record (writable_contentData v), writable_itemsData items⟩

theorem writable_entriesData (entries : List (String × Setting)) :
    ∀ e ∈ entriesData entries, e.2.Writable := by
  cases entries with
  | nil =>
    rw [entriesData]
    exact fun _ h => nomatch h
  | cons e entries =>
    obtain ⟨key, v⟩ := e
    rw [entriesData, toData]
    exact List.forall_mem_cons.mpr
      ⟨writable_record (writable_contentData v), writable_entriesData entries⟩

end

theorem writable_toData (v : Setting) : v.toData.Writable := by
  rw [toData]
  exact writable_record (writable_contentData v)

theorem printed_record (k : Kind) (c : Data) :
    (Data.object [("kind", .text k.label), ("value", c)]).printed =
      .object [("kind", .text k.label), ("value", c.printed)] := rfl

mutual

theorem printed_contentData (v : Setting) : v.contentData.printed = v.printedContent := by
  cases v with
  | array items => rw [contentData, Data.printed, printedContent, printed_itemsData items]
  | object entries => rw [contentData, Data.printed, printedContent, printed_entriesData entries]
  | _ =>
    rw [contentData]
    rfl

theorem printed_itemsData (items : List Setting) :
    Data.printedItems (itemsData items) = printedItems items := by
  cases items with
  | nil =>
    rw [itemsData]
    rfl
  | cons v items =>
    rw [itemsData, toData, Data.printedItems, printedItems, printed_record, printed_contentData v,
      printed_itemsData items]

theorem printed_entriesData (entries : List (String × Setting)) :
    Data.printedEntries (entriesData entries) = printedEntries entries := by
  cases entries with
  | nil =>
    rw [entriesData]
    rfl
  | cons e entries =>
    obtain ⟨key, v⟩ := e
    rw [entriesData, toData, Data.printedEntries, printedEntries, printed_record,
      printed_contentData v, printed_entriesData entries]

end

theorem printed_toData (v : Setting) : v.toData.printed = v.printed := by
  rw [toData, printed_record, printed_contentData, printed]

instance : Restorable Setting where
  restored := restored?
  Reopens := IsFinite
  Faithful v := v.IsFinite ∧ v.HasKeys
  yields path v := by
    have hdata : (Record.toData v).printed = v.printed := printed_toData v
    rw [hdata]
    exact (read_yields path v).deeper path
  isSome_restored := isSome_restored?
  restored_of_faithful h := restored?_of_isFinite h.1 h.2
  faithful_of_restored := faithful_of_restored?
  writable {v} _ := writable_toData v

instance : NeverNull Setting := ⟨fun v => by
  have hdata : (Record.toData v).printed = v.printed := printed_toData v
  rw [hdata]
  exact nofun⟩

/-! ## Without a document -/

theorem read_toData (path : List String) (v : Setting) :
    read path v.toData = .deeper path (assemble (.ofEntries path
      [("kind", .text v.kind.label), ("value", v.contentData)]) (some (readAny v.contentData))) := by
  rw [toData, read]
  rfl

/-- A setting is read as it is if its content is, one level further down. -/
theorem returns_read_of_content (path : List String) {v : Setting} {room : Nat}
    (h : (readAny v.contentData).Returns room (some (.fits v))) :
    (read path v.toData).Returns (room + 1) v := by
  rw [read_toData]
  refine Reading.Returns.deeper (Reading.Returns.checked (a := (v.kind, Content.fits v)) ?_ ?_) path
  · rw [kind_eq, pure_bind]
    exact h.bind (Reading.returns_pure room _)
  · have hfit : fit path v.kind (.fits v) = pure v := by cases v <;> rfl
    change (fit path v.kind (.fits v)).Returns room v
    rw [hfit]
    exact Reading.returns_pure room v

theorem returns_readItems {items : List Setting} {room : Nat}
    (h : ∀ v ∈ items, (read [] v.toData).Returns room v) :
    (readItems (itemsData items)).Returns room items := by
  induction items with
  | nil =>
    rw [itemsData, readItems]
    exact Reading.returns_pure room []
  | cons v items ih =>
    obtain ⟨hv, hitems⟩ := List.forall_mem_cons.mp h
    rw [itemsData, readItems]
    exact hv.bind ((ih hitems).bind (Reading.returns_pure room _))

theorem returns_readEntries {entries : List (String × Setting)} {room : Nat}
    (h : ∀ e ∈ entries, (read [] e.2.toData).Returns room e.2) :
    (readEntries (entriesData entries)).Returns room entries := by
  induction entries with
  | nil =>
    rw [entriesData, readEntries]
    exact Reading.returns_pure room []
  | cons e entries ih =>
    obtain ⟨he, hentries⟩ := List.forall_mem_cons.mp h
    rw [entriesData, readEntries]
    exact he.bind ((ih hentries).bind (Reading.returns_pure room _))

theorem nesting_le_of_mem {items : List Setting} : ∀ v ∈ items, v.nesting ≤ itemsNesting items := by
  induction items with
  | nil => exact List.forall_mem_nil _
  | cons v items ih =>
    rw [itemsNesting, List.forall_mem_cons]
    exact ⟨le_max_left _ _, fun u hu => (ih u hu).trans (le_max_right _ _)⟩

theorem nesting_le_of_mem_entries {entries : List (String × Setting)} :
    ∀ e ∈ entries, e.2.nesting ≤ entriesNesting entries := by
  induction entries with
  | nil => exact List.forall_mem_nil _
  | cons e entries ih =>
    obtain ⟨key, v⟩ := e
    rw [entriesNesting, List.forall_mem_cons]
    exact ⟨le_max_left _ _, fun u hu => (ih u hu).trans (le_max_right _ _)⟩

/-- A setting in which no key occurs twice is read as it is, where there is room for it. -/
theorem returns_read {v : Setting} (h : v.HasKeys) (path : List String) {room : Nat}
    (hroom : v.nesting ≤ 2 * room) : (read path v.toData).Returns room v := by
  induction h generalizing path room with
  | @array items _ ih =>
    rw [nesting, contentNesting] at hroom
    obtain ⟨room, rfl⟩ : ∃ r, room = r + 1 := ⟨room - 1, by omega⟩
    refine returns_read_of_content path ?_
    rw [contentData, readAny]
    refine (returns_readItems fun v hv => ih v hv [] ?_).attempt.bind (Reading.returns_pure room _)
    have hle := nesting_le_of_mem v hv
    omega
  | @object entries hkeys _ ih =>
    rw [nesting, contentNesting] at hroom
    obtain ⟨room, rfl⟩ : ∃ r, room = r + 1 := ⟨room - 1, by omega⟩
    refine returns_read_of_content path ?_
    rw [contentData, readAny]
    refine Reading.Returns.bind (a := some entries) (returns_readEntries fun e he => ?_).attempt ?_
    · refine ih e he [] ?_
      have hle := nesting_le_of_mem_entries e he
      omega
    · rw [Option.map_some, Data.mergeKeys_of_nodup hkeys]
      exact Reading.returns_pure room _
  | _ =>
    rw [nesting, contentNesting] at hroom
    · obtain ⟨room, rfl⟩ : ∃ r, room = r + 1 := ⟨room - 1, by omega⟩
      refine returns_read_of_content path ?_
      rw [contentData, readAny]
      exact Reading.returns_pure room _
    all_goals intro _ hv; cases hv

/-- Content that is a setting in which no key occurs twice. -/
def Content.IsKeyed (c : Content) : Prop := ∃ u : Setting, c = .fits u ∧ u.HasKeys

theorem gives_fit (path : List String) (k : Kind) {c : Content} (hc : c.IsKeyed) :
    (fit path k c).Gives HasKeys := by
  obtain ⟨u, rfl, hu⟩ := hc
  unfold fit
  dsimp only
  generalize Fault.inconsistent _ = fault
  split
  · split
    · exact Reading.gives_pure (HasKeys.float _)
    · intro s a s' hrun
      cases hrun
  · rename_i hfits
    obtain rfl := Content.fits.inj hfits
    split
    · exact Reading.gives_pure hu
    · exact Reading.gives_complain _ _ .null
  all_goals contradiction

theorem gives_read_of_content (path : List String) {v : Setting}
    (h : (readAny v.contentData).Gives fun o => ∀ c ∈ o, c.IsKeyed) :
    (read path v.toData).Gives HasKeys := by
  rw [read_toData]
  refine Reading.gives_deeper path ?_ .null
  refine Reading.gives_checked (P := fun p => p.2.IsKeyed) ?_ (fun p hp => gives_fit path p.1 hp) .null
  rw [kind_eq, pure_bind]
  refine Reading.gives_bind h fun o ho => ?_
  cases o with
  | none =>
    refine Reading.gives_bind (P := Content.IsKeyed)
      (Reading.gives_complain _ _ ⟨.null, rfl, .null⟩) fun c hc => ?_
    exact Reading.gives_pure hc
  | some c => exact Reading.gives_pure (ho c rfl)

mutual

theorem gives_readAny (v : Setting) :
    (readAny v.contentData).Gives fun o => ∀ c ∈ o, c.IsKeyed := by
  cases v with
  | array items =>
    rw [contentData, readAny]
    refine Reading.gives_bind (Reading.gives_attempt (gives_readItems items)) fun o ho => ?_
    refine Reading.gives_pure fun c hc => ?_
    obtain ⟨vs, hvs, rfl⟩ := Option.map_eq_some_iff.mp hc
    exact ⟨_, rfl, .array (ho vs hvs)⟩
  | object entries =>
    rw [contentData, readAny]
    refine Reading.gives_bind (Reading.gives_attempt (gives_readEntries entries)) fun o ho => ?_
    refine Reading.gives_pure fun c hc => ?_
    obtain ⟨es, hes, rfl⟩ := Option.map_eq_some_iff.mp hc
    refine ⟨_, rfl, .object (Data.nodup_mergeKeys es) fun e he => ?_⟩
    obtain ⟨e', he', hval⟩ := Data.mem_mergeKeys he
    exact hval ▸ ho es hes e' he'
  | _ =>
    rw [contentData, readAny]
    refine Reading.gives_pure fun c hc => ⟨_, (Option.some.inj hc).symm, ?_⟩
    constructor

theorem gives_readItems (items : List Setting) :
    (readItems (itemsData items)).Gives fun vs => ∀ v ∈ vs, v.HasKeys := by
  cases items with
  | nil =>
    rw [itemsData, readItems]
    exact Reading.gives_pure (List.forall_mem_nil _)
  | cons v items =>
    rw [itemsData, readItems]
    refine Reading.gives_bind (gives_read_of_content [] (gives_readAny v)) fun first hfirst => ?_
    refine Reading.gives_bind (gives_readItems items) fun others hothers => ?_
    exact Reading.gives_pure (List.forall_mem_cons.mpr ⟨hfirst, hothers⟩)

theorem gives_readEntries (entries : List (String × Setting)) :
    (readEntries (entriesData entries)).Gives fun es => ∀ e ∈ es, e.2.HasKeys := by
  cases entries with
  | nil =>
    rw [entriesData, readEntries]
    exact Reading.gives_pure (List.forall_mem_nil _)
  | cons e entries =>
    obtain ⟨key, v⟩ := e
    rw [entriesData, readEntries]
    refine Reading.gives_bind (gives_read_of_content [] (gives_readAny v)) fun first hfirst => ?_
    refine Reading.gives_bind (gives_readEntries entries) fun others hothers => ?_
    exact Reading.gives_pure (List.forall_mem_cons.mpr ⟨hfirst, hothers⟩)

end

/-- Whatever a setting is read as has no key twice. -/
theorem gives_read (path : List String) (v : Setting) : (read path v.toData).Gives HasKeys :=
  gives_read_of_content path (gives_readAny v)

end Wirework.Setting

/-! ## Settings and native values -/

namespace Wirework

/-- Data that is built from nothing, truth values, numbers and texts by lists and by objects in which
no key occurs twice. -/
inductive Data.IsNative : Data → Prop where
  | null : IsNative .null
  | bool (b : Bool) : IsNative (.bool b)
  | int (n : Int) : IsNative (.int n)
  | float (x : Double) : IsNative (.float x)
  | text (s : String) : IsNative (.text s)
  | list {items : List Data} (h : ∀ d ∈ items, IsNative d) : IsNative (.list items)
  | object {entries : List (String × Data)} (hkeys : (entries.map Prod.fst).Nodup)
      (h : ∀ e ∈ entries, IsNative e.2) : IsNative (.object entries)

namespace Setting

theorem plainItems_eq (items : List Setting) : plainItems items = items.map plain := by
  induction items with
  | nil => rfl
  | cons v items ih => rw [plainItems, ih, List.map_cons]

theorem plainEntries_eq (entries : List (String × Setting)) :
    plainEntries entries = entries.map fun e => (e.1, e.2.plain) := by
  induction entries with
  | nil => rfl
  | cons e entries ih => rw [plainEntries, ih, List.map_cons]

theorem ofItems_eq (items : List Data) : ofItems items = items.mapM ofData := by
  induction items with
  | nil => rfl
  | cons d items ih => rw [ofItems, ih, List.mapM_cons]

def ofEntry (e : String × Data) : Option (String × Setting) := (ofData e.2).map (e.1, ·)

theorem ofEntries_eq (entries : List (String × Data)) : ofEntries entries = entries.mapM ofEntry := by
  induction entries with
  | nil => rfl
  | cons e entries ih =>
    rw [ofEntries, ih, List.mapM_cons, ofEntry]
    cases ofData e.2 <;> rfl

theorem keys_map {α β : Type} (f : α → β) (entries : List (String × α)) :
    (entries.map fun e => (e.1, f e.2)).map Prod.fst = entries.map Prod.fst := by
  simp [Function.comp_def]

theorem map_values_eq {α : Type} {f : α → α} {entries : List (String × α)}
    (h : ∀ e ∈ entries, f e.2 = e.2) : (entries.map fun e => (e.1, f e.2)) = entries := by
  have hid : ∀ e ∈ entries, (e.1, f e.2) = id e := fun e he => by rw [h e he, id]
  rw [List.map_congr_left hid, List.map_id]

theorem ofData_plain {v : Setting} (hv : v.HasKeys) :
    v.plain.IsNative ∧ ofData v.plain = some v := by
  induction hv with
  | null => exact ⟨.null, rfl⟩
  | bool b => exact ⟨.bool b, rfl⟩
  | int n => exact ⟨.int n, rfl⟩
  | float x => exact ⟨.float x, rfl⟩
  | string s => exact ⟨.text s, rfl⟩
  | @array items h ih =>
    rw [plain, plainItems_eq, ofData, ofItems_eq, List.mapM_map]
    refine ⟨.list ?_, ?_⟩
    · rw [List.forall_mem_map]
      exact fun v hv => (ih v hv).1
    · have hall : items.mapM (ofData ∘ plain) = some items :=
        mapM_eq_some_self fun v hv => (ih v hv).2
      rw [hall, Option.map_some]
  | @object entries hkeys h ih =>
    rw [plain, plainEntries_eq, ofData, ofEntries_eq, List.mapM_map]
    refine ⟨.object ?_ ?_, ?_⟩
    · rwa [keys_map]
    · rw [List.forall_mem_map]
      exact fun e he => (ih e he).1
    · have hall : entries.mapM (ofEntry ∘ fun e => (e.1, e.2.plain)) = some entries :=
        mapM_eq_some_self fun e he =>
          congrArg (Option.map (e.1, ·)) (ih e he).2
      rw [hall, Option.map_some, Data.mergeKeys_of_nodup hkeys]

theorem plain_ofData {d : Data} (hd : d.IsNative) :
    ∃ v, ofData d = some v ∧ v.HasKeys ∧ v.plain = d := by
  induction hd with
  | null => exact ⟨.null, rfl, .null, rfl⟩
  | bool b => exact ⟨.bool b, rfl, .bool b, rfl⟩
  | int n => exact ⟨.int n, rfl, .int n, rfl⟩
  | float x => exact ⟨.float x, rfl, .float x, rfl⟩
  | text s => exact ⟨.string s, rfl, .string s, rfl⟩
  | @list items h ih =>
    choose! f hf using ih
    refine ⟨.array (items.map f), ?_, .array ?_, ?_⟩
    · rw [ofData, ofItems_eq, mapM_eq_some fun d hd => (hf d hd).1, Option.map_some]
    · rw [List.forall_mem_map]
      exact fun d hd => (hf d hd).2.1
    · rw [plain, plainItems_eq, List.map_map]
      exact congrArg Data.list
        ((List.map_congr_left fun d hd => (hf d hd).2.2).trans (List.map_id items))
  | @object entries hkeys h ih =>
    have hvalues : ∀ d, (∃ e ∈ entries, e.2 = d) →
        ∃ v, ofData d = some v ∧ v.HasKeys ∧ v.plain = d := by
      rintro _ ⟨e, he, rfl⟩
      exact ih e he
    choose! f hf using hvalues
    have hall : entries.mapM ofEntry = some (entries.map fun e => (e.1, f e.2)) :=
      mapM_eq_some fun e he => congrArg (Option.map (e.1, ·)) (hf e.2 ⟨e, he, rfl⟩).1
    have hmerge : Data.mergeKeys (entries.map fun e => (e.1, f e.2)) =
        entries.map fun e => (e.1, f e.2) :=
      Data.mergeKeys_of_nodup (by rwa [keys_map])
    refine ⟨.object (entries.map fun e => (e.1, f e.2)), ?_, .object ?_ ?_, ?_⟩
    · rw [ofData, ofEntries_eq, hall, Option.map_some, hmerge]
    · rwa [keys_map]
    · rw [List.forall_mem_map]
      exact fun e he => (hf e.2 ⟨e, he, rfl⟩).2.1
    · rw [plain, plainEntries_eq, List.map_map]
      exact congrArg Data.object
        (map_values_eq (f := fun d => (f d).plain) fun e he => (hf e.2 ⟨e, he, rfl⟩).2.2)

/-- Settings and native values stand for each other one to one: either way there and back, every part
is again what it was, in its place and of its kind. -/
theorem ofData_plain_inverse :
    (∀ v : Setting, v.HasKeys → v.plain.IsNative ∧ ofData v.plain = some v) ∧
      ∀ d : Data, d.IsNative → ∃ v, ofData d = some v ∧ v.HasKeys ∧ v.plain = d :=
  ⟨fun _ => ofData_plain, fun _ => plain_ofData⟩

/-- A setting with a truth value beside the integer that it could be taken for, and with a number that
is not equal to itself. -/
def mixed : Setting :=
  .object [("flags", .array [.bool true, .int 1, .float .nan]), ("about", .object [])]

theorem hasKeys_mixed : mixed.HasKeys := by
  have hflags : (array [.bool true, .int 1, .float .nan]).HasKeys := by
    refine .array ?_
    simp only [List.forall_mem_cons]
    exact ⟨.bool true, .int 1, .float .nan, List.forall_mem_nil _⟩
  refine .object (by decide) ?_
  simp only [List.forall_mem_cons]
  exact ⟨hflags, .object List.nodup_nil (List.forall_mem_nil _), List.forall_mem_nil _⟩

theorem ofData_plain_mixed : ofData mixed.plain = some mixed ∧
    ∃ v, ofData mixed.plain = some v ∧ v.HasKeys ∧ v.plain = mixed.plain :=
  have hplain := ofData_plain_inverse.1 mixed hasKeys_mixed
  ⟨hplain.2, ofData_plain_inverse.2 mixed.plain hplain.1⟩

end Setting

end Wirework
