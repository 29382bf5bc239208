import Wirework.Migration.Basic
import Wirework.Proofs.Except
import Wirework.Record.Nesting

/-!
# Versions of migrations

A run drafts up to three migrations with different names and then gives them versions a second
apart. It fails only if a default has too many digits to be written, or where the calendar ends: if
the last version would lie in the year 10000 (`plan_cases`). Whatever their versions, the files of a run have different names, since the name
of a migration ends its file's name (`nodup_filename`).
-/

namespace Wirework

/-! ## The end of the calendar -/

namespace Date

def last : Date := ⟨9999, 12, 31, by decide⟩

theorem of?_eq_none_iff {y m d : Nat} : of? y m d = none ↔ ¬ Valid y m d := by
  unfold of?
  split <;> simp [*]

theorem eq_of_fields {d d' : Date} (hy : d.year = d'.year) (hm : d.month = d'.month)
    (hd : d.day = d'.day) : d = d' := by
  obtain ⟨y, m, day, hv⟩ := d
  obtain ⟨y', m', day', hv'⟩ := d'
  simp only at hy hm hd
  subst hy hm hd
  rfl

/-- Only the last day has none after it. -/
theorem next?_eq_none_iff {d : Date} : d.next? = none ↔ d = last := by
  obtain ⟨y, m, day, ⟨hy, hy'⟩, ⟨hm, hm'⟩, hd, hd'⟩ := d
  unfold next?
  simp only
  constructor
  · intro hnone
    split at hnone
    · rename_i hlt
      exact absurd ⟨⟨hy, hy'⟩, ⟨hm, hm'⟩, by omega, by omega⟩ (of?_eq_none_iff.mp hnone)
    · rename_i hday
      split at hnone
      · have hfirst : 1 ≤ daysIn y (m + 1) := by
          unfold daysIn
          repeat' split
          all_goals omega
        exact absurd ⟨⟨hy, hy'⟩, ⟨by omega, by omega⟩, by omega, hfirst⟩ (of?_eq_none_iff.mp hnone)
      · rename_i hmonth
        have hyear : ¬ y + 1 ≤ 9999 := fun hle => of?_eq_none_iff.mp hnone
          ⟨⟨by omega, hle⟩, ⟨by omega, by omega⟩, by omega, by simp [daysIn]⟩
        obtain rfl : m = 12 := by omega
        obtain rfl : y = 9999 := by omega
        have hdays : daysIn 9999 12 = 31 := by decide
        exact eq_of_fields rfl rfl (by show day = 31; omega)
  · intro hlast
    cases hlast
    decide

end Date

namespace Moment

/-- Some seconds can be added before the calendar ends. -/
def Admits (t : Moment) (n : Nat) : Prop := t.date = Date.last → t.seconds.val + n < 86400

theorem Admits.mono {t : Moment} {m n : Nat} (h : t.Admits n) (hle : m ≤ n) : t.Admits m := by
  intro hlast
  have := h hlast
  omega

theorem addSeconds?_isSome_iff {t : Moment} {n : Nat} (hn : n < 86400) :
    (t.addSeconds? n).isSome = true ↔ t.Admits n := by
  have hs := t.seconds.isLt
  unfold addSeconds? Admits
  simp only [Option.isSome_map]
  by_cases hday : t.seconds.val + n < 86400
  · rw [Nat.div_eq_of_lt hday]
    simp [Date.after?, hday]
  · -- The sum is on the next day, so there has to be one.
    have hone : (t.seconds.val + n) / 86400 = 1 := by omega
    rw [hone]
    cases hnext : t.date.next? with
    | none =>
      have hlast : t.date = Date.last := Date.next?_eq_none_iff.mp hnext
      rw [hlast] at hnext
      simp [Date.after?, hlast, hnext, hday]
    | some d =>
      have hne : t.date ≠ Date.last := fun h => by
        rw [Date.next?_eq_none_iff.mpr h] at hnext
        cases hnext
      simp [Date.after?, hnext, hne]

end Moment

namespace Migration

variable {o : Options} {base : Moment} {i : Nat} {ms ms' : List Migration} {nodes : List Node}

/-! ## Versions -/

theorem assignVersions_map {α : Type} {base : Option Moment} (f : Migration → α)
    (hf : ∀ m version, f { m with version } = f m) (h : assignVersions base i ms = .ok ms') :
    ms'.map f = ms.map f := by
  induction ms generalizing i ms' with
  | nil =>
    cases h
    rfl
  | cons m rest ih =>
    cases base with
    | none =>
      cases h
      rfl
    | some base =>
      simp only [assignVersions] at h
      split at h
      · cases h
      · cases hrest : assignVersions (some base) (i + 1) rest with
        | error f =>
          rw [hrest] at h
          cases h
        | ok others =>
          rw [hrest] at h
          cases h
          rw [List.map_cons, List.map_cons, ih hrest, hf]

/-- The versions that are given are those of moments one second apart. -/
theorem version_of_assignVersions {k : Nat} {m : Migration}
    (h : assignVersions (some base) i ms = .ok ms') (hm : ms'[k]? = some m) :
    (base.addSeconds? (i + k)).map Moment.stamp = some m.version := by
  induction ms generalizing i k ms' with
  | nil =>
    cases h
    cases hm
  | cons first rest ih =>
    simp only [assignVersions] at h
    split at h
    · cases h
    · rename_i t ht
      cases hrest : assignVersions (some base) (i + 1) rest with
      | error f =>
        rw [hrest] at h
        cases h
      | ok others =>
        rw [hrest] at h
        cases h
        cases k with
        | zero =>
          cases hm
          rw [Nat.add_zero, ht]
          rfl
        | succ k =>
          rw [show i + (k + 1) = i + 1 + k by omega]
          exact ih hrest hm

/-- Versions can be given if the last one can; otherwise the calendar ends on the way. -/
theorem assignVersions_cons (base : Moment) (m : Migration) (hi : i + ms.length < 86400) :
    (base.Admits (i + ms.length) → ∃ ms', assignVersions (some base) i (m :: ms) = .ok ms') ∧
      (¬ base.Admits (i + ms.length) →
        assignVersions (some base) i (m :: ms) = .error .overflow) := by
  have hfirst := Moment.addSeconds?_isSome_iff (t := base) (n := i) (by omega)
  induction ms generalizing i m with
  | nil =>
    simp only [assignVersions, List.length_nil, Nat.add_zero, ← hfirst]
    cases base.addSeconds? i with
    | none => simp
    | some t => exact ⟨fun _ => ⟨_, rfl⟩, fun h => absurd rfl h⟩
  | cons m' rest ih =>
    rw [List.length_cons] at hi
    have hnext := Moment.addSeconds?_isSome_iff (t := base) (n := i + 1) (by omega)
    have hrest := ih (i := i + 1) m' (by omega) hnext
    have hsum : i + 1 + rest.length = i + (m' :: rest).length := by
      rw [List.length_cons]
      omega
    rw [hsum] at hrest
    rw [assignVersions]
    cases hadd : base.addSeconds? i with
    | none =>
      have hnot : ¬ base.Admits i := fun h => by
        rw [← hfirst, hadd] at h
        cases h
      exact ⟨fun h => absurd (h.mono (by omega)) hnot, fun _ => rfl⟩
    | some t =>
      refine ⟨fun h => ?_, fun h => ?_⟩
      · obtain ⟨others, hothers⟩ := hrest.1 h
        exact ⟨_, by simp only [hothers]; rfl⟩
      · simp only [hrest.2 h]
        rfl

/-! ## The entities of a run -/

theorem takeReady_perm {waits : Node → List String} {placed : List String} {ready : Node}
    {others : List Node} (h : takeReady waits placed nodes = some (ready, others)) :
    (ready :: others).Perm nodes := by
  induction nodes generalizing others with
  | nil => cases h
  | cons e rest ih =>
    rw [takeReady] at h
    split at h
    · cases h
      exact List.Perm.refl _
    · obtain ⟨⟨ready', others'⟩, hrest, heq⟩ := Option.map_eq_some_iff.mp h
      cases heq
      exact (List.Perm.swap _ _ _).trans ((ih hrest).cons e)

theorem placeAll_perm {waits : Node → List String} {placed : List String} {count : Nat} :
    (placeAll waits placed nodes count).Perm nodes := by
  induction count generalizing nodes placed with
  | zero => exact List.Perm.refl _
  | succ count ih =>
    rw [placeAll]
    split
    · rename_i ready others hready
      exact (ih.cons ready).trans (takeReady_perm hready)
    · exact List.Perm.refl _

/-- The tables are those of the entities. -/
theorem order_perm (nodes : List Node) : (order nodes).Perm nodes := placeAll_perm

/-! ## Drafts -/

/-- The migrations of a run before they get their versions. -/
def drafts (o : Options) (version : String) (entities : List Node) : List Migration :=
  schemaMigration o version entities ::
    (if o.indexes then (indexMigration? o version entities).toList else []) ++
    (if o.backend = .sqlite then [] else (foreignKeyMigration? o version entities).toList)

/-- The migrations of the entities among some nodes before they get their versions. -/
def unversioned (o : Options) (version : String) (nodes : List Node) : List Migration :=
  if (nodes.filter (·.isEntity)).isEmpty then []
  else drafts o version (order (nodes.filter (·.isEntity)))

theorem plan_eq_drafts {now : Moment} {base : Option Moment}
    (hne : nodes.filter (·.isEntity) ≠ []) : plan o now base nodes =
      if (schemaMigration o now.stamp (order (nodes.filter (·.isEntity)))).text.isSome then
        assignVersions base 0 (drafts o now.stamp (order (nodes.filter (·.isEntity))))
      else .error .integerTooLong := by
  unfold plan
  split
  · rename_i hnil
    have hperm := order_perm (nodes.filter (·.isEntity))
    rw [hnil] at hperm
    exact absurd hperm.symm.eq_nil hne
  · simp only [written]
    split <;> rfl

theorem plan_nil {now : Moment} {base : Option Moment} (hnil : nodes.filter (·.isEntity) = []) :
    plan o now base nodes = .ok [] := by
  rw [plan, hnil]
  rfl

/-! ## Scripts -/

theorem isSome_clause {c : ColumnClause} :
    c.sql.isSome = true ↔ ∀ k, c = .defaultValue (.int k) → Number.isShort k = true := by
  cases c with
  | defaultValue v => cases v <;> simp [ColumnClause.sql, Sql.literal]
  | _ => simp [ColumnClause.sql]

theorem isSome_column {c : Column} : c.sql.isSome = true ↔
    ∀ k, .defaultValue (.int k) ∈ c.clauses → Number.isShort k = true := by
  have hclauses : c.sql.isSome = (c.clauses.mapM ColumnClause.sql).isSome := by
    unfold Column.sql
    cases c.clauses.mapM ColumnClause.sql <;> rfl
  rw [hclauses, isSome_mapM_iff]
  simp only [isSome_clause]
  exact ⟨fun h k hk => h _ hk k rfl, fun h c hc k hk => h k (hk ▸ hc)⟩

theorem isSome_statement {table : String} {columns : List Column} {references : List Reference} :
    (Statement.createTable table columns references).sql.isSome = true ↔
      ∀ c ∈ columns, c.sql.isSome = true := by
  rw [← isSome_mapM_iff, Statement.sql]
  cases columns.mapM Column.sql <;> simp

/-- No column of an entity among some nodes has an integer of too many digits for its default. -/
def ShortDefaults (o : Options) (nodes : List Node) : Prop :=
  ∀ e ∈ nodes, e.isEntity = true → ∀ f ∈ e.fields, ∀ k,
    .defaultValue (.int k) ∈ (column o f).clauses → Number.isShort k = true

/-- What is taken for granted of the entities of a run: their defaults can be written, and their types
are nested no deeper than a document allows. -/
structure Scriptable (o : Options) (nodes : List Node) : Prop where
  short : ShortDefaults o nodes
  shallow : ∀ e ∈ nodes, e.isEntity = true → ∀ f ∈ e.fields, f.dataType.nesting ≤ nestingLimit

theorem defaultValue_of_mem {f : Field} {v : Setting}
    (h : .defaultValue v ∈ (column o f).clauses) : f.defaultValue = some v := by
  unfold column at h
  dsimp only at h
  split at h
  · simp at h
  · simp only [List.mem_append] at h
    rcases h with ((h | h) | h) | h
    · obtain ⟨c, -, hc⟩ := List.mem_filterMap.mp h
      unfold constraintClause? at hc
      split at hc <;> simp at hc
    · split at h <;> simp at h
    · split at h <;> simp at h
    · split at h
      · split at h
        · simp at h
        · simp_all
      · simp at h

theorem scriptable_of_no_defaults (h : ∀ e ∈ nodes, ∀ f ∈ e.fields, f.defaultValue = none ∧
    f.dataType.nesting ≤ nestingLimit) : Scriptable o nodes where
  short := fun e he _ f hf k hk => by
    have hnone := (h e he f hf).1
    rw [defaultValue_of_mem hk] at hnone
    cases hnone
  shallow := fun e he _ f hf => (h e he f hf).2

theorem isSome_createTable {e : Node} : (createTable o e).sql.isSome = true ↔ ∀ f ∈ e.fields, ∀ k,
    .defaultValue (.int k) ∈ (column o f).clauses → Number.isShort k = true := by
  have hadded : ∀ c ∈ addedColumns o e, c.sql.isSome = true := by
    intro c hc
    unfold addedColumns at hc
    split at hc
    · obtain ⟨name, -, rfl⟩ := List.mem_map.mp hc
      exact isSome_column.mpr fun k hk => by simp at hk
    · cases hc
  unfold createTable
  rw [isSome_statement, List.forall_mem_append, List.forall_mem_map]
  simp only [isSome_column, and_iff_left fun c hc => isSome_column.mp (hadded c hc)]

theorem isSome_text {m : Migration} : m.text.isSome = true ↔
    (∀ s ∈ m.up, s.sql.isSome = true) ∧ ∀ s ∈ m.down, s.sql.isSome = true := by
  rw [← isSome_mapM_iff, ← isSome_mapM_iff]
  unfold text upText downText script
  cases m.up.mapM Statement.sql <;> cases m.down.mapM Statement.sql <;> simp

theorem isSome_schemaMigration {version : String} {entities : List Node} :
    (schemaMigration o version entities).text.isSome = true ↔
      ∀ e ∈ entities, (createTable o e).sql.isSome = true := by
  have hdown : ∀ e ∈ entities.reverse, (dropTable o e.name).sql.isSome = true := fun _ _ => rfl
  rw [isSome_text]
  unfold schemaMigration
  rw [List.forall_mem_map, List.forall_mem_map, and_iff_left hdown]

theorem isSome_schema_order {version : String} :
    (schemaMigration o version (order (nodes.filter (·.isEntity)))).text.isSome = true ↔
      ShortDefaults o nodes := by
  simp only [isSome_schemaMigration, isSome_createTable, (order_perm _).mem_iff, List.mem_filter,
    and_imp, ShortDefaults]

theorem plan_of_short {now : Moment} {base : Option Moment} (h : ShortDefaults o nodes) :
    plan o now base nodes = assignVersions base 0 (unversioned o now.stamp nodes) := by
  by_cases hne : nodes.filter (·.isEntity) = []
  · rw [plan_nil hne, unversioned, hne]
    rfl
  · rw [plan_eq_drafts hne, if_pos (isSome_schema_order.mpr h), unversioned,
      if_neg (by simpa using hne)]

theorem plan_of_long {now : Moment} {base : Option Moment} (h : ¬ ShortDefaults o nodes) :
    plan o now base nodes = .error .integerTooLong := by
  have hne : nodes.filter (·.isEntity) ≠ [] := by
    intro hnil
    refine h fun e he hentity => absurd (List.mem_filter.mpr ⟨he, hentity⟩) ?_
    rw [hnil]
    exact List.not_mem_nil
  rw [plan_eq_drafts hne, if_neg fun hsome => h (isSome_schema_order.mp hsome)]

theorem short_of_plan {now : Moment} {base : Option Moment}
    (h : plan o now base nodes = .ok ms) : ShortDefaults o nodes := by
  by_cases hshort : ShortDefaults o nodes
  · exact hshort
  · rw [plan_of_long hshort] at h
    cases h

theorem assignVersions_of_plan {now : Moment} {base : Option Moment}
    (h : plan o now base nodes = .ok ms) :
    assignVersions base 0 (unversioned o now.stamp nodes) = .ok ms := by
  rwa [plan_of_short (short_of_plan h)] at h

theorem isSome_paired? {name version : String} {pairs : List (Statement × Statement)}
    (h : ∀ p ∈ pairs, p.1.sql.isSome = true ∧ p.2.sql.isSome = true) :
    ∀ m ∈ (paired? name version pairs).toList, m.text.isSome = true := by
  intro m hm
  unfold paired? at hm
  split at hm
  · cases hm
  · rw [Option.toList_some, List.mem_singleton] at hm
    subst hm
    rw [isSome_text, List.forall_mem_map]
    simp only [List.mem_reverse, List.forall_mem_map]
    exact ⟨fun p hp => (h p hp).1, fun p hp => (h p hp).2⟩

/-- Only the tables hold what may be too long to be written. -/
theorem isSome_drafts {version : String} {entities : List Node}
    (h : (schemaMigration o version entities).text.isSome = true) :
    ∀ m ∈ drafts o version entities, m.text.isSome = true := by
  have hindexes : ∀ m ∈ (indexMigration? o version entities).toList, m.text.isSome = true := by
    refine isSome_paired? (List.forall_mem_map.mpr fun entry _ => ?_)
    unfold indexStatements
    dsimp only
    split <;> exact ⟨rfl, rfl⟩
  have hkeys : ∀ m ∈ (foreignKeyMigration? o version entities).toList, m.text.isSome = true := by
    refine isSome_paired? fun p hp => ?_
    obtain ⟨e, -, hp⟩ := List.mem_flatMap.mp hp
    obtain ⟨key, -, rfl⟩ := List.mem_map.mp hp
    unfold foreignKeyStatements
    dsimp only
    split <;> exact ⟨rfl, rfl⟩
  rw [drafts, List.forall_mem_append, List.forall_mem_cons]
  refine ⟨⟨h, ?_⟩, ?_⟩
  · split
    · exact hindexes
    · exact List.forall_mem_nil _
  · split
    · exact List.forall_mem_nil _
    · exact hkeys

theorem isSome_text_of_plan {now : Moment} {base : Option Moment}
    (h : plan o now base nodes = .ok ms) : ∀ m ∈ ms, m.text.isSome = true := by
  have hdrafts : ∀ m ∈ unversioned o now.stamp nodes, m.text.isSome = true := by
    unfold unversioned
    split
    · exact List.forall_mem_nil _
    · exact isSome_drafts (isSome_schema_order.mpr (short_of_plan h))
  have hsame : ms.map (·.text.isSome) = (unversioned o now.stamp nodes).map (·.text.isSome) := by
    refine assignVersions_map _ (fun m version => ?_) (assignVersions_of_plan h)
    rw [Bool.eq_iff_iff, isSome_text, isSome_text]
  intro m hm
  have hmem : m.text.isSome ∈ ms.map (·.text.isSome) := List.mem_map_of_mem hm
  rw [hsame] at hmem
  obtain ⟨draft, hdraft, heq⟩ := List.mem_map.mp hmem
  rw [← heq, hdrafts draft hdraft]

/-! ## How many -/

def anyField (entities : List Node) (p : Field → Bool) : Bool := entities.any (·.fields.any p)

/-- How many migrations a run makes: the tables, the indexes if there are any, and the foreign keys
if there are any and the database adds them. -/
def draftCount (o : Options) (entities : List Node) : Nat :=
  1 + (if o.indexes && anyField entities (fun f => f.isIndexed || f.isForeignKey) then 1 else 0)
    + (if o.backend ≠ .sqlite && anyField entities (·.isForeignKey) then 1 else 0)

theorem draftCount_le (o : Options) (nodes : List Node) : draftCount o nodes ≤ 3 := by
  unfold draftCount
  repeat' split
  all_goals omega

theorem anyField_perm {nodes' : List Node} {p : Field → Bool} (h : nodes.Perm nodes') :
    anyField nodes p = anyField nodes' p := by
  rw [anyField, anyField, Bool.eq_iff_iff]
  simp only [List.any_eq_true, h.mem_iff]

theorem anyField_eq_false_iff {p : Field → Bool} :
    anyField nodes p = false ↔ ∀ e ∈ nodes, ∀ f ∈ e.fields, p f = false := by
  simp [anyField]

theorem firstNamed_eq_nil_iff {fields : List (Node × Field)} :
    firstNamed [] fields = [] ↔ fields = [] := by
  cases fields with
  | nil => simp [firstNamed]
  | cons entry rest =>
    obtain ⟨e, f⟩ := entry
    simp [firstNamed]

theorem indexedFields_eq_nil_iff : indexedFields nodes = [] ↔
    anyField nodes (fun f => f.isIndexed || f.isForeignKey) = false := by
  rw [anyField_eq_false_iff]
  simp [indexedFields, List.flatMap_eq_nil_iff, List.filter_eq_nil_iff]

theorem isForeignKey_eq {f : Field} : f.isForeignKey = f.foreignKey?.isSome := by
  rw [Field.isForeignKey, Field.hasConstraint, Field.foreignKey?, Bool.eq_iff_iff,
    List.any_eq_true, List.find?_isSome]

theorem foreignKeys_eq_nil_iff {e : Node} :
    foreignKeys o e = [] ↔ ∀ f ∈ e.fields, f.isForeignKey = false := by
  simp only [foreignKeys, List.filterMap_eq_nil_iff, Option.map_eq_none_iff, isForeignKey_eq,
    Option.isSome_eq_false_iff, Option.isNone_iff_eq_none]

theorem length_paired? {name version : String} {pairs : List (Statement × Statement)} :
    (paired? name version pairs).toList.length = if pairs = [] then 0 else 1 := by
  cases pairs <;> simp [paired?]

theorem length_indexMigration? {version : String} :
    (indexMigration? o version nodes).toList.length =
      if anyField nodes (fun f => f.isIndexed || f.isForeignKey) then 1 else 0 := by
  rw [indexMigration?, length_paired?]
  simp only [List.map_eq_nil_iff, firstNamed_eq_nil_iff, indexedFields_eq_nil_iff]
  cases anyField nodes _ <;> rfl

theorem length_foreignKeyMigration? {version : String} :
    (foreignKeyMigration? o version nodes).toList.length =
      if anyField nodes (·.isForeignKey) then 1 else 0 := by
  have hnil : (∀ e ∈ nodes, foreignKeys o e = []) ↔ anyField nodes (·.isForeignKey) = false := by
    rw [anyField_eq_false_iff]
    exact forall_congr' fun e => forall_congr' fun _ => foreignKeys_eq_nil_iff
  rw [foreignKeyMigration?, length_paired?]
  simp only [List.flatMap_eq_nil_iff, List.map_eq_nil_iff, hnil]
  cases anyField nodes _ <;> rfl

theorem length_drafts {version : String} :
    (drafts o version nodes).length = draftCount o nodes := by
  have hindexes : (if o.indexes then (indexMigration? o version nodes).toList else []).length =
      if o.indexes && anyField nodes (fun f => f.isIndexed || f.isForeignKey) then 1 else 0 := by
    cases o.indexes <;> simp [length_indexMigration?]
  have hkeys : (if o.backend = .sqlite then []
      else (foreignKeyMigration? o version nodes).toList).length =
      if o.backend ≠ .sqlite && anyField nodes (·.isForeignKey) then 1 else 0 := by
    by_cases hb : o.backend = .sqlite <;> simp [hb, length_foreignKeyMigration?]
  rw [drafts, List.length_append, List.length_cons, hindexes, hkeys, draftCount]
  omega

/-- A run of some entities fails only where a default has too many digits or where the calendar ends
before the last version. -/
theorem plan_cases (now base : Moment) (hne : nodes.filter (·.isEntity) ≠ [])
    (hshort : ShortDefaults o nodes) :
    let last := draftCount o (nodes.filter (·.isEntity)) - 1
    (base.Admits last → ∃ ms, plan o now (some base) nodes = .ok ms) ∧
      (¬ base.Admits last → plan o now (some base) nodes = .error .overflow) := by
  intro last
  have hlength : (drafts o now.stamp (order (nodes.filter (·.isEntity)))).length = last + 1 := by
    have hcount : draftCount o (order (nodes.filter (·.isEntity))) =
        draftCount o (nodes.filter (·.isEntity)) := by
      simp only [draftCount, anyField_perm (order_perm _)]
    have hpos : 1 ≤ draftCount o (nodes.filter (·.isEntity)) := by
      unfold draftCount
      omega
    rw [length_drafts, hcount]
    omega
  have hle : last ≤ 2 := by
    have := draftCount_le o (nodes.filter (·.isEntity))
    omega
  rw [plan_eq_drafts hne, if_pos (isSome_schema_order.mpr hshort)]
  obtain ⟨m, ms, hdrafts⟩ := List.exists_cons_of_length_eq_add_one hlength
  rw [hdrafts, List.length_cons, Nat.add_right_cancel_iff] at hlength
  rw [hdrafts, ← hlength]
  have hsmall : 0 + ms.length < 86400 := by omega
  simpa using assignVersions_cons base m hsmall

/-! ## Names of files -/

def runNames : List String := ["initial_schema", "create_indexes", "add_foreign_keys"]

theorem names_paired? {name version : String} {pairs : List (Statement × Statement)} :
    ((paired? name version pairs).toList.map (·.name)).Sublist [name] := by
  cases pairs <;> simp [paired?]

theorem names_drafts {version : String} :
    ((drafts o version nodes).map (·.name)).Sublist runNames := by
  have hindexes : ((if o.indexes then (indexMigration? o version nodes).toList else []).map
      (·.name)).Sublist ["create_indexes"] := by
    split
    · exact names_paired?
    · exact List.nil_sublist _
  have hkeys : ((if o.backend = .sqlite then []
      else (foreignKeyMigration? o version nodes).toList).map (·.name)).Sublist
      ["add_foreign_keys"] := by
    split
    · exact List.nil_sublist _
    · exact names_paired?
  rw [drafts, List.map_append, List.map_cons]
  exact (hindexes.cons_cons _).append hkeys

theorem names_plan {now : Moment} (h : plan o now (some base) nodes = .ok ms) :
    (ms.map (·.name)).Sublist runNames := by
  rw [assignVersions_map (·.name) (fun _ _ => rfl) (assignVersions_of_plan h), unversioned]
  split
  · exact List.nil_sublist _
  · exact names_drafts

def label (name : String) : String := "_" ++ Naming.snake name ++ ".sql"

theorem filename_eq (m : Migration) : m.filename = m.version ++ label m.name := by
  simp only [filename, label, String.append_assoc]

def ending (text : String) : List Char := text.toList.reverse.take 6

theorem ending_append {start text : String} (h : 6 ≤ text.toList.length) :
    ending (start ++ text) = ending text := by
  rw [ending, String.toList_append, List.reverse_append, List.take_append_of_le_length (by simpa)]
  rfl

theorem length_label : ∀ name ∈ runNames, 6 ≤ (label name).toList.length := by decide +kernel

theorem nodup_ending_label : (runNames.map fun name => ending (label name)).Nodup := by
  decide +kernel

theorem nodup_filename {now : Moment} (h : plan o now (some base) nodes = .ok ms) :
    (ms.map (·.filename)).Nodup := by
  have hsub : (ms.map (·.name)).Sublist runNames := names_plan h
  -- Whatever the versions are, the ends of the names tell the files apart.
  have hends : (ms.map (·.filename)).map ending =
      (ms.map (·.name)).map fun name => ending (label name) := by
    rw [List.map_map, List.map_map]
    refine List.map_congr_left fun m hm => ?_
    have hname : m.name ∈ runNames := hsub.subset (List.mem_map_of_mem hm)
    simp only [Function.comp_apply, filename_eq, ending_append (length_label _ hname)]
  have hnodup : ((ms.map (·.filename)).map ending).Nodup := by
    rw [hends]
    exact nodup_ending_label.sublist (hsub.map _)
  exact List.Pairwise.of_map ending (fun _ _ hne heq => hne (congrArg ending heq)) hnodup

end Migration

end Wirework
