import Mathlib.Data.Finset.Basic
import Mathlib.Data.List.Infix
import Wirework.Proofs.Except
import Wirework.Proofs.Migration.ForeignKeys
import Wirework.Proofs.Naming

/-!
# Migrations can be undone

A database is taken as what migrations change about it: its tables, the indexes on them and their
foreign keys. A statement makes or drops one of these and fails where that is not possible
(`Statement.exec`). Statement by statement, the down script of a migration undoes its up script from
the end (`Undoes`), and since no two indexes of a run have one name, this carries over to whole runs
(`run_undo`). So a database from which migrations were made, be it all of a run or only the first of
them, is the same again after their down scripts (`migrations_reversible`).
-/

namespace Wirework

/-! ## Databases -/

/-- The schema of a name, with the dot behind it; nothing for a name without a schema. -/
def home (name : String) : String :=
  String.ofList (name.toList.reverse.dropWhile (· ≠ '.')).reverse

structure Index where
  table : String
  name : String
  deriving DecidableEq

/-- An index lies in the schema of its table. -/
def Index.fullName (i : Index) : String := home i.table ++ i.name

/-- What migrations change about a database: its tables, the indexes on them, and their foreign keys,
each by its table and name. -/
@[ext] structure Database where
  tables : Finset String
  indexes : Finset Index
  keys : Finset (String × String)
  table_of_index : ∀ i ∈ indexes, i.table ∈ tables
  table_of_key : ∀ k ∈ keys, k.1 ∈ tables

namespace Database

variable {d d' : Database} {i : Index} {k : String × String} {t name : String}

instance : DecidableEq Database := fun _ _ => decidable_of_iff _ Database.ext_iff.symm

def HasIndex (d : Database) (name : String) : Prop := ∃ i ∈ d.indexes, i.fullName = name

instance : Decidable (d.HasIndex name) :=
  inferInstanceAs (Decidable (∃ i ∈ d.indexes, i.fullName = name))

def addTable (d : Database) (t : String) : Database where
  tables := insert t d.tables
  indexes := d.indexes
  keys := d.keys
  table_of_index i hi := Finset.mem_insert_of_mem (d.table_of_index i hi)
  table_of_key k hk := Finset.mem_insert_of_mem (d.table_of_key k hk)

def dropTable (d : Database) (t : String) : Database where
  tables := d.tables.erase t
  indexes := d.indexes.filter (·.table ≠ t)
  keys := d.keys.filter (·.1 ≠ t)
  table_of_index i hi := by
    obtain ⟨hi, hne⟩ := Finset.mem_filter.mp hi
    exact Finset.mem_erase.mpr ⟨hne, d.table_of_index i hi⟩
  table_of_key k hk := by
    obtain ⟨hk, hne⟩ := Finset.mem_filter.mp hk
    exact Finset.mem_erase.mpr ⟨hne, d.table_of_key k hk⟩

def addIndex (d : Database) (i : Index) (h : i.table ∈ d.tables) : Database where
  tables := d.tables
  indexes := insert i d.indexes
  keys := d.keys
  table_of_index := Finset.forall_mem_insert .. |>.mpr ⟨h, d.table_of_index⟩
  table_of_key := d.table_of_key

def keepIndexes (d : Database) (p : Index → Bool) : Database where
  tables := d.tables
  indexes := d.indexes.filter (p ·)
  keys := d.keys
  table_of_index i hi := d.table_of_index i (Finset.mem_of_mem_filter i hi)
  table_of_key := d.table_of_key

def addKey (d : Database) (k : String × String) (h : k.1 ∈ d.tables) : Database where
  tables := d.tables
  indexes := d.indexes
  keys := insert k d.keys
  table_of_index := d.table_of_index
  table_of_key := Finset.forall_mem_insert .. |>.mpr ⟨h, d.table_of_key⟩

def dropKey (d : Database) (k : String × String) : Database where
  tables := d.tables
  indexes := d.indexes
  keys := d.keys.erase k
  table_of_index := d.table_of_index
  table_of_key k' hk := d.table_of_key k' (Finset.mem_of_mem_erase hk)

theorem mem_addIndex {h : i.table ∈ d.tables} : i ∈ (d.addIndex i h).indexes :=
  Finset.mem_insert_self ..

theorem mem_addKey {h : k.1 ∈ d.tables} : k ∈ (d.addKey k h).keys := Finset.mem_insert_self ..

/-- Nothing is on a table that is not there, so a new table can be dropped again. -/
theorem dropTable_addTable (h : t ∉ d.tables) : (d.addTable t).dropTable t = d := by
  have hindexes : d.indexes.filter (·.table ≠ t) = d.indexes :=
    Finset.filter_true_of_mem fun i hi heq => h (heq ▸ d.table_of_index i hi)
  have hkeys : d.keys.filter (·.1 ≠ t) = d.keys :=
    Finset.filter_true_of_mem fun k hk heq => h (heq ▸ d.table_of_key k hk)
  exact Database.ext (Finset.erase_insert h) hindexes hkeys

theorem keepIndexes_addIndex {p : Index → Bool} (h : i.table ∈ d.tables) (hi : p i = false)
    (hd : ∀ j ∈ d.indexes, p j = true) : (d.addIndex i h).keepIndexes p = d := by
  have hindexes : (insert i d.indexes).filter (p ·) = d.indexes := by
    rw [Finset.filter_insert, if_neg (by simp [hi]), Finset.filter_true_of_mem hd]
  exact Database.ext rfl hindexes rfl

theorem dropKey_addKey (h : k.1 ∈ d.tables) (hk : k ∉ d.keys) : (d.addKey k h).dropKey k = d :=
  Database.ext rfl rfl (Finset.erase_insert hk)

end Database

/-! ## Statements -/

namespace Statement

open Database

variable {s : Statement} {d d' : Database} {name : String}

/-- What a statement makes of a database; nothing if it fails. A table has to be there for what is
done to it. -/
def exec (d : Database) : Statement → Option Database
  | .createTable table _ _ => if table ∈ d.tables then none else some (d.addTable table)
  | .dropTable table _ => some (d.dropTable table)
  | .createIndex index table _ ifMissing =>
    if h : table ∈ d.tables then
      if d.HasIndex (Index.fullName ⟨table, index⟩) then if ifMissing then some d else none
      else some (d.addIndex ⟨table, index⟩ h)
    else none
  | .dropIndex index => some (d.keepIndexes (·.fullName ≠ index))
  | .dropTableIndex index table =>
    if ⟨table, index⟩ ∈ d.indexes then some (d.keepIndexes (· ≠ ⟨table, index⟩)) else none
  | .addForeignKey table name _ =>
    if h : table ∈ d.tables then
      if (table, name) ∈ d.keys then none else some (d.addKey (table, name) h)
    else none
  | .dropConstraint table name =>
    if table ∈ d.tables then some (d.dropKey (table, name)) else none
  | .dropForeignKey table name =>
    if (table, name) ∈ d.keys then some (d.dropKey (table, name)) else none

def index? : Statement → Option String
  | .createIndex index table _ _ => some (Index.fullName ⟨table, index⟩)
  | _ => none

theorem exec_createTable_iff {table : String} {columns : List Column} {references : List Reference} :
    exec d (.createTable table columns references) = some d' ↔
      table ∉ d.tables ∧ d.addTable table = d' := by
  rw [exec]
  split <;> simp [*]

theorem exec_createIndex_iff {index table column : String} {ifMissing : Bool} :
    exec d (.createIndex index table column ifMissing) = some d' ↔ ∃ h : table ∈ d.tables,
      if d.HasIndex (Index.fullName ⟨table, index⟩) then ifMissing = true ∧ d = d'
      else d.addIndex ⟨table, index⟩ h = d' := by
  rw [exec]
  by_cases htable : table ∈ d.tables
  · by_cases hindex : d.HasIndex (Index.fullName ⟨table, index⟩) <;> simp [htable, hindex]
  · simp [htable]

theorem exec_addForeignKey_iff {table key : String} {r : Reference} :
    exec d (.addForeignKey table key r) = some d' ↔
      ∃ h : table ∈ d.tables, (table, key) ∉ d.keys ∧ d.addKey (table, key) h = d' := by
  rw [exec]
  by_cases htable : table ∈ d.tables
  · by_cases hkey : (table, key) ∈ d.keys <;> simp [htable, hkey]
  · simp [htable]

theorem mem_indexes_of_exec (h : s.exec d = some d') {i : Index} (hi : i ∈ d'.indexes) :
    i ∈ d.indexes ∨ s.index? = some i.fullName := by
  cases s with
  | createTable table columns references =>
    obtain ⟨-, rfl⟩ := exec_createTable_iff.mp h
    exact Or.inl hi
  | dropTable table cascade =>
    cases h
    exact Or.inl (Finset.mem_of_mem_filter i hi)
  | createIndex index table column ifMissing =>
    obtain ⟨htable, h⟩ := exec_createIndex_iff.mp h
    split at h
    · obtain ⟨-, rfl⟩ := h
      exact Or.inl hi
    · subst h
      rcases Finset.mem_insert.mp hi with rfl | hi
      · exact Or.inr rfl
      · exact Or.inl hi
  | dropIndex index =>
    cases h
    exact Or.inl (Finset.mem_of_mem_filter i hi)
  | dropTableIndex index table =>
    obtain ⟨-, ⟨⟩⟩ := Option.ite_none_right_eq_some.mp h
    exact Or.inl (Finset.mem_of_mem_filter i hi)
  | addForeignKey table key r =>
    obtain ⟨htable, -, rfl⟩ := exec_addForeignKey_iff.mp h
    exact Or.inl hi
  | dropConstraint table key =>
    obtain ⟨-, ⟨⟩⟩ := Option.ite_none_right_eq_some.mp h
    exact Or.inl hi
  | dropForeignKey table key =>
    obtain ⟨-, ⟨⟩⟩ := Option.ite_none_right_eq_some.mp h
    exact Or.inl hi

theorem hasIndex_of_exec (h : s.exec d = some d') (hindex : d'.HasIndex name) :
    d.HasIndex name ∨ s.index? = some name := by
  obtain ⟨i, hi, rfl⟩ := hindex
  rcases mem_indexes_of_exec h hi with hi | hi
  · exact Or.inl ⟨i, hi, rfl⟩
  · exact Or.inr hi

end Statement

/-! ## Scripts -/

namespace Database

variable {d d' : Database} {script script' : List Statement}
  {pairs : List (Statement × Statement)}

/-- What a script makes of a database; nothing if a statement of it fails. -/
def run (d : Database) (script : List Statement) : Option Database :=
  script.foldlM Statement.exec d

theorem run_cons {s : Statement} : d.run (s :: script) = (s.exec d).bind fun d => d.run script := rfl

theorem run_append : d.run (script ++ script') = (d.run script).bind fun d => d.run script' :=
  List.foldlM_append ..

/-- One statement undoes another, if the index that it makes is new. -/
def Undoes (s undo : Statement) : Prop :=
  ∀ d d', (∀ name ∈ s.index?, ¬ d.HasIndex name) → s.exec d = some d' → undo.exec d' = some d

/-- Scripts whose statements undo each other one by one undo each other as a whole, from the end. -/
theorem run_undo (hundo : ∀ pair ∈ pairs, Undoes pair.1 pair.2)
    (hnames : (pairs.filterMap (·.1.index?)).Nodup)
    (hnew : ∀ name ∈ pairs.filterMap (·.1.index?), ¬ d.HasIndex name)
    (hrun : d.run (pairs.map Prod.fst) = some d') :
    d'.run (pairs.map Prod.snd).reverse = some d := by
  induction pairs generalizing d with
  | nil =>
    cases hrun
    rfl
  | cons pair rest ih =>
    obtain ⟨hfirst, hrest⟩ := List.forall_mem_cons.mp hundo
    rw [List.map_cons, run_cons] at hrun
    obtain ⟨d₁, hexec, hrun⟩ := Option.bind_eq_some_iff.mp hrun
    have hown : ∀ name ∈ pair.1.index?, ¬ d.HasIndex name := fun name hname =>
      hnew name (List.mem_filterMap.mpr ⟨pair, List.mem_cons_self, hname⟩)
    have hsub : (rest.filterMap (·.1.index?)).Sublist ((pair :: rest).filterMap (·.1.index?)) :=
      (List.sublist_cons_self pair rest).filterMap _
    -- The first statement makes at most the index of its own name, which no later one has.
    have hlater : ∀ name ∈ rest.filterMap (·.1.index?), ¬ d₁.HasIndex name := by
      intro name hname hindex
      rcases Statement.hasIndex_of_exec hexec hindex with hindex | hindex
      · exact hnew name (hsub.subset hname) hindex
      · simp only [List.filterMap_cons, hindex, List.nodup_cons] at hnames
        exact hnames.1 hname
    rw [List.map_cons, List.reverse_cons, run_append, ih hrest (hnames.sublist hsub) hlater hrun,
      Option.bind_some, run_cons, hfirst d d₁ hown hexec]
    rfl

variable {index table column key : String} {ifMissing : Bool} {r : Reference}

theorem exec_createIndex_of_new (hnew : ¬ d.HasIndex (Index.fullName ⟨table, index⟩))
    (hexec : Statement.exec d (.createIndex index table column ifMissing) = some d') :
    ∃ htable, d.addIndex ⟨table, index⟩ htable = d' := by
  obtain ⟨htable, h⟩ := Statement.exec_createIndex_iff.mp hexec
  rw [if_neg hnew] at h
  exact ⟨htable, h⟩

theorem undoes_createIndex_dropTableIndex :
    Undoes (.createIndex index table column ifMissing) (.dropTableIndex index table) := by
  intro d d' hnew hexec
  have hnew := hnew _ rfl
  obtain ⟨htable, rfl⟩ := exec_createIndex_of_new hnew hexec
  rw [Statement.exec, if_pos mem_addIndex, keepIndexes_addIndex htable (by simp)]
  intro j hj
  exact decide_eq_true fun heq => hnew ⟨j, hj, by rw [heq]⟩

theorem undoes_createIndex_dropIndex : Undoes (.createIndex index table column ifMissing)
    (.dropIndex (Index.fullName ⟨table, index⟩)) := by
  intro d d' hnew hexec
  have hnew := hnew _ rfl
  obtain ⟨htable, rfl⟩ := exec_createIndex_of_new hnew hexec
  rw [Statement.exec, keepIndexes_addIndex htable (by simp)]
  intro j hj
  exact decide_eq_true fun heq => hnew ⟨j, hj, heq⟩

theorem undoes_addForeignKey_dropForeignKey :
    Undoes (.addForeignKey table key r) (.dropForeignKey table key) := by
  intro d d' _ hexec
  obtain ⟨htable, hkey, rfl⟩ := Statement.exec_addForeignKey_iff.mp hexec
  rw [Statement.exec, if_pos mem_addKey, dropKey_addKey htable hkey]

theorem undoes_addForeignKey_dropConstraint :
    Undoes (.addForeignKey table key r) (.dropConstraint table key) := by
  intro d d' _ hexec
  obtain ⟨htable, hkey, rfl⟩ := Statement.exec_addForeignKey_iff.mp hexec
  have htable' : table ∈ (d.addKey (table, key) htable).tables := htable
  rw [Statement.exec, if_pos htable', dropKey_addKey htable hkey]

end Database

/-! ## The statements of migrations -/

theorem home_append (front : String) {name : String} (h : '.' ∉ name.toList) :
    home (front ++ name) = home front := by
  have hskip : ∀ c ∈ name.toList.reverse, decide (c ≠ '.') = true := by
    intro c hc
    exact decide_eq_true fun heq => h (heq ▸ List.mem_reverse.mp hc)
  rw [home, String.toList_append, List.reverse_append, List.dropWhile_append_of_pos hskip]
  rfl

theorem home_dot (schema : String) : home (schema ++ ".") = schema ++ "." := by
  have hdot : ".".toList = ['.'] := rfl
  simp [home, hdot, String.ofList_append]

namespace Migration

open Database

variable {o : Options} {now : Moment} {base : Option Moment} {version : String}
  {nodes entities : List Node} {ms : List Migration} {e : Node} {f : Field}

/-- Indexes are dropped by the name that they have in the schema of their tables. -/
theorem home_tableName (o : Options) (entity name : String) :
    home (tableName o entity) ++ name = qualified o name := by
  have hdot : '.' ∉ (Naming.snake entity).toList := Naming.not_mem_snake (by decide)
  unfold tableName qualified
  split
  · rw [home_append _ hdot, home_dot]
  · have hplain := home_append "" hdot
    rw [String.empty_append] at hplain
    rw [hplain]
    exact String.empty_append

theorem undoes_table (o : Options) (e : Node) : Undoes (createTable o e) (dropTable o e.name) := by
  intro d d' _ hexec
  obtain ⟨htable, rfl⟩ := Statement.exec_createTable_iff.mp hexec
  exact congrArg some (dropTable_addTable htable)

theorem undoes_index (o : Options) (e : Node) (f : Field) :
    Undoes (indexStatements o e f).1 (indexStatements o e f).2 := by
  unfold indexStatements
  dsimp only
  split
  · exact undoes_createIndex_dropTableIndex
  · rw [← home_tableName o e.name]
    exact undoes_createIndex_dropIndex

theorem undoes_key (o : Options) (e : Node) (f : Field) (target : String) (r : Reference) :
    Undoes (foreignKeyStatements o e f target r).1 (foreignKeyStatements o e f target r).2 := by
  unfold foreignKeyStatements
  dsimp only
  split
  · exact undoes_addForeignKey_dropForeignKey
  · exact undoes_addForeignKey_dropConstraint

/-! ## Names of indexes -/

/-- Among the fields that get an index no name is left that was seen before, and none twice. -/
theorem nodup_firstNamed (seen : List String) (fields : List (Node × Field)) :
    ((firstNamed seen fields).map fun entry => indexName entry.1.name entry.2.name).Nodup ∧
      ∀ entry ∈ firstNamed seen fields, indexName entry.1.name entry.2.name ∉ seen := by
  induction fields generalizing seen with
  | nil => exact ⟨List.nodup_nil, List.forall_mem_nil _⟩
  | cons entry rest ih =>
    obtain ⟨e, f⟩ := entry
    rw [firstNamed]
    by_cases hseen : seen.contains (indexName e.name f.name) = true
    · rw [if_pos hseen]
      exact ih seen
    · have hnew : indexName e.name f.name ∉ seen := fun h => hseen (List.contains_iff_mem.mpr h)
      obtain ⟨hnodup, hunseen⟩ := ih (indexName e.name f.name :: seen)
      rw [if_neg hseen, List.map_cons, List.nodup_cons]
      refine ⟨⟨fun hmem => ?_, hnodup⟩, List.forall_mem_cons.mpr ⟨hnew, fun entry hentry => ?_⟩⟩
      · obtain ⟨entry, hentry, hname⟩ := List.mem_map.mp hmem
        refine hunseen entry hentry ?_
        rw [hname]
        exact List.mem_cons_self
      · exact fun hmem => hunseen entry hentry (List.mem_cons_of_mem _ hmem)

theorem index?_indexStatements (o : Options) (e : Node) (f : Field) :
    (indexStatements o e f).1.index? = some (qualified o (indexName e.name f.name)) := by
  rw [← home_tableName o e.name]
  unfold indexStatements
  dsimp only
  split <;> rfl

theorem qualified_injective (o : Options) : Function.Injective (qualified o) := by
  intro name name' h
  unfold qualified at h
  split at h
  · simpa using h
  · exact h

def createdIndexes (ms : List Migration) : List String :=
  ms.flatMap fun m => m.up.filterMap Statement.index?

theorem createdIndexes_paired? {name : String} {pairs : List (Statement × Statement)} :
    createdIndexes (paired? name version pairs).toList = pairs.filterMap (·.1.index?) := by
  cases pairs with
  | nil => rfl
  | cons pair rest =>
    rw [paired?, if_neg (by simp), createdIndexes, Option.toList_some, List.flatMap_singleton,
      List.filterMap_map]
    rfl

theorem nodup_createdIndexes_drafts : (createdIndexes (drafts o version entities)).Nodup := by
  have happend : ∀ xs ys, createdIndexes (xs ++ ys) = createdIndexes xs ++ createdIndexes ys :=
    fun _ _ => List.flatMap_append
  have hschema : createdIndexes [schemaMigration o version entities] = [] := by
    have hup : (schemaMigration o version entities).up = entities.map (createTable o) := rfl
    rw [createdIndexes, List.flatMap_singleton, hup, List.filterMap_map]
    exact List.filterMap_eq_nil_iff.mpr fun _ _ => rfl
  have hkeys : createdIndexes (if o.backend = .sqlite then []
      else (foreignKeyMigration? o version entities).toList) = [] := by
    split
    · rfl
    · rw [foreignKeyMigration?, createdIndexes_paired?, List.filterMap_eq_nil_iff]
      intro pair hpair
      obtain ⟨e, -, hpair⟩ := List.mem_flatMap.mp hpair
      obtain ⟨key, -, rfl⟩ := List.mem_map.mp hpair
      rfl
  have hindexes : (createdIndexes
      (if o.indexes then (indexMigration? o version entities).toList else [])).Nodup := by
    split
    · have hnames : ∀ entries : List (Node × Field),
          (entries.map fun entry => indexStatements o entry.1 entry.2).filterMap (·.1.index?) =
            (entries.map fun entry => indexName entry.1.name entry.2.name).map (qualified o) := by
        intro entries
        rw [List.filterMap_map, List.map_map, ← List.filterMap_eq_map]
        exact List.filterMap_congr fun entry _ => index?_indexStatements ..
      rw [indexMigration?, createdIndexes_paired?]
      refine (hnames _).symm ▸ (nodup_firstNamed [] _).1.map (qualified_injective o)
    · exact List.nodup_nil
  rw [drafts, ← List.singleton_append, happend, happend, hschema, hkeys, List.nil_append,
    List.append_nil]
  exact hindexes

/-! ## Pairs of statements -/

/-- The statements of the up script, each with the one of the down script that stands against it. -/
def pairs (m : Migration) : List (Statement × Statement) := m.up.zip m.down.reverse

/-- The down script undoes the up script statement by statement, in reverse order. -/
structure Mirrored (m : Migration) : Prop where
  up_eq : m.pairs.map Prod.fst = m.up
  down_eq : (m.pairs.map Prod.snd).reverse = m.down
  undoes : ∀ pair ∈ m.pairs, Undoes pair.1 pair.2

theorem mirrored_of_pairs {m : Migration} (ps : List (Statement × Statement))
    (hup : m.up = ps.map Prod.fst) (hdown : m.down = (ps.map Prod.snd).reverse)
    (hundo : ∀ pair ∈ ps, Undoes pair.1 pair.2) : m.Mirrored := by
  have hpairs : m.pairs = ps := by
    rw [pairs, hup, hdown, List.reverse_reverse]
    exact (List.zip_of_prod rfl rfl).symm
  exact ⟨by rw [hpairs, hup], by rw [hpairs, hdown], hpairs ▸ hundo⟩

theorem mirrored_schema : (schemaMigration o version entities).Mirrored := by
  refine mirrored_of_pairs (entities.map fun e => (createTable o e, dropTable o e.name)) ?_ ?_ ?_
  · rw [List.map_map]
    rfl
  · rw [List.map_map, ← List.map_reverse]
    rfl
  · intro pair hpair
    obtain ⟨e, -, rfl⟩ := List.mem_map.mp hpair
    exact undoes_table o e

theorem mirrored_paired? {name : String} {ps : List (Statement × Statement)} {m : Migration}
    (hundo : ∀ pair ∈ ps, Undoes pair.1 pair.2) (hm : m ∈ (paired? name version ps).toList) :
    m.Mirrored := by
  rw [Option.mem_toList, paired?] at hm
  obtain ⟨-, ⟨⟩⟩ := Option.ite_none_left_eq_some.mp hm
  exact mirrored_of_pairs ps rfl rfl hundo

theorem mirrored_drafts {m : Migration} (hm : m ∈ drafts o version entities) : m.Mirrored := by
  rw [drafts, List.mem_append, List.mem_cons] at hm
  obtain (rfl | hm) | hm := hm
  · exact mirrored_schema
  · split at hm
    · refine mirrored_paired? (fun pair hpair => ?_) hm
      obtain ⟨entry, -, rfl⟩ := List.mem_map.mp hpair
      exact undoes_index o entry.1 entry.2
    · cases hm
  · split at hm
    · cases hm
    · refine mirrored_paired? (fun pair hpair => ?_) hm
      obtain ⟨e, -, hpair⟩ := List.mem_flatMap.mp hpair
      obtain ⟨key, -, rfl⟩ := List.mem_map.mp hpair
      exact undoes_key o e key.1 key.2.1 key.2.2

/-! ## Runs -/

/-- Migrations are mirrored, and no two of their indexes have one name. -/
structure Reversible (ms : List Migration) : Prop where
  mirrored : ∀ m ∈ ms, m.Mirrored
  nodup : (createdIndexes ms).Nodup

/-- The down scripts of migrations, from the last migration to the first, undo their up scripts. -/
theorem Reversible.undo (h : Reversible ms) {d d' : Database}
    (hnew : ∀ name ∈ createdIndexes ms, ¬ d.HasIndex name)
    (hup : d.run (ms.flatMap (·.up)) = some d') :
    d'.run (ms.reverse.flatMap (·.down)) = some d := by
  have hups : ms.flatMap (·.up) = (ms.flatMap pairs).map Prod.fst := by
    rw [List.map_flatMap]
    exact List.flatMap_congr fun m hm => (h.mirrored m hm).up_eq.symm
  have hdowns : ms.reverse.flatMap (·.down) = ((ms.flatMap pairs).map Prod.snd).reverse := by
    rw [List.map_flatMap, List.reverse_flatMap]
    refine List.flatMap_congr fun m hm => ?_
    exact (h.mirrored m (List.mem_reverse.mp hm)).down_eq.symm
  have hindexes : createdIndexes ms = (ms.flatMap pairs).filterMap (·.1.index?) := by
    rw [createdIndexes, ← List.filterMap_flatMap, hups, List.filterMap_map]
    rfl
  rw [hups] at hup
  rw [hdowns]
  refine run_undo ?_ (hindexes ▸ h.nodup) (hindexes ▸ hnew) hup
  intro pair hpair
  obtain ⟨m, hm, hpair⟩ := List.mem_flatMap.mp hpair
  exact (h.mirrored m hm).undoes pair hpair

theorem reversible_nil : Reversible [] := ⟨List.forall_mem_nil _, List.nodup_nil⟩

theorem Reversible.of_isPrefix (h : Reversible ms) {done : List Migration} (hdone : done <+: ms) :
    Reversible done := by
  obtain ⟨rest, rfl⟩ := hdone
  have hnodup := h.nodup
  rw [createdIndexes, List.flatMap_append] at hnodup
  exact ⟨fun m hm => h.mirrored m (List.mem_append_left rest hm), hnodup.of_append_left⟩

/-- Versions have no part in what migrations do. -/
theorem reversible_erase (ms : List Migration) :
    Reversible (ms.map fun m => { m with version := "" }) ↔ Reversible ms := by
  have hindexes : createdIndexes (ms.map fun m => { m with version := "" }) = createdIndexes ms :=
    List.flatMap_map ..
  have hmirrored : (∀ m ∈ ms.map fun m => { m with version := "" }, m.Mirrored) ↔
      ∀ m ∈ ms, m.Mirrored :=
    List.forall_mem_map.trans <| forall₂_congr fun _ _ =>
      ⟨fun h => ⟨h.up_eq, h.down_eq, h.undoes⟩, fun h => ⟨h.up_eq, h.down_eq, h.undoes⟩⟩
  exact ⟨fun h => ⟨hmirrored.mp h.mirrored, hindexes ▸ h.nodup⟩,
    fun h => ⟨hmirrored.mpr h.mirrored, hindexes.symm ▸ h.nodup⟩⟩

theorem reversible_plan (h : plan o now base nodes = .ok ms) : Reversible ms := by
  have hdrafts : Reversible (unversioned o now.stamp nodes) := by
    rw [unversioned]
    split
    · exact reversible_nil
    · exact ⟨fun m hm => mirrored_drafts hm, nodup_createdIndexes_drafts⟩
  have hsame := assignVersions_map (fun m => { m with version := "" }) (fun _ _ => rfl)
    (assignVersions_of_plan h)
  rw [← reversible_erase, hsame, reversible_erase]
  exact hdrafts

/-- Migrations that were made, all of a run or only the first of it, can be undone: from what their
up scripts make of a database that has none of their indexes, the down scripts of the last to the
first lead back to that database. -/
theorem migrations_reversible (h : plan o now base nodes = .ok ms) {done : List Migration}
    (hdone : done <+: ms) {d d' : Database}
    (hnew : ∀ name ∈ createdIndexes done, ¬ d.HasIndex name)
    (hup : d.run (done.flatMap (·.up)) = some d') :
    d'.run (done.reverse.flatMap (·.down)) = some d :=
  ((reversible_plan h).of_isPrefix hdone).undo hnew hup

/-- A database that holds a table with an index from elsewhere. -/
def audited : Database where
  tables := {"app.audit"}
  indexes := {⟨"app.audit", "idx_audit_day"⟩}
  keys := ∅
  table_of_index := by decide
  table_of_key := by decide

/-- The same database with the tables, the index and the foreign key of the shop. -/
def stocked : Database where
  tables := {"app.audit", "app.user", "app.order"}
  indexes := {⟨"app.audit", "idx_audit_day"⟩, ⟨"app.order", "idx_order_buyer"⟩}
  keys := {("app.order", "fk_order_buyer_user")}
  table_of_index := by decide
  table_of_key := by decide

/-- The migrations of the shop bring all of it into a database and take it out again. -/
theorem migrations_reversible_shop :
    ∃ ms, plan { schema := some "app", backend := .mysql } default none shop = .ok ms ∧
      audited.run (ms.flatMap (·.up)) = some stocked ∧
      stocked.run (ms.reverse.flatMap (·.down)) = some audited := by
  have hruns : (plan { schema := some "app", backend := .mysql } default none shop).toOption.any
      (fun ms => decide ((∀ name ∈ createdIndexes ms, ¬ audited.HasIndex name) ∧
        audited.run (ms.flatMap (·.up)) = some stocked)) = true := by decide +kernel
  obtain ⟨ms, hplan, hruns⟩ := any_toOption_iff.mp hruns
  obtain ⟨hnew, hup⟩ := of_decide_eq_true hruns
  exact ⟨ms, hplan, hup, migrations_reversible hplan (List.prefix_refl ms) hnew hup⟩

end Migration

end Wirework
