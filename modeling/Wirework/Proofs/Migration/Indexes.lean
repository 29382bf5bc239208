import Wirework.Proofs.Migration.Reversal
import Wirework.Proofs.Migration.Tables

/-!
# Indexes that are not made

An index is named after its table and its column with an underscore between them, and of fields with
one index name only the first gets its index. The name does not say where the table ends: the last
words of one table may be the first words of a column of another. Fields of different tables share
an index name just if one runs into the other in this way (`indexOf_eq_iff`), so every field has its
index exactly if no field does (`indexes_complete_iff`).
-/

namespace Wirework

def Statement.indexedColumn? : Statement → Option (String × String)
  | .createIndex _ table column _ => some (table, column)
  | _ => none

namespace Migration

variable {o : Options} {now : Moment} {base : Option Moment} {version : String}
  {nodes entities : List Node} {ms : List Migration} {entry entry' : Node × Field}
  {entries : List (Node × Field)} {seen : List String}

/-! ## What a run makes indexes on -/

/-- The columns that the migration of indexes makes indexes on, one for each statement. -/
def indexesMade (ms : List Migration) : List (String × String) :=
  ms.flatMap fun m =>
    if m.name = "create_indexes" then m.up.filterMap Statement.indexedColumn? else []

def location (o : Options) (entry : Node × Field) : String × String :=
  (tableName o entry.1.name, columnName entry.2)

theorem indexedColumn?_indexStatements (o : Options) (entry : Node × Field) :
    (indexStatements o entry.1 entry.2).1.indexedColumn? = some (location o entry) := by
  unfold indexStatements
  dsimp only
  split <;> rfl

theorem indexesMade_paired? {name : String} {pairs : List (Statement × Statement)} :
    indexesMade (paired? name version pairs).toList =
      if name = "create_indexes" then pairs.filterMap (·.1.indexedColumn?) else [] := by
  cases pairs with
  | nil => simp [paired?, indexesMade]
  | cons pair rest =>
    rw [paired?, if_neg (by simp), indexesMade, Option.toList_some, List.flatMap_singleton,
      List.filterMap_map]
    rfl

theorem indexesMade_drafts (h : o.indexes = true) : indexesMade (drafts o version entities) =
    (firstNamed [] (indexedFields entities)).map (location o) := by
  have happend : ∀ xs ys, indexesMade (xs ++ ys) = indexesMade xs ++ indexesMade ys :=
    fun _ _ => List.flatMap_append
  have hschema : indexesMade [schemaMigration o version entities] = [] := by
    simp [indexesMade, schemaMigration]
  have hkeys : indexesMade (if o.backend = .sqlite then []
      else (foreignKeyMigration? o version entities).toList) = [] := by
    split
    · rfl
    · rw [foreignKeyMigration?, indexesMade_paired?, if_neg (by decide)]
  rw [drafts, if_pos h, ← List.singleton_append, happend, happend, hschema, hkeys, List.nil_append,
    List.append_nil, indexMigration?, indexesMade_paired?, if_pos rfl, List.filterMap_map,
    ← List.filterMap_eq_map]
  exact List.filterMap_congr fun entry _ => indexedColumn?_indexStatements o entry

theorem indexesMade_plan (hindexes : o.indexes = true) (h : plan o now base nodes = .ok ms) :
    indexesMade ms =
      (firstNamed [] (indexedFields (order (nodes.filter (·.isEntity))))).map (location o) := by
  have h := assignVersions_of_plan h
  have hmade : indexesMade ms = indexesMade (unversioned o now.stamp nodes) :=
    congrArg List.flatten (assignVersions_map _ (fun _ _ => rfl) h)
  rw [hmade, unversioned]
  split
  · rename_i hnone
    rw [List.isEmpty_iff.mp hnone]
    rfl
  · exact indexesMade_drafts hindexes

/-! ## Which fields are first -/

def indexOf (entry : Node × Field) : String := indexName entry.1.name entry.2.name

theorem firstNamed_cons : firstNamed seen (entry :: entries) =
    if indexOf entry ∈ seen then firstNamed seen entries
    else entry :: firstNamed (indexOf entry :: seen) entries := by
  obtain ⟨e, f⟩ := entry
  by_cases h : indexOf (e, f) ∈ seen
  · rw [if_pos h]
    exact if_pos (List.contains_iff_mem.mpr h)
  · rw [if_neg h]
    exact if_neg fun hseen => h (List.contains_iff_mem.mp hseen)

theorem firstNamed_sublist : (firstNamed seen entries).Sublist entries := by
  induction entries generalizing seen with
  | nil => exact .slnil
  | cons entry rest ih =>
    rw [firstNamed_cons]
    split
    · exact ih.cons entry
    · exact ih.cons_cons entry

/-- An index name that was not seen before belongs to one of the first fields. -/
theorem exists_firstNamed (seen : List String) (h : entry ∈ entries) : indexOf entry ∈ seen ∨
    ∃ first ∈ firstNamed seen entries, indexOf first = indexOf entry := by
  induction entries generalizing seen with
  | nil => cases h
  | cons head rest ih =>
    rw [firstNamed_cons]
    by_cases hseen : indexOf head ∈ seen
    · rw [if_pos hseen]
      rcases List.mem_cons.mp h with rfl | h
      · exact Or.inl hseen
      · exact ih seen h
    · rw [if_neg hseen]
      rcases List.mem_cons.mp h with rfl | h
      · exact Or.inr ⟨entry, List.mem_cons_self, rfl⟩
      · rcases ih (indexOf head :: seen) h with hmem | ⟨first, hfirst, hname⟩
        · rcases List.mem_cons.mp hmem with hname | hmem
          · exact Or.inr ⟨head, List.mem_cons_self, hname.symm⟩
          · exact Or.inl hmem
        · exact Or.inr ⟨first, List.mem_cons_of_mem _ hfirst, hname⟩

/-! ## Names that run into each other -/

/-- The table of the second field is that of the first and some more words, which the column of the
first field starts with and that of the second lacks. -/
def RunsInto (entry entry' : Node × Field) : Prop :=
  ∃ words, Naming.snake entry'.1.name = Naming.snake entry.1.name ++ "_" ++ words ∧
    columnName entry.2 = words ++ "_" ++ columnName entry'.2

/-- Where two texts are joined by a mark, one may end earlier than the other. -/
theorem append_mark_eq_iff {a b c d : List Char} : a ++ '_' :: b = c ++ '_' :: d ↔
    (a = c ∧ b = d) ∨ (∃ m, c = a ++ '_' :: m ∧ b = m ++ '_' :: d) ∨
      ∃ m, a = c ++ '_' :: m ∧ d = m ++ '_' :: b := by
  rw [List.append_eq_append_iff]
  constructor
  · rintro (⟨m, rfl, hm⟩ | ⟨m, rfl, hm⟩)
    · cases m with
      | nil => exact Or.inl ⟨(List.append_nil a).symm, (List.cons.inj hm).2⟩
      | cons x m =>
        obtain ⟨rfl, rfl⟩ := List.cons.inj hm
        exact Or.inr (Or.inl ⟨m, rfl, rfl⟩)
    · cases m with
      | nil => exact Or.inl ⟨List.append_nil c, (List.cons.inj hm).2.symm⟩
      | cons x m =>
        obtain ⟨rfl, rfl⟩ := List.cons.inj hm
        exact Or.inr (Or.inr ⟨m, rfl, rfl⟩)
  · rintro (⟨rfl, rfl⟩ | ⟨m, rfl, rfl⟩ | ⟨m, rfl, rfl⟩)
    · exact Or.inl ⟨[], (List.append_nil a).symm, rfl⟩
    · exact Or.inl ⟨'_' :: m, rfl, rfl⟩
    · exact Or.inr ⟨'_' :: m, rfl, rfl⟩

theorem runsInto_iff : RunsInto entry entry' ↔ ∃ m,
    (Naming.snake entry'.1.name).toList = (Naming.snake entry.1.name).toList ++ '_' :: m ∧
      (columnName entry.2).toList = m ++ '_' :: (columnName entry'.2).toList := by
  have hmark : "_".toList = ['_'] := rfl
  simp only [RunsInto, ← String.toList_inj, String.toList_append, hmark, List.append_assoc,
    List.singleton_append]
  constructor
  · rintro ⟨words, htable, hcolumn⟩
    exact ⟨words.toList, htable, hcolumn⟩
  · rintro ⟨m, htable, hcolumn⟩
    exact ⟨String.ofList m, by simpa using htable, by simpa using hcolumn⟩

/-- Fields share an index name if they have the same table and column, or if one runs into the
other. -/
theorem indexOf_eq_iff : indexOf entry = indexOf entry' ↔
    (Naming.snake entry.1.name = Naming.snake entry'.1.name ∧
      columnName entry.2 = columnName entry'.2) ∨
    RunsInto entry entry' ∨ RunsInto entry' entry := by
  have hmark : "_".toList = ['_'] := rfl
  simp only [runsInto_iff, ← String.toList_inj]
  rw [← append_mark_eq_iff]
  simp only [indexOf, indexName, columnName, String.toList_append, hmark, List.append_assoc,
    List.append_cancel_left_eq, List.singleton_append]

/-- A field does not run into itself, nor into another one of its table. -/
theorem RunsInto.tables_ne (h : RunsInto entry entry') :
    Naming.snake entry.1.name ≠ Naming.snake entry'.1.name := by
  obtain ⟨m, htable, -⟩ := runsInto_iff.mp h
  intro heq
  have hlength := congrArg List.length htable
  rw [heq, List.length_append, List.length_cons] at hlength
  omega

/-! ## Every field has its index -/

theorem mem_indexedFields : entry ∈ indexedFields entities ↔ entry.1 ∈ entities ∧
    entry.2 ∈ entry.1.fields ∧ (entry.2.isIndexed || entry.2.isForeignKey) = true := by
  obtain ⟨e, f⟩ := entry
  simp only [indexedFields, List.mem_flatMap, List.mem_map, List.mem_filter, Prod.mk.injEq]
  constructor
  · rintro ⟨e, he, f, ⟨hf, hkind⟩, rfl, rfl⟩
    exact ⟨he, hf, hkind⟩
  · rintro ⟨he, hf, hkind⟩
    exact ⟨e, he, f, ⟨hf, hkind⟩, rfl, rfl⟩

/-- Entities with different tables, each with different columns. -/
structure Apart (o : Options) (entities : List Node) : Prop where
  tables : (entities.map fun e => tableName o e.name).Nodup
  columns : ∀ e ∈ entities, (e.fields.map columnName).Nodup

theorem Apart.perm (h : Apart o entities) {entities' : List Node}
    (hperm : entities'.Perm entities) : Apart o entities' where
  tables := (hperm.map _).nodup_iff.mpr h.tables
  columns e he := h.columns e (hperm.mem_iff.mp he)

theorem Apart.nodup_locations (h : Apart o entities) :
    ((indexedFields entities).map (location o)).Nodup := by
  rw [indexedFields, List.map_flatMap, List.nodup_flatMap]
  constructor
  · intro e he
    rw [List.map_map]
    refine List.Nodup.of_map Prod.snd ?_
    rw [List.map_map]
    exact (List.filter_sublist.map columnName).nodup (h.columns e he)
  · refine (List.pairwise_map.mp h.tables).imp fun {e e'} hne => ?_
    intro p hp hp'
    simp only [List.mem_map, location] at hp hp'
    obtain ⟨_, ⟨f, -, rfl⟩, rfl⟩ := hp
    obtain ⟨_, ⟨f', -, rfl⟩, hlocation⟩ := hp'
    exact hne (Prod.ext_iff.mp hlocation).1.symm

/-- Each indexed field is the first of its index name just if none of them runs into another. -/
theorem Apart.all_first_iff (h : Apart o entities) :
    (∀ entry ∈ indexedFields entities, entry ∈ firstNamed [] (indexedFields entities)) ↔
      ∀ entry ∈ indexedFields entities, ∀ entry' ∈ indexedFields entities,
        ¬ RunsInto entry entry' := by
  constructor
  · intro hfirst entry hentry entry' hentry' hruns
    have hname : indexOf entry = indexOf entry' := indexOf_eq_iff.mpr (Or.inr (Or.inl hruns))
    have hsame := List.inj_on_of_nodup_map (nodup_firstNamed [] _).1 (hfirst entry hentry)
      (hfirst entry' hentry') hname
    exact hruns.tables_ne (by rw [hsame])
  · intro hruns entry hentry
    obtain hmem | ⟨first, hfirst, hname⟩ := exists_firstNamed [] hentry
    · cases hmem
    · have hmem := firstNamed_sublist.subset hfirst
      obtain ⟨htable, hcolumn⟩ | hrun | hrun := indexOf_eq_iff.mp hname
      · have hlocation : location o first = location o entry :=
          Prod.ext (congrArg (qualified o) htable) hcolumn
        rwa [← List.inj_on_of_nodup_map h.nodup_locations hmem hentry hlocation]
      · exact absurd hrun (hruns first hmem entry hentry)
      · exact absurd hrun (hruns entry hentry first hmem)

theorem Apart.count_location (h : Apart o entities) (hentry : entry ∈ indexedFields entities) :
    ((firstNamed [] (indexedFields entities)).map (location o)).count (location o entry) = 1 ↔
      entry ∈ firstNamed [] (indexedFields entities) := by
  have hnodup : ((firstNamed [] (indexedFields entities)).map (location o)).Nodup :=
    (firstNamed_sublist.map _).nodup h.nodup_locations
  constructor
  · intro hcount
    obtain ⟨first, hfirst, hlocation⟩ :=
      List.mem_map.mp (List.count_pos_iff.mp (hcount ▸ Nat.one_pos))
    have hmem := firstNamed_sublist.subset hfirst
    rwa [← List.inj_on_of_nodup_map h.nodup_locations hmem hentry hlocation]
  · intro hfirst
    exact List.count_eq_one_of_mem hnodup (List.mem_map_of_mem hfirst)

/-- **Every field has its index, or names run into each other.** Of entities with different tables,
each with different columns, a run makes one index on each field that is to have one if and only if
no such field runs into another; and runs are made unless a default is too long or the calendar
ends. -/
theorem indexes_complete_iff (o : Options) (nodes : List Node) (now : Moment)
    (base : Option Moment) (hindexes : o.indexes = true)
    (hapart : Apart o (nodes.filter (·.isEntity))) :
    ((∀ t ∈ base, t.Admits 2) → Scriptable o nodes → ∃ ms, plan o now base nodes = .ok ms) ∧
    ∀ ms, plan o now base nodes = .ok ms →
      ((∀ e ∈ nodes, e.isEntity = true → ∀ f ∈ e.fields, (f.isIndexed || f.isForeignKey) = true →
          (indexesMade ms).count (location o (e, f)) = 1) ↔
        ∀ entry ∈ indexedFields (nodes.filter (·.isEntity)),
          ∀ entry' ∈ indexedFields (nodes.filter (·.isEntity)), ¬ RunsInto entry entry') := by
  refine ⟨fun hbase hnodes => plan_succeeds now hnodes hbase, fun ms h => ?_⟩
  have hperm := order_perm (nodes.filter (·.isEntity))
  have hsame : ∀ {entry}, entry ∈ indexedFields (nodes.filter (·.isEntity)) ↔
      entry ∈ indexedFields (order (nodes.filter (·.isEntity))) := by
    simp only [mem_indexedFields, hperm.mem_iff, implies_true]
  have hsorted := hapart.perm hperm
  rw [indexesMade_plan hindexes h]
  simp only [hsame]
  rw [← hsorted.all_first_iff]
  constructor
  · intro hcount entry hentry
    obtain ⟨he, hf, hkind⟩ := mem_indexedFields.mp (hsame.mpr hentry)
    obtain ⟨he, hentity⟩ := List.mem_filter.mp he
    exact (hsorted.count_location hentry).mp (hcount entry.1 he hentity entry.2 hf hkind)
  · intro hfirst e he hentity f hf hkind
    have hentry : (e, f) ∈ indexedFields (order (nodes.filter (·.isEntity))) :=
      hsame.mp (mem_indexedFields.mpr ⟨List.mem_filter.mpr ⟨he, hentity⟩, hf, hkind⟩)
    exact (hsorted.count_location hentry).mpr (hfirst (e, f) hentry)

/-- An order with the code of an item, and the items of orders with their codes. -/
def ordered : List Node := [
  entity "o" "Order" [{ id := "f", name := "item_code", constraints := [{ kind := .indexed }] }],
  entity "i" "OrderItem" [{ id := "g", name := "code", constraints := [{ kind := .indexed }] }]]

/-- The item of an order has no index on its code: `order_item` and `code` make the same index name
as `order` and `item_code`. -/
theorem index_lost_ordered : Apart {} (ordered.filter (·.isEntity)) ∧
    ∃ ms, plan {} default none ordered = .ok ms ∧
      ¬ ∀ e ∈ ordered, e.isEntity = true → ∀ f ∈ e.fields, (f.isIndexed || f.isForeignKey) = true →
        (indexesMade ms).count (location {} (e, f)) = 1 := by
  have hapart : Apart {} (ordered.filter (·.isEntity)) := by
    constructor <;> decide +kernel
  obtain ⟨hruns, hcomplete⟩ := indexes_complete_iff {} ordered default none rfl hapart
  obtain ⟨ms, h⟩ := hruns (fun t ht => by cases ht) (scriptable_of_no_defaults (by decide))
  refine ⟨hapart, ms, h, fun hall => ?_⟩
  refine (hcomplete ms h).mp hall _ List.mem_cons_self _
    (List.mem_cons_of_mem _ List.mem_cons_self) ⟨"item", ?_, ?_⟩ <;> decide +kernel

end Migration

end Wirework
