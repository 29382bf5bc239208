import Mathlib.Data.List.Nodup
import Wirework.Proofs.Migration.ForeignKeys

/-!
# Tables that a database accepts

A table must not have two columns of one name, nor declare its primary key twice. The columns of an
entity are called after its fields in snake case, and the time columns are added by the names of the
fields as they stand, so two fields with different names may still share a column, and so may a
field and a time column. Each field declares the key for itself. `createTable_wellFormed_iff` says
which entities get a table without any of this.
-/

namespace Wirework

def Statement.columns : Statement → List Column
  | .createTable _ columns _ => columns
  | _ => []

/-- A statement declares no column twice and at most one of them the primary key. -/
structure Statement.WellFormed (s : Statement) : Prop where
  columns_nodup : (s.columns.map (·.name)).Nodup
  one_key : (s.columns.flatMap (·.clauses)).countP (·.isPrimaryKey) ≤ 1

namespace Migration

variable {o : Options} {n : Node} {f : Field}

/-! ## Names of columns -/

def columnName (f : Field) : String := Naming.snake f.name

theorem name_column : (column o f).name = columnName f := by
  unfold column
  dsimp only
  split <;> rfl

def addedNames (o : Options) (n : Node) : List String :=
  if o.timestamps then timestampColumns.filter fun name => !n.hasField name else []

theorem names_createTable : (createTable o n).columns.map (·.name) =
    n.fields.map columnName ++ addedNames o n := by
  have hadded : (addedColumns o n).map (·.name) = addedNames o n := by
    unfold addedColumns addedNames
    split
    · rw [List.map_map]
      exact List.map_id _
    · rfl
  rw [createTable, Statement.columns, List.map_append, List.map_map, hadded]
  congr 1
  exact List.map_congr_left fun f _ => name_column

theorem hasField_iff {name : String} : n.hasField name = true ↔ ∃ f ∈ n.fields, f.name = name := by
  simp [Node.hasField, Node.field?]

theorem snake_timestamp : ∀ name ∈ timestampColumns, Naming.snake name = name := by decide +kernel

theorem nodup_addedNames : (addedNames o n).Nodup := by
  have hnodup : timestampColumns.Nodup := by decide
  unfold addedNames
  split
  · exact hnodup.filter _
  · exact List.nodup_nil

/-- Where fields have columns of their own, a field with the column of a time column keeps that one
from being added only if it is called like it. -/
theorem addedNames_apart_iff (h : (n.fields.map columnName).Nodup) :
    (∀ f ∈ n.fields, columnName f ∉ addedNames o n) ↔
      (o.timestamps = true → ∀ f ∈ n.fields, columnName f ∈ timestampColumns →
        f.name = columnName f) := by
  unfold addedNames
  constructor
  · intro hapart htime f hf hcolumn
    have hthere : n.hasField (columnName f) = true := by
      by_contra hlacks
      refine hapart f hf ?_
      rw [if_pos htime]
      exact List.mem_filter.mpr ⟨hcolumn, by simpa using hlacks⟩
    obtain ⟨f', hf', hname⟩ := hasField_iff.mp hthere
    have hsame : columnName f' = columnName f := by
      rw [columnName, hname]
      exact snake_timestamp _ hcolumn
    rw [← List.inj_on_of_nodup_map h hf' hf hsame, hname, hsame]
  · intro hnamed f hf hadded
    split at hadded
    · rename_i htime
      obtain ⟨hcolumn, hlacks⟩ := List.mem_filter.mp hadded
      have hthere := hasField_iff.mpr ⟨f, hf, hnamed htime f hf hcolumn⟩
      rw [hthere] at hlacks
      cases hlacks
    · cases hadded

theorem nodup_names_iff : ((createTable o n).columns.map (·.name)).Nodup ↔
    (n.fields.map columnName).Nodup ∧
      (o.timestamps = true → ∀ f ∈ n.fields, columnName f ∈ timestampColumns →
        f.name = columnName f) := by
  rw [names_createTable, List.nodup_append']
  constructor
  · rintro ⟨hfields, -, hapart⟩
    refine ⟨hfields, (addedNames_apart_iff hfields).mp fun f hf hadded => ?_⟩
    exact hapart (List.mem_map_of_mem hf) hadded
  · rintro ⟨hfields, hnamed⟩
    refine ⟨hfields, nodup_addedNames, fun name hname hadded => ?_⟩
    obtain ⟨f, hf, rfl⟩ := List.mem_map.mp hname
    exact (addedNames_apart_iff hfields).mpr hnamed f hf hadded

/-! ## Primary keys -/

/-- How often a field declares its column the primary key: as often as it has the constraint, but
once for a column that SQLite counts in. -/
def keyClauses (o : Options) (f : Field) : Nat :=
  if o.autoIncrement && f.isAutoIncrement && o.backend = .sqlite && f.isPrimaryKey then 1
  else f.constraints.countP (·.kind = .primaryKey)

theorem countP_clauses (cs : List Constraint) :
    (cs.filterMap constraintClause?).countP (·.isPrimaryKey) =
      cs.countP (·.kind = .primaryKey) := by
  rw [List.countP_filterMap]
  refine List.countP_congr fun c _ => ?_
  unfold constraintClause?
  cases c.kind with
  | primaryKey => simp [ColumnClause.isPrimaryKey]
  | unique => simp [ColumnClause.isPrimaryKey]
  | defaultExpression => cases nonEmpty? c.expression <;> simp [ColumnClause.isPrimaryKey]
  | check => cases nonEmpty? c.expression <;> simp [ColumnClause.isPrimaryKey]
  | _ => simp

theorem countP_column : (column o f).clauses.countP (·.isPrimaryKey) = keyClauses o f := by
  unfold column keyClauses
  dsimp only
  split
  · rfl
  · rw [List.countP_append, List.countP_append, List.countP_append, countP_clauses, Nat.add_assoc,
      Nat.add_assoc, Nat.add_eq_left]
    -- Besides the constraints no clause declares a key.
    simp only [Nat.add_eq_zero_iff]
    refine ⟨?_, ?_, ?_⟩
    · split <;> rfl
    · split <;> rfl
    · split
      · split <;> rfl
      · rfl

theorem keyClauses_pos_iff : 0 < keyClauses o f ↔ f.isPrimaryKey = true := by
  unfold keyClauses
  split
  · rename_i hcounted
    simp_all
  · simp [Field.isPrimaryKey, Field.hasConstraint]

/-- Of all clauses of some columns at most one declares a key if at most one of the columns has such
a clause, and has it once. -/
theorem countP_flatMap_le_one_iff {α β : Type} {p : β → Bool} {clauses : α → List β} {q : α → Bool}
    (hq : ∀ a, 0 < (clauses a).countP p ↔ q a = true) (xs : List α) :
    (xs.flatMap clauses).countP p ≤ 1 ↔
      (xs.filter q).length ≤ 1 ∧ ∀ a ∈ xs.filter q, (clauses a).countP p = 1 := by
  induction xs with
  | nil => simp
  | cons a rest ih =>
    rw [List.flatMap_cons, List.countP_append]
    by_cases ha : q a = true
    · have hpos := (hq a).mpr ha
      have hrest : (rest.flatMap clauses).countP p = 0 ↔ rest.filter q = [] := by
        simp only [List.countP_eq_zero, List.filter_eq_nil_iff, ← hq, Nat.pos_iff_ne_zero,
          ne_eq, Decidable.not_not, List.mem_flatMap]
        constructor
        · intro h a ha x hx
          exact h x ⟨a, ha, hx⟩
        · rintro h x ⟨a, ha, hx⟩
          exact h a ha x hx
      rw [List.filter_cons_of_pos ha, List.length_cons, List.forall_mem_cons]
      constructor
      · intro hcount
        have hnil := hrest.mp (by omega)
        rw [hnil]
        exact ⟨Nat.le_refl 1, by omega, List.forall_mem_nil _⟩
      · rintro ⟨hlength, hone, -⟩
        have hzero := hrest.mpr (List.eq_nil_of_length_eq_zero (by omega))
        omega
    · have hzero := Nat.eq_zero_of_not_pos ((hq a).not.mpr ha)
      rw [List.filter_cons_of_neg ha, hzero, Nat.zero_add, ih]

theorem one_key_iff : ((createTable o n).columns.flatMap (·.clauses)).countP (·.isPrimaryKey) ≤ 1 ↔
    n.primaryKeyFields.length ≤ 1 ∧ ∀ f ∈ n.primaryKeyFields, keyClauses o f = 1 := by
  have hadded : ((addedColumns o n).flatMap (·.clauses)).countP (·.isPrimaryKey) = 0 := by
    unfold addedColumns
    split
    · rw [List.countP_eq_zero]
      intro clause hclause
      obtain ⟨column, hcolumn, hclause⟩ := List.mem_flatMap.mp hclause
      obtain ⟨name, -, rfl⟩ := List.mem_map.mp hcolumn
      rcases List.mem_cons.mp hclause with rfl | hclause
      · exact Bool.false_ne_true
      · rw [List.mem_singleton.mp hclause]
        exact Bool.false_ne_true
    · rfl
  have hkey : ∀ f, 0 < (column o f).clauses.countP (·.isPrimaryKey) ↔ f.isPrimaryKey = true := by
    intro f
    rw [countP_column]
    exact keyClauses_pos_iff
  rw [createTable, Statement.columns, List.flatMap_append, List.countP_append, hadded, Nat.add_zero,
    List.flatMap_map, countP_flatMap_le_one_iff hkey]
  simp only [countP_column]
  rfl

/-! ## Tables -/

/-- **Which tables are well formed.** The table of an entity declares no column twice and at most
one primary key exactly if its fields differ in snake case, none of them is written otherwise than
the time column that it becomes where these are added, and at most one field is a primary key and
declares so once. -/
theorem createTable_wellFormed_iff (o : Options) (n : Node) : (createTable o n).WellFormed ↔
    (n.fields.map columnName).Nodup ∧
    (o.timestamps = true → ∀ f ∈ n.fields, columnName f ∈ timestampColumns →
      f.name = columnName f) ∧
    n.primaryKeyFields.length ≤ 1 ∧ ∀ f ∈ n.primaryKeyFields, keyClauses o f = 1 := by
  rw [← one_key_iff, ← and_assoc, ← nodup_names_iff]
  exact ⟨fun h => ⟨h.columns_nodup, h.one_key⟩, fun h => ⟨h.1, h.2⟩⟩

/-- An entity with a key and a time field in camel case. -/
def event : Node := entity "e" "Event" [
  { id := "f", name := "id", constraints := [{ kind := .primaryKey }] },
  { id := "g", name := "createdAt", dataType := .ofScalar .datetime }]

/-- An entity with a key of two fields. -/
def seat : Node := entity "s" "Seat" [
  { id := "f", name := "row", constraints := [{ kind := .primaryKey }] },
  { id := "g", name := "number", constraints := [{ kind := .primaryKey }] }]

/-- The fields of both entities have different names. All the same the table of the first has the
column `created_at` twice, and that of the second has two primary keys. -/
theorem tables_malformed :
    ((event.fields.map (·.name)).Nodup ∧ ¬ (createTable {} event).WellFormed) ∧
      (seat.fields.map (·.name)).Nodup ∧ ¬ (createTable {} seat).WellFormed := by
  refine ⟨⟨by decide, fun h => ?_⟩, by decide, fun h => ?_⟩
  · obtain ⟨-, hnamed, -⟩ := (createTable_wellFormed_iff {} event).mp h
    have hcolumn : Naming.snake "createdAt" = "created_at" := by decide +kernel
    have hname := hnamed rfl _ (List.mem_cons_of_mem _ List.mem_cons_self)
    simp [columnName, hcolumn, timestampColumns] at hname
  · obtain ⟨-, -, hlength, -⟩ := (createTable_wellFormed_iff {} seat).mp h
    exact absurd hlength (by decide)

end Migration

end Wirework
