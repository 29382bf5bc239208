import Wirework.Proofs.Migration.Versions
import Wirework.Proofs.Rust.Defaults

/-!
# Missing values in tables and models

Whether a value may be missing is decided twice: by the clauses of a column, which depend on the
database and on what it counts, and by the type of a model's field. A column takes NULL exactly if
its field is neither required nor a key (`takesNull_column`), whatever the database, and then the
type is an optional one. So a NULL that was stored never meets a field that cannot hold it
(`null_kept_out`). The converse fails for fields of an optional type that are required: the type
stays optional, and the column takes no NULL.
-/

namespace Wirework

def ColumnClause.forbidsNull (c : ColumnClause) : Bool := c.isNotNull || c.isPrimaryKey

def Column.takesNull (c : Column) : Bool := !c.clauses.any (·.forbidsNull)

/-- A definition has words as a clause of their own, after a blank and up to a blank or the end. -/
def HasClause (definition words : String) : Prop :=
  ∃ before after, definition = before ++ " " ++ words ++ after ∧
    (after = "" ∨ ∃ rest, after = " " ++ rest)

theorem hasClause_of_mem {words : String} {texts : List String} (start type : String)
    (h : words ∈ texts) : HasClause (" ".intercalate (start :: type :: texts)) words := by
  obtain ⟨front, back, rfl⟩ := List.append_of_mem h
  obtain ⟨before, hsplit⟩ : ∃ before, " ".intercalate (start :: type :: (front ++ words :: back)) =
      before ++ " " ++ " ".intercalate (words :: back) := by
    refine ⟨" ".intercalate (start :: type :: front), ?_⟩
    rw [← List.cons_append, ← List.cons_append,
      String.intercalate_append_of_ne_nil (by simp) (by simp)]
  cases back with
  | nil => exact ⟨before, "", by simpa using hsplit, .inl rfl⟩
  | cons next others =>
    refine ⟨before, " " ++ " ".intercalate (next :: others), ?_, .inr ⟨_, rfl⟩⟩
    rw [hsplit, String.intercalate_cons_of_ne_nil (by simp)]
    simp only [String.append_assoc]

theorem Column.hasClause_sql {c : Column} {clause : ColumnClause} {sql words : String}
    (h : c.sql = some sql) (hclause : clause ∈ c.clauses) (hwords : clause.sql = some words) :
    HasClause sql words := by
  obtain ⟨texts, htexts, hsql⟩ := Option.bind_eq_some_iff.mp h
  obtain ⟨words', hmem, hwords'⟩ := exists_of_mapM_eq_some htexts clause hclause
  cases hwords.symm.trans hwords'
  rw [← Option.some.inj hsql]
  exact hasClause_of_mem _ _ hmem

namespace Migration

/-! ## Clauses of a column -/

theorem forbidsNull_constraintClause (c : Constraint) :
    (constraintClause? c).any (·.forbidsNull) = decide (c.kind = .primaryKey) := by
  unfold constraintClause?
  cases hkind : c.kind with
  | primaryKey => rfl
  | unique => rfl
  | defaultExpression => cases nonEmpty? c.expression <;> rfl
  | check => cases nonEmpty? c.expression <;> rfl
  | _ => rfl

/-- Of the constraints only those for a key keep NULL out. -/
theorem any_constraints (cs : List Constraint) :
    (cs.filterMap constraintClause?).any (·.forbidsNull) = cs.any (·.kind = .primaryKey) := by
  induction cs with
  | nil => rfl
  | cons c rest ih =>
    rw [List.any_cons, ← forbidsNull_constraintClause, ← ih]
    cases h : constraintClause? c with
    | none => rw [List.filterMap_cons_none h]; rfl
    | some clause => rw [List.filterMap_cons_some h]; rfl

/-- The clauses of a column: those of a key that SQLite counts in, or else those of the constraints
and the one for required fields, among others that let NULL in. -/
theorem clauses_column (o : Options) (f : Field) :
    (f.isPrimaryKey = true ∧ (column o f).clauses = [.primaryKey, .counted "AUTOINCREMENT"]) ∨
      ∃ counter value, (column o f).clauses = f.constraints.filterMap constraintClause? ++ counter
          ++ (if f.required && !f.isPrimaryKey then [.notNull] else []) ++ value ∧
        counter.any (·.forbidsNull) = false ∧ value.any (·.forbidsNull) = false := by
  unfold column
  dsimp only
  split
  · rename_i hcounted
    exact .inl ⟨(Bool.and_eq_true_iff.mp hcounted).2, rfl⟩
  · refine .inr ⟨_, _, rfl, ?_, ?_⟩
    · split <;> rfl
    · split
      · split <;> rfl
      · rfl

/-- Whatever the database and the options, a column takes NULL if its field is neither required nor
a key. -/
theorem takesNull_column (o : Options) (f : Field) :
    (column o f).takesNull = f.isOptionalInModel := by
  rw [Column.takesNull, Field.isOptionalInModel]
  congr 1
  rcases clauses_column o f with ⟨hkey, hclauses⟩ | ⟨counter, value, hclauses, hcounter, hvalue⟩
  · rw [hclauses, hkey, Bool.or_true]
    rfl
  · have hkey : (f.constraints.filterMap constraintClause?).any (·.forbidsNull) =
        f.isPrimaryKey := any_constraints f.constraints
    rw [hclauses, List.any_append, List.any_append, List.any_append, hkey, hcounter, hvalue]
    cases f.required <;> cases f.isPrimaryKey <;> rfl

/-! ## Types of a model -/

/-- The type of a field is an optional one if the column takes NULL, or if it was declared so. -/
theorem option_iff (o : Options) (f : Field) :
    (∃ inner, (Rust.Ty.ofField f).text = "Option<" ++ inner ++ ">") ↔
      (column o f).takesNull = true ∨ f.dataType.isOptional = true := by
  rw [takesNull_column, ← Bool.or_eq_true, Rust.ofField_type]
  change _ ↔ Rust.omittable f = true
  cases hf : Rust.omittable f with
  | true => exact iff_of_true ⟨_, Rust.text_option _⟩ rfl
  | false =>
    refine iff_of_false ?_ Bool.false_ne_true
    rintro ⟨inner, htext⟩
    exact Rust.text_ofDataType_ne (Bool.or_eq_false_iff.mp hf).2 inner htext

/-- **Model and table agree on missing values.** Where the type of a model's field is not an
optional one, the column of the field takes no NULL in any database and under any options, and its
definition says so: it has one of the clauses that keep NULL out. There is a definition unless the
default of the field has too many digits. -/
theorem null_kept_out (o : Options) (f : Field)
    (hplain : ∀ inner, (Rust.Ty.ofField f).text ≠ "Option<" ++ inner ++ ">") :
    (column o f).takesNull = false ∧
      ((∀ n, f.defaultValue = some (.int n) → Number.isShort n = true) →
        (column o f).sql.isSome = true) ∧
      ∀ sql ∈ (column o f).sql, HasClause sql "NOT NULL" ∨ HasClause sql "PRIMARY KEY" := by
  have htakes : (column o f).takesNull = false := by
    by_contra hnull
    obtain ⟨inner, htext⟩ := (option_iff o f).mpr (.inl (by simpa using hnull))
    exact hplain inner htext
  refine ⟨htakes, fun hshort => ?_, fun sql hsql => ?_⟩
  · exact isSome_column.mpr fun n hn => hshort n (defaultValue_of_mem hn)
  · rw [Column.takesNull, Bool.not_eq_false', List.any_eq_true] at htakes
    obtain ⟨clause, hclause, hforbids⟩ := htakes
    -- A clause of any other kind lets NULL in.
    cases clause with
    | notNull => exact .inl (Column.hasClause_sql hsql hclause rfl)
    | primaryKey => exact .inr (Column.hasClause_sql hsql hclause rfl)
    | _ => cases hforbids

/-- A counted key, which is not marked as required. -/
def serial : Field where
  id := "f"
  name := "orderId"
  dataType := .ofScalar .int64
  constraints := [{ kind := .autoIncrement }, { kind := .primaryKey }]

theorem null_kept_out_serial :
    (Rust.Ty.ofField serial).text = "i64" ∧
      ∃ sql, (column { backend := .sqlite } serial).sql = some sql ∧
        (HasClause sql "NOT NULL" ∨ HasClause sql "PRIMARY KEY") := by
  have htype : (Rust.Ty.ofField serial).text = "i64" := by decide
  obtain ⟨-, hwritten, hclause⟩ := null_kept_out { backend := .sqlite } serial fun inner => by
    rw [htype]
    exact Rust.ne_option_of_head (by decide) inner
  obtain ⟨sql, hsql⟩ := Option.isSome_iff_exists.mp (hwritten (by rintro n ⟨⟩))
  exact ⟨htype, sql, hsql, hclause sql hsql⟩

end Migration

end Wirework
