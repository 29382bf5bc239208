import Wirework.Proofs.Record.Halting
import Wirework.Record.Graph

/-!
# Where settings stand in a project

The reading of a record ends at once only at a setting that overflows. `Tracked` says for a type at
the end of which tracks its settings stand; a type is `Inert` if there are none in it. Every record
of a project is one or the other, by its entries.
-/

namespace Wirework

open Reading (Halts)

variable {α β : Type}

/-! ## Tracks -/

/-- A step from data to a part of it. -/
inductive Step where
  /-- To the entry under a key. -/
  | entry (key : String)
  /-- To any of the items of a list. -/
  | items
  /-- To any of the entries of a map. -/
  | entries
  deriving DecidableEq

namespace Data

/-- A setting that overflows stands in the data at the end of a track. -/
def OverflowsAt : List Step → Data → Prop
  | [], d => Setting.Overflows d
  | .entry key :: track, d =>
    ∃ entries, d = .object entries ∧ ∃ value, lookup? key entries = some value ∧
      OverflowsAt track value
  | .items :: track, d => ∃ items, d = .list items ∧ ∃ x ∈ items, OverflowsAt track x
  | .entries :: track, d => ∃ entries, d = .object entries ∧ ∃ e ∈ entries, OverflowsAt track e.2

/-- A setting that overflows stands at the end of one of the tracks. -/
def OverflowsIn (tracks : List (List Step)) (d : Data) : Prop := ∃ t ∈ tracks, OverflowsAt t d

variable {tracks : List (List Step)} {d : Data}

theorem not_overflowsIn_null : ¬OverflowsIn tracks .null := by
  rintro ⟨t, -, h⟩
  cases t with
  | nil => cases h
  | cons step t => cases step <;> obtain ⟨_, ⟨⟩, -⟩ := h

/-- One step, with the same tracks from there. -/
theorem overflowsIn_step (step : Step) :
    OverflowsIn (tracks.map (step :: ·)) d ↔ ∃ t ∈ tracks, OverflowsAt (step :: t) d := by
  constructor
  · rintro ⟨_, hmem, h⟩
    obtain ⟨t, ht, rfl⟩ := List.mem_map.mp hmem
    exact ⟨t, ht, h⟩
  · rintro ⟨t, ht, h⟩
    exact ⟨_, List.mem_map_of_mem ht, h⟩

theorem overflowsIn_items : OverflowsIn (tracks.map (.items :: ·)) d ↔
    ∃ items, d = .list items ∧ ∃ x ∈ items, OverflowsIn tracks x := by
  rw [overflowsIn_step]
  constructor
  · rintro ⟨t, ht, items, hd, x, hx, h⟩
    exact ⟨items, hd, x, hx, t, ht, h⟩
  · rintro ⟨items, hd, x, hx, t, ht, h⟩
    exact ⟨t, ht, items, hd, x, hx, h⟩

theorem overflowsIn_entries : OverflowsIn (tracks.map (.entries :: ·)) d ↔
    ∃ entries, d = .object entries ∧ ∃ e ∈ entries, OverflowsIn tracks e.2 := by
  rw [overflowsIn_step]
  constructor
  · rintro ⟨t, ht, entries, hd, e, he, h⟩
    exact ⟨entries, hd, e, he, t, ht, h⟩
  · rintro ⟨entries, hd, e, he, t, ht, h⟩
    exact ⟨t, ht, entries, hd, e, he, h⟩

end Data

/-! ## Types with and without settings -/

/-- There are no settings in the type: its reading never ends early. -/
class Inert (α : Type) [Record α] : Prop where
  halts (path : List String) {d : Data} (hd : d.IsDocument) :
    (Record.read path d : Reading α).Halts False

/-- The settings in the type stand at the end of tracks, and they alone may end its reading. -/
class Tracked (α : Type) [Record α] where
  tracks : List (List Step)
  halts (path : List String) {d : Data} (hd : d.IsDocument) :
    (Record.read path d : Reading α).Halts (d.OverflowsIn tracks)

namespace Inert

instance : Inert String := ⟨fun path d hd => by
  cases hd with
  | text s => exact Reading.halts_pure s
  | _ => exact Reading.halts_complain path _⟩

instance (priority := low) [Labelled α] [Inhabited α] : Inert α :=
  ⟨fun path d _ => Setting.labelled_halts path d⟩

theorem orComplain_halts [Inhabited α] (path : List String) (x : Except Fault α) :
    (Reading.orComplain path x).Halts False := by
  cases x with
  | ok a => exact Reading.halts_pure a
  | error fault => exact Reading.halts_complain path fault

instance : Inert Bool := ⟨fun path d hd => by
  cases hd with
  | bool b => exact Reading.halts_pure b
  | int n =>
    simp only [Record.read]
    split
    · exact orComplain_halts path _
    · exact Reading.halts_complain path _
  | float x =>
    simp only [Record.read]
    split
    · exact orComplain_halts path _
    · exact Reading.halts_complain path _
  | text s =>
    simp only [Record.read]
    split
    · exact Reading.halts_pure _
    · exact Reading.halts_complain path _
  | _ => exact Reading.halts_complain path _⟩

instance : Inert Ordinal := ⟨fun path d hd => by
  cases hd with
  | float x => exact (orComplain_halts path _).map _
  | text s =>
    refine Halts.map ?_ Ordinal.int
    rw [Record.readInt]
    split
    · exact Reading.halts_pure _
    · exact Reading.halts_complain path _
    · exact Reading.halts_complain path _
  | int _ | bool _ => exact (Reading.halts_pure _).map _
  | _ => exact (Reading.halts_complain path _).map _⟩

instance : Inert Double := ⟨fun path d hd => by
  cases hd with
  | int n =>
    simp only [Record.read, Record.doubleOfInt]
    split
    · exact Reading.halts_pure _
    · intro s hs
      refine ⟨nofun, fun _ => ⟨.infinity (n < 0), s, ?_, hs⟩⟩
      change (if s.inDocument then pure (Double.infinity (n < 0))
        else Reading.complain path .notNumber : Reading Double) s = _
      rw [if_pos hs]
      rfl
  | text s =>
    simp only [Record.read]
    split
    · exact Reading.halts_pure _
    · exact Reading.halts_complain path _
  | float _ | bool _ => exact Reading.halts_pure _
  | _ => exact Reading.halts_complain path _⟩

instance : Inert Moment := ⟨fun path d _ => by
  simp only [Record.read]
  split
  · exact Reading.halts_pure _
  · exact Reading.halts_complain path _⟩

instance : Inert Data := ⟨fun _ _ _ => Reading.halts_pure _⟩

instance : Inert (Option Bound) := ⟨fun path d hd => by
  cases hd with
  | list _ | object _ => exact Reading.halts_complain path _
  | _ => exact Reading.halts_pure _⟩

/-! ### Containers -/

variable [Record α]

instance [Inert α] : Inert (Option α) := ⟨fun path d hd => by
  cases hd with
  | null => exact Reading.halts_pure none
  | list hitems => exact (halts path (.list hitems)).map some
  | object hentries => exact (halts path (.object hentries)).map some
  | bool b => exact (halts path (.bool b)).map some
  | int n => exact (halts path (.int n)).map some
  | float x => exact (halts path (.float x)).map some
  | text s => exact (halts path (.text s)).map some⟩

end Inert

theorem Record.readItems_halts [Record α] {P : Data → Prop} {items : List Data}
    (h : ∀ d ∈ items, ∀ path, (Record.read path d : Reading α).Halts (P d)) (path : List String)
    (index : Nat) : (readItems path index items : Reading (List α)).Halts (∃ d ∈ items, P d) := by
  induction items generalizing index with
  | nil => exact (Reading.halts_pure []).congr (by simp)
  | cons d items ih =>
    obtain ⟨hfirst, hrest⟩ := List.forall_mem_cons.mp h
    rw [readItems]
    refine ((hfirst _).bind fun first => (ih hrest (index + 1)).map (first :: ·)).congr ?_
    simp

theorem Record.readEntries_halts [Record α] {P : Data → Prop} {entries : List (String × Data)}
    (h : ∀ e ∈ entries, ∀ path, (Record.read path e.2 : Reading α).Halts (P e.2))
    (path : List String) (done : Dict α) :
    (readEntries path done entries).Halts (∃ e ∈ entries, P e.2) := by
  induction entries generalizing done with
  | nil => exact (Reading.halts_pure done).congr (by simp)
  | cons e entries ih =>
    obtain ⟨key, d⟩ := e
    obtain ⟨hfirst, hrest⟩ := List.forall_mem_cons.mp h
    rw [readEntries]
    refine ((hfirst _).bind fun first => ih hrest (done.insert key first)).congr ?_
    simp

section Containers

variable [Record α]

instance [Inert α] : Inert (List α) := ⟨fun path d hd => by
  cases hd with
  | list hitems =>
    refine (Record.readItems_halts (P := fun _ => False) (fun d hd path => ?_) path 0).congr
      (by simp)
    exact Inert.halts path (hitems d hd)
  | _ => exact Reading.halts_complain path _⟩

instance [Inert α] : Inert (Dict α) := ⟨fun path d hd => by
  cases hd with
  | object hentries =>
    refine (Record.readEntries_halts (P := fun _ => False) (fun e he path => ?_) path _).congr
      (by simp)
    exact Inert.halts path (hentries e he)
  | _ => exact Reading.halts_complain path _⟩

open Data

instance [Tracked α] : Tracked (Option α) where
  tracks := Tracked.tracks α
  halts path d hd := by
    have hsome := (Tracked.halts (α := α) path hd).map some
    cases hd with
    | null => exact (Reading.halts_pure none).congr (iff_of_false not_false not_overflowsIn_null)
    | _ => exact hsome

instance [Tracked α] : Tracked (List α) where
  tracks := (Tracked.tracks α).map (.items :: ·)
  halts path d hd := by
    simp only [overflowsIn_items]
    cases hd with
    | list hitems =>
      refine (Record.readItems_halts (fun d hd path => Tracked.halts path (hitems d hd)) path
        0).congr ?_
      simp
    | _ => exact (Reading.halts_complain path _).congr (by simp)

instance [Tracked α] : Tracked (Dict α) where
  tracks := (Tracked.tracks α).map (.entries :: ·)
  halts path d hd := by
    simp only [overflowsIn_entries]
    cases hd with
    | object hentries =>
      refine (Record.readEntries_halts (fun e he path => Tracked.halts path (hentries e he)) path
        _).congr ?_
      simp
    | _ => exact (Reading.halts_complain path _).congr (by simp)

end Containers

/-- A setting stands where it stands. -/
instance : Tracked Setting where
  tracks := [[]]
  halts path d hd := by
    refine (((Setting.read_halts hd).1 path).deeper path).congr ?_
    simp [Data.OverflowsIn, Data.OverflowsAt]

/-! ## Entries of a record -/

namespace Record.Source

variable {s : Source} {key : String}

/-- All entries have been read from the text of a document. -/
def IsDocument (s : Source) : Prop := ∀ e ∈ s.entries, e.2.IsDocument

/-- A setting that overflows stands under a key, at the end of one of the tracks from there. -/
def OverflowsUnder (s : Source) (field : String × List (List Step)) : Prop :=
  ∃ value, Data.lookup? field.1 s.entries = some value ∧ value.OverflowsIn field.2

theorem fieldElse_inert [Record α] [Inert α] (hs : s.IsDocument) {make : Reading α}
    (hmake : make.Halts False) : (s.fieldElse key make).Halts False := by
  rw [fieldElse]
  split
  · exact Inert.halts _ (hs _ (Data.mem_of_lookup? ‹_›))
  · exact hmake

theorem fieldOr_inert [Record α] [Inert α] (hs : s.IsDocument) {fallback : α} :
    (s.fieldOr key fallback).Halts False :=
  fieldElse_inert hs (Reading.halts_pure fallback)

theorem field_inert [Record α] [Inert α] [Inhabited α] (hs : s.IsDocument) :
    (s.field key : Reading α).Halts False := by
  rw [field]
  split
  · exact Inert.halts _ (hs _ (Data.mem_of_lookup? ‹_›))
  · exact Reading.halts_complain _ _

theorem fieldOr_halts [Record α] [Tracked α] (hs : s.IsDocument) {fallback : α} :
    (s.fieldOr key fallback).Halts (s.OverflowsUnder (key, Tracked.tracks α)) := by
  rw [fieldOr, fieldElse, OverflowsUnder]
  cases hlookup : Data.lookup? key s.entries with
  | some d =>
    refine (Tracked.halts _ (hs _ (Data.mem_of_lookup? hlookup))).congr ?_
    simp
  | none => exact (Reading.halts_pure fallback).congr (by simp)

theorem field_halts [Record α] [Tracked α] [Inhabited α] (hs : s.IsDocument) :
    (s.field key : Reading α).Halts (s.OverflowsUnder (key, Tracked.tracks α)) := by
  rw [field, OverflowsUnder]
  cases hlookup : Data.lookup? key s.entries with
  | some d =>
    refine (Tracked.halts _ (hs _ (Data.mem_of_lookup? hlookup))).congr ?_
    simp
  | none => exact (Reading.halts_complain _ _).congr (by simp)

end Record.Source

def tracksOf (fields : List (String × List (List Step))) : List (List Step) :=
  fields.flatMap fun f => f.2.map (.entry f.1 :: ·)

theorem overflowsIn_tracksOf {fields : List (String × List (List Step))} {d : Data} :
    d.OverflowsIn (tracksOf fields) ↔ ∃ entries, d = .object entries ∧ ∃ f ∈ fields, ∃ value,
      Data.lookup? f.1 entries = some value ∧ value.OverflowsIn f.2 := by
  constructor
  · rintro ⟨t, ht, h⟩
    obtain ⟨f, hf, ht⟩ := List.mem_flatMap.mp ht
    obtain ⟨rest, hrest, rfl⟩ := List.mem_map.mp ht
    obtain ⟨entries, rfl, value, hvalue, h⟩ := h
    exact ⟨entries, rfl, f, hf, value, hvalue, rest, hrest, h⟩
  · rintro ⟨entries, rfl, f, hf, value, hvalue, t, ht, h⟩
    exact ⟨_, List.mem_flatMap.mpr ⟨f, hf, List.mem_map_of_mem ht⟩, entries, rfl, value, hvalue, h⟩

section Bodies

variable [Inhabited β] {body : Record.Source → Reading β} {d : Data}
  {fields : List (String × List (List Step))}

theorem readRecord_inert (path : List String) (hd : d.IsDocument)
    (hbody : ∀ s : Record.Source, s.IsDocument → (body s).Halts False) :
    (Record.readRecord body path d).Halts False := by
  cases hd with
  | object hentries => exact hbody (.ofEntries path _) hentries
  | _ => exact Reading.halts_complain path _

theorem readRecord_halts (path : List String) (hd : d.IsDocument)
    (hbody : ∀ s : Record.Source, s.IsDocument →
      (body s).Halts (∃ f ∈ fields, s.OverflowsUnder f)) :
    (Record.readRecord body path d).Halts (d.OverflowsIn (tracksOf fields)) := by
  rw [overflowsIn_tracksOf]
  cases hd with
  | @object entries hentries =>
    refine (hbody (.ofEntries path entries) hentries).congr ?_
    simp [Record.Source.OverflowsUnder, Record.Source.ofEntries]
  | _ => exact (Reading.halts_complain path _).congr (by simp)

end Bodies

namespace Reading.Halts

variable {s : Record.Source} {f : String × List (List Step)}
  {fields : List (String × List (List Step))}

/-- An entry with settings, and the rest of the record. -/
theorem step {r : Reading α} {k : α → Reading β} (hr : r.Halts (s.OverflowsUnder f))
    (hk : ∀ a, (k a).Halts (∃ g ∈ fields, s.OverflowsUnder g)) :
    (r >>= k).Halts (∃ g ∈ f :: fields, s.OverflowsUnder g) :=
  (hr.bind hk).congr (by simp)

theorem done (a : α) : (pure a : Reading α).Halts (∃ g ∈ [], s.OverflowsUnder g) :=
  (halts_pure a).congr (by simp)

end Reading.Halts

/-! ## Records -/

open Record.Source (field_inert fieldOr_inert fieldElse_inert field_halts fieldOr_halts)
open Reading (halts_pure)
open Tracked (tracks)

theorem fresh_halts (kind : IdKind) : (Reading.fresh kind).Halts False :=
  fun _ hs => ⟨nofun, fun _ => ⟨_, _, rfl, hs⟩⟩

theorem now_halts : Reading.now.Halts False :=
  fun _ hs => ⟨nofun, fun _ => ⟨_, _, rfl, hs⟩⟩

namespace DataType

def Quiet (read : Option (List String → Reading (Option DataType))) : Prop :=
  ∀ r ∈ read, ∀ path, (r path).Halts False

structure Readers.IsQuiet (rs : Readers) : Prop where
  inner : Quiet rs.inner
  key : Quiet rs.key
  value : Quiet rs.value

variable {here : List String → Reading (Option DataType)}

theorem quiet_or {later : Option (List String → Reading (Option DataType))}
    (hhere : ∀ path, (here path).Halts False) (hlater : Quiet later) :
    Quiet (later.or (some here)) := by
  cases later with
  | none =>
    rintro _ ⟨⟩
    exact hhere
  | some r => exact hlater

theorem Readers.isQuiet_add (key : String) {later : Readers}
    (hhere : ∀ path, (here path).Halts False) (hlater : later.IsQuiet) :
    (Readers.add key here later).IsQuiet := by
  unfold Readers.add
  split
  · exact { hlater with inner := quiet_or hhere hlater.inner }
  · split
    · exact { hlater with key := quiet_or hhere hlater.key }
    · split
      · exact { hlater with value := quiet_or hhere hlater.value }
      · exact hlater

theorem isQuiet_readParts {entries : List (String × Data)}
    (h : ∀ e ∈ entries, ∀ path, (readNullable path e.2).Halts False) :
    (readParts entries).IsQuiet := by
  induction entries with
  | nil => exact ⟨nofun, nofun, nofun⟩
  | cons e entries ih =>
    obtain ⟨key, d⟩ := e
    obtain ⟨hfirst, hrest⟩ := List.forall_mem_cons.mp h
    rw [readParts]
    exact Readers.isQuiet_add key hfirst (ih hrest)

theorem assemble_halts {s : Record.Source} (hs : s.IsDocument) {readers : Readers}
    (h : readers.IsQuiet) : (assemble s readers).Halts False := by
  obtain ⟨inner, key, value⟩ := readers
  obtain ⟨hinner, hkey, hvalue⟩ := h
  unfold assemble
  refine Halts.checked ?_ (Reading.gives_trivial _) fun part _ => ?_
  · refine (field_inert hs).skip fun kind => Halts.skip ?_ fun _ => Halts.skip ?_ fun _ =>
      Halts.skip ?_ fun _ => (fieldOr_inert hs).skip fun _ => (fieldOr_inert hs).skip fun _ =>
      halts_pure _
    · cases inner with
      | none => exact halts_pure none
      | some r => exact hinner r rfl _
    · cases key with
      | none => exact halts_pure none
      | some r => exact hkey r rfl _
    · cases value with
      | none => exact halts_pure none
      | some r => exact hvalue r rfl _
  · dsimp only
    split
    · exact halts_pure _
    · exact Reading.halts_complain _ _

theorem object_halts (path : List String) {entries : List (String × Data)}
    (hdoc : ∀ e ∈ entries, e.2.IsDocument)
    (h : ∀ e ∈ entries, ∀ path, (readNullable path e.2).Halts False) :
    (Reading.deeper path (assemble (.ofEntries path entries) (readParts entries))).Halts False :=
  (assemble_halts (s := .ofEntries path entries) hdoc (isQuiet_readParts h)).deeper path

theorem readNullable_halts {d : Data} (hd : d.IsDocument) (path : List String) :
    (readNullable path d).Halts False := by
  induction hd generalizing path with
  | null =>
    rw [readNullable]
    exact halts_pure none
  | object hentries ih =>
    rw [readNullable]
    exact (object_halts path hentries fun e he path => ih e he path).map some
  | _ =>
    rw [readNullable]
    · exact (Reading.halts_complain path _).map some
    all_goals nofun

end DataType

/-- There is no setting in a type. -/
instance : Inert DataType := ⟨fun path d hd => by
  refine Halts.deeper ?_ path
  cases hd with
  | object hentries =>
    rw [DataType.read]
    exact DataType.object_halts path hentries fun e he path =>
      DataType.readNullable_halts (hentries e he) path
  | _ =>
    rw [DataType.read]
    · exact Reading.halts_complain path _
    all_goals nofun⟩

instance : Inert Rule := ⟨fun path _ hd => readRecord_inert path hd fun _ hs => by
  refine (field_inert hs).skip fun _ => ?_
  iterate 3 refine (fieldOr_inert hs).skip fun _ => ?_
  exact halts_pure _⟩

instance : Inert Hints := ⟨fun path _ hd => readRecord_inert path hd fun _ hs => by
  iterate 7 refine (fieldOr_inert hs).skip fun _ => ?_
  exact halts_pure _⟩

instance : Inert Constraint := ⟨fun path _ hd => readRecord_inert path hd fun _ hs => by
  refine (field_inert hs).skip fun _ => ?_
  iterate 5 refine (fieldOr_inert hs).skip fun _ => ?_
  exact halts_pure _⟩

instance : Tracked Field where
  tracks := tracksOf [("default_value", tracks (Option Setting))]
  halts path _ hd := readRecord_halts path hd fun _ hs => by
    refine (fieldElse_inert hs (fresh_halts .field)).skip fun _ => ?_
    refine (field_inert hs).skip fun _ => ?_
    iterate 3 refine (fieldOr_inert hs).skip fun _ => ?_
    refine (fieldOr_halts hs).step fun _ => ?_
    iterate 8 refine (fieldOr_inert hs).skip fun _ => ?_
    exact .done _

instance : Inert Position := ⟨fun path _ hd => readRecord_inert path hd fun _ hs => by
  iterate 2 refine (fieldOr_inert hs).skip fun _ => ?_
  exact halts_pure _⟩

instance : Inert Size := ⟨fun path _ hd => readRecord_inert path hd fun _ hs => by
  iterate 2 refine (fieldOr_inert hs).skip fun _ => ?_
  exact halts_pure _⟩

instance : Tracked Port where
  tracks := tracksOf [("default_value", tracks (Option Setting))]
  halts path _ hd := readRecord_halts path hd fun _ hs => by
    iterate 2 refine (field_inert hs).skip fun _ => ?_
    refine (fieldOr_inert hs).skip fun _ => ?_
    refine (field_inert hs).skip fun _ => ?_
    iterate 4 refine (fieldOr_inert hs).skip fun _ => ?_
    refine (fieldOr_halts hs).step fun _ => ?_
    refine (fieldOr_inert hs).skip fun _ => ?_
    exact .done _

instance : Tracked Ports where
  tracks := tracksOf [("inputs", tracks (List Port)), ("outputs", tracks (List Port))]
  halts path _ hd := readRecord_halts path hd fun _ hs => by
    iterate 2 refine (fieldOr_halts hs).below.step fun _ => ?_
    exact .done _

instance : Tracked Node where
  tracks := tracksOf [("fields", tracks (List Field)), ("ports", tracks Ports),
    ("config", tracks (Dict Setting))]
  halts path _ hd := readRecord_halts path hd fun _ hs => by
    refine (fieldElse_inert hs (fresh_halts .node)).skip fun _ => ?_
    iterate 2 refine (field_inert hs).skip fun _ => ?_
    iterate 2 refine (fieldOr_inert hs).skip fun _ => ?_
    iterate 3 refine (fieldOr_halts hs).step fun _ => ?_
    iterate 11 refine (fieldOr_inert hs).skip fun _ => ?_
    iterate 2 refine (fieldElse_inert hs now_halts).skip fun _ => ?_
    exact .done _

instance : Inert EdgeStyle := ⟨fun path _ hd => readRecord_inert path hd fun _ hs => by
  iterate 4 refine (fieldOr_inert hs).skip fun _ => ?_
  exact halts_pure _⟩

instance : Inert Edge := ⟨fun path _ hd => readRecord_inert path hd fun _ hs => by
  refine (fieldElse_inert hs (fresh_halts .edge)).skip fun _ => ?_
  iterate 4 refine (field_inert hs).skip fun _ => ?_
  iterate 10 refine (fieldOr_inert hs).skip fun _ => ?_
  exact halts_pure _⟩

instance : Inert Group := ⟨fun path _ hd => readRecord_inert path hd fun _ hs => by
  refine (fieldElse_inert hs (fresh_halts .group)).skip fun _ => ?_
  refine (field_inert hs).skip fun _ => ?_
  iterate 13 refine (fieldOr_inert hs).skip fun _ => ?_
  exact halts_pure _⟩

instance : Tracked Domain where
  tracks := tracksOf [("settings", tracks (Dict Setting))]
  halts path _ hd := readRecord_halts path hd fun _ hs => by
    refine (fieldOr_inert hs).skip fun _ => ?_
    refine (fieldOr_halts hs).step fun _ => ?_
    iterate 3 refine (fieldOr_inert hs).skip fun _ => ?_
    exact .done _

instance : Tracked About where
  tracks := tracksOf [("domains", tracks (Dict Domain))]
  halts path _ hd := readRecord_halts path hd fun _ hs => by
    refine (field_inert hs).skip fun _ => ?_
    iterate 9 refine (fieldOr_inert hs).skip fun _ => ?_
    refine (fieldOr_halts hs).step fun _ => ?_
    iterate 7 refine (fieldOr_inert hs).skip fun _ => ?_
    iterate 2 refine (fieldElse_inert hs now_halts).skip fun _ => ?_
    exact .done _

instance : Tracked Graph where
  tracks := tracksOf [("meta", tracks About), ("nodes", tracks (Dict Node))]
  halts path _ hd := readRecord_halts path hd fun _ hs => by
    refine (field_halts hs).step fun _ => ?_
    refine (fieldOr_halts hs).step fun _ => ?_
    iterate 3 refine (fieldOr_inert hs).skip fun _ => ?_
    exact .done _

end Wirework
