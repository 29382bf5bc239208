import Wirework.Proofs.Record.Restoring
import Wirework.Record.DataType
import Wirework.Record.Nesting

/-!
# Data types read back

A data type comes back from a document exactly if no name that its kind requires is empty, in the
type or in a type inside it. It comes back as it was if moreover its surplus has the parts that the
kind does not use, each once and in order. The induction is on the size of the type, through its
parts: the parts are what is written and read, used or not.
-/

namespace Wirework.DataType

open Reading (Yields)

variable {t u : DataType} {p : Parts} {kind : Kind}

instance : Labelled.Lawful Kind := ⟨fun k => by
  rcases k with k | k | _ | k | _
  · cases k <;> decide
  · cases k <;> decide
  · decide
  · cases k <;> decide
  · decide⟩

/-! ## Parts -/

theorem ofSurplus_surplus (p : Parts) : Parts.ofSurplus p.surplus = p := by
  obtain ⟨inner, key, value, name, domain⟩ := p
  cases inner <;> cases key <;> cases value <;> cases name <;> cases domain <;> rfl

theorem nonEmpty?_some (s : String) : nonEmpty? (some s) = if s = "" then none else some s := by
  rw [nonEmpty?]
  simp only [String.isEmpty_iff]

theorem nonEmpty?_eq_some {o : Option String} {s : String} (h : nonEmpty? o = some s) :
    o = some s := by
  unfold nonEmpty? at h
  split at h
  · split at h
    · cases h
    · exact h
  · cases h

theorem ok_of_toOption {x : Except String DataType} (h : x.toOption = some t) : x = .ok t := by
  cases x with
  | ok s => rw [Option.some.inj h]
  | error message => cases h

/-- A type that is put together has the kind and the parts it was put together from. -/
theorem parts_of_ofParts (h : ofParts kind p = .ok u) : u.kind = kind ∧ u.parts = p := by
  obtain ⟨inner, key, value, name, domain⟩ := p
  unfold ofParts at h
  split at h
  · obtain rfl := Except.ok.inj h
    exact ⟨rfl, ofSurplus_surplus _⟩
  · split at h
    · rename_i hinner
      obtain rfl := Except.ok.inj h
      rw [parts, ofSurplus_surplus]
      exact ⟨rfl, congrArg (Parts.mk · key value name domain) hinner.symm⟩
    · cases h
  · split at h
    · rename_i hkey hvalue
      obtain rfl := Except.ok.inj h
      rw [parts, ofSurplus_surplus]
      exact ⟨rfl, congrArg₂ (Parts.mk inner · · name domain) hkey.symm hvalue.symm⟩
    · cases h
  · split at h
    · rename_i hname
      obtain rfl := Except.ok.inj h
      rw [parts, ofSurplus_surplus]
      exact ⟨rfl, congrArg (Parts.mk inner key value · domain) (nonEmpty?_eq_some hname).symm⟩
    · cases h
  · split at h
    · rename_i hname hdomain
      obtain rfl := Except.ok.inj h
      rw [parts, ofSurplus_surplus]
      exact ⟨rfl, congrArg₂ (Parts.mk inner key value · ·) (nonEmpty?_eq_some hname).symm
        (nonEmpty?_eq_some hdomain).symm⟩
    · cases h

def Parts.Holds (p : Parts) (s : DataType) : Prop :=
  p.inner = some s ∨ p.key = some s ∨ p.value = some s

theorem smaller_ofSurplus (extra : Surplus) {s : DataType} (h : (Parts.ofSurplus extra).Holds s) :
    sizeOf s < sizeOf extra ∧ s.nesting ≤ surplusNesting extra := by
  cases extra with
  | none =>
    rcases h with h | h | h <;> cases h
  | type slot t rest =>
    have hcases : s = t ∨ (Parts.ofSurplus rest).Holds s := by
      cases slot <;> rcases h with h | h | h <;> first
        | exact Or.inl (Option.some.inj h).symm
        | exact Or.inr (Or.inl h)
        | exact Or.inr (Or.inr (Or.inl h))
        | exact Or.inr (Or.inr (Or.inr h))
    simp only [Surplus.type.sizeOf_spec, surplusNesting]
    rcases hcases with rfl | hrest
    · omega
    · have hsize := smaller_ofSurplus rest hrest
      omega
  | text slot name rest =>
    have hrest := smaller_ofSurplus rest (s := s) (by cases slot <;> exact h)
    simp only [Surplus.text.sizeOf_spec, surplusNesting]
    omega

/-- The types among the parts of a type are smaller, and nested less deeply. -/
theorem smaller_parts {s : DataType} (h : t.parts.Holds s) :
    sizeOf s < sizeOf t ∧ s.nesting < t.nesting := by
  cases t with
  | scalar k extra =>
    have hsize := smaller_ofSurplus extra h
    simp only [scalar.sizeOf_spec, nesting]
    omega
  | wrap k inner extra =>
    have hcases : s = inner ∨ (Parts.ofSurplus extra).Holds s := by
      rcases h with h | h | h
      exacts [Or.inl (Option.some.inj h).symm, Or.inr (Or.inr (Or.inl h)),
        Or.inr (Or.inr (Or.inr h))]
    simp only [wrap.sizeOf_spec, nesting]
    rcases hcases with rfl | hextra
    · omega
    · have hsize := smaller_ofSurplus extra hextra
      omega
  | map key value extra =>
    have hcases : s = key ∨ s = value ∨ (Parts.ofSurplus extra).Holds s := by
      rcases h with h | h | h
      exacts [Or.inr (Or.inr (Or.inl h)), Or.inl (Option.some.inj h).symm,
        Or.inr (Or.inl (Option.some.inj h).symm)]
    simp only [map.sizeOf_spec, nesting]
    rcases hcases with rfl | rfl | hextra
    · omega
    · omega
    · have hsize := smaller_ofSurplus extra hextra
      omega
  | named k name extra =>
    have hsize := smaller_ofSurplus extra h
    simp only [named.sizeOf_spec, nesting]
    omega
  | custom domain name extra =>
    have hsize := smaller_ofSurplus extra h
    simp only [custom.sizeOf_spec, nesting]
    omega

theorem sizeOf_parts {s : DataType} (h : t.parts.Holds s) : sizeOf s < sizeOf t := (smaller_parts h).1

/-! ## Writing -/

def partData (part : Option DataType) : Data := part.elim .null toData

def Parts.written (p : Parts) : Written where
  inner := partData p.inner
  key := partData p.key
  value := partData p.value
  name := Data.ofOption .text p.name
  domain := Data.ofOption .text p.domain

theorem writeSurplus_eq (extra : Surplus) :
    writeSurplus extra = (Parts.ofSurplus extra).written := by
  cases extra with
  | none =>
    rw [writeSurplus]
    rfl
  | type slot t rest =>
    cases slot <;> rw [writeSurplus, writeSurplus_eq rest] <;> first | rfl | nofun
  | text slot s rest =>
    cases slot <;> rw [writeSurplus, writeSurplus_eq rest] <;> first | rfl | nofun

theorem toData_eq (t : DataType) : t.toData = Written.record t.kind t.parts.written := by
  cases t <;> rw [toData, writeSurplus_eq] <;> rfl

theorem writable_name (name : Option String) : (Data.ofOption Data.text name).Writable := by
  cases name <;> exact fun _ _ => rfl

theorem writable_toData (t : DataType) : t.toData.Writable := by
  have hpart : ∀ part, (∀ s, part = some s → t.parts.Holds s) → (partData part).Writable := by
    intro part h
    cases part with
    | none => exact fun _ _ => rfl
    | some s =>
      have hsize := sizeOf_parts (h s rfl)
      exact writable_toData s
  rw [toData_eq]
  refine Data.writable_object ?_
  simp only [Parts.written, List.forall_mem_cons, List.not_mem_nil, IsEmpty.forall_iff,
    implies_true, and_true]
  exact ⟨Data.writable_text _, hpart _ fun s hs => Or.inl hs,
    hpart _ fun s hs => Or.inr (Or.inl hs), hpart _ fun s hs => Or.inr (Or.inr hs), writable_name _, writable_name _⟩
termination_by sizeOf t

def printedEntries (kind : Kind) (inner key value : Data) (name domain : Option String) :
    List (String × Data) :=
  [("kind", .text kind.label), ("inner", inner), ("key", key), ("value", value),
    ("name", (Record.toData name).printed), ("domain", (Record.toData domain).printed)]

theorem printed_toData (t : DataType) : t.toData.printed = .object (printedEntries t.kind
    (partData t.parts.inner).printed (partData t.parts.key).printed
    (partData t.parts.value).printed t.parts.name t.parts.domain) := by
  rw [toData_eq]
  rfl

/-! ## What comes back -/

/-- The names that the kind of a type requires are there. -/
def HasNames : DataType → Prop
  | .named _ name _ => name ≠ ""
  | .custom domain name _ => domain ≠ "" ∧ name ≠ ""
  | _ => True

/-- A type comes back: names are there, here and inside. -/
inductive Reopens : DataType → Prop where
  | mk {t : DataType} (names : t.HasNames) (inside : ∀ s, t.parts.Holds s → Reopens s) : Reopens t

/-- A type comes back as it was: it is put together from its parts, here and inside. -/
inductive Faithful : DataType → Prop where
  | mk {t : DataType} (self : ofParts t.kind t.parts = .ok t)
      (inside : ∀ s, t.parts.Holds s → Faithful s) : Faithful t

structure ComesBack (t : DataType) (o : Option DataType) : Prop where
  yields (path : List String) : (read path t.toData.printed).Yields o
  isSome_iff : o.isSome = true ↔ t.Reopens
  eq_some : t.Faithful → o = some t
  faithful : ∀ u, o = some u → u.Faithful

structure PartComesBack (part : Option DataType) (o : Option (Option DataType)) : Prop where
  yields (path : List String) : (readNullable path (partData part).printed).Yields o
  isSome_iff : o.isSome = true ↔ ∀ t, part = some t → t.Reopens
  eq_some : (∀ t, part = some t → t.Faithful) → o = some part
  faithful : ∀ part', o = some part' → ∀ t, part' = some t → t.Faithful
  shape : ∀ part', o = some part' → part'.isSome = part.isSome

theorem readNullable_object (path : List String) (entries : List (String × Data)) :
    readNullable path (.object entries) = some <$> read path (.object entries) := by
  rw [readNullable, read]

theorem exists_partComesBack {part : Option DataType}
    (h : ∀ t, part = some t → ∃ o, ComesBack t o) : ∃ o, PartComesBack part o := by
  cases part with
  | none =>
    refine ⟨some none, fun path => ?_, ?_, fun _ => rfl, ?_, ?_⟩
    · change (readNullable path .null).Yields _
      rw [readNullable]
      exact Reading.yields_pure none
    · exact iff_of_true rfl nofun
    · rintro part' hpart t rfl
      cases hpart
    · rintro part' hpart
      rw [← Option.some.inj hpart]
  | some t =>
    obtain ⟨o, ho⟩ := h t rfl
    refine ⟨o.map some, fun path => ?_, ?_, fun hf => ?_, ?_, ?_⟩
    · change (readNullable path t.toData.printed).Yields _
      rw [printed_toData, readNullable_object, ← printed_toData]
      exact (ho.yields path).map some
    · simp [ho.isSome_iff]
    · rw [ho.eq_some (hf t rfl)]
      rfl
    · rintro part' hpart u rfl
      obtain ⟨v, hv, hsome⟩ := Option.map_eq_some_iff.mp hpart
      rw [← Option.some.inj hsome]
      exact ho.faithful v hv
    · rintro part' hpart
      obtain ⟨v, -, rfl⟩ := Option.map_eq_some_iff.mp hpart
      rfl

def reassemble (kind : Kind) (name domain : Option String)
    (inner key value : Option (Option DataType)) : Option DataType :=
  inner.bind fun i => key.bind fun k => value.bind fun v =>
    (ofParts kind ⟨i, k, v, name, domain⟩).toOption

/-- What the steps that read the types among the parts give, with all the rest. -/
def gather (kind : Kind) (name domain : Option String)
    (inner key value : Reading (Option DataType)) : Reading (Kind × Parts) := do
  let i ← inner
  let k ← key
  let v ← value
  return (kind, ⟨i, k, v, name, domain⟩)

def build (path : List String) (p : Kind × Parts) : Reading DataType :=
  match ofParts p.1 p.2 with
  | .ok t => pure t
  | .error message => .complain path (.inconsistent message)

/-- A type is put together from its kind and the parts that are read. -/
theorem read_entries (path : List String) (kind : Kind) (inner key value : Data)
    (name domain : Option String) :
    read path (.object (printedEntries kind inner key value name domain)) =
      .deeper path (Reading.checked (gather kind name domain (readNullable ("inner" :: path) inner)
        (readNullable ("key" :: path) key) (readNullable ("value" :: path) value)) (build path)) := by
  have hreaders : readParts (printedEntries kind inner key value name domain) =
      ⟨some fun path => readNullable path inner, some fun path => readNullable path key,
        some fun path => readNullable path value⟩ := rfl
  rw [read, hreaders]
  generalize hs : Record.Source.ofEntries path (printedEntries kind inner key value name domain) = s
  have hkind : s.field "kind" = pure kind := by
    rw [← hs]
    exact Record.read_label ("kind" :: path) kind
  have hname : s.fieldOr "name" none = pure name := by
    rw [← hs]
    cases name <;> rfl
  have hdomain : s.fieldOr "domain" none = pure domain := by
    rw [← hs]
    cases domain <;> rfl
  have hpath : s.path = path := by rw [← hs]; rfl
  simp only [assemble, hkind, hname, hdomain, hpath, pure_bind]
  rfl

theorem read_yields (path : List String) (kind : Kind) {inner key value : Data}
    (name domain : Option String) {i k v : Option (Option DataType)}
    (hi : (readNullable ("inner" :: path) inner).Yields i)
    (hk : (readNullable ("key" :: path) key).Yields k)
    (hv : (readNullable ("value" :: path) value).Yields v) :
    (read path (.object (printedEntries kind inner key value name domain))).Yields
      (reassemble kind name domain i k v) := by
  rw [read_entries]
  refine Yields.deeper (Yields.checked (o := i.bind fun i => k.bind fun k => v.bind fun v =>
    some (kind, ⟨i, k, v, name, domain⟩)) ?_ ?_ ?_) path
  · exact hi.bind fun i => hk.bind fun k => hv.bind fun v => Reading.yields_pure _
  · intro hnone
    rw [reassemble]
    cases i with
    | none => rfl
    | some i =>
      cases k with
      | none => rfl
      | some k =>
        cases v with
        | none => rfl
        | some v => cases hnone
  · rintro ⟨kind', parts⟩ hall
    simp only [Option.bind_eq_some_iff, Option.some.injEq, Prod.mk.injEq] at hall
    obtain ⟨i, rfl, k, rfl, v, rfl, rfl, rfl⟩ := hall
    simp only [reassemble, Option.bind_some, build]
    cases ofParts kind ⟨i, k, v, name, domain⟩ with
    | ok t => exact Reading.yields_pure t
    | error message => exact Reading.yields_complain _ _

/-- Whether a type can be put together depends on which parts are there, and on the names. -/
theorem isSome_ofParts {i k v : Option DataType} (hi : i.isSome = t.parts.inner.isSome)
    (hk : k.isSome = t.parts.key.isSome) (hv : v.isSome = t.parts.value.isSome) :
    (ofParts t.kind ⟨i, k, v, t.parts.name, t.parts.domain⟩).toOption.isSome = true ↔
      t.HasNames := by
  cases t with
  | scalar kind extra => exact iff_of_true rfl trivial
  | wrap kind inner extra =>
    obtain ⟨s, rfl⟩ := Option.isSome_iff_exists.mp (hi.trans rfl)
    exact iff_of_true rfl trivial
  | map key value extra =>
    obtain ⟨s, rfl⟩ := Option.isSome_iff_exists.mp (hk.trans rfl)
    obtain ⟨s', rfl⟩ := Option.isSome_iff_exists.mp (hv.trans rfl)
    exact iff_of_true rfl trivial
  | named kind name extra =>
    change (ofParts (.named kind) ⟨i, k, v, some name, _⟩).toOption.isSome = true ↔ name ≠ ""
    rw [ofParts, nonEmpty?_some]
    by_cases hname : name = "" <;> simp [hname, Except.toOption]
  | custom domain name extra =>
    change (ofParts .custom ⟨i, k, v, some name, some domain⟩).toOption.isSome = true ↔
      domain ≠ "" ∧ name ≠ ""
    rw [ofParts, nonEmpty?_some, nonEmpty?_some]
    by_cases hname : name = "" <;> by_cases hdomain : domain = "" <;>
      simp [hname, hdomain, Except.toOption]

theorem exists_comesBack (t : DataType) : ∃ o, ComesBack t o := by
  -- By recursion on the size: what comes back of a type is made of what comes back of its parts.
  have hpart : ∀ part, (∀ s, part = some s → t.parts.Holds s) → ∃ o, PartComesBack part o :=
    fun part h => exists_partComesBack fun s hs =>
      have hsize := sizeOf_parts (h s hs)
      exists_comesBack s
  obtain ⟨i, hi⟩ := hpart t.parts.inner fun s hs => Or.inl hs
  obtain ⟨k, hk⟩ := hpart t.parts.key fun s hs => Or.inr (Or.inl hs)
  obtain ⟨v, hv⟩ := hpart t.parts.value fun s hs => Or.inr (Or.inr hs)
  refine ⟨reassemble t.kind t.parts.name t.parts.domain i k v, fun path => ?_, ?_, ?_, ?_⟩
  · rw [printed_toData]
    exact read_yields path t.kind _ _ (hi.yields _) (hk.yields _) (hv.yields _)
  · constructor
    · intro hsome
      obtain ⟨u, hu⟩ := Option.isSome_iff_exists.mp hsome
      simp only [reassemble, Option.bind_eq_some_iff] at hu
      obtain ⟨i', rfl, k', rfl, v', rfl, hparts⟩ := hu
      refine .mk ((isSome_ofParts (hi.shape _ rfl) (hk.shape _ rfl) (hv.shape _ rfl)).mp
        (Option.isSome_iff_exists.mpr ⟨u, hparts⟩)) fun s hs => ?_
      rcases hs with hs | hs | hs
      exacts [hi.isSome_iff.mp rfl s hs, hk.isSome_iff.mp rfl s hs, hv.isSome_iff.mp rfl s hs]
    · rintro ⟨names, inside⟩
      obtain ⟨i', rfl⟩ := Option.isSome_iff_exists.mp
        (hi.isSome_iff.mpr fun s hs => inside s (Or.inl hs))
      obtain ⟨k', rfl⟩ := Option.isSome_iff_exists.mp
        (hk.isSome_iff.mpr fun s hs => inside s (Or.inr (Or.inl hs)))
      obtain ⟨v', rfl⟩ := Option.isSome_iff_exists.mp
        (hv.isSome_iff.mpr fun s hs => inside s (Or.inr (Or.inr hs)))
      exact (isSome_ofParts (hi.shape _ rfl) (hk.shape _ rfl) (hv.shape _ rfl)).mpr names
  · rintro ⟨self, inside⟩
    rw [hi.eq_some fun s hs => inside s (Or.inl hs),
      hk.eq_some fun s hs => inside s (Or.inr (Or.inl hs)),
      hv.eq_some fun s hs => inside s (Or.inr (Or.inr hs))]
    change (ofParts t.kind t.parts).toOption = some t
    rw [self]
    rfl
  · intro u hu
    simp only [reassemble, Option.bind_eq_some_iff] at hu
    obtain ⟨i', rfl, k', rfl, v', rfl, hparts⟩ := hu
    have hok := ok_of_toOption hparts
    obtain ⟨hkind, hsame⟩ := parts_of_ofParts hok
    refine .mk (by rw [hkind, hsame, hok]) fun s hs => ?_
    rw [hsame] at hs
    rcases hs with hs | hs | hs
    exacts [hi.faithful _ rfl s hs, hk.faithful _ rfl s hs, hv.faithful _ rfl s hs]
termination_by sizeOf t

/-- A type comes back with its parts in their places. -/
noncomputable instance : Restorable DataType where
  restored t := (exists_comesBack t).choose
  Reopens := Reopens
  Faithful := Faithful
  yields path t := ((exists_comesBack t).choose_spec.yields path).deeper path
  isSome_restored t := (exists_comesBack t).choose_spec.isSome_iff
  restored_of_faithful {t} h := (exists_comesBack t).choose_spec.eq_some h
  faithful_of_restored {t u} h := (exists_comesBack t).choose_spec.faithful u h
  writable {t} _ := writable_toData t

/-! ## Without a document -/

theorem toData_entries (t : DataType) : t.toData = .object (printedEntries t.kind
    (partData t.parts.inner) (partData t.parts.key) (partData t.parts.value)
    t.parts.name t.parts.domain) := by
  rw [toData_eq]
  cases hname : t.parts.name <;> cases hdomain : t.parts.domain <;>
    simp only [Parts.written, hname, hdomain] <;> rfl

theorem readNullable_partData (path : List String) (s : DataType) :
    readNullable path (partData (some s)) = some <$> read path s.toData := by
  change readNullable path s.toData = _
  rw [toData_entries, readNullable_object]

/-- A type that is put together from its parts is read as it is, where there is room for it. -/
theorem returns_read {t : DataType} (h : t.Faithful) (path : List String) :
    (read path t.toData).Returns t.nesting t := by
  obtain ⟨self, inside⟩ := h
  obtain ⟨room, hroom⟩ : ∃ room, t.nesting = room + 1 := by
    cases t <;> exact ⟨_, by rw [nesting]⟩
  have hpart : ∀ part path, (∀ s, part = some s → t.parts.Holds s) →
      (readNullable path (partData part)).Returns room part := by
    intro part path hholds
    cases part with
    | none =>
      change (readNullable path .null).Returns room none
      rw [readNullable]
      exact Reading.returns_pure room none
    | some s =>
      have hs := hholds s rfl
      have hsmaller := smaller_parts hs
      rw [readNullable_partData]
      exact ((returns_read (inside s hs) path).mono (by omega)).map some
  rw [toData_entries, read_entries, hroom]
  refine Reading.Returns.deeper ?_ path
  refine Reading.Returns.checked (a := (t.kind, t.parts)) ?_ ?_
  · exact (hpart _ _ fun s hs => Or.inl hs).bind <|
      (hpart _ _ fun s hs => Or.inr (Or.inl hs)).bind <|
      (hpart _ _ fun s hs => Or.inr (Or.inr hs)).bind <| Reading.returns_pure room _
  · rw [build, self]
    exact Reading.returns_pure room t
termination_by sizeOf t

theorem faithful_default : (default : DataType).Faithful := by
  refine .mk rfl fun s hs => ?_
  rcases hs with hs | hs | hs <;> cases hs

/-- Whatever a type is read as is put together from its parts. -/
theorem gives_read (path : List String) (t : DataType) : (read path t.toData).Gives Faithful := by
  have hpart : ∀ part path, (∀ s, part = some s → t.parts.Holds s) →
      (readNullable path (partData part)).Gives fun part' => ∀ s, part' = some s → s.Faithful := by
    intro part path hholds
    cases part with
    | none =>
      change (readNullable path .null).Gives _
      rw [readNullable]
      exact Reading.gives_pure nofun
    | some s =>
      have hsize := sizeOf_parts (hholds s rfl)
      rw [readNullable_partData]
      refine Reading.gives_map some (gives_read path s) fun u hu s hs => ?_
      rwa [← Option.some.inj hs]
  rw [toData_entries, read_entries]
  refine Reading.gives_deeper path ?_ faithful_default
  refine Reading.gives_checked (P := fun p => ∀ s, p.2.Holds s → s.Faithful) ?_ ?_ faithful_default
  · refine Reading.gives_bind (hpart _ _ fun s hs => Or.inl hs) fun i hi => ?_
    refine Reading.gives_bind (hpart _ _ fun s hs => Or.inr (Or.inl hs)) fun k hk => ?_
    refine Reading.gives_bind (hpart _ _ fun s hs => Or.inr (Or.inr hs)) fun v hv => ?_
    refine Reading.gives_pure fun s hs => ?_
    rcases hs with hs | hs | hs
    exacts [hi s hs, hk s hs, hv s hs]
  · rintro ⟨kind, parts⟩ hparts
    rw [build]
    cases hbuilt : ofParts kind parts with
    | error message => exact Reading.gives_complain _ _ faithful_default
    | ok u =>
      obtain ⟨hkind, hsame⟩ := parts_of_ofParts hbuilt
      exact Reading.gives_pure (.mk (by rw [hkind, hsame, hbuilt]) (hsame ▸ hparts))
termination_by sizeOf t

end Wirework.DataType
