import Wirework.Proofs.Calendar
import Wirework.Proofs.Data.Settled
import Wirework.Proofs.Dict
import Wirework.Proofs.Except
import Wirework.Record.Basic

/-!
# Records read back

A record that is printed in a document and read again comes back as another value, or not at all.
`Restorable` says which: `restored` is what comes back, a value that comes back reopens, and one
that comes back as it was is faithful. What has come back is always faithful. The instances of this
module are those of plain values and of containers; a record is put together from those of its
entries.
-/

namespace Wirework

variable {α β : Type}

/-! ## Steps of reading -/

namespace Reading

/-- In the text of a document, the step yields a value and leaves the state as it is, or it notes
faults and changes nothing else. -/
def Yields (r : Reading α) (o : Option α) : Prop :=
  ∀ s : ReadState, s.inDocument = true →
    (∀ a, o = some a → r s = .ok (a, s)) ∧
      (o = none → ∃ a faults, faults ≠ [] ∧
        r s = .ok (a, { s with complaints := s.complaints ++ faults }))

variable {r : Reading α} {f : α → Reading β} {o : Option α} {k : α → Option β} {s s' : ReadState}
  {a : α}

theorem bind_run (h : r s = .ok (a, s')) : (r >>= f) s = f a s' := by
  change Except.bind (r s) _ = _
  rw [h]
  rfl

theorem yields_pure (a : α) : (pure a : Reading α).Yields (some a) :=
  fun _ _ => ⟨fun _ h => by rw [Option.some.inj h]; rfl, nofun⟩

theorem yields_complain [Inhabited α] (path : List String) (fault : Fault) :
    (complain path fault : Reading α).Yields none :=
  fun _ _ => ⟨nofun, fun _ => ⟨default, [_], by simp, rfl⟩⟩

/-- A step after another one, which is taken with the stand-in if the first one failed. -/
theorem Yields.bind (hr : r.Yields o) (hf : ∀ a, (f a).Yields (k a)) :
    (r >>= f).Yields (o.bind k) := by
  intro s hs
  cases o with
  | some a =>
    rw [bind_run ((hr s hs).1 a rfl)]
    exact hf a s hs
  | none =>
    obtain ⟨a, faults, hfaults, hrun⟩ := (hr s hs).2 rfl
    refine ⟨nofun, fun _ => ?_⟩
    rw [bind_run hrun]
    cases hk : k a with
    | some b =>
      exact ⟨b, faults, hfaults, (hf a { s with complaints := s.complaints ++ faults } hs).1 b hk⟩
    | none =>
      obtain ⟨b, more, -, hmore⟩ := (hf a { s with complaints := s.complaints ++ faults } hs).2 hk
      refine ⟨b, faults ++ more, by simp [hfaults], ?_⟩
      rw [hmore, List.append_assoc]

theorem Yields.then {o' : Option β} (hr : r.Yields (some a)) (hf : (f a).Yields o') :
    (r >>= f).Yields o' := by
  intro s hs
  rw [bind_run ((hr s hs).1 a rfl)]
  exact hf s hs

theorem Yields.map (hr : r.Yields o) (g : α → β) : (g <$> r).Yields (o.map g) := by
  have hbind := hr.bind (f := fun a => pure (g a)) (k := fun a => some (g a))
    fun a => yields_pure (g a)
  rwa [show (o.bind fun a => some (g a)) = o.map g by cases o <;> rfl] at hbind

/-- A further step that is taken only if the first one noted no fault. -/
theorem Yields.checked [Inhabited β] {o' : Option β} (hr : r.Yields o)
    (hnone : o = none → o' = none) (hsome : ∀ a, o = some a → (f a).Yields o') :
    (r.checked f).Yields o' := by
  intro s hs
  cases o with
  | some a =>
    have hchecked : r.checked f s = f a s := by
      simp [Reading.checked, (hr s hs).1 a rfl]
    rw [hchecked]
    exact hsome a rfl s hs
  | none =>
    obtain ⟨a, faults, hfaults, hrun⟩ := (hr s hs).2 rfl
    rw [hnone rfl]
    refine ⟨nofun, fun _ => ⟨default, faults, hfaults, ?_⟩⟩
    simp [Reading.checked, hrun, hfaults]

/-- Faults that are dropped leave nothing behind. -/
theorem Yields.attempt (hr : r.Yields o) : r.attempt.Yields (some o) := by
  intro s hs
  refine ⟨fun o' h => ?_, nofun⟩
  obtain rfl := Option.some.inj h
  cases o with
  | some a =>
    have hrun := (hr { s with complaints := [] } hs).1 a rfl
    simp [Reading.attempt, hrun, Except.map]
  | none =>
    obtain ⟨a, faults, hfaults, hrun⟩ := (hr { s with complaints := [] } hs).2 rfl
    simp [Reading.attempt, hrun, hfaults, Except.map]

theorem Yields.deeper [Inhabited α] (hr : r.Yields o) (path : List String) :
    (r.deeper path).Yields o := by
  intro s hs
  have hrun : r.deeper path s = r s := by
    simp [Reading.deeper, hs]
  rw [hrun]
  exact hr s hs

theorem Yields.below (hr : r.Yields o) : (below r).Yields o := by
  intro s hs
  obtain ⟨hsome, hnone⟩ := hr { s with depth := s.depth + 1 } hs
  refine ⟨fun a ha => ?_, fun ho => ?_⟩
  · rw [Reading.below, hsome a ha]
    rfl
  · obtain ⟨a, faults, hfaults, hrun⟩ := hnone ho
    refine ⟨a, faults, hfaults, ?_⟩
    rw [Reading.below, hrun]
    rfl

theorem Yields.run (hr : r.Yields o) (mint : Mint) :
    (∀ a, o = some a → r.run mint true = .ok (a, mint)) ∧
      (o = none → ∃ faults, r.run mint true = .error (.complaints faults)) := by
  have hstate := hr { mint, inDocument := true } rfl
  refine ⟨fun a h => ?_, fun h => ?_⟩
  · simp [Reading.run, StateT.run, hstate.1 a h]
  · obtain ⟨a, faults, hfaults, hrun⟩ := hstate.2 h
    exact ⟨faults, by simp [Reading.run, StateT.run, hrun, hfaults]⟩

/-! ### What a step may give -/

variable {P P' : α → Prop} {Q : β → Prop}

/-- Whatever a step of reading gives has a property. -/
def Gives (r : Reading α) (P : α → Prop) : Prop := ∀ s a s', r s = .ok (a, s') → P a

theorem gives_trivial (r : Reading α) : r.Gives fun _ => True := fun _ _ _ _ => trivial

theorem gives_pure (h : P a) : (pure a : Reading α).Gives P := by
  intro s b s' heq
  obtain ⟨rfl, -⟩ := Prod.mk.inj (Except.ok.inj heq)
  exact h

theorem gives_bind (hr : r.Gives P) (hf : ∀ a, P a → (f a).Gives Q) : (r >>= f).Gives Q := by
  intro s b s' heq
  simp only [bind, StateT.bind, Except.bind] at heq
  cases hra : r s with
  | error why =>
    rw [hra] at heq
    cases heq
  | ok found =>
    obtain ⟨a, t⟩ := found
    rw [hra] at heq
    exact hf a (hr s a t hra) t b s' heq

theorem gives_mono (hr : r.Gives P) (h : ∀ a, P a → P' a) : r.Gives P' :=
  fun s a s' heq => h a (hr s a s' heq)

theorem gives_map (g : α → β) (hr : r.Gives P) (h : ∀ a, P a → Q (g a)) : (g <$> r).Gives Q := by
  rw [← bind_pure_comp]
  exact gives_bind hr fun a ha => gives_pure (h a ha)

theorem gives_complain [Inhabited α] (path : List String) (fault : Fault)
    (h : P default) : (complain path fault : Reading α).Gives P := by
  rintro s a s' hrun
  obtain ⟨rfl, -⟩ := Prod.mk.inj (Except.ok.inj hrun)
  exact h

theorem gives_below (hr : r.Gives P) : (below r).Gives P := by
  intro s a s' heq
  obtain ⟨⟨b, t⟩, hrun, hb⟩ := exists_of_map_eq_ok heq
  obtain ⟨rfl, -⟩ := Prod.mk.inj hb
  exact hr _ b t hrun

theorem gives_deeper [Inhabited α] (path : List String) (hr : r.Gives P) (h : P default) :
    (r.deeper path).Gives P := by
  intro s a s' heq
  unfold deeper at heq
  split at heq
  · exact hr s a s' heq
  · split at heq
    · exact gives_complain path .tooDeep h s a s' heq
    · exact gives_below hr s a s' heq

theorem gives_attempt (hr : r.Gives P) : r.attempt.Gives fun o => ∀ a ∈ o, P a := by
  intro s o s' heq a ha
  obtain ⟨⟨b, t⟩, hrun, hb⟩ := exists_of_map_eq_ok heq
  obtain ⟨rfl, -⟩ := Prod.mk.inj hb
  split at ha
  · exact Option.some.inj ha ▸ hr _ b t hrun
  · cases ha

theorem gives_checked [Inhabited β] (hr : r.Gives P) (hf : ∀ a, P a → (f a).Gives Q)
    (h : Q default) : (r.checked f).Gives Q := by
  intro s b s' heq
  unfold checked at heq
  split at heq
  · cases heq
  · rename_i a t hrun
    split at heq
    · exact hf a (hr s a t hrun) t b s' heq
    · obtain ⟨rfl, -⟩ := Prod.mk.inj (Except.ok.inj heq)
      exact h

/-! ### Steps without a document -/

/-- Without a document and with room for some levels, the step gives a value and leaves the state as
it is. -/
def Returns (r : Reading α) (room : Nat) (a : α) : Prop :=
  ∀ s : ReadState, s.inDocument = false → s.depth + room ≤ depthLimit → r s = .ok (a, s)

variable {room : Nat} {b : β}

theorem returns_pure (room : Nat) (a : α) : (pure a : Reading α).Returns room a := fun _ _ _ => rfl

theorem Returns.bind (hr : r.Returns room a) (hf : (f a).Returns room b) :
    (r >>= f).Returns room b := by
  intro s hs hroom
  rw [bind_run (hr s hs hroom)]
  exact hf s hs hroom

theorem Returns.map (hr : r.Returns room a) (g : α → β) : (g <$> r).Returns room (g a) := by
  rw [← bind_pure_comp]
  exact hr.bind (returns_pure room (g a))

theorem Returns.below (hr : r.Returns room a) : (below r).Returns (room + 1) a := by
  intro s hs hroom
  have hrun : r { s with depth := s.depth + 1 } = .ok (a, { s with depth := s.depth + 1 }) :=
    hr _ hs (by simp only; omega)
  rw [Reading.below, hrun]
  rfl

theorem Returns.deeper [Inhabited α] (hr : r.Returns room a) (path : List String) :
    (r.deeper path).Returns (room + 1) a := by
  intro s hs hroom
  have hlimit : ¬depthLimit ≤ s.depth := by omega
  rw [Reading.deeper, if_neg (Bool.eq_false_iff.mp hs), if_neg hlimit]
  exact hr.below s hs hroom

theorem Returns.checked [Inhabited β] (hr : r.Returns room a) (hf : (f a).Returns room b) :
    (r.checked f).Returns room b := by
  intro s hs hroom
  simp only [Reading.checked, hr s hs hroom, if_true]
  exact hf s hs hroom

theorem Returns.attempt (hr : r.Returns room a) : r.attempt.Returns room (some a) := by
  intro s hs hroom
  simp [Reading.attempt, hr { s with complaints := [] } hs hroom, Except.map]

theorem Returns.mono {room' : Nat} (hr : r.Returns room a) (h : room ≤ room') :
    r.Returns room' a :=
  fun s hs hroom => hr s hs (by omega)

end Reading

/-! ## Writing -/

namespace Data

def Writable (d : Data) : Prop := ∀ style level, (Json.write? style level d).isSome = true

theorem printed_ne_member (d : Data) (type label : String) (value : Data) :
    d.printed ≠ .member type label value := by
  cases d with
  | float x =>
    rw [printed]
    split
    all_goals
      intro h
      cases h
  | member _ _ inner => exact printed_ne_member inner type label value
  | _ =>
    intro h
    cases h

theorem writable_text (s : String) : (Data.text s).Writable := fun _ _ => rfl

theorem writable_list {items : List Data} (h : ∀ d ∈ items, d.Writable) :
    (Data.list items).Writable := by
  intro style level
  have hitems : (Json.writeItems? style (level + 1) items).isSome = true := by
    induction items with
    | nil => rfl
    | cons d items ih =>
      obtain ⟨first, hfirst⟩ := Option.isSome_iff_exists.mp
        (h d List.mem_cons_self style (level + 1))
      obtain ⟨others, hothers⟩ := Option.isSome_iff_exists.mp
        (ih fun d hd => h d (List.mem_cons_of_mem _ hd))
      simp [Json.writeItems?, hfirst, hothers]
  rw [Json.write?, Option.isSome_map, hitems]

theorem writable_object {entries : List (String × Data)} (h : ∀ e ∈ entries, e.2.Writable) :
    (Data.object entries).Writable := by
  intro style level
  have hentries : (Json.writeEntries? style (level + 1) entries).isSome = true := by
    induction entries with
    | nil => rfl
    | cons e entries ih =>
      obtain ⟨first, hfirst⟩ := Option.isSome_iff_exists.mp
        (h e List.mem_cons_self style (level + 1))
      obtain ⟨others, hothers⟩ := Option.isSome_iff_exists.mp
        (ih fun d hd => h d (List.mem_cons_of_mem _ hd))
      simp [Json.writeEntries?, hfirst, hothers]
  rw [Json.write?, Option.isSome_map, hentries]

theorem writable_of_isJson {d : Data} (h : d.IsJson) : d.Writable := by
  induction h with
  | list _ ih => exact writable_list ih
  | object _ _ ih => exact writable_object ih
  | _ => exact fun _ _ => rfl

end Data

/-! ## Restoring -/

/-- What becomes of a value that is printed and read again. -/
class Restorable (α : Type) [Record α] where
  /-- What comes back, if anything does. -/
  restored : α → Option α
  /-- Something comes back. -/
  Reopens : α → Prop
  /-- The value itself comes back. -/
  Faithful : α → Prop
  yields (path : List String) (a : α) :
    (Record.read path (Record.toData a).printed).Yields (restored a)
  isSome_restored (a : α) : (restored a).isSome = true ↔ Reopens a
  restored_of_faithful {a : α} : Faithful a → restored a = some a
  faithful_of_restored {a b : α} : restored a = some b → Faithful b
  writable {a : α} : Faithful a → (Record.toData a).Writable

/-- No value of the type is printed as a null. -/
class NeverNull (α : Type) [Record α] : Prop where
  printed_ne_null (a : α) : (Record.toData a).printed ≠ .null

namespace Restorable

open Reading (Yields)

/-! ### Plain values -/

instance : Restorable String where
  restored := some
  Reopens _ := True
  Faithful _ := True
  yields _ s := Reading.yields_pure s
  isSome_restored _ := by simp
  restored_of_faithful _ := rfl
  faithful_of_restored _ := trivial
  writable _ := fun _ _ => rfl

instance : NeverNull String := ⟨fun _ => nofun⟩

instance : Restorable Bool where
  restored := some
  Reopens _ := True
  Faithful _ := True
  yields _ b := Reading.yields_pure b
  isSome_restored _ := by simp
  restored_of_faithful _ := rfl
  faithful_of_restored _ := trivial
  writable _ := fun _ _ => rfl

/-- A number has to have digits. -/
instance : Restorable Double where
  restored x := if x.isFinite then some x else none
  Reopens x := x.isFinite = true
  Faithful x := x.isFinite = true
  yields path x := by
    change (Record.read path (if x.isFinite then Data.float x else Data.null)).Yields _
    split
    · exact Reading.yields_pure x
    · exact Reading.yields_complain path .notNumber
  isSome_restored x := by cases h : x.isFinite <;> simp
  restored_of_faithful h := if_pos h
  faithful_of_restored {x y} h := by
    split at h
    · rename_i hx
      rwa [Option.some.inj h] at hx
    · cases h
  writable _ := fun _ _ => rfl

theorem wholeMinutes_eq_iff (s : Int) : Moment.wholeMinutes s = s ↔ s % 60 = 0 := by
  unfold Moment.wholeMinutes Number.signed
  split
  · have := of_decide_eq_true ‹_›
    omega
  · have := of_decide_eq_false (Bool.eq_false_iff.mpr ‹_›)
    omega

theorem wholeMinutes_spec {s : Int} (h : s.natAbs < 86400) :
    (Moment.wholeMinutes s).natAbs < 86400 ∧ Moment.wholeMinutes s % 60 = 0 := by
  unfold Moment.wholeMinutes Number.signed
  split <;> omega

/-- An offset has to be shorter than a day, and comes back in whole minutes. -/
instance : Restorable Moment where
  restored := Moment.inMinutes?
  Reopens t := ∀ s ∈ t.offset, s.natAbs < 86400
  Faithful t := ∀ s ∈ t.offset, s.natAbs < 86400 ∧ s % 60 = 0
  yields path t := by
    have hmoment : Record.momentOf? (.text t.toIso) = t.inMinutes? := Moment.ofText?_toIso t
    have hdata : (Record.toData t).printed = .text t.toIso := by
      rw [show Record.toData t = .text t.toIso from rfl, Data.printed_text]
    rw [hdata]
    cases h : t.inMinutes? with
    | some u =>
      rw [h] at hmoment
      simp only [Record.read, hmoment]
      exact Reading.yields_pure u
    | none =>
      rw [h] at hmoment
      simp only [Record.read, hmoment]
      exact Reading.yields_complain path .notMoment
  isSome_restored t := by
    rw [Moment.inMinutes?]
    split
    · exact iff_of_true rfl ‹_›
    · exact iff_of_false nofun ‹_›
  restored_of_faithful {t} h := by
    rw [Moment.inMinutes?, if_pos fun s hs => (h s hs).1]
    obtain ⟨date, seconds, micros, offset⟩ := t
    cases offset with
    | none => rfl
    | some s =>
      have hwhole := (wholeMinutes_eq_iff s).mpr (h s rfl).2
      simp [hwhole]
  faithful_of_restored {t u} h := by
    rw [Moment.inMinutes?] at h
    split at h
    · rename_i hday
      obtain rfl := Option.some.inj h
      intro s hs
      obtain ⟨s', hs', rfl⟩ := Option.map_eq_some_iff.mp hs
      exact wholeMinutes_spec (hday s' hs')
    · cases h
  writable _ := Data.writable_text _

/-- Free-form data always comes back. -/
instance : Restorable Data where
  restored d := some d.printed.settle
  Reopens _ := True
  Faithful := Data.IsJson
  yields _ d := Reading.yields_pure d.printed.settle
  isSome_restored _ := by simp
  restored_of_faithful h := congrArg some (Data.settle_printed_of_isJson h)
  faithful_of_restored {d e} h := by
    rw [← Option.some.inj h]
    exact Data.isJson_settle_printed d
  writable h := Data.writable_of_isJson h

def integer? : Data → Option Int
  | .int n => some n
  | .bool b => some b.toNat
  | .float x => (Record.intOfDouble x).toOption
  | .text s => (Number.settingInt s).toOption
  | _ => none

theorem readInt_yields (path : List String) {d : Data}
    (hd : ∀ type label value, d ≠ .member type label value) :
    (Record.readInt path d).Yields (integer? d) := by
  cases d with
  | int n => exact Reading.yields_pure n
  | bool b => exact Reading.yields_pure _
  | float x =>
    rw [Record.readInt, integer?]
    cases Record.intOfDouble x with
    | ok n => exact Reading.yields_pure n
    | error fault => exact Reading.yields_complain path fault
  | text s =>
    rw [Record.readInt, integer?]
    cases Number.settingInt s with
    | ok n => exact Reading.yields_pure n
    | error why => cases why <;> exact Reading.yields_complain path _
  | member type label value => exact absurd rfl (hd type label value)
  | _ => exact Reading.yields_complain path _

/-- An ordinal comes back as an integer. -/
instance : Restorable Ordinal where
  restored o := (integer? o.toData.printed).map .int
  Reopens o := (integer? o.toData.printed).isSome = true
  Faithful o := ∃ n, o = .int n
  yields path o := by
    have hprinted := Data.printed_ne_member o.toData
    have hread : Record.read path o.toData.printed =
        Ordinal.int <$> Record.readInt path o.toData.printed := by
      generalize o.toData.printed = d at *
      cases d with
      | member type label value => exact absurd rfl (hprinted type label value)
      | _ => rfl
    exact hread ▸ (readInt_yields path hprinted).map Ordinal.int
  isSome_restored o := by rw [Option.isSome_map]
  restored_of_faithful h := by
    obtain ⟨n, rfl⟩ := h
    rfl
  faithful_of_restored h := by
    obtain ⟨n, -, rfl⟩ := Option.map_eq_some_iff.mp h
    exact ⟨n, rfl⟩
  writable h := by
    obtain ⟨n, rfl⟩ := h
    exact fun _ _ => rfl

end Restorable

/-- Every member of an enumeration is found by its name. -/
class Labelled.Lawful (α : Type) [Labelled α] : Prop where
  ofLabel?_label (a : α) : ofLabel? (label a) = some a

theorem Record.read_label [Labelled α] [Inhabited α] [Labelled.Lawful α] (path : List String)
    (a : α) : (Record.read path (.text (Labelled.label a)) : Reading α) = pure a := by
  have hlabel : (textOf? (.text (Labelled.label a))).bind Labelled.ofLabel? = some a :=
    Labelled.Lawful.ofLabel?_label a
  simp only [Record.read, hlabel]

theorem Record.read_some [Record α] (path : List String) {d : Data} (h : d ≠ .null) :
    (Record.read path d : Reading (Option α)) = some <$> Record.read path d := by
  cases d with
  | null => exact absurd rfl h
  | _ => rfl

namespace Restorable

open Reading (Yields)

instance (priority := low) [Labelled α] [Inhabited α] [Labelled.Lawful α] : Restorable α where
  restored := some
  Reopens _ := True
  Faithful _ := True
  yields path a := by
    have hread := Record.read_label path a
    exact hread ▸ Reading.yields_pure a
  isSome_restored _ := by simp
  restored_of_faithful _ := rfl
  faithful_of_restored _ := trivial
  writable _ := Data.writable_text _

instance (priority := low) [Labelled α] [Inhabited α] : NeverNull α := ⟨fun _ => nofun⟩

/-! ### Containers -/

variable [Record α] [Restorable α]

instance [NeverNull α] : Restorable (Option α) where
  restored o := o.elim (some none) fun a => (restored a).map some
  Reopens o := ∀ a ∈ o, Reopens a
  Faithful o := ∀ a ∈ o, Faithful a
  yields path o := by
    cases o with
    | none => exact Reading.yields_pure none
    | some a =>
      have hread := Record.read_some (α := α) path (NeverNull.printed_ne_null a)
      exact hread ▸ (yields path a).map some
  isSome_restored o := by
    cases o with
    | none => simp
    | some a => simp [isSome_restored]
  restored_of_faithful {o} h := by
    cases o with
    | none => rfl
    | some a => simp [restored_of_faithful (h a rfl)]
  faithful_of_restored {o p} h := by
    cases o with
    | none =>
      obtain rfl := Option.some.inj h
      exact nofun
    | some a =>
      obtain ⟨b, hb, rfl⟩ := Option.map_eq_some_iff.mp h
      rintro _ ⟨⟩
      exact faithful_of_restored hb
  writable {o} h := by
    cases o with
    | none => exact fun _ _ => rfl
    | some a =>
      have hwritable : (Record.toData a).Writable := writable (h a rfl)
      exact hwritable

theorem readItems_yields (path : List String) (index : Nat) (xs : List α) :
    (Record.readItems path index (xs.map fun a => (Record.toData a).printed)).Yields
      (xs.mapM restored) := by
  induction xs generalizing index with
  | nil => exact Reading.yields_pure []
  | cons a xs ih =>
    rw [List.map_cons, Record.readItems, List.mapM_cons]
    exact (yields (toString index :: path) a).bind fun b =>
      (ih (index + 1)).bind fun bs => Reading.yields_pure (b :: bs)

instance : Restorable (List α) where
  restored xs := xs.mapM restored
  Reopens xs := ∀ a ∈ xs, Reopens a
  Faithful xs := ∀ a ∈ xs, Faithful a
  yields path xs := by
    have hdata : (Record.toData xs).printed =
        .list (xs.map fun a => (Record.toData a).printed) := by
      rw [show Record.toData xs = .list (xs.map Record.toData) from rfl, Data.printed_list,
        List.map_map]
      rfl
    rw [hdata]
    exact readItems_yields path 0 xs
  isSome_restored xs := by simp only [isSome_mapM_iff, isSome_restored]
  restored_of_faithful h := mapM_eq_some_self fun a ha => restored_of_faithful (h a ha)
  faithful_of_restored h b hb := by
    obtain ⟨a, -, hab⟩ := mem_of_mapM_eq_some h b hb
    exact faithful_of_restored hab
  writable h := Data.writable_list fun d hd => by
    obtain ⟨a, ha, rfl⟩ := List.mem_map.mp hd
    exact writable (h a ha)

def restoredEntry (e : String × α) : Option (String × α) := (restored e.2).map (e.1, ·)

def insertAll (done : Dict α) (es : List (String × α)) : Dict α :=
  es.foldl (fun d e => d.insert e.1 e.2) done

theorem readEntries_yields (path : List String) (done : Dict α) (entries : List (String × α)) :
    (Record.readEntries path done
      (entries.map fun e => (e.1, (Record.toData e.2).printed))).Yields
        ((entries.mapM restoredEntry).map (insertAll done)) := by
  induction entries generalizing done with
  | nil => exact Reading.yields_pure done
  | cons e entries ih =>
    obtain ⟨key, a⟩ := e
    have hstep := (yields (key :: path) a).bind fun b => ih (done.insert key b)
    have hsame : ((restored a).bind fun b =>
        (entries.mapM restoredEntry).map (insertAll (done.insert key b))) =
        (((key, a) :: entries).mapM restoredEntry).map (insertAll done) := by
      rw [List.mapM_cons, restoredEntry]
      cases restored a with
      | none => rfl
      | some b => cases entries.mapM restoredEntry <;> rfl
    rw [← hsame, List.map_cons, Record.readEntries]
    exact hstep

theorem keys_restoredEntries {entries es : List (String × α)}
    (h : entries.mapM restoredEntry = some es) : es.map Prod.fst = entries.map Prod.fst := by
  induction entries generalizing es with
  | nil =>
    obtain rfl := Option.some.inj h
    rfl
  | cons e entries ih =>
    simp only [List.mapM_cons, Option.bind_eq_bind, Option.bind_eq_some_iff] at h
    obtain ⟨first, hfirst, others, hothers, hall⟩ := h
    obtain rfl := Option.some.inj hall
    obtain ⟨b, -, rfl⟩ := Option.map_eq_some_iff.mp hfirst
    rw [List.map_cons, List.map_cons, ih hothers]

/-- A dictionary comes back with its entries in order. -/
instance : Restorable (Dict α) where
  restored d := (d.entries.mapM restoredEntry).map Dict.ofList
  Reopens d := ∀ a ∈ d.values, Reopens a
  Faithful d := ∀ a ∈ d.values, Faithful a
  yields path d := by
    have hdata : (Record.toData d).printed =
        .object (d.entries.map fun e => (e.1, (Record.toData e.2).printed)) := by
      rw [show Record.toData d = .object (d.entries.map fun e => (e.1, Record.toData e.2)) from rfl,
        Data.printed_object, List.map_map]
      rfl
    rw [hdata]
    exact readEntries_yields path .empty d.entries
  isSome_restored d := by
    simp only [Option.isSome_map, isSome_mapM_iff, restoredEntry, isSome_restored, Dict.values,
      List.forall_mem_map]
  restored_of_faithful {d} h := by
    have hentries : d.entries.mapM restoredEntry = some d.entries := by
      refine mapM_eq_some_self fun e he => ?_
      rw [restoredEntry, restored_of_faithful (h e.2 (List.mem_map_of_mem he))]
      rfl
    rw [hentries, Option.map_some]
    exact congrArg some (Dict.eq_of_entries_eq (Dict.entries_ofList_iff.mpr d.nodup))
  faithful_of_restored {d d'} h := by
    obtain ⟨es, hes, rfl⟩ := Option.map_eq_some_iff.mp h
    have hkeys := Dict.entries_ofList_iff.mpr (keys_restoredEntries hes ▸ d.nodup)
    rw [Dict.values, hkeys, List.forall_mem_map]
    intro e he
    obtain ⟨e', -, he'⟩ := mem_of_mapM_eq_some hes e he
    obtain ⟨b, hb, rfl⟩ := Option.map_eq_some_iff.mp he'
    exact faithful_of_restored hb
  writable h := Data.writable_object fun e he => by
    obtain ⟨e', he', rfl⟩ := List.mem_map.mp he
    exact writable (h e'.2 (List.mem_map_of_mem he'))

/-! ### Entries of a record -/

theorem lookup?_of_mem {entries : List (String × β)} (hkeys : (entries.map Prod.fst).Nodup)
    {key : String} {b : β} (h : (key, b) ∈ entries) : Data.lookup? key entries = some b := by
  have hfold : ∀ (es : List (String × β)) (found : Option β), (es.map Prod.fst).Nodup →
      ((key, b) ∈ es ∨ key ∉ es.map Prod.fst ∧ found = some b) →
      es.foldl (fun found e => if e.1 = key then some e.2 else found) found = some b := by
    intro es
    induction es with
    | nil =>
      rintro found - (hmem | ⟨-, hfound⟩)
      · cases hmem
      · exact hfound
    | cons e es ih =>
      intro found hnodup hmem
      rw [List.map_cons, List.nodup_cons] at hnodup
      refine ih _ hnodup.2 ?_
      rcases hmem with hmem | ⟨hnew, hfound⟩
      · rcases List.mem_cons.mp hmem with rfl | hmem
        · exact Or.inr ⟨hnodup.1, if_pos rfl⟩
        · exact Or.inl hmem
      · rw [List.map_cons, List.mem_cons, not_or] at hnew
        exact Or.inr ⟨hnew.2, (if_neg fun he => hnew.1 he.symm).trans hfound⟩
  exact hfold entries none hkeys (Or.inl h)

/-- A record is read from its entries, each under its key. -/
theorem readRecord_yields {entries : List (String × Data)} {o : Option β} [Inhabited β]
    {body : Record.Source → Reading β} (path : List String)
    (hkeys : (entries.map Prod.fst).Nodup)
    (hbody : ∀ s : Record.Source, s.entries = entries.map (fun e => (e.1, e.2.printed)) →
      entries.Forall (fun e => Data.lookup? e.1 s.entries = some e.2.printed) →
        (body s).Yields o) :
    (Record.readRecord body path (Data.object entries).printed).Yields o := by
  rw [Data.printed_object, Record.readRecord]
  refine hbody _ rfl (List.forall_iff_forall_mem.mpr fun e he => ?_)
  refine lookup?_of_mem ?_ (List.mem_map.mpr ⟨e, he, rfl⟩)
  simp only [Record.Source.ofEntries, List.map_map]
  exact hkeys

variable {s : Record.Source} {key : String} {a : α}

theorem fieldElse_yields {make : Reading α}
    (h : Data.lookup? key s.entries = some (Record.toData a).printed) :
    (s.fieldElse key make).Yields (restored a) := by
  simp only [Record.Source.fieldElse, h]
  exact yields (key :: s.path) a

theorem fieldOr_yields {fallback : α}
    (h : Data.lookup? key s.entries = some (Record.toData a).printed) :
    (s.fieldOr key fallback).Yields (restored a) :=
  fieldElse_yields h

theorem field_yields [Inhabited α]
    (h : Data.lookup? key s.entries = some (Record.toData a).printed) :
    (s.field key : Reading α).Yields (restored a) := by
  simp only [Record.Source.field, h]
  exact yields (key :: s.path) a

end Restorable

end Wirework
