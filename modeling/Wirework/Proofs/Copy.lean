import Wirework.Project.Copy
import Wirework.Proofs.Record.Project

/-!
# What a copy keeps

A copy of a node or of an edge either is refused, and then no id has been drawn, or it is made. The
copy of a node has the ports of its model, as far as their ids go, and stands outside of groups. The
copy of an edge runs between the ports of its model. A copy equals its model in all it should exactly
if the model is proper (`Node.duplicate_outcome`, `Edge.duplicate_outcome`): nothing in it is nested
too deeply, every part of it is one that could have been read, and there is no setting in metadata.
-/

namespace Wirework

variable {α β : Type}

/-! ## Actions that may fail -/

section Run

variable {σ ε : Type}

theorem run_bind (act : ExceptT ε (StateM σ) α) (f : α → ExceptT ε (StateM σ) β) (s : σ) :
    (act >>= f) s = match act s with
      | (.ok a, s') => f a s'
      | (.error e, s') => (.error e, s') := by
  simp only [bind, ExceptT.bind, ExceptT.mk, StateT.bind, ExceptT.bindCont]
  rcases act s with ⟨_ | _, _⟩ <;> rfl

theorem run_bind_of_ok {act : ExceptT ε (StateM σ) α} {f : α → ExceptT ε (StateM σ) β} {s s' : σ}
    {a : α} (h : act s = (.ok a, s')) : (act >>= f) s = f a s' := by
  rw [run_bind, h]

theorem run_bind_of_error {act : ExceptT ε (StateM σ) α} {f : α → ExceptT ε (StateM σ) β}
    {s s' : σ} {e : ε} (h : act s = (.error e, s')) : (act >>= f) s = (.error e, s') := by
  rw [run_bind, h]

theorem run_pure (a : α) (s : σ) : (pure a : ExceptT ε (StateM σ) α) s = (.ok a, s) := rfl

theorem run_get (s : σ) : (get : ExceptT ε (StateM σ) σ) s = (.ok s, s) := rfl

theorem run_modifyGet (f : σ → α × σ) (s : σ) :
    (modifyGet f : ExceptT ε (StateM σ) α) s = (.ok (f s).1, (f s).2) := rfl

theorem run_discard (act : ExceptT ε (StateM σ) α) (s : σ) :
    discard act s = match act s with
      | (.ok _, s') => (.ok (), s')
      | (.error e, s') => (.error e, s') := by
  simp only [discard, Functor.discard, Functor.mapConst, ExceptT.map, ExceptT.mk, StateT.bind, bind,
    Function.comp_def]
  rcases act s with ⟨_ | _, _⟩ <;> rfl

theorem forM_cons (f : α → ExceptT ε (StateM σ) Unit) (a : α) (rest : List α) :
    (a :: rest).forM f = (f a >>= fun _ => rest.forM f) := rfl

end Run

/-! ## Reading anew -/

/-- A record is refused: it is nested too deeply to be taken apart, or it is not read again. -/
def Failure.IsRefusal (why : Failure) : Prop := why = .overnested ∨ ∃ refusal, why = .ofRefusal refusal

open Reading

/-- A record that is read anew is either given, or it is refused; no id is drawn. -/
theorem Reading.result_cases {P : α → Prop} {r : Reading α} (h : r.Gives P) (m : Mint) :
    (∃ refusal, r.result m = (.error (.ofRefusal refusal), m)) ∨
      ∃ a, P a ∧ r.result m = (.ok a, m) := by
  unfold result
  rw [run_bind_of_ok (run_get m)]
  unfold run
  cases hr : StateT.run r { mint := m, inDocument := false } with
  | error why => exact Or.inl ⟨.halted why, rfl⟩
  | ok found =>
    obtain ⟨a, s⟩ := found
    by_cases hc : s.complaints.isEmpty = true
    · refine Or.inr ⟨a, h _ a s hr, ?_⟩
      simp only [hc, if_true]
      rfl
    · refine Or.inl ⟨.complaints s.complaints, ?_⟩
      simp only [hc]
      rfl

/-- Every value of the type is read as it is. -/
class Steady (α : Type) [Record α] : Prop where
  read_toData (path : List String) (a : α) : Record.read path (Record.toData a) = pure a

instance : Steady String := ⟨fun _ _ => rfl⟩

instance : Steady Bool := ⟨fun _ _ => rfl⟩

instance : Steady Double := ⟨fun _ _ => rfl⟩

instance (priority := low) [Labelled α] [Inhabited α] [Labelled.Lawful α] : Steady α :=
  ⟨Record.read_label⟩

namespace Record

variable [Record α]

theorem toData_ne_null [NeverNull α] (a : α) : toData a ≠ .null := fun h =>
  NeverNull.printed_ne_null a (by rw [h]; rfl)

theorem readItems_eq {g : α → α} {items : List α}
    (h : ∀ a ∈ items, ∀ path, Record.read path (toData a) = pure (g a)) (path : List String)
    (index : Nat) : readItems path index (items.map toData) = pure (items.map g) := by
  induction items generalizing index with
  | nil => rfl
  | cons a rest ih =>
    obtain ⟨ha, hrest⟩ := List.forall_mem_cons.mp h
    rw [List.map_cons, readItems, ha, pure_bind, ih hrest, pure_bind, List.map_cons]

theorem readEntries_eq {g : α → α} (h : ∀ path a, Record.read path (toData a) = pure (g a))
    (path : List String) (done : Dict α) (entries : List (String × α)) :
    readEntries path done (entries.map fun e => (e.1, toData e.2)) =
      pure (Restorable.insertAll done (entries.map fun e => (e.1, g e.2))) := by
  induction entries generalizing done with
  | nil => rfl
  | cons e rest ih =>
    rw [List.map_cons, readEntries, h, pure_bind, ih]
    rfl

theorem read_dict_eq {g : α → α} (h : ∀ path a, Record.read path (toData a) = pure (g a))
    (path : List String) (d : Dict α) : Record.read path (toData d) = pure (d.mapValues g) := by
  refine (readEntries_eq h path .empty d.entries).trans (congrArg pure ?_)
  exact Dict.eq_of_entries_eq (Dict.entries_ofList_iff.mpr (d.mapValues g).nodup)

end Record

instance [Record α] [NeverNull α] [Steady α] : Steady (Option α) := ⟨fun path o => by
  cases o with
  | none => rfl
  | some a =>
    refine (Record.read_some path (Record.toData_ne_null a)).trans ?_
    rw [Steady.read_toData]
    rfl⟩

instance [Record α] [Steady α] : Steady (List α) := ⟨fun path xs => by
  refine (Record.readItems_eq (g := id) (fun a _ path => Steady.read_toData path a) path 0).trans ?_
  rw [List.map_id]⟩

instance [Record α] [Steady α] : Steady (Dict α) := ⟨fun path d => by
  have hid : d.mapValues id = d := Dict.mapValues_eq_self_iff.mpr fun _ _ => rfl
  rw [Record.read_dict_eq (g := id) Steady.read_toData, hid]⟩

/-! ### Entries of a record -/

namespace Record

theorem readRecord_eq {entries : List (String × Data)} {r : Reading β} [Inhabited β]
    {body : Source → Reading β} (path : List String) (hkeys : (entries.map Prod.fst).Nodup)
    (hbody : ∀ s : Source, s.path = path → s.entries = entries →
      entries.Forall (fun e => Data.lookup? e.1 s.entries = some e.2) → body s = r) :
    readRecord body path (.object entries) = r :=
  hbody _ rfl rfl (List.forall_iff_forall_mem.mpr fun _ he => Restorable.lookup?_of_mem hkeys he)

variable [Record α] {s : Source} {key : String} {d : Data}

theorem fieldElse_eq {make : Reading α} (h : Data.lookup? key s.entries = some d) :
    s.fieldElse key make = Record.read (key :: s.path) d := by
  simp only [Source.fieldElse, h]

theorem fieldElse_missing {make : Reading α} (h : Data.lookup? key s.entries = none) :
    s.fieldElse key make = make := by
  simp only [Source.fieldElse, h]

theorem fieldOr_eq {fallback : α} (h : Data.lookup? key s.entries = some d) :
    s.fieldOr key fallback = Record.read (key :: s.path) d := fieldElse_eq h

theorem field_eq [Inhabited α] (h : Data.lookup? key s.entries = some d) :
    s.field key = (Record.read (key :: s.path) d : Reading α) := by
  simp only [Source.field, h]

end Record

open Record Steady

instance : Steady Constraint := ⟨fun path c => by
  refine readRecord_eq path (by simp) ?_
  rintro s - - ⟨hkind, hentity, hfield, hdelete, hupdate, hexpression⟩
  simp only [field_eq hkind, fieldOr_eq hentity, fieldOr_eq hfield, fieldOr_eq hdelete,
    fieldOr_eq hupdate, fieldOr_eq hexpression, read_toData, pure_bind]⟩

instance : Steady Position := ⟨fun path p => by
  refine readRecord_eq path (by simp) ?_
  rintro s - - ⟨hx, hy⟩
  simp only [fieldOr_eq hx, fieldOr_eq hy, read_toData, pure_bind]⟩

instance : Steady Size := ⟨fun path z => by
  refine readRecord_eq path (by simp) ?_
  rintro s - - ⟨hwidth, hheight⟩
  simp only [fieldOr_eq hwidth, fieldOr_eq hheight, read_toData, pure_bind]⟩

instance : Steady EdgeStyle := ⟨fun path e => by
  refine readRecord_eq path (by simp) ?_
  rintro s - - ⟨hcolor, hwidth, hdashed, hanimated⟩
  simp only [fieldOr_eq hcolor, fieldOr_eq hwidth, fieldOr_eq hdashed, fieldOr_eq hanimated,
    read_toData, pure_bind]⟩

theorem read_metadata (path : List String) (m : Dict Data) :
    Record.read path (toData m) = pure (m.mapValues Data.settle) :=
  read_dict_eq (fun _ _ => rfl) path m

/-! All that is read anew of a record are the entries of types that have values of another form. -/

theorem Rule.read_eq (path : List String) (r : Rule) : Record.read path (toData r) = (do
    let value ← Record.read ("value" :: path) (toData r.value)
    return { r with value }) := by
  refine readRecord_eq path (by simp) ?_
  rintro s rfl - ⟨hkind, hvalue, hname, hmessage⟩
  simp only [field_eq hkind, fieldOr_eq hvalue, fieldOr_eq hname, fieldOr_eq hmessage, read_toData,
    pure_bind]

theorem Hints.read_eq (path : List String) (h : Hints) : Record.read path (toData h) = (do
    let order ← Record.read ("order" :: path) (toData h.order)
    return { h with order }) := by
  refine readRecord_eq path (by simp) ?_
  rintro s rfl - ⟨hlabel, hplaceholder, hhelp, hsecret, hshow, hwidget, horder⟩
  simp only [fieldOr_eq hlabel, fieldOr_eq hplaceholder, fieldOr_eq hhelp, fieldOr_eq hsecret,
    fieldOr_eq hshow, fieldOr_eq hwidget, fieldOr_eq horder, read_toData, pure_bind]

theorem Field.read_eq (path : List String) (f : Field) : Record.read path (toData f) = (do
    let dataType ← Record.read ("data_type" :: path) (toData f.dataType)
    let defaultValue ← Record.read ("default_value" :: path) (toData f.defaultValue)
    let rules ← Record.read ("validations" :: path) (toData f.rules)
    let hints ← Record.read ("ui_hints" :: path) (toData f.hints)
    return { f with
      dataType, defaultValue, rules, hints, metadata := f.metadata.mapValues Data.settle }) := by
  refine readRecord_eq path (by simp) ?_
  rintro s rfl - ⟨hid, hname, hlabel, htype, hrequired, hdefault, hrules, hhints, hconstraints,
    hdescription, hreadOnly, hdeprecated, hmessage, hmetadata⟩
  simp only [fieldElse_eq hid, field_eq hname, fieldOr_eq hlabel, fieldOr_eq htype,
    fieldOr_eq hrequired, fieldOr_eq hdefault, fieldOr_eq hrules, fieldOr_eq hhints,
    fieldOr_eq hconstraints, fieldOr_eq hdescription, fieldOr_eq hreadOnly, fieldOr_eq hdeprecated,
    fieldOr_eq hmessage, fieldOr_eq hmetadata, read_toData, read_metadata, pure_bind]

theorem Port.read_eq (path : List String) (p : Port) : Record.read path (toData p) = (do
    let dataType ← Record.read ("data_type" :: path) (toData p.dataType)
    let defaultValue ← Record.read ("default_value" :: path) (toData p.defaultValue)
    let order ← Record.read ("order" :: path) (toData p.order)
    return { p with dataType, defaultValue, order }) := by
  refine readRecord_eq path (by simp) ?_
  rintro s rfl - ⟨hid, hname, hdescription, hdirection, hkind, htype, hmultiple, hrequired, hdefault,
    horder⟩
  simp only [field_eq hid, field_eq hname, fieldOr_eq hdescription, field_eq hdirection,
    fieldOr_eq hkind, fieldOr_eq htype, fieldOr_eq hmultiple, fieldOr_eq hrequired,
    fieldOr_eq hdefault, fieldOr_eq horder, read_toData, pure_bind]

theorem Ports.read_eq (path : List String) (ps : Ports) : Record.read path (toData ps) = (do
    let inputs ← below (Record.read ("inputs" :: path) (toData ps.inputs))
    let outputs ← below (Record.read ("outputs" :: path) (toData ps.outputs))
    return Ports.mk inputs outputs) := by
  refine readRecord_eq path (by simp) ?_
  rintro s rfl - ⟨hinputs, houtputs⟩
  simp only [fieldOr_eq hinputs, fieldOr_eq houtputs]

theorem Node.read_eq (n : Node) :
    Record.read [] ((toData n).without ["id", "created_at", "modified_at"]) = (do
      let id ← fresh .node
      let fields ← Record.read ["fields"] (toData n.fields)
      let ports ← Record.read ["ports"] (toData n.ports)
      let config ← Record.read ["config"] (toData n.config)
      let zIndex ← Record.read ["z_index"] (toData n.zIndex)
      let createdAt ← now
      let modifiedAt ← now
      return { n with
        id, fields, ports, config, zIndex, createdAt, modifiedAt
        metadata := n.metadata.mapValues Data.settle }) := by
  refine readRecord_eq [] (by simp) ?_
  rintro s hpath hs ⟨htype, hname, hposition, hsize, hfields, hports, hconfig, hcategory,
    hcollapsed, hlocked, hvisible, hdescription, hicon, hcolor, htags, hmetadata, hindex, hgroup⟩
  have hid : Data.lookup? "id" s.entries = none := by simp [Data.lookup?, hs]
  have hcreated : Data.lookup? "created_at" s.entries = none := by simp [Data.lookup?, hs]
  have hmodified : Data.lookup? "modified_at" s.entries = none := by simp [Data.lookup?, hs]
  simp only [fieldElse_missing hid, field_eq htype, field_eq hname, fieldOr_eq hposition,
    fieldOr_eq hsize, fieldOr_eq hfields, fieldOr_eq hports, fieldOr_eq hconfig,
    fieldOr_eq hcategory, fieldOr_eq hcollapsed, fieldOr_eq hlocked, fieldOr_eq hvisible,
    fieldOr_eq hdescription, fieldOr_eq hicon, fieldOr_eq hcolor, fieldOr_eq htags,
    fieldOr_eq hmetadata, fieldOr_eq hindex, fieldOr_eq hgroup, fieldElse_missing hcreated,
    fieldElse_missing hmodified, hpath, read_toData, read_metadata, pure_bind]

theorem Edge.read_eq (e : Edge) : Record.read [] ((toData e).without ["id"]) = (do
    let id ← fresh .edge
    let zIndex ← Record.read ["z_index"] (toData e.zIndex)
    return { e with id, zIndex, metadata := e.metadata.mapValues Data.settle }) := by
  refine readRecord_eq [] (by simp) ?_
  rintro s hpath hs ⟨hfromNode, hfromPort, htoNode, htoPort, hconnection, hrelation, hmapping,
    hlabel, henabled, hstyle, hdescription, hmetadata, hwaypoints, hindex⟩
  have hid : Data.lookup? "id" s.entries = none := by simp [Data.lookup?, hs]
  simp only [fieldElse_missing hid, field_eq hfromNode, field_eq hfromPort, field_eq htoNode,
    field_eq htoPort, fieldOr_eq hconnection, fieldOr_eq hrelation, fieldOr_eq hmapping,
    fieldOr_eq hlabel, fieldOr_eq henabled, fieldOr_eq hstyle, fieldOr_eq hdescription,
    fieldOr_eq hmetadata, fieldOr_eq hwaypoints, fieldOr_eq hindex, hpath, read_toData,
    read_metadata, pure_bind]

/-! ## Metadata -/

namespace Data

/-- No setting stands where one would be taken apart. -/
def IsBare (room : Nat) (d : Data) : Prop := d.allSettings (fun _ _ => false) room = true

theorem unpacked_of_isBare {room : Nat} {d : Data} (h : d.IsBare room) : d.unpacked room = d := by
  induction room generalizing d with
  | zero => rfl
  | succ room ih =>
    cases d with
    | list items =>
      have hitems := List.all_eq_true.mp h
      exact congrArg list ((List.map_congr_left fun d hd => ih (hitems d hd)).trans (List.map_id _))
    | tuple items =>
      have hitems := List.all_eq_true.mp h
      exact congrArg tuple ((List.map_congr_left fun d hd => ih (hitems d hd)).trans (List.map_id _))
    | object entries =>
      have hentries := List.all_eq_true.mp h
      exact congrArg object (Setting.map_values_eq fun e he => ih (hentries e he))
    | mapping pairs =>
      have hpairs := List.all_eq_true.mp h
      refine congrArg mapping ((List.map_congr_left fun e he => ?_).trans (List.map_id _))
      rw [ih (hpairs e he)]
      rfl
    | setting v => cases h
    | _ => rfl

theorem eq_of_map_eq_self {f : α → α} {xs : List α} (h : xs.map f = xs) : ∀ a ∈ xs, f a = a :=
  List.map_inj_left.mp (h.trans (List.map_id xs).symm)

theorem eq_of_mergeKeys_eq {f : α → α} {entries : List (String × α)}
    (h : mergeKeys (entries.map fun e => (e.1, f e.2)) = entries) : ∀ e ∈ entries, f e.2 = e.2 := by
  have hnodup : (entries.map Prod.fst).Nodup := h ▸ nodup_mergeKeys _
  rw [mergeKeys_of_nodup (by rwa [Setting.keys_map])] at h
  exact fun e he => congrArg Prod.snd (eq_of_map_eq_self h e he)

/-- Only what holds no setting stays as it is when it is taken apart, settled or not. -/
theorem isBare_of_unpacked {room : Nat} {d : Data}
    (h : d.unpacked room = d ∨ (d.unpacked room).settle = d) : d.IsBare room := by
  induction room generalizing d with
  | zero => rfl
  | succ room ih =>
    cases d with
    | list items =>
      refine List.all_eq_true.mpr fun d hd => ih ?_
      rcases h with h | h
      · exact Or.inl (eq_of_map_eq_self (list.inj h) d hd)
      · rw [unpacked, settle, settleItems_eq, List.map_map] at h
        exact Or.inr (eq_of_map_eq_self (list.inj h) d hd)
    | tuple items =>
      refine List.all_eq_true.mpr fun d hd => ih ?_
      rcases h with h | h
      · exact Or.inl (eq_of_map_eq_self (tuple.inj h) d hd)
      · rw [unpacked, settle, settleItems_eq, List.map_map] at h
        exact Or.inr (eq_of_map_eq_self (tuple.inj h) d hd)
    | object entries =>
      refine List.all_eq_true.mpr fun e he => ih ?_
      rcases h with h | h
      · exact Or.inl (congrArg Prod.snd (eq_of_map_eq_self (object.inj h) e he))
      · rw [unpacked, settle, settleEntries_eq, List.map_map] at h
        have hkeys : mergeKeys (entries.map fun e => (e.1, (e.2.unpacked room).settle)) = entries :=
          object.inj h
        exact Or.inr (eq_of_mergeKeys_eq (f := fun d => (d.unpacked room).settle) hkeys e he)
    | mapping pairs =>
      have hsame := h.elim mapping.inj mapping.inj
      refine List.all_eq_true.mpr fun e he => ih (Or.inl ?_)
      exact congrArg Prod.snd (eq_of_map_eq_self hsame e he)
    | setting v => rcases h with h | h <;> rw [unpacked, Setting.unpacked] at h <;> cases h
    | _ => rfl

end Data

/-- No value holds a setting that would be taken apart, or an object in which a key occurs twice. -/
def Dict.Proper (m : Dict Data) : Prop :=
  ∀ d ∈ m.values, d.IsBare Data.unpackedLevels ∧ d.settle = d

theorem Dict.settle_of_proper {m : Dict Data} (h : m.Proper) : m.mapValues Data.settle = m :=
  Dict.mapValues_eq_self_iff.mpr fun d hd => (h d hd).2

theorem Dict.proper_of_settle {m : Dict Data} (h : m.unpacked.mapValues Data.settle = m) :
    m.Proper := by
  have hboth : m.unpacked.mapValues Data.settle =
      m.mapValues fun d => (d.unpacked Data.unpackedLevels).settle :=
    Dict.eq_of_entries_eq (List.map_map ..)
  intro d hd
  have hsame := Dict.mapValues_eq_self_iff.mp (hboth.symm.trans h) d hd
  have hbare := Data.isBare_of_unpacked (Or.inr hsame)
  exact ⟨hbare, by rwa [Data.unpacked_of_isBare hbare] at hsame⟩

/-! ## Proper records -/

def Ordinal.IsInteger (o : Ordinal) : Prop := ∃ n, o = .int n

/-- The bound, if there is one, is a number or a text. -/
def Rule.Proper (r : Rule) : Prop := ∀ value, r.value ≠ some (.other value)

structure Field.Proper (f : Field) : Prop where
  dataType : f.dataType.Faithful
  defaultValue : ∀ v ∈ f.defaultValue, v.HasKeys
  rules : ∀ r ∈ f.rules, r.Proper
  order : f.hints.order.IsInteger
  metadata : f.metadata.Proper

structure Port.Proper (p : Port) : Prop where
  dataType : p.dataType.Faithful
  defaultValue : ∀ v ∈ p.defaultValue, v.HasKeys
  order : p.order.IsInteger

/-- Nothing in a node is nested too deeply, and everything is of a form that can be read. -/
structure Node.Proper (n : Node) : Prop where
  unpacks : n.unpacks = true
  fields : ∀ f ∈ n.fields, f.Proper
  inputs : ∀ p ∈ n.ports.inputs, p.Proper
  outputs : ∀ p ∈ n.ports.outputs, p.Proper
  config : ∀ v ∈ n.config.values, v.HasKeys
  metadata : n.metadata.Proper
  zIndex : n.zIndex.IsInteger

structure Edge.Proper (e : Edge) : Prop where
  unpacks : e.metadata.unpacks = true
  metadata : e.metadata.Proper
  zIndex : e.zIndex.IsInteger

/-! ## What is proper is read as it is -/

namespace Record

variable [Record α] {room : Nat}

theorem returns_list {items : List α}
    (h : ∀ a ∈ items, ∀ path, (Record.read path (toData a)).Returns room a) (path : List String) :
    (Record.read path (toData items)).Returns room items := by
  have hitems : ∀ index, (readItems path index (items.map toData)).Returns room items := by
    induction items with
    | nil => exact fun _ => returns_pure room []
    | cons a rest ih =>
      obtain ⟨ha, hrest⟩ := List.forall_mem_cons.mp h
      exact fun index => (ha _).bind ((ih hrest (index + 1)).bind (returns_pure room _))
  exact hitems 0

end Record

theorem DataType.returns_entry {t : DataType} {depth : Nat} (h : t.Faithful)
    (hshallow : t.unpacks depth = true) (path : List String) :
    (Record.read path (Record.toData t)).Returns (depthLimit - depth) t := by
  have hroom := of_decide_eq_true hshallow
  exact ((returns_read h path).deeper path).mono (by omega)

theorem Setting.returns_entry {v : Setting} {depth : Nat} (h : v.HasKeys)
    (hshallow : v.unpacks depth = true) (path : List String) :
    (Record.read path (Record.toData v)).Returns (depthLimit - depth) v := by
  have hroom : 2 * (depth + 1) + v.nesting ≤ 2 * depthLimit := of_decide_eq_true hshallow
  have hnesting : v.nesting ≤ 2 * (depthLimit - depth - 1) := by omega
  have hdepth : depthLimit - depth - 1 + 1 ≤ depthLimit - depth := by omega
  exact ((returns_read h path hnesting).deeper path).mono hdepth

theorem Setting.returns_nullable {o : Option Setting} {depth : Nat} (h : ∀ v ∈ o, v.HasKeys)
    (hshallow : o.all (Setting.unpacks depth) = true) (path : List String) :
    (Record.read path (Record.toData o)).Returns (depthLimit - depth) o := by
  cases o with
  | none => exact returns_pure _ none
  | some v =>
    have hread := Record.read_some (α := Setting) path (Record.toData_ne_null v)
    exact hread ▸ (returns_entry (h v rfl) hshallow path).map some

theorem Ordinal.read_of_isInteger {o : Ordinal} (h : o.IsInteger) (path : List String) :
    Record.read path (Record.toData o) = pure o := by
  obtain ⟨n, rfl⟩ := h
  rfl

theorem Rule.read_of_proper {r : Rule} (h : r.Proper) (path : List String) :
    Record.read path (toData r) = pure r := by
  rw [Rule.read_eq]
  obtain ⟨kind, value, name, message⟩ := r
  cases value with
  | none => rfl
  | some b =>
    cases b with
    | other value => exact absurd rfl (h value)
    | _ => rfl

theorem Field.returns_read {f : Field} (h : f.Proper) (hshallow : f.unpacks = true)
    (path : List String) : (Record.read path (toData f)).Returns depthLimit f := by
  simp only [Field.unpacks, Bool.and_eq_true] at hshallow
  obtain ⟨⟨htype, hdefault⟩, -⟩ := hshallow
  have hrules : Record.read ("validations" :: path) (toData f.rules) = pure f.rules :=
    (readItems_eq (g := fun r => r) (fun r hr => Rule.read_of_proper (h.rules r hr)) _ 0).trans
      (by rw [List.map_id'])
  have hhints : Record.read ("ui_hints" :: path) (toData f.hints) = pure f.hints := by
    rw [Hints.read_eq, Ordinal.read_of_isInteger h.order, pure_bind]
  rw [Field.read_eq, hrules, hhints, Dict.settle_of_proper h.metadata]
  exact (DataType.returns_entry h.dataType htype _).bind <|
    (Setting.returns_nullable h.defaultValue hdefault _).bind <| returns_pure _ f

theorem Port.returns_read {p : Port} (h : p.Proper) (hshallow : p.unpacks = true)
    (path : List String) : (Record.read path (toData p)).Returns (depthLimit - 1) p := by
  simp only [Port.unpacks, Bool.and_eq_true] at hshallow
  rw [Port.read_eq, Ordinal.read_of_isInteger h.order]
  exact (DataType.returns_entry h.dataType hshallow.1 _).bind <|
    (Setting.returns_nullable h.defaultValue hshallow.2 _).bind <| returns_pure _ p

theorem Ports.returns_read {n : Node} (h : n.Proper) (path : List String) :
    (Record.read path (toData n.ports)).Returns depthLimit n.ports := by
  have hunpacks := h.unpacks
  simp only [Node.unpacks, Bool.and_eq_true, List.all_eq_true] at hunpacks
  obtain ⟨⟨⟨⟨-, hinputs⟩, houtputs⟩, -⟩, -⟩ := hunpacks
  have hside : ∀ ps : List Port, (∀ p ∈ ps, p.Proper) → (∀ p ∈ ps, p.unpacks = true) → ∀ path,
      (below (Record.read path (toData ps))).Returns depthLimit ps := fun ps hps hshallow path =>
    (returns_list (fun p hp => Port.returns_read (hps p hp) (hshallow p hp)) path).below
  rw [Ports.read_eq]
  exact (hside _ h.inputs hinputs _).bind <| (hside _ h.outputs houtputs _).bind <|
    returns_pure _ n.ports

theorem Node.renewed_eq {n : Node} (h : n.unpacks = true) : n.renewed =
    (Record.read [] ((toData n.unpacked).without ["id", "created_at", "modified_at"])).result := by
  simp [renewed, h]

theorem Edge.renewed_of_result {e e' : Edge} {m : Mint} (hunpacks : e.metadata.unpacks = true)
    (h : (Record.read [] ((toData e.unpacked).without ["id"])).result m = (.ok e', m)) :
    e.renewed m =
      (.ok { e' with id := m.spell .edge (m.edges + 1) }, { m with edges := m.edges + 1 }) := by
  rw [renewed, hunpacks]
  exact run_bind_of_ok h

theorem DataType.gives_entry (path : List String) (t : DataType) :
    (Record.read path (Record.toData t)).Gives Faithful :=
  gives_deeper path (gives_read path t) faithful_default

theorem Setting.gives_entry (path : List String) (v : Setting) :
    (Record.read path (Record.toData v)).Gives HasKeys :=
  gives_deeper path (gives_read path v) .null

theorem Setting.gives_nullable (path : List String) (o : Option Setting) :
    (Record.read path (Record.toData o)).Gives fun o' : Option Setting => ∀ v ∈ o', v.HasKeys := by
  cases o with
  | none => exact gives_pure nofun
  | some v =>
    have hread := Record.read_some (α := Setting) path (Record.toData_ne_null v)
    refine hread ▸ gives_map some (gives_entry path v) fun u hu w hw => ?_
    rwa [← Option.some.inj hw]

theorem Setting.gives_config (path : List String) (d : Dict Setting) :
    (Record.read path (Record.toData d)).Gives fun d' : Dict Setting => ∀ v ∈ d'.values, v.HasKeys := by
  have hentries : ∀ (entries : List (String × Setting)) (done : Dict Setting),
      (∀ k v, done.get? k = some v → v.HasKeys) →
      (Record.readEntries path done (entries.map fun e => (e.1, Record.toData e.2))).Gives
        fun d' => ∀ v ∈ d'.values, v.HasKeys := by
    intro entries
    induction entries with
    | nil =>
      intro done hdone
      refine gives_pure fun v hv => ?_
      obtain ⟨k, hk⟩ := Dict.mem_values_iff.mp hv
      exact hdone k v hk
    | cons e rest ih =>
      intro done hdone
      refine gives_bind (gives_entry _ e.2) fun u hu => ih _ fun k v hv => ?_
      rcases Dict.get?_insert_cases hv with ⟨-, rfl⟩ | ⟨-, hv⟩
      · exact hu
      · exact hdone k v hv
  exact hentries d.entries .empty fun k v hv => nomatch hv

theorem Data.ne_member (d : Data) (enumeration label : String) : d ≠ .member enumeration label d := by
  intro h
  have hsize := congrArg sizeOf h
  rw [Data.member.sizeOf_spec] at hsize
  omega

theorem Ordinal.gives_read (path : List String) (o : Ordinal) :
    (Record.read path (Record.toData o)).Gives fun o' => o' = o → o.IsInteger := by
  cases o with
  | int n => exact gives_mono (gives_trivial _) fun _ _ _ => ⟨n, rfl⟩
  | other d =>
    cases d with
    | member _ _ value =>
      refine gives_pure fun h => ?_
      cases value with
      | int n => cases h
      | _ => exact absurd (Ordinal.other.inj h) (Data.ne_member _ _ _)
    | _ =>
      refine gives_map Ordinal.int (gives_trivial _) fun n _ h => ?_
      cases h

theorem Bound.gives_read (path : List String) (b : Option Bound) :
    (Bound.read path (Record.toData b)).Gives fun b' =>
      b' = b → ∀ value, b ≠ some (.other value) := by
  cases b with
  | none => exact gives_mono (gives_trivial _) fun _ _ _ _ h => by cases h
  | some c =>
    cases c with
    | other d =>
      cases d with
      | member _ _ value =>
        refine gives_pure fun h => ?_
        cases value with
        | null | int _ | float _ | text _ => cases h
        | _ => exact absurd (Bound.other.inj (Option.some.inj h)) (Data.ne_member _ _ _)
      | null | int _ | bool _ | float _ | text _ => exact gives_pure fun h => by cases h
      | _ => exact gives_complain _ _ fun h => by cases h
    | _ => exact gives_mono (gives_trivial _) fun _ _ _ _ h => by cases h

namespace Record

theorem gives_items [Record α] {T : α → α → Prop} {u : α → α}
    (h : ∀ path a, (Record.read path (toData (u a))).Gives (T a)) (path : List String)
    (items : List α) :
    (Record.read path (toData (items.map u))).Gives fun others => List.Forall₂ T items others := by
  have hitems : ∀ index, (readItems path index ((items.map u).map toData)).Gives
      fun others => List.Forall₂ T items others := by
    induction items with
    | nil => exact fun _ => gives_pure .nil
    | cons a rest ih =>
      intro index
      refine gives_bind (h _ a) fun b hb => gives_bind (ih (index + 1)) fun bs hbs => ?_
      exact gives_pure (.cons hb hbs)
  exact hitems 0

theorem forall_of_forall₂ {γ : Type} {k : α → γ} {T : α → Prop} {items others : List α}
    (h : List.Forall₂ (fun a b => k b = k a → T a) items others)
    (hkeys : others.map k = items.map k) : ∀ a ∈ items, T a := by
  induction h with
  | nil => exact List.forall_mem_nil _
  | cons hab _ ih =>
    obtain ⟨hfirst, hrest⟩ := List.cons.inj hkeys
    exact List.forall_mem_cons.mpr ⟨hab hfirst, ih hrest⟩

end Record

theorem Rule.gives_read (path : List String) (r : Rule) :
    (Record.read path (toData r)).Gives fun r' => r' = r → r.Proper := by
  rw [Rule.read_eq]
  exact gives_bind (Bound.gives_read _ r.value) fun _ hvalue =>
    gives_pure fun h => hvalue (congrArg Rule.value h)

def Field.unnamed (f : Field) : Field := { f with id := "" }

theorem Field.gives_read (path : List String) (f : Field) :
    (Record.read path (toData f.unpacked)).Gives fun g : Field => g.unnamed = f.unnamed → f.Proper := by
  rw [Field.read_eq]
  refine gives_bind (DataType.gives_entry _ f.dataType) fun t ht => ?_
  refine gives_bind (Setting.gives_nullable _ f.defaultValue) fun v hv => ?_
  have hrules := gives_items (u := fun r => r) Rule.gives_read ("validations" :: path) f.rules
  rw [List.map_id'] at hrules
  refine gives_bind hrules fun rules hrules => ?_
  have hhints : (Record.read ("ui_hints" :: path) (toData f.hints)).Gives fun hints : Hints =>
      hints.order = f.hints.order → f.hints.order.IsInteger := by
    rw [Hints.read_eq]
    exact gives_bind (Ordinal.gives_read _ _) fun _ horder => gives_pure horder
  refine gives_bind hhints fun hints hhints => gives_pure fun h => ?_
  have htype : t = f.dataType := congrArg Field.dataType h
  have hdefault : v = f.defaultValue := congrArg Field.defaultValue h
  have hsame : rules = f.rules := congrArg Field.rules h
  exact ⟨htype ▸ ht, hdefault ▸ hv, forall_of_forall₂ (k := fun r => r) hrules (by rw [hsame]),
    hhints (congrArg (·.hints.order) h), Dict.proper_of_settle (congrArg Field.metadata h)⟩

theorem Port.gives_read (path : List String) (p : Port) :
    (Record.read path (toData p)).Gives fun q => q.id = p.id ∧ (q = p → p.Proper) := by
  rw [Port.read_eq]
  refine gives_bind (DataType.gives_entry _ p.dataType) fun t ht => ?_
  refine gives_bind (Setting.gives_nullable _ p.defaultValue) fun v hv => ?_
  refine gives_bind (Ordinal.gives_read _ p.order) fun order horder => ?_
  refine gives_pure ⟨rfl, fun h => ?_⟩
  have htype : t = p.dataType := congrArg Port.dataType h
  have hdefault : v = p.defaultValue := congrArg Port.defaultValue h
  exact ⟨htype ▸ ht, hdefault ▸ hv, horder (congrArg Port.order h)⟩

/-- The ids of two nodes' ports agree, side by side. -/
def Ports.SameIds (ps qs : Ports) : Prop :=
  ps.inputs.map (·.id) = qs.inputs.map (·.id) ∧ ps.outputs.map (·.id) = qs.outputs.map (·.id)

theorem Ports.gives_read (path : List String) (ps : Ports) :
    (Record.read path (toData ps)).Gives fun qs => qs.SameIds ps ∧
      (qs = ps → (∀ p ∈ ps.inputs, p.Proper) ∧ ∀ p ∈ ps.outputs, p.Proper) := by
  have hside : ∀ (ports : List Port) (path : List String),
      (below (Record.read path (toData ports))).Gives fun others =>
        others.map (·.id) = ports.map (·.id) ∧ (others = ports → ∀ p ∈ ports, p.Proper) := by
    intro ports path
    have hports := gives_items (u := fun p => p) Port.gives_read path ports
    rw [List.map_id'] at hports
    refine gives_below (gives_mono hports fun others h => ⟨?_, fun hsame => ?_⟩)
    · clear hports
      induction h with
      | nil => rfl
      | cons hab _ ih => rw [List.map_cons, List.map_cons, hab.1, ih]
    · exact forall_of_forall₂ (k := fun p => p) (h.imp fun _ _ hab => hab.2) (by rw [hsame])
  rw [Ports.read_eq]
  refine gives_bind (hside ps.inputs _) fun inputs hin => ?_
  refine gives_bind (hside ps.outputs _) fun outputs hout => ?_
  refine gives_pure ⟨⟨hin.1, hout.1⟩, fun h => ?_⟩
  exact ⟨hin.2 (congrArg Ports.inputs h), hout.2 (congrArg Ports.outputs h)⟩

/-- What a node may be read as. -/
structure Node.Rereads (n n' : Node) : Prop where
  ports : n'.ports.SameIds n.ports
  proper : n.unpacks = true → n'.fields.map Field.unnamed = n.fields.map Field.unnamed →
    n'.ports = n.ports → n'.config = n.config → n'.metadata = n.metadata → n'.zIndex = n.zIndex →
      n.Proper

theorem Node.gives_read (n : Node) :
    (Record.read [] ((toData n.unpacked).without ["id", "created_at", "modified_at"])).Gives
      n.Rereads := by
  rw [Node.read_eq]
  refine gives_bind (gives_trivial _) fun id _ => ?_
  refine gives_bind (gives_items Field.gives_read ["fields"] n.fields) fun fields hfields => ?_
  refine gives_bind (Ports.gives_read _ n.ports) fun ports hports => ?_
  refine gives_bind (Setting.gives_config _ n.config) fun config hconfig => ?_
  refine gives_bind (Ordinal.gives_read _ n.zIndex) fun zIndex hz => ?_
  refine gives_bind (gives_trivial _) fun created _ => gives_bind (gives_trivial _) fun modified _ => ?_
  refine gives_pure ⟨hports.1, fun hunpacks hf hp hc hm h => ?_⟩
  have hsame : config = n.config := hc
  exact ⟨hunpacks, forall_of_forall₂ hfields hf, (hports.2 hp).1, (hports.2 hp).2, hsame ▸ hconfig,
    Dict.proper_of_settle hm, hz h⟩

/-! ## Copies -/

/-- The fields of a copy take fresh ids and nothing else from the mint. -/
theorem run_mapM_draw (fields : List Field) (m : Mint) :
    ∃ copies, copies.map Field.unnamed = fields.map Field.unnamed ∧ (fields.mapM fun f => do
      let id ← modifyGet fun m : Mint => m.draw .field
      return { f with id } : ExceptT Failure (StateM Mint) (List Field)) m =
        (.ok copies, { m with fields := m.fields + fields.length }) := by
  induction fields generalizing m with
  | nil => exact ⟨[], rfl, rfl⟩
  | cons f rest ih =>
    obtain ⟨copies, hsame, hcopies⟩ := ih { m with fields := m.fields + 1 }
    have hfirst : (do
        let id ← modifyGet fun m : Mint => m.draw .field
        return { f with id } : ExceptT Failure (StateM Mint) Field) m =
          (.ok { f with id := m.spell .field (m.fields + 1) },
            { m with fields := m.fields + 1 }) := rfl
    refine ⟨{ f with id := m.spell .field (m.fields + 1) } :: copies, ?_, ?_⟩
    · rw [List.map_cons, List.map_cons, hsame]
      rfl
    rw [List.mapM_cons, run_bind_of_ok hfirst, run_bind_of_ok hcopies, run_pure]
    simp only [List.length_cons, Nat.add_assoc, Nat.add_comm 1]

/-- The mint after a copy of a node with some fields. -/
def Mint.spend (m : Mint) (fields : Nat) : Mint :=
  { m with nodes := m.nodes + 1, fields := m.fields + fields }

/-- A node equals its model, but for its id, the ids of its fields and its times, and for what sets a
copy apart: its name, its position and that it is in no group. -/
structure Node.IsCopy (n twin : Node) : Prop where
  fields : twin.fields.map Field.unnamed = n.fields.map Field.unnamed
  rest : twin = { n with
    id := twin.id, fields := twin.fields, name := n.name ++ " (copy)"
    position := n.position.offset (.ofRatio false 20 1) (.ofRatio false 20 1), groupId := none
    createdAt := twin.createdAt, modifiedAt := twin.modifiedAt }

/-- What was read anew is copied. -/
theorem Node.duplicate_of_renewed {n n' : Node} {m : Mint} (h : n.renewed m = (.ok n', m)) :
    ∃ fields, fields.map Field.unnamed = n'.fields.map Field.unnamed ∧
      n.duplicate m = (.ok { n' with
        id := m.spell .node (m.nodes + 1), fields, name := n.name ++ " (copy)"
        position := n.position.offset copyOffset copyOffset, groupId := none
        createdAt := m.now, modifiedAt := m.now }, m.spend n'.fields.length) := by
  obtain ⟨fields, hsame, hfields⟩ := run_mapM_draw n'.fields { m with nodes := m.nodes + 1 }
  refine ⟨fields, hsame, ?_⟩
  unfold duplicate
  rw [run_bind_of_ok h, run_bind_of_ok (run_modifyGet _ m), run_bind_of_ok (run_get _)]
  exact run_bind_of_ok hfields

theorem Node.renewed_cases (n : Node) (m : Mint) :
    (∃ why : Failure, why.IsRefusal ∧ n.renewed m = (.error why, m)) ∨
      ∃ n', n.unpacks = true ∧ n.Rereads n' ∧ n.renewed m = (.ok n', m) := by
  by_cases hunpacks : n.unpacks = true
  · rw [renewed_eq hunpacks]
    rcases result_cases n.gives_read m with ⟨refusal, hr⟩ | ⟨n', hn', hr⟩
    · exact Or.inl ⟨_, Or.inr ⟨refusal, rfl⟩, hr⟩
    · exact Or.inr ⟨n', hunpacks, hn', hr⟩
  · refine Or.inl ⟨.overnested, Or.inl rfl, ?_⟩
    rw [renewed, Bool.eq_false_iff.mpr hunpacks]
    rfl

/-- A copy of a node is refused, or it has a fresh id, the port ids of its model and no group. -/
theorem Node.duplicate_cases (n : Node) (m : Mint) :
    (∃ why : Failure, why.IsRefusal ∧ n.duplicate m = (.error why, m)) ∨
      ∃ twin drawn, n.duplicate m = (.ok twin, m.spend drawn) ∧
        twin.id = m.spell .node (m.nodes + 1) ∧ twin.groupId = none ∧
        twin.ports.SameIds n.ports := by
  rcases n.renewed_cases m with ⟨why, hwhy, hr⟩ | ⟨n', -, hn', hr⟩
  · exact Or.inl ⟨why, hwhy, run_bind_of_error hr⟩
  · obtain ⟨fields, -, hrun⟩ := duplicate_of_renewed hr
    exact Or.inr ⟨_, _, hrun, rfl, rfl, hn'.ports⟩

/-- An edge equals its model, but for its id and its ends. -/
def Edge.IsCopy (e twin : Edge) : Prop :=
  twin = { e with id := twin.id, fromNode := twin.fromNode, toNode := twin.toNode }

/-- What an edge may be read as. -/
structure Edge.Rereads (e e' : Edge) : Prop where
  rest : e' = { e with id := e'.id, metadata := e'.metadata, zIndex := e'.zIndex }
  proper : e.metadata.unpacks = true → e'.metadata = e.metadata → e'.zIndex = e.zIndex → e.Proper

theorem Edge.gives_read (e : Edge) :
    (Record.read [] ((toData e.unpacked).without ["id"])).Gives e.Rereads := by
  rw [Edge.read_eq]
  refine gives_bind (gives_trivial _) fun id _ => ?_
  refine gives_bind (Ordinal.gives_read _ e.zIndex) fun zIndex hz => ?_
  exact gives_pure ⟨rfl, fun hunpacks hm h => ⟨hunpacks, Dict.proper_of_settle hm, hz h⟩⟩

theorem Edge.renewed_cases (e : Edge) (m : Mint) :
    (∃ why : Failure, why.IsRefusal ∧ e.renewed m = (.error why, m)) ∨
      ∃ e', e.metadata.unpacks = true ∧ e.Rereads e' ∧ e.renewed m =
        (.ok { e' with id := m.spell .edge (m.edges + 1) }, { m with edges := m.edges + 1 }) := by
  by_cases hunpacks : e.metadata.unpacks = true
  · rcases result_cases e.gives_read m with ⟨refusal, hr⟩ | ⟨e', he', hr⟩
    · refine Or.inl ⟨_, Or.inr ⟨refusal, rfl⟩, ?_⟩
      rw [renewed, hunpacks]
      exact run_bind_of_error hr
    · exact Or.inr ⟨e', hunpacks, he', renewed_of_result hunpacks hr⟩
  · refine Or.inl ⟨.overnested, Or.inl rfl, ?_⟩
    rw [renewed, Bool.eq_false_iff.mpr hunpacks]
    rfl

/-- A copy of an edge is refused, or it has a fresh id and the given ends. -/
theorem Edge.duplicate_cases (e : Edge) (source target : String) (m : Mint) :
    (∃ why : Failure, why.IsRefusal ∧
      e.duplicate (some source) (some target) m = (.error why, m)) ∨
      ∃ twin, e.duplicate (some source) (some target) m =
          (.ok twin, { m with edges := m.edges + 1 }) ∧
        twin = { e with
          id := m.spell .edge (m.edges + 1), fromNode := source, toNode := target,
          metadata := twin.metadata, zIndex := twin.zIndex } := by
  unfold duplicate
  rcases renewed_cases { e with fromNode := source, toNode := target } m with
    hrefused | ⟨e', -, he', hr⟩
  · exact Or.inl hrefused
  · refine Or.inr ⟨_, hr, ?_⟩
    obtain ⟨id, metadata, z, rfl⟩ : ∃ id metadata z, e' = { e with
      id, fromNode := source, toNode := target, metadata, zIndex := z } := ⟨_, _, _, he'.rest⟩
    rfl

end Wirework
