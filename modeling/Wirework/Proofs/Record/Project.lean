import Wirework.Proofs.Record.DataType
import Wirework.Proofs.Record.Setting
import Wirework.Record.Graph

/-!
# Projects read back

What becomes of a project, and of everything in it, when it is printed and read again. Numbers have
to have digits, ordinals have to be integers, the offset of a time has to be shorter than a day. All
that is not mentioned in the conditions of a record comes back as it was.
-/

namespace Wirework

variable {α β : Type}

/-! ## Entries that always come back -/

/-- Every value of the type comes back as it was. -/
class Plain (α : Type) [Record α] [Restorable α] : Prop where
  faithful (a : α) : Restorable.Faithful a

instance : Plain String := ⟨fun _ => trivial⟩

instance : Plain Bool := ⟨fun _ => trivial⟩

instance (priority := low) [Labelled α] [Inhabited α] [Labelled.Lawful α] : Plain α :=
  ⟨fun _ => trivial⟩

section Containers

variable [Record α] [Restorable α] [Plain α]

instance [NeverNull α] : Plain (Option α) := ⟨fun _ a _ => Plain.faithful a⟩

instance : Plain (List α) := ⟨fun _ a _ => Plain.faithful a⟩

instance : Plain (Dict α) := ⟨fun _ a _ => Plain.faithful a⟩

end Containers

namespace Restorable

@[simp] theorem restored_plain [Record α] [Restorable α] [Plain α] (a : α) :
    restored a = some a :=
  restored_of_faithful (Plain.faithful a)

@[simp] theorem writable_plain [Record α] [Restorable α] [Plain α] (a : α) :
    (Record.toData a).Writable :=
  writable (Plain.faithful a)

@[simp] theorem reopens_metadata (d : Dict Data) : Reopens d := fun _ _ => trivial

@[simp] theorem any_const (o : Option α) (c : Bool) : (o.any fun _ => c) = (o.isSome && c) := by
  cases o <;> rfl

end Restorable

open Restorable

/-- An entry that always comes back, with the rest of the record. -/
theorem Reading.Yields.keep [Record α] [Restorable α] [Plain α] {r : Reading α}
    {f : α → Reading β} {a : α} {o : Option β} (hr : r.Yields (restored a))
    (hf : (f a).Yields o) : (r >>= f).Yields o := by
  rw [restored_plain] at hr
  exact hr.then hf

/-! ## Fields -/

instance : Labelled.Lawful RuleKind := ⟨fun k => by cases k <;> decide⟩

instance : Labelled.Lawful ForeignKeyAction := ⟨fun k => by cases k <;> decide⟩

instance : Labelled.Lawful ConstraintKind := ⟨fun k => by cases k <;> decide⟩

theorem Data.isFinite_of_printed {d : Data} {x : Double} (h : d.printed = .float x) :
    x.isFinite = true := by
  cases d with
  | float y =>
    rw [Data.printed] at h
    split at h
    · rename_i hy
      rwa [Data.float.inj h] at hy
    · cases h
  | member _ _ inner => exact Data.isFinite_of_printed (d := inner) h
  | _ => cases h

namespace Bound

/-- The bound that comes back from a document, where a null is none. -/
def ofPrinted? : Data → Option (Option Bound)
  | .null => some none
  | .int n => some (some (.int n))
  | .bool b => some (some (.int b.toNat))
  | .float x => some (some (.float x))
  | .text s => some (some (.text s))
  | _ => none

def IsPlain : Bound → Prop
  | .int _ => True
  | .float x => x.isFinite = true
  | .text _ => True
  | .other _ => False

theorem read_yields (path : List String) {d : Data}
    (hd : ∀ type label value, d ≠ .member type label value) :
    (Bound.read path d).Yields (ofPrinted? d) := by
  cases d with
  | member type label value => exact absurd rfl (hd type label value)
  | null | bool _ | int _ | float _ | text _ => exact Reading.yields_pure _
  | _ => exact Reading.yields_complain path _

theorem isPlain_of_ofPrinted? {d : Data} {b : Bound} (h : ofPrinted? d.printed = some (some b)) :
    b.IsPlain := by
  cases hd : d.printed with
  | float x =>
    rw [hd] at h
    cases h
    exact Data.isFinite_of_printed hd
  | _ =>
    rw [hd] at h
    cases h <;> trivial

instance : Restorable (Option Bound) where
  restored b := ofPrinted? (Record.toData b).printed
  Reopens b := (ofPrinted? (Record.toData b).printed).isSome = true
  Faithful b := ∀ c ∈ b, c.IsPlain
  yields path b := read_yields path (Data.printed_ne_member _)
  isSome_restored _ := Iff.rfl
  restored_of_faithful {b} h := by
    cases b with
    | none => rfl
    | some c =>
      have hc := h c rfl
      cases c with
      | float x =>
        change ofPrinted? (if x.isFinite then .float x else .null) = _
        rw [if_pos (show x.isFinite = true from hc)]
        rfl
      | other _ => exact hc.elim
      | _ => rfl
  faithful_of_restored {b b'} h := by
    rintro c rfl
    exact isPlain_of_ofPrinted? h
  writable {b} h := by
    cases b with
    | none => exact fun _ _ => rfl
    | some c =>
      have hc := h c rfl
      cases c with
      | other _ => exact hc.elim
      | _ => exact fun _ _ => rfl

end Bound

instance : Restorable Rule where
  restored r := do return { r with value := ← restored r.value }
  Reopens r := Reopens r.value
  Faithful r := Faithful r.value
  yields path r := by
    refine readRecord_yields path (by simp) ?_
    rintro s - ⟨hkind, hvalue, hname, hmessage⟩
    exact (field_yields hkind).keep <| (fieldOr_yields hvalue).bind fun _ =>
      (fieldOr_yields hname).keep <| (fieldOr_yields hmessage).keep <| Reading.yields_pure _
  isSome_restored r := by simp [Option.isSome_bind, isSome_restored]
  restored_of_faithful h := by simp [restored_of_faithful h]
  faithful_of_restored h := by
    simp only [bind, pure, Option.bind_eq_some_iff, Option.some.injEq] at h
    obtain ⟨value, hvalue, rfl⟩ := h
    exact faithful_of_restored hvalue
  writable h := Data.writable_object <| by simp [writable h]

instance : Restorable Hints where
  restored h := do return { h with order := ← restored h.order }
  Reopens h := Reopens h.order
  Faithful h := Faithful h.order
  yields path h := by
    refine readRecord_yields path (by simp) ?_
    rintro s - ⟨hlabel, hplaceholder, hhelp, hsecret, hshow, hwidget, horder⟩
    exact (fieldOr_yields hlabel).keep <| (fieldOr_yields hplaceholder).keep <|
      (fieldOr_yields hhelp).keep <| (fieldOr_yields hsecret).keep <|
      (fieldOr_yields hshow).keep <| (fieldOr_yields hwidget).keep <|
      (fieldOr_yields horder).bind fun _ => Reading.yields_pure _
  isSome_restored h := by simp [Option.isSome_bind, isSome_restored]
  restored_of_faithful hf := by simp [restored_of_faithful hf]
  faithful_of_restored h := by
    simp only [bind, pure, Option.bind_eq_some_iff, Option.some.injEq] at h
    obtain ⟨order, horder, rfl⟩ := h
    exact faithful_of_restored horder
  writable hf := Data.writable_object <| by simp [writable hf]

instance : Restorable Constraint where
  restored := some
  Reopens _ := True
  Faithful _ := True
  yields path c := by
    refine readRecord_yields path (by simp) ?_
    rintro s - ⟨hkind, hentity, hfield, hdelete, hupdate, hexpression⟩
    exact (field_yields hkind).keep <| (fieldOr_yields hentity).keep <|
      (fieldOr_yields hfield).keep <| (fieldOr_yields hdelete).keep <|
      (fieldOr_yields hupdate).keep <| (fieldOr_yields hexpression).keep <|
      Reading.yields_pure _
  isSome_restored _ := by simp
  restored_of_faithful _ := rfl
  faithful_of_restored _ := trivial
  writable _ := Data.writable_object <| by simp

instance : Plain Constraint := ⟨fun _ => trivial⟩

noncomputable instance : Restorable Field where
  restored f := do
    return { f with
      dataType := ← restored f.dataType
      defaultValue := ← restored f.defaultValue
      rules := ← restored f.rules
      hints := ← restored f.hints
      metadata := ← restored f.metadata }
  Reopens f := Reopens f.dataType ∧ Reopens f.defaultValue ∧ Reopens f.rules ∧ Reopens f.hints
  Faithful f := Faithful f.dataType ∧ Faithful f.defaultValue ∧ Faithful f.rules ∧
    Faithful f.hints ∧ Faithful f.metadata
  yields path f := by
    refine readRecord_yields path (by simp) ?_
    rintro s - ⟨hid, hname, hlabel, htype, hrequired, hdefault, hrules, hhints, hconstraints,
      hdescription, hreadOnly, hdeprecated, hmessage, hmetadata⟩
    exact (fieldElse_yields hid).keep <| (field_yields hname).keep <|
      (fieldOr_yields hlabel).keep <| (fieldOr_yields htype).bind fun _ =>
      (fieldOr_yields hrequired).keep <| (fieldOr_yields hdefault).bind fun _ =>
      (fieldOr_yields hrules).bind fun _ => (fieldOr_yields hhints).bind fun _ =>
      (fieldOr_yields hconstraints).keep <| (fieldOr_yields hdescription).keep <|
      (fieldOr_yields hreadOnly).keep <| (fieldOr_yields hdeprecated).keep <|
      (fieldOr_yields hmessage).keep <| (fieldOr_yields hmetadata).bind fun _ =>
      Reading.yields_pure _
  isSome_restored f := by simp [Option.isSome_bind, isSome_restored]
  restored_of_faithful h := by
    obtain ⟨htype, hdefault, hrules, hhints, hmetadata⟩ := h
    simp [restored_of_faithful htype, restored_of_faithful hdefault, restored_of_faithful hrules,
      restored_of_faithful hhints, restored_of_faithful hmetadata]
  faithful_of_restored h := by
    simp only [bind, pure, Option.bind_eq_some_iff, Option.some.injEq] at h
    obtain ⟨t, htype, v, hdefault, rules, hrules, hints, hhints, metadata, hmetadata, rfl⟩ := h
    exact ⟨faithful_of_restored htype, faithful_of_restored hdefault, faithful_of_restored hrules,
      faithful_of_restored hhints, faithful_of_restored hmetadata⟩
  writable h := by
    obtain ⟨htype, hdefault, hrules, hhints, hmetadata⟩ := h
    exact Data.writable_object <| by
      simp [writable htype, writable hdefault, writable hrules, writable hhints,
        writable hmetadata]

/-! ## Nodes -/

instance : Labelled.Lawful Direction := ⟨fun k => by cases k <;> decide⟩

instance : Labelled.Lawful PortKind := ⟨fun k => by cases k <;> decide⟩

instance : Labelled.Lawful Category := ⟨fun k => by cases k <;> decide⟩

instance : Restorable Position where
  restored p := do return { x := ← restored p.x, y := ← restored p.y }
  Reopens p := Reopens p.x ∧ Reopens p.y
  Faithful p := Faithful p.x ∧ Faithful p.y
  yields path p := by
    refine readRecord_yields path (by simp) ?_
    rintro s - ⟨hx, hy⟩
    exact (fieldOr_yields hx).bind fun _ => (fieldOr_yields hy).bind fun _ =>
      Reading.yields_pure _
  isSome_restored p := by simp [Option.isSome_bind, isSome_restored]
  restored_of_faithful h := by simp [restored_of_faithful h.1, restored_of_faithful h.2]
  faithful_of_restored h := by
    simp only [bind, pure, Option.bind_eq_some_iff, Option.some.injEq] at h
    obtain ⟨x, hx, y, hy, rfl⟩ := h
    exact ⟨faithful_of_restored hx, faithful_of_restored hy⟩
  writable h := Data.writable_object <| by simp [writable h.1, writable h.2]

instance : Restorable Size where
  restored z := do return { width := ← restored z.width, height := ← restored z.height }
  Reopens z := Reopens z.width ∧ Reopens z.height
  Faithful z := Faithful z.width ∧ Faithful z.height
  yields path z := by
    refine readRecord_yields path (by simp) ?_
    rintro s - ⟨hwidth, hheight⟩
    exact (fieldOr_yields hwidth).bind fun _ => (fieldOr_yields hheight).bind fun _ =>
      Reading.yields_pure _
  isSome_restored z := by simp [Option.isSome_bind, isSome_restored]
  restored_of_faithful h := by simp [restored_of_faithful h.1, restored_of_faithful h.2]
  faithful_of_restored h := by
    simp only [bind, pure, Option.bind_eq_some_iff, Option.some.injEq] at h
    obtain ⟨width, hwidth, height, hheight, rfl⟩ := h
    exact ⟨faithful_of_restored hwidth, faithful_of_restored hheight⟩
  writable h := Data.writable_object <| by simp [writable h.1, writable h.2]

noncomputable instance : Restorable Port where
  restored p := do
    return { p with
      dataType := ← restored p.dataType
      defaultValue := ← restored p.defaultValue
      order := ← restored p.order }
  Reopens p := Reopens p.dataType ∧ Reopens p.defaultValue ∧ Reopens p.order
  Faithful p := Faithful p.dataType ∧ Faithful p.defaultValue ∧ Faithful p.order
  yields path p := by
    refine readRecord_yields path (by simp) ?_
    rintro s - ⟨hid, hname, hdescription, hdirection, hkind, htype, hmultiple, hrequired, hdefault,
      horder⟩
    exact (field_yields hid).keep <| (field_yields hname).keep <|
      (fieldOr_yields hdescription).keep <| (field_yields hdirection).keep <|
      (fieldOr_yields hkind).keep <| (fieldOr_yields htype).bind fun _ =>
      (fieldOr_yields hmultiple).keep <| (fieldOr_yields hrequired).keep <|
      (fieldOr_yields hdefault).bind fun _ => (fieldOr_yields horder).bind fun _ =>
      Reading.yields_pure _
  isSome_restored p := by simp [Option.isSome_bind, isSome_restored]
  restored_of_faithful h := by
    obtain ⟨htype, hdefault, horder⟩ := h
    simp [restored_of_faithful htype, restored_of_faithful hdefault, restored_of_faithful horder]
  faithful_of_restored h := by
    simp only [bind, pure, Option.bind_eq_some_iff, Option.some.injEq] at h
    obtain ⟨t, htype, v, hdefault, order, horder, rfl⟩ := h
    exact ⟨faithful_of_restored htype, faithful_of_restored hdefault, faithful_of_restored horder⟩
  writable h := by
    obtain ⟨htype, hdefault, horder⟩ := h
    exact Data.writable_object <| by simp [writable htype, writable hdefault, writable horder]

noncomputable instance : Restorable Ports where
  restored ps := do return { inputs := ← restored ps.inputs, outputs := ← restored ps.outputs }
  Reopens ps := Reopens ps.inputs ∧ Reopens ps.outputs
  Faithful ps := Faithful ps.inputs ∧ Faithful ps.outputs
  yields path ps := by
    refine readRecord_yields path (by simp) ?_
    rintro s - ⟨hinputs, houtputs⟩
    exact (fieldOr_yields hinputs).below.bind fun _ =>
      (fieldOr_yields houtputs).below.bind fun _ => Reading.yields_pure _
  isSome_restored ps := by simp [Option.isSome_bind, isSome_restored]
  restored_of_faithful h := by simp [restored_of_faithful h.1, restored_of_faithful h.2]
  faithful_of_restored h := by
    simp only [bind, pure, Option.bind_eq_some_iff, Option.some.injEq] at h
    obtain ⟨inputs, hinputs, outputs, houtputs, rfl⟩ := h
    exact ⟨faithful_of_restored hinputs, faithful_of_restored houtputs⟩
  writable h := Data.writable_object <| by simp [writable h.1, writable h.2]

noncomputable instance : Restorable Node where
  restored n := do
    return { n with
      position := ← restored n.position
      size := ← restored n.size
      fields := ← restored n.fields
      ports := ← restored n.ports
      config := ← restored n.config
      metadata := ← restored n.metadata
      zIndex := ← restored n.zIndex
      createdAt := ← restored n.createdAt
      modifiedAt := ← restored n.modifiedAt }
  Reopens n := Reopens n.position ∧ Reopens n.size ∧ Reopens n.fields ∧ Reopens n.ports ∧
    Reopens n.config ∧ Reopens n.zIndex ∧ Reopens n.createdAt ∧ Reopens n.modifiedAt
  Faithful n := Faithful n.position ∧ Faithful n.size ∧ Faithful n.fields ∧ Faithful n.ports ∧
    Faithful n.config ∧ Faithful n.metadata ∧ Faithful n.zIndex ∧ Faithful n.createdAt ∧
    Faithful n.modifiedAt
  yields path n := by
    refine readRecord_yields path (by simp) ?_
    rintro s - ⟨hid, htype, hname, hposition, hsize, hfields, hports, hconfig, hcategory,
      hcollapsed, hlocked, hvisible, hdescription, hicon, hcolor, htags, hmetadata, hindex,
      hgroup, hcreated, hmodified⟩
    exact (fieldElse_yields hid).keep <| (field_yields htype).keep <|
      (field_yields hname).keep <| (fieldOr_yields hposition).bind fun _ =>
      (fieldOr_yields hsize).bind fun _ => (fieldOr_yields hfields).bind fun _ =>
      (fieldOr_yields hports).bind fun _ => (fieldOr_yields hconfig).bind fun _ =>
      (fieldOr_yields hcategory).keep <| (fieldOr_yields hcollapsed).keep <|
      (fieldOr_yields hlocked).keep <| (fieldOr_yields hvisible).keep <|
      (fieldOr_yields hdescription).keep <| (fieldOr_yields hicon).keep <|
      (fieldOr_yields hcolor).keep <| (fieldOr_yields htags).keep <|
      (fieldOr_yields hmetadata).bind fun _ => (fieldOr_yields hindex).bind fun _ =>
      (fieldOr_yields hgroup).keep <| (fieldElse_yields hcreated).bind fun _ =>
      (fieldElse_yields hmodified).bind fun _ => Reading.yields_pure _
  isSome_restored n := by simp [Option.isSome_bind, isSome_restored]
  restored_of_faithful h := by
    obtain ⟨hposition, hsize, hfields, hports, hconfig, hmetadata, hindex, hcreated, hmodified⟩ := h
    simp [restored_of_faithful hposition, restored_of_faithful hsize, restored_of_faithful hfields,
      restored_of_faithful hports, restored_of_faithful hconfig, restored_of_faithful hmetadata,
      restored_of_faithful hindex, restored_of_faithful hcreated, restored_of_faithful hmodified]
  faithful_of_restored h := by
    simp only [bind, pure, Option.bind_eq_some_iff, Option.some.injEq] at h
    obtain ⟨position, hposition, size, hsize, fields, hfields, ports, hports, config, hconfig,
      metadata, hmetadata, index, hindex, created, hcreated, modified, hmodified, rfl⟩ := h
    exact ⟨faithful_of_restored hposition, faithful_of_restored hsize, faithful_of_restored hfields,
      faithful_of_restored hports, faithful_of_restored hconfig, faithful_of_restored hmetadata,
      faithful_of_restored hindex, faithful_of_restored hcreated, faithful_of_restored hmodified⟩
  writable h := by
    obtain ⟨hposition, hsize, hfields, hports, hconfig, hmetadata, hindex, hcreated, hmodified⟩ := h
    exact Data.writable_object <| by
      simp [writable hposition, writable hsize, writable hfields, writable hports,
        writable hconfig, writable hmetadata, writable hindex, writable hcreated,
        writable hmodified]

/-! ## Edges and groups -/

instance : Labelled.Lawful Connection := ⟨fun k => by cases k <;> decide⟩

instance : Labelled.Lawful Relation := ⟨fun k => by cases k <;> decide⟩

instance : Restorable EdgeStyle where
  restored e := do return { e with width := ← restored e.width }
  Reopens e := Reopens e.width
  Faithful e := Faithful e.width
  yields path e := by
    refine readRecord_yields path (by simp) ?_
    rintro s - ⟨hcolor, hwidth, hdashed, hanimated⟩
    exact (fieldOr_yields hcolor).keep <| (fieldOr_yields hwidth).bind fun _ =>
      (fieldOr_yields hdashed).keep <| (fieldOr_yields hanimated).keep <| Reading.yields_pure _
  isSome_restored e := by simp [Option.isSome_bind, isSome_restored]
  restored_of_faithful h := by simp [restored_of_faithful h]
  faithful_of_restored h := by
    simp only [bind, pure, Option.bind_eq_some_iff, Option.some.injEq] at h
    obtain ⟨width, hwidth, rfl⟩ := h
    exact faithful_of_restored hwidth
  writable h := Data.writable_object <| by simp [writable h]

instance : Restorable Edge where
  restored e := do
    return { e with
      style := ← restored e.style
      metadata := ← restored e.metadata
      waypoints := ← restored e.waypoints
      zIndex := ← restored e.zIndex }
  Reopens e := Reopens e.style ∧ Reopens e.waypoints ∧ Reopens e.zIndex
  Faithful e := Faithful e.style ∧ Faithful e.metadata ∧ Faithful e.waypoints ∧ Faithful e.zIndex
  yields path e := by
    refine readRecord_yields path (by simp) ?_
    rintro s - ⟨hid, hfromNode, hfromPort, htoNode, htoPort, hconnection, hrelation, hmapping,
      hlabel, henabled, hstyle, hdescription, hmetadata, hwaypoints, hindex⟩
    exact (fieldElse_yields hid).keep <| (field_yields hfromNode).keep <|
      (field_yields hfromPort).keep <| (field_yields htoNode).keep <|
      (field_yields htoPort).keep <| (fieldOr_yields hconnection).keep <|
      (fieldOr_yields hrelation).keep <| (fieldOr_yields hmapping).keep <|
      (fieldOr_yields hlabel).keep <| (fieldOr_yields henabled).keep <|
      (fieldOr_yields hstyle).bind fun _ => (fieldOr_yields hdescription).keep <|
      (fieldOr_yields hmetadata).bind fun _ => (fieldOr_yields hwaypoints).bind fun _ =>
      (fieldOr_yields hindex).bind fun _ => Reading.yields_pure _
  isSome_restored e := by simp [Option.isSome_bind, isSome_restored]
  restored_of_faithful h := by
    obtain ⟨hstyle, hmetadata, hwaypoints, hindex⟩ := h
    simp [restored_of_faithful hstyle, restored_of_faithful hmetadata,
      restored_of_faithful hwaypoints, restored_of_faithful hindex]
  faithful_of_restored h := by
    simp only [bind, pure, Option.bind_eq_some_iff, Option.some.injEq] at h
    obtain ⟨style, hstyle, metadata, hmetadata, waypoints, hwaypoints, index, hindex, rfl⟩ := h
    exact ⟨faithful_of_restored hstyle, faithful_of_restored hmetadata,
      faithful_of_restored hwaypoints, faithful_of_restored hindex⟩
  writable h := by
    obtain ⟨hstyle, hmetadata, hwaypoints, hindex⟩ := h
    exact Data.writable_object <| by
      simp [writable hstyle, writable hmetadata, writable hwaypoints, writable hindex]

instance : Restorable Group where
  restored x := do
    return { x with
      position := ← restored x.position
      size := ← restored x.size
      metadata := ← restored x.metadata
      zIndex := ← restored x.zIndex
      padding := ← restored x.padding }
  Reopens x := Reopens x.position ∧ Reopens x.size ∧ Reopens x.zIndex ∧ Reopens x.padding
  Faithful x := Faithful x.position ∧ Faithful x.size ∧ Faithful x.metadata ∧ Faithful x.zIndex ∧
    Faithful x.padding
  yields path x := by
    refine readRecord_yields path (by simp) ?_
    rintro s - ⟨hid, hname, hdescription, hposition, hsize, hnodes, hparent, hcollapsed, hlocked,
      hvisible, hcolor, htags, hmetadata, hindex, hpadding⟩
    exact (fieldElse_yields hid).keep <| (field_yields hname).keep <|
      (fieldOr_yields hdescription).keep <| (fieldOr_yields hposition).bind fun _ =>
      (fieldOr_yields hsize).bind fun _ => (fieldOr_yields hnodes).keep <|
      (fieldOr_yields hparent).keep <| (fieldOr_yields hcollapsed).keep <|
      (fieldOr_yields hlocked).keep <| (fieldOr_yields hvisible).keep <|
      (fieldOr_yields hcolor).keep <| (fieldOr_yields htags).keep <|
      (fieldOr_yields hmetadata).bind fun _ => (fieldOr_yields hindex).bind fun _ =>
      (fieldOr_yields hpadding).bind fun _ => Reading.yields_pure _
  isSome_restored x := by simp [Option.isSome_bind, isSome_restored]
  restored_of_faithful h := by
    obtain ⟨hposition, hsize, hmetadata, hindex, hpadding⟩ := h
    simp [restored_of_faithful hposition, restored_of_faithful hsize,
      restored_of_faithful hmetadata, restored_of_faithful hindex, restored_of_faithful hpadding]
  faithful_of_restored h := by
    simp only [bind, pure, Option.bind_eq_some_iff, Option.some.injEq] at h
    obtain ⟨position, hposition, size, hsize, metadata, hmetadata, index, hindex, padding, hpadding,
      rfl⟩ := h
    exact ⟨faithful_of_restored hposition, faithful_of_restored hsize,
      faithful_of_restored hmetadata, faithful_of_restored hindex, faithful_of_restored hpadding⟩
  writable h := by
    obtain ⟨hposition, hsize, hmetadata, hindex, hpadding⟩ := h
    exact Data.writable_object <| by
      simp [writable hposition, writable hsize, writable hmetadata, writable hindex,
        writable hpadding]

/-! ## Projects -/

instance : Restorable Domain where
  restored d := do
    return { d with settings := ← restored d.settings, priority := ← restored d.priority }
  Reopens d := Reopens d.settings ∧ Reopens d.priority
  Faithful d := Faithful d.settings ∧ Faithful d.priority
  yields path d := by
    refine readRecord_yields path (by simp) ?_
    rintro s - ⟨henabled, hsettings, hpriority, hfeatures, htemplates⟩
    exact (fieldOr_yields henabled).keep <| (fieldOr_yields hsettings).bind fun _ =>
      (fieldOr_yields hpriority).bind fun _ => (fieldOr_yields hfeatures).keep <|
      (fieldOr_yields htemplates).keep <| Reading.yields_pure _
  isSome_restored d := by simp [Option.isSome_bind, isSome_restored]
  restored_of_faithful h := by simp [restored_of_faithful h.1, restored_of_faithful h.2]
  faithful_of_restored h := by
    simp only [bind, pure, Option.bind_eq_some_iff, Option.some.injEq] at h
    obtain ⟨settings, hsettings, priority, hpriority, rfl⟩ := h
    exact ⟨faithful_of_restored hsettings, faithful_of_restored hpriority⟩
  writable h := Data.writable_object <| by simp [writable h.1, writable h.2]

instance : Restorable About where
  restored a := do
    return { a with
      domains := ← restored a.domains
      metadata := ← restored a.metadata
      createdAt := ← restored a.createdAt
      modifiedAt := ← restored a.modifiedAt }
  Reopens a := Reopens a.domains ∧ Reopens a.createdAt ∧ Reopens a.modifiedAt
  Faithful a := Faithful a.domains ∧ Faithful a.metadata ∧ Faithful a.createdAt ∧
    Faithful a.modifiedAt
  yields path a := by
    refine readRecord_yields path (by simp) ?_
    rintro s - ⟨hname, hversion, hdescription, hauthors, hlicense, hrepository, hhomepage,
      hdocumentation, hkeywords, hcategories, hdomains, hlanguage, hframework, houtput, htests,
      hdocs, hmetadata, hformat, hcreated, hmodified⟩
    exact (field_yields hname).keep <| (fieldOr_yields hversion).keep <|
      (fieldOr_yields hdescription).keep <| (fieldOr_yields hauthors).keep <|
      (fieldOr_yields hlicense).keep <| (fieldOr_yields hrepository).keep <|
      (fieldOr_yields hhomepage).keep <| (fieldOr_yields hdocumentation).keep <|
      (fieldOr_yields hkeywords).keep <| (fieldOr_yields hcategories).keep <|
      (fieldOr_yields hdomains).bind fun _ => (fieldOr_yields hlanguage).keep <|
      (fieldOr_yields hframework).keep <| (fieldOr_yields houtput).keep <|
      (fieldOr_yields htests).keep <| (fieldOr_yields hdocs).keep <|
      (fieldOr_yields hmetadata).bind fun _ => (fieldOr_yields hformat).keep <|
      (fieldElse_yields hcreated).bind fun _ => (fieldElse_yields hmodified).bind fun _ =>
      Reading.yields_pure _
  isSome_restored a := by simp [Option.isSome_bind, isSome_restored]
  restored_of_faithful h := by
    obtain ⟨hdomains, hmetadata, hcreated, hmodified⟩ := h
    simp [restored_of_faithful hdomains, restored_of_faithful hmetadata,
      restored_of_faithful hcreated, restored_of_faithful hmodified]
  faithful_of_restored h := by
    simp only [bind, pure, Option.bind_eq_some_iff, Option.some.injEq] at h
    obtain ⟨domains, hdomains, metadata, hmetadata, created, hcreated, modified, hmodified, rfl⟩ :=
      h
    exact ⟨faithful_of_restored hdomains, faithful_of_restored hmetadata,
      faithful_of_restored hcreated, faithful_of_restored hmodified⟩
  writable h := by
    obtain ⟨hdomains, hmetadata, hcreated, hmodified⟩ := h
    exact Data.writable_object <| by
      simp [writable hdomains, writable hmetadata, writable hcreated, writable hmodified]

/-- A project comes back without unsaved changes. -/
noncomputable instance : Restorable Graph where
  restored g := do
    return {
      about := ← restored g.about
      nodes := ← restored g.nodes
      edges := ← restored g.edges
      groups := ← restored g.groups }
  Reopens g := Reopens g.about ∧ Reopens g.nodes ∧ Reopens g.edges ∧ Reopens g.groups
  Faithful g := Faithful g.about ∧ Faithful g.nodes ∧ Faithful g.edges ∧ Faithful g.groups ∧
    g.dirty = false
  yields path g := by
    refine readRecord_yields path (by simp) ?_
    rintro s hs ⟨habout, hnodes, hedges, hgroups⟩
    have hdirty : (s.fieldOr "dirty" false).Yields (some false) := by
      have hnone : Data.lookup? "dirty" s.entries = none := by simp [Data.lookup?, hs]
      rw [Record.Source.fieldOr, Record.Source.fieldElse, hnone]
      exact Reading.yields_pure false
    exact (field_yields habout).bind fun _ => (fieldOr_yields hnodes).bind fun _ =>
      (fieldOr_yields hedges).bind fun _ => (fieldOr_yields hgroups).bind fun _ =>
      hdirty.then <| Reading.yields_pure _
  isSome_restored g := by simp [Option.isSome_bind, isSome_restored]
  restored_of_faithful {g} h := by
    obtain ⟨about, nodes, edges, groups, dirty⟩ := g
    obtain ⟨habout, hnodes, hedges, hgroups, rfl⟩ := h
    simp [restored_of_faithful habout, restored_of_faithful hnodes, restored_of_faithful hedges,
      restored_of_faithful hgroups]
  faithful_of_restored h := by
    simp only [bind, pure, Option.bind_eq_some_iff, Option.some.injEq] at h
    obtain ⟨about, habout, nodes, hnodes, edges, hedges, groups, hgroups, rfl⟩ := h
    exact ⟨faithful_of_restored habout, faithful_of_restored hnodes, faithful_of_restored hedges,
      faithful_of_restored hgroups, rfl⟩
  writable h := by
    obtain ⟨habout, hnodes, hedges, hgroups, -⟩ := h
    exact Data.writable_object <| by
      simp [writable habout, writable hnodes, writable hedges, writable hgroups]

end Wirework
