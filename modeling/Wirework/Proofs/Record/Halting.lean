import Wirework.Proofs.Json.Parsed
import Wirework.Proofs.Number.Range
import Wirework.Proofs.Record.Restoring
import Wirework.Record.Setting

/-!
# Settings that end the reading

Faults of a document are noted, and the reading goes on. One thing ends it at once: a setting of the
kind `float` whose value is an integer beyond the floating-point format. Main statement: the reading
of a setting ends exactly if there is such a setting in it (`Setting.read_halts`).
-/

namespace Wirework

variable {α β : Type}

/-! ## Steps that may end the reading -/

namespace Reading

/-- In the text of a document, the step ends the reading exactly under a condition. -/
def Halts (r : Reading α) (p : Prop) : Prop :=
  ∀ s : ReadState, s.inDocument = true →
    (p → r s = .error .overflow) ∧
      (¬p → ∃ a s', r s = .ok (a, s') ∧ s'.inDocument = true)

variable {r : Reading α} {f : α → Reading β} {p q : Prop}

theorem Halts.congr (hr : r.Halts p) (h : p ↔ q) : r.Halts q := by
  rwa [← propext h]

theorem halts_pure (a : α) : (pure a : Reading α).Halts False :=
  fun s hs => ⟨nofun, fun _ => ⟨a, s, rfl, hs⟩⟩

theorem halts_complain [Inhabited α] (path : List String) (fault : Fault) :
    (complain path fault : Reading α).Halts False :=
  fun _ hs => ⟨nofun, fun _ => ⟨default, _, rfl, hs⟩⟩

theorem Halts.bind (hr : r.Halts p) (hf : ∀ a, (f a).Halts q) : (r >>= f).Halts (p ∨ q) := by
  intro s hs
  obtain ⟨hend, hgo⟩ := hr s hs
  by_cases hp : p
  · refine ⟨fun _ => ?_, fun hnot => absurd (Or.inl hp) hnot⟩
    change Except.bind (r s) _ = _
    rw [hend hp]
    rfl
  · obtain ⟨a, s', hrun, hs'⟩ := hgo hp
    have hbind : (r >>= f) s = f a s' := by
      change Except.bind (r s) _ = _
      rw [hrun]
      rfl
    rw [hbind, or_iff_right hp]
    exact hf a s' hs'

/-- A step after one that never ends the reading. -/
theorem Halts.skip (hr : r.Halts False) (hf : ∀ a, (f a).Halts q) : (r >>= f).Halts q :=
  (hr.bind hf).congr (iff_of_eq (false_or q))

theorem Halts.map (hr : r.Halts p) (g : α → β) : (g <$> r).Halts p :=
  (hr.bind fun a => halts_pure (g a)).congr (iff_of_eq (or_false p))

theorem Halts.deeper [Inhabited α] (hr : r.Halts p) (path : List String) :
    (r.deeper path).Halts p := by
  intro s hs
  rw [Reading.deeper, if_pos hs]
  exact hr s hs

theorem Halts.below (hr : r.Halts p) : (below r).Halts p := by
  intro s hs
  obtain ⟨hend, hgo⟩ := hr { s with depth := s.depth + 1 } hs
  refine ⟨fun hp => ?_, fun hp => ?_⟩
  · rw [Reading.below, hend hp]
    rfl
  · obtain ⟨a, s', hrun, hs'⟩ := hgo hp
    rw [Reading.below, hrun]
    exact ⟨_, _, rfl, hs'⟩

theorem Halts.attempt (hr : r.Halts p) : r.attempt.Halts p := by
  intro s hs
  obtain ⟨hend, hgo⟩ := hr { s with complaints := [] } hs
  refine ⟨fun hp => ?_, fun hp => ?_⟩
  · rw [Reading.attempt, hend hp]
    rfl
  · obtain ⟨a, s', hrun, hs'⟩ := hgo hp
    rw [Reading.attempt, hrun]
    exact ⟨_, _, rfl, hs'⟩

/-- A further step that does not end the reading from where the first one leads. -/
theorem Halts.checked [Inhabited β] {Q : α → Prop} (hr : r.Halts p) (hgives : r.Gives Q)
    (hf : ∀ a, Q a → (f a).Halts False) : (r.checked f).Halts p := by
  intro s hs
  obtain ⟨hend, hgo⟩ := hr s hs
  refine ⟨fun hp => ?_, fun hp => ?_⟩
  · rw [Reading.checked, hend hp]
  · obtain ⟨a, s', hrun, hs'⟩ := hgo hp
    rw [Reading.checked, hrun]
    by_cases hclean : s'.complaints.length = s.complaints.length
    · simpa only [if_pos hclean] using (hf a (hgives s a s' hrun) s' hs').2 not_false
    · exact ⟨default, s', by simp only [if_neg hclean], hs'⟩

theorem checked_pure [Inhabited β] (a : α) : (pure a : Reading α).checked f = f a := by
  funext s
  exact if_pos rfl

end Reading

/-! ## Entries under a key -/

namespace Data

theorem lookup?_cons (key : String) (e : String × α) (entries : List (String × α)) :
    lookup? key (e :: entries) =
      (lookup? key entries).or (if e.1 = key then some e.2 else none) := by
  have hfold : ∀ (es : List (String × α)) (found : Option α),
      es.foldl (fun found e => if e.1 = key then some e.2 else found) found =
        (lookup? key es).or found := by
    intro es
    induction es with
    | nil => exact fun _ => rfl
    | cons e es ih =>
      intro found
      rw [lookup?, List.foldl_cons, List.foldl_cons, ih, ih, Option.or_assoc]
      split <;> rfl
  rw [lookup?, List.foldl_cons, hfold]

theorem mem_of_lookup? {key : String} {entries : List (String × α)} {a : α}
    (h : lookup? key entries = some a) : (key, a) ∈ entries := by
  induction entries with
  | nil => cases h
  | cons e entries ih =>
    rw [lookup?_cons, Option.or_eq_some_iff] at h
    rcases h with h | ⟨-, h⟩
    · exact List.mem_cons_of_mem e (ih h)
    · split at h <;> cases h
      rename_i hkey
      exact hkey ▸ List.mem_cons_self

end Data

/-! ## Settings -/

namespace Setting

open Data (lookup?)
open Reading (Halts Gives)

mutual

/-- There is an integer beyond the format in the data of a setting, where a number should stand. -/
inductive Overflows : Data → Prop where
  | here {entries : List (String × Data)} {n : Int}
      (hkind : lookup? "kind" entries = some (.text "float"))
      (hvalue : lookup? "value" entries = some (.int n)) (hn : Double.limit ≤ n.natAbs) :
      Overflows (.object entries)
  | inside {entries : List (String × Data)} {content : Data}
      (hvalue : lookup? "value" entries = some content) (h : HoldsOverflow content) :
      Overflows (.object entries)

/-- One of the settings that the content of a setting consists of overflows. -/
inductive HoldsOverflow : Data → Prop where
  | item {items : List Data} {d : Data} (hd : d ∈ items) (h : Overflows d) :
      HoldsOverflow (.list items)
  | entry {entries : List (String × Data)} {e : String × Data} (he : e ∈ entries)
      (h : Overflows e.2) : HoldsOverflow (.object entries)

end

theorem readContent_eq (entries : List (String × Data)) :
    readContent entries = (lookup? "value" entries).map readAny := by
  induction entries with
  | nil => rfl
  | cons e entries ih =>
    obtain ⟨key, d⟩ := e
    rw [readContent, ih, Data.lookup?_cons]
    cases lookup? "value" entries with
    | some c => rfl
    | none => by_cases hkey : key = "value" <;> simp [hkey]

/-- What is read of a setting can be put together without a conversion. -/
def Matches (part : Kind × Content) : Prop :=
  ∃ v, part.2 = .fits v ∧ (part.1 = .float → ∀ n, v ≠ .int n)

theorem fit_halts (path : List String) {part : Kind × Content} (h : Matches part) :
    (fit path part.1 part.2).Halts False := by
  obtain ⟨k, c⟩ := part
  obtain ⟨v, rfl, hv⟩ := h
  cases k <;> cases v <;>
    first
      | exact Reading.halts_pure _
      | exact Reading.halts_complain path _
      | exact absurd rfl (hv rfl _)

/-! ### The kind -/

theorem labelled_halts [Labelled α] [Inhabited α] (path : List String) (d : Data) :
    (Record.read path d : Reading α).Halts False := by
  simp only [Record.read]
  split
  · exact Reading.halts_pure _
  · exact Reading.halts_complain _ _

theorem kind_halts (s : Record.Source) : (s.fieldOr "kind" Kind.null).Halts False := by
  rw [Record.Source.fieldOr, Record.Source.fieldElse]
  split
  · exact labelled_halts _ _
  · exact Reading.halts_pure _

theorem kind_float {s : Record.Source} (h : lookup? "kind" s.entries = some (.text "float")) :
    s.fieldOr "kind" Kind.null = pure .float := by
  have hlabel : Labelled.ofLabel? "float" = some Kind.float := by decide
  simp only [Record.Source.fieldOr, Record.Source.fieldElse, h, Record.read, Record.textOf?,
    Option.bind_some, hlabel]

/-- Only the name of the kind gives the kind; a fault gives another one. -/
theorem kind_gives {s : Record.Source} (hdoc : ∀ e ∈ s.entries, e.2.IsDocument)
    (h : lookup? "kind" s.entries ≠ some (.text "float")) :
    (s.fieldOr "kind" Kind.null).Gives (· ≠ .float) := by
  have hnull : Kind.null ≠ .float := by decide
  rw [Record.Source.fieldOr, Record.Source.fieldElse]
  split
  · rename_i d hd
    have hd' := hdoc _ (Data.mem_of_lookup? hd)
    simp only [Record.read]
    split
    · rename_i k hk
      refine Reading.gives_pure ?_
      rintro rfl
      obtain ⟨name, hname, hlabel⟩ := Option.bind_eq_some_iff.mp hk
      have hfind := List.find?_some hlabel
      have heq : "float" = name := of_decide_eq_true hfind
      cases hd' with
      | text s =>
        cases hname
        exact h (heq ▸ hd)
      | _ => cases hname
    · exact Reading.gives_complain _ _ hnull
  · exact Reading.gives_pure hnull

/-! ### The content -/

/-- A setting whose content can be read and put together without a conversion. -/
theorem assemble_halts (s : Record.Source) {read : Reading (Option Content)} {p : Prop}
    {P : Kind → Prop} (hread : read.Halts p) (hkind : (s.fieldOr "kind" Kind.null).Gives P)
    (hmatches : ∀ k, P k → read.Gives fun o => ∀ c ∈ o, Matches (k, c)) :
    (assemble s (some read)).Halts p := by
  unfold assemble
  refine Halts.checked (Q := Matches) ?_ ?_ fun part hpart => fit_halts s.path hpart
  · refine (kind_halts s).skip fun k => (hread.bind fun o => ?_).congr (iff_of_eq (or_false p))
    cases o with
    | some c => exact Reading.halts_pure (k, c)
    | none => exact (Reading.halts_complain _ _).skip fun c => Reading.halts_pure (k, c)
  · refine Reading.gives_bind hkind fun k hk => Reading.gives_bind (hmatches k hk) fun o ho => ?_
    cases o with
    | some c => exact Reading.gives_pure (ho c rfl)
    | none =>
      refine Reading.gives_bind (P := fun c => Matches (k, c))
        (Reading.gives_complain _ _ ⟨.null, rfl, fun _ => nofun⟩) fun c hc => ?_
      exact Reading.gives_pure hc

theorem assemble_none_halts (s : Record.Source) : (assemble s none).Halts False := by
  unfold assemble
  refine Halts.checked (Q := Matches) ?_ ?_ fun part hpart => fit_halts s.path hpart
  · exact (kind_halts s).skip fun k => Reading.halts_pure _
  · refine Reading.gives_bind (Reading.gives_trivial _) fun k _ => Reading.gives_pure ?_
    exact ⟨.null, rfl, fun _ => nofun⟩

/-- An integer is converted if the kind asks for a number. -/
theorem assemble_int_halts {s : Record.Source} (hdoc : ∀ e ∈ s.entries, e.2.IsDocument)
    {read : Reading (Option Content)} {n : Int} (hread : read = pure (some (.fits (.int n)))) :
    (assemble s (some read)).Halts
      (lookup? "kind" s.entries = some (.text "float") ∧ Double.limit ≤ n.natAbs) := by
  subst hread
  by_cases hkind : lookup? "kind" s.entries = some (.text "float")
  · have hassemble : assemble s (some (pure (some (.fits (.int n))))) =
        fit s.path .float (.fits (.int n)) := by
      unfold assemble
      simp only [kind_float hkind, pure_bind]
      exact Reading.checked_pure _
    rw [hassemble, fit, iff_true_intro hkind, true_and, ← Double.ofInt?_eq_none_iff]
    split
    · rename_i x hx
      exact (Reading.halts_pure _).congr (by simp [hx])
    · rename_i hnone
      exact fun _ _ => ⟨fun _ => rfl, fun hnot => absurd hnone hnot⟩
  · refine (assemble_halts s (Reading.halts_pure _) (kind_gives hdoc hkind) ?_).congr
      (by simp [hkind])
    intro k hk
    refine Reading.gives_pure ?_
    rintro c ⟨⟩
    exact ⟨.int n, rfl, fun hfloat => absurd hfloat hk⟩

/-! ### Whole settings -/

theorem items_halts {items : List Data} (h : ∀ d ∈ items, (read [] d).Halts (Overflows d)) :
    (readItems items).Halts (∃ d ∈ items, Overflows d) := by
  induction items with
  | nil => exact (Reading.halts_pure []).congr (by simp)
  | cons d items ih =>
    obtain ⟨hfirst, hrest⟩ := List.forall_mem_cons.mp h
    rw [readItems]
    refine (hfirst.bind fun first => (ih hrest).map (first :: ·)).congr ?_
    simp

theorem entries_halts {entries : List (String × Data)}
    (h : ∀ e ∈ entries, (read [] e.2).Halts (Overflows e.2)) :
    (readEntries entries).Halts (∃ e ∈ entries, Overflows e.2) := by
  induction entries with
  | nil => exact (Reading.halts_pure []).congr (by simp)
  | cons e entries ih =>
    obtain ⟨key, d⟩ := e
    obtain ⟨hfirst, hrest⟩ := List.forall_mem_cons.mp h
    rw [readEntries]
    refine (hfirst.bind fun first => (ih hrest).map ((key, first) :: ·)).congr ?_
    simp

/-- Content other than an integer needs no conversion. -/
theorem readAny_gives {d : Data} (hd : d.IsDocument) (hint : ∀ n, d ≠ .int n) (k : Kind) :
    (readAny d).Gives fun o => ∀ c ∈ o, Matches (k, c) := by
  cases hd with
  | int n => exact absurd rfl (hint n)
  | list _ | object _ =>
    rw [readAny]
    refine Reading.gives_bind (Reading.gives_trivial _) fun o _ => Reading.gives_pure ?_
    rintro c hc
    obtain ⟨vs, -, rfl⟩ := Option.map_eq_some_iff.mp hc
    exact ⟨_, rfl, fun _ _ h => by cases h⟩
  | _ =>
    rw [readAny]
    refine Reading.gives_pure ?_
    rintro c ⟨⟩
    exact ⟨_, rfl, fun _ _ h => by cases h⟩

/-- One step: a setting ends the reading by itself or by what its content holds. -/
theorem object_halts (path : List String) {entries : List (String × Data)}
    (hdoc : ∀ e ∈ entries, e.2.IsDocument)
    (hread : ∀ e ∈ entries, (readAny e.2).Halts (HoldsOverflow e.2)) :
    (read path (.object entries)).Halts (Overflows (.object entries)) := by
  rw [read, readContent_eq]
  refine Halts.deeper ?_ path
  cases hvalue : lookup? "value" entries with
  | none =>
    refine (assemble_none_halts _).congr (iff_of_false not_false ?_)
    rintro (⟨-, h⟩ | ⟨h, -⟩) <;> cases hvalue.symm.trans h
  | some content =>
    have hmem := Data.mem_of_lookup? hvalue
    by_cases hint : ∃ n, content = .int n
    · obtain ⟨n, rfl⟩ := hint
      refine (assemble_int_halts (n := n) hdoc (by rw [readAny])).congr ⟨?_, ?_⟩
      · rintro ⟨hkind, hn⟩
        exact .here hkind hvalue hn
      · rintro (⟨hkind, h, hn⟩ | ⟨h, hinside⟩)
        · cases hvalue.symm.trans h
          exact ⟨hkind, hn⟩
        · cases hvalue.symm.trans h
          cases hinside
    · have hgives := readAny_gives (hdoc _ hmem) (not_exists.mp hint)
      refine (assemble_halts _ (hread _ hmem) (Reading.gives_trivial _)
        fun k _ => hgives k).congr ⟨.inside hvalue, ?_⟩
      rintro (⟨-, h, -⟩ | ⟨h, hinside⟩)
      · cases hvalue.symm.trans h
        exact absurd ⟨_, rfl⟩ hint
      · cases hvalue.symm.trans h
        exact hinside

/-- The reading of a setting ends exactly if the setting, or one inside it, overflows. -/
theorem read_halts {d : Data} (hd : d.IsDocument) :
    (∀ path, (read path d).Halts (Overflows d)) ∧ (readAny d).Halts (HoldsOverflow d) := by
  induction hd with
  | list hitems ih =>
    constructor
    · intro path
      refine (Reading.halts_complain path _).congr (iff_of_false not_false fun h => ?_)
      cases h
    · rw [readAny]
      refine ((items_halts fun d hd => (ih d hd).1 []).attempt.map _).congr ⟨?_, ?_⟩
      · rintro ⟨d, hd, h⟩
        exact .item hd h
      · rintro ⟨hd, h⟩
        exact ⟨_, hd, h⟩
  | object hentries ih =>
    constructor
    · intro path
      exact object_halts path hentries fun e he => (ih e he).2
    · rw [readAny]
      refine ((entries_halts fun e he => (ih e he).1 []).attempt.map _).congr ⟨?_, ?_⟩
      · rintro ⟨e, he, h⟩
        exact .entry he h
      · rintro (_ | ⟨he, h⟩)
        exact ⟨_, he, h⟩
  | _ =>
    constructor
    · intro path
      refine (Reading.halts_complain path _).congr (iff_of_false not_false fun h => ?_)
      cases h
    · rw [readAny]
      refine (Reading.halts_pure _).congr (iff_of_false not_false fun h => ?_)
      cases h

end Setting

end Wirework
