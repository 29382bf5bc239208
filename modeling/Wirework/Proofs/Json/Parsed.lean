import Wirework.Json.Reader

/-!
# What a document holds

The values that the text of a document can be read as: plain values, lists of them and objects of
them, with any keys. Main statement: `isDocument_of_parse?`.
-/

namespace Wirework

/-- The value may have been read from the text of a document. -/
inductive Data.IsDocument : Data → Prop where
  | null : IsDocument .null
  | bool (b : Bool) : IsDocument (.bool b)
  | int (n : Int) : IsDocument (.int n)
  | float (x : Double) : IsDocument (.float x)
  | text (s : String) : IsDocument (.text s)
  | list {items : List Data} (h : ∀ d ∈ items, IsDocument d) : IsDocument (.list items)
  | object {entries : List (String × Data)} (h : ∀ e ∈ entries, IsDocument e.2) :
      IsDocument (.object entries)

namespace Json

variable {d : Data} {cs rest : List Char}

theorem isDocument_of_number? (h : number? cs = some (d, rest)) : d.IsDocument := by
  unfold number? at h
  simp only [Option.bind_eq_bind] at h
  -- the first split is on the sign, which decides nothing about the form of the value
  split at h
  all_goals
    split at h
    · cases h
    · split at h
      · cases h
      · simp only [Option.bind_eq_some_iff] at h
        obtain ⟨fraction, -, exponent, -, h⟩ := h
        split at h <;> cases h
        · exact .int _
        · exact .float _

theorem eq_of_word? {word : String} {d' : Data} (h : word? word d' cs = some (d, rest)) :
    d = d' := by
  rw [word?] at h
  split at h <;> cases h
  rfl

/-- With this fuel the parser gives documents only, if those it has gathered already are. -/
structure GivesDocuments (fuel : Nat) : Prop where
  value {depth : Nat} {cs rest : List Char} {d : Data} :
    value? depth cs fuel = some (d, rest) → d.IsDocument
  items {depth : Nat} {acc items : List Data} {cs rest : List Char} :
    (∀ d ∈ acc, d.IsDocument) → items? depth acc cs fuel = some (items, rest) →
      ∀ d ∈ items, d.IsDocument
  entries {depth : Nat} {acc entries : List (String × Data)} {cs rest : List Char} :
    (∀ e ∈ acc, e.2.IsDocument) → entries? depth acc cs fuel = some (entries, rest) →
      ∀ e ∈ entries, e.2.IsDocument

variable {fuel depth : Nat}

/-! ## Steps -/

theorem GivesDocuments.value_succ (ih : GivesDocuments fuel)
    (h : value? depth cs (fuel + 1) = some (d, rest)) : d.IsDocument := by
  rw [value?] at h
  split at h
  · obtain ⟨found, -, heq⟩ := Option.map_eq_some_iff.mp h
    cases heq
    exact .text _
  · split at h
    · cases h
      exact .list (List.forall_mem_nil _)
    · cases h
    · obtain ⟨found, hfound, heq⟩ := Option.map_eq_some_iff.mp h
      cases heq
      exact .list (ih.items (List.forall_mem_nil _) hfound)
  · split at h
    · cases h
      exact .object (List.forall_mem_nil _)
    · cases h
    · obtain ⟨found, hfound, heq⟩ := Option.map_eq_some_iff.mp h
      cases heq
      exact .object (ih.entries (List.forall_mem_nil _) hfound)
  · exact eq_of_word? h ▸ .bool true
  · exact eq_of_word? h ▸ .bool false
  · exact eq_of_word? h ▸ .null
  · exact eq_of_word? h ▸ .float _
  · exact eq_of_word? h ▸ .float _
  · exact eq_of_word? h ▸ .float _
  · exact isDocument_of_number? h

theorem GivesDocuments.items_succ (ih : GivesDocuments fuel) {acc items : List Data}
    (hacc : ∀ d ∈ acc, d.IsDocument) (h : items? depth acc cs (fuel + 1) = some (items, rest)) :
    ∀ d ∈ items, d.IsDocument := by
  rw [items?] at h
  split at h
  · cases h
  · rename_i d rest' hd
    have hmore : ∀ x ∈ d :: acc, x.IsDocument := List.forall_mem_cons.mpr ⟨ih.value hd, hacc⟩
    split at h
    · exact ih.items hmore h
    · cases h
      exact fun x hx => hmore x (List.mem_reverse.mp hx)
    · cases h

theorem GivesDocuments.entries_succ (ih : GivesDocuments fuel) {acc entries : List (String × Data)}
    (hacc : ∀ e ∈ acc, e.2.IsDocument)
    (h : entries? depth acc cs (fuel + 1) = some (entries, rest)) :
    ∀ e ∈ entries, e.2.IsDocument := by
  rw [entries?] at h
  split at h
  · split at h
    · cases h
    · split at h
      · split at h
        · cases h
        · rename_i d rest' hd
          have hmore (key : String) : ∀ e ∈ (key, d) :: acc, e.2.IsDocument :=
            List.forall_mem_cons.mpr ⟨ih.value hd, hacc⟩
          split at h
          · exact ih.entries (hmore _) h
          · cases h
            exact fun e he => hmore _ e (List.mem_reverse.mp he)
          · cases h
      · cases h
  · cases h

/-! ## Runs -/

theorem givesDocuments (fuel : Nat) : GivesDocuments fuel := by
  induction fuel with
  | zero =>
    refine ⟨fun h => ?_, fun _ h => ?_, fun _ h => ?_⟩
    all_goals cases h
  | succ fuel ih => exact ⟨ih.value_succ, ih.items_succ, ih.entries_succ⟩

theorem isDocument_of_parse? {text : String} (h : parse? text = some d) : d.IsDocument := by
  rw [parse?, parseWithin] at h
  split at h
  · split at h
    · cases h
      exact (givesDocuments _).value ‹_›
    · cases h
  · cases h

end Json

end Wirework
