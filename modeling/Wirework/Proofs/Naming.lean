import Wirework.Rust.Basic

/-!
# Characters of identifiers

Snake case writes letters, digits and marks. What it takes from a name are characters that are
letters or digits anyway; what it makes itself are marks and the lower case of capitals, which lies
from the small letters on (`mem_lowerChar`). So whatever a name holds, the punctuation that paths
and raw identifiers are made with does not come through (`isWritable_of_mem_snake`).
-/

namespace Wirework

/-! ## Lower case -/

namespace Text

/-- What a check of the characters of ASCII found holds of each of them. -/
theorem of_ascii {p : Char → Bool} {c : Char}
    (hall : ((List.range 128).map Char.ofNat).all p = true) (h : c.toNat < 128) : p c = true :=
  List.all_eq_true.mp hall c
    (List.mem_map.mpr ⟨c.toNat, List.mem_range.mpr h, Char.ofNat_toNat c⟩)

/-- Lower case leads to characters that exist, none of them before the small letters. -/
theorem lowerShifts_land : ∀ s ∈ lowerShifts, 0x61 ≤ s.first + s.distance ∧
    (s.last + s.distance < 0xD800 ∨
      (0xE000 ≤ s.first + s.distance ∧ s.last + s.distance < 0x110000)) := by
  decide +kernel

theorem has_bounds {s : Shift} {c : Char} (h : s.run.has c = true) :
    s.first ≤ c.toNat ∧ c.toNat ≤ s.last := by
  rw [Run.has, Bool.and_eq_true, Bool.and_eq_true] at h
  exact ⟨of_decide_eq_true h.1.1, of_decide_eq_true h.1.2⟩

/-- A character is its own lower case, or it is the one capital whose lower case has two characters,
or a shift leads to its lower case. -/
theorem lowerChar_cases (c : Char) : lowerChar c = [c] ∨ lowerChar c = ['i', '\u0307'] ∨
    ∃ s ∈ lowerShifts, s.run.has c = true ∧
      ∃ x : Char, lowerChar c = [x] ∧ (x.toNat : Int) = c.toNat + s.distance := by
  unfold lowerChar mapCase
  split
  · rename_i cs hcs
    have hentry : cs = [0x69, 0x307] := by
      by_cases hc : c.toNat = 0x130
      · simpa [lowerExpansions, hc] using hcs.symm
      · have hbeq : (c.toNat == 0x130) = false := by simpa using hc
        simp [lowerExpansions, List.lookup_cons, hbeq] at hcs
    subst hentry
    exact Or.inr (Or.inl rfl)
  · split
    · rename_i s hs
      have hmem := List.mem_of_find?_eq_some hs
      have hin := List.find?_some hs
      obtain ⟨hlow, hvalid⟩ := lowerShifts_land s hmem
      obtain ⟨hfirst, hlast⟩ := has_bounds hin
      have hchar : ((c.toNat : Int) + s.distance).toNat.isValidChar := by
        unfold Nat.isValidChar
        omega
      have hcode : (Char.ofNat ((c.toNat : Int) + s.distance).toNat).toNat =
          ((c.toNat : Int) + s.distance).toNat := by
        rw [Char.ofNat, dif_pos hchar]
        rfl
      exact Or.inr (Or.inr ⟨s, hmem, hin, _, rfl, by omega⟩)
    · exact Or.inl rfl

theorem mem_lowerChar {c x : Char} (h : x ∈ lowerChar c) : x = c ∨ 0x61 ≤ x.toNat := by
  rcases lowerChar_cases c with heq | heq | ⟨s, hs, hin, y, heq, hcode⟩
  · rw [heq] at h
    exact Or.inl (List.mem_singleton.mp h)
  · rw [heq] at h
    have hall : ['i', '\u0307'].all (0x61 ≤ ·.toNat) = true := by decide
    exact Or.inr (of_decide_eq_true (List.all_eq_true.mp hall x h))
  · rw [heq] at h
    obtain rfl := List.mem_singleton.mp h
    obtain ⟨hlow, -⟩ := lowerShifts_land s hs
    obtain ⟨hfirst, -⟩ := has_bounds hin
    omega

end Text

/-! ## Snake case -/

namespace Naming

variable {c : Char} {cs : List Char} {name : String}

/-- The characters that snake case may write. -/
def isWritable (c : Char) : Bool :=
  c = '_' || Text.isAlphanumeric c || Text.isUppercase c || 0x61 ≤ c.toNat

theorem isWritable_of_mem_markWords {start capital : Bool}
    (h : c ∈ markWords start capital cs) : isWritable c = true := by
  have hmark : isWritable '_' = true := rfl
  induction cs generalizing start capital with
  | nil => exact absurd h List.not_mem_nil
  | cons d rest ih =>
    rw [markWords] at h
    split at h
    · rename_i hupper
      rw [List.mem_append, List.mem_append] at h
      rcases h with (h | h) | h
      · split at h
        · exact absurd h List.not_mem_nil
        · rw [List.mem_singleton.mp h, hmark]
      · rcases Text.mem_lowerChar h with rfl | hsmall
        · simp [isWritable, hupper]
        · simp [isWritable, hsmall]
      · exact ih h
    · split at h
      · rename_i hkept
        rcases List.mem_cons.mp h with rfl | h
        · rcases Bool.or_eq_true .. |>.mp hkept with halnum | hm
          · simp [isWritable, halnum]
          · simp [isWritable, of_decide_eq_true hm]
        · exact ih h
      · rcases List.mem_cons.mp h with rfl | h
        · exact hmark
        · exact ih h

theorem squeeze_sublist (cs : List Char) : (squeeze cs).Sublist cs := by
  induction cs with
  | nil => exact .slnil
  | cons c rest ih =>
    rw [squeeze]
    split
    · exact ih.cons c
    · exact ih.cons_cons c

theorem strip_subset (cs : List Char) : strip cs ⊆ cs := by
  intro c h
  rw [strip, List.mem_reverse] at h
  have hback := (List.dropWhile_sublist _).subset h
  exact (List.dropWhile_sublist _).subset (List.mem_reverse.mp hback)

theorem isWritable_of_mem_snake (h : c ∈ (snake name).toList) : isWritable c = true := by
  rw [snake, String.toList_ofList] at h
  exact isWritable_of_mem_markWords ((squeeze_sublist _).subset (strip_subset _ h))

theorem not_mem_snake (h : isWritable c = false) : c ∉ (snake name).toList := fun hm => by
  rw [isWritable_of_mem_snake hm] at h
  cases h

end Naming

/-! ## Rust identifiers -/

namespace Rust

/-- Snake case never looks like a raw identifier, so without its mark an identifier is the name in
snake case. -/
theorem unraw_ident (name : String) : unraw (ident name) = Naming.snake name := by
  have hhash : '#' ∉ (Naming.snake name).toList := Naming.not_mem_snake (by decide)
  unfold ident escapeKeyword
  split
  · have hmark : Text.startsWith (rawMark ++ Naming.snake name) rawMark = true := by
      simp [Text.startsWith, rawMark]
    have hlength : rawMark.length = rawMark.toList.length := rfl
    rw [unraw, if_pos hmark, String.toList_append, hlength, List.drop_left, String.ofList_toList]
  · have hplain : Text.startsWith (Naming.snake name) rawMark = false := by
      rw [Text.startsWith, Bool.eq_false_iff, ne_eq, List.isPrefixOf_iff_prefix]
      intro hp
      exact hhash (hp.subset (by decide))
    rw [unraw, if_neg (by simp [hplain])]

end Rust

end Wirework
