import Wirework.Proofs.Naming.Repeated

/-!
# Words of snake case

Snake case keeps the letters of a name and sets marks between them. What it keeps is told character
by character (`filter_snakeChars`), and because marks are single and stand at no end, they cut the
text into blocks (`exists_blocks`). Both hold of every name. In ASCII the letters are those from `a`
to `z` and the digits, which gives the shape of identifiers (`snakeOf_snake`).
-/

namespace Wirework.Naming

variable {c : Char} {cs b : List Char} {bs : List (List Char)} {start capital : Bool}

/-! ## Letters -/

/-- What snake case writes for a character, marks aside. -/
def letters (c : Char) : List Char :=
  if Text.isUppercase c then Text.lowerChar c else if Text.isAlphanumeric c then [c] else []

theorem notMem_lowerChar (h : Text.isUppercase c = true) : '_' ∉ Text.lowerChar c := by
  intro hmark
  rcases isCaseless_or_small h with hself | ⟨-, -, hsmall⟩
  · rw [hself, List.mem_singleton] at hmark
    rw [← hmark, isUppercase_mark] at h
    cases h
  · exact (hsmall '_' hmark).2 rfl

theorem isAlphanumeric_mark : Text.isAlphanumeric '_' = false := by decide +kernel

/-- A mark is written for a mark and for what is no letter or digit. -/
theorem markWords_mark (h : Text.isUppercase c = false) (halnum : Text.isAlphanumeric c = false) :
    markWords start capital (c :: cs) = '_' :: markWords false false cs := by
  rw [markWords, if_neg (by simp [h]), halnum, Bool.false_or]
  split
  · rename_i hmark
    rw [of_decide_eq_true hmark]
  · rfl

theorem filter_optionalMark {b : Bool} :
    ((if b then [] else ['_']) : List Char).filter (· ≠ '_') = [] := by
  cases b <;> rfl

theorem filter_markWords :
    (markWords start capital cs).filter (· ≠ '_') = cs.flatMap letters := by
  induction cs generalizing start capital with
  | nil => rfl
  | cons c rest ih =>
    rw [List.flatMap_cons, letters]
    cases hupper : Text.isUppercase c with
    | true =>
      have hkept : (Text.lowerChar c).filter (· ≠ '_') = Text.lowerChar c := by
        refine List.filter_eq_self.mpr fun x hx => decide_eq_true ?_
        rintro rfl
        exact notMem_lowerChar hupper hx
      rw [markWords_capital hupper, List.filter_append, List.filter_append,
        filter_optionalMark, hkept, ih, if_pos rfl]
      rfl
    | false =>
      rw [if_neg Bool.false_ne_true]
      cases halnum : Text.isAlphanumeric c with
      | true =>
        have hmark : c ≠ '_' := by
          rintro rfl
          cases isAlphanumeric_mark.symm.trans halnum
        have hkept : isKept c = true := by simp [isKept, halnum]
        rw [markWords_kept hupper hkept, List.filter_cons_of_pos (by simpa using hmark), ih,
          if_pos rfl, List.singleton_append]
      | false =>
        rw [markWords_mark hupper halnum, List.filter_cons_of_neg (by simp), ih,
          if_neg Bool.false_ne_true, List.nil_append]

theorem filter_squeeze : (squeeze cs).filter (· ≠ '_') = cs.filter (· ≠ '_') := by
  induction cs with
  | nil => rfl
  | cons c rest ih =>
    rw [squeeze]
    split
    · rename_i hmarks
      rw [Bool.and_eq_true] at hmarks
      rw [ih, List.filter_cons_of_neg (by simpa using hmarks.1)]
    · rw [List.filter_cons, List.filter_cons, ih]

theorem filter_dropWhile_mark :
    (cs.dropWhile (· = '_')).filter (· ≠ '_') = cs.filter (· ≠ '_') := by
  induction cs with
  | nil => rfl
  | cons c rest ih =>
    by_cases hmark : c = '_'
    · rw [List.dropWhile_cons_of_pos (by simpa using hmark),
        List.filter_cons_of_neg (by simpa using hmark), ih]
    · rw [List.dropWhile_cons_of_neg (by simpa using hmark)]

theorem filter_strip : (strip cs).filter (· ≠ '_') = cs.filter (· ≠ '_') := by
  rw [strip, List.filter_reverse, filter_dropWhile_mark, ← List.filter_reverse,
    List.reverse_reverse, filter_dropWhile_mark]

/-- Snake case writes for each character what it writes for it alone. -/
theorem filter_snakeChars : (snakeChars cs).filter (· ≠ '_') = cs.flatMap letters := by
  rw [snakeChars, filter_strip, filter_squeeze, filter_markWords]

/-! ## Blocks -/

theorem intercalate_cons_head :
    ['_'].intercalate ((c :: b) :: bs) = c :: ['_'].intercalate (b :: bs) := by
  cases bs with
  | nil => rfl
  | cons x xs => rfl

theorem mem_intercalate (hb : b ∈ bs) (hc : c ∈ b) : c ∈ ['_'].intercalate bs := by
  induction bs with
  | nil => cases hb
  | cons x xs ih =>
    rcases List.mem_cons.mp hb with rfl | hb
    · cases xs with
      | nil => rwa [List.intercalate_singleton]
      | cons y ys =>
        rw [List.intercalate_cons_cons, List.append_assoc]
        exact List.mem_append_left _ hc
    · rw [List.intercalate_cons_of_ne_nil (List.ne_nil_of_mem hb)]
      exact List.mem_append_right _ (ih hb)

/-- A text whose first block is empty is empty or starts with a mark. -/
theorem head?_intercalate_nil (hne : ['_'].intercalate ([] :: bs) ≠ []) :
    (['_'].intercalate ([] :: bs)).head? = some '_' := by
  cases bs with
  | nil => exact absurd rfl hne
  | cons x xs => rfl

/-- Single marks cut a text that ends in none into blocks of which only the first may be empty. -/
theorem exists_blocks_of_last (hsingle : cs.IsChain fun b c => ¬ (b = '_' ∧ c = '_'))
    (hlast : cs.getLast? ≠ some '_') : ∃ b bs, cs = ['_'].intercalate (b :: bs) ∧
      (∀ x ∈ b :: bs, '_' ∉ x) ∧ ∀ x ∈ bs, x ≠ [] := by
  induction cs with
  | nil => exact ⟨[], [], rfl, by simp, by simp⟩
  | cons c rest ih =>
    obtain ⟨hhead, hsingle⟩ := List.isChain_cons.mp hsingle
    have hrest : rest.getLast? ≠ some '_' := by
      intro h
      rw [List.getLast?_cons, h] at hlast
      exact hlast rfl
    obtain ⟨b, bs, rfl, hmarks, hfull⟩ := ih hsingle hrest
    by_cases hc : c = '_'
    · subst hc
      -- The mark is not the last character and no mark follows, so a word begins behind it.
      have hb : b ≠ [] := by
        rintro rfl
        by_cases hnil : ['_'].intercalate ([] :: bs) = []
        · rw [hnil] at hlast
          exact hlast rfl
        · exact hhead '_' (head?_intercalate_nil hnil) ⟨rfl, rfl⟩
      refine ⟨[], b :: bs, rfl, List.forall_mem_cons.mpr ⟨List.not_mem_nil, hmarks⟩, ?_⟩
      exact List.forall_mem_cons.mpr ⟨hb, hfull⟩
    · obtain ⟨hb, hmarks⟩ := List.forall_mem_cons.mp hmarks
      have hword : '_' ∉ c :: b := List.not_mem_cons_of_ne_of_not_mem (Ne.symm hc) hb
      exact ⟨c :: b, bs, intercalate_cons_head.symm,
        List.forall_mem_cons.mpr ⟨hword, hmarks⟩, hfull⟩

/-- Snake case that is not empty consists of blocks without marks, with one mark between two. -/
theorem exists_blocks (hne : snakeChars cs ≠ []) : ∃ blocks : List (List Char), blocks ≠ [] ∧
    (∀ x ∈ blocks, x ≠ [] ∧ '_' ∉ x) ∧ snakeChars cs = ['_'].intercalate blocks := by
  have hsingle := isChain_strip (isChain_squeeze (markWords true false cs))
  obtain ⟨b, bs, heq, hmarks, hfull⟩ := exists_blocks_of_last hsingle (last_strip _)
  have hb : b ≠ [] := by
    rintro rfl
    refine head_strip (squeeze (markWords true false cs)) ?_
    rw [heq]
    exact head?_intercalate_nil (heq ▸ hne)
  refine ⟨b :: bs, List.cons_ne_nil b bs, fun x hx => ⟨?_, hmarks x hx⟩, heq⟩
  rcases List.mem_cons.mp hx with rfl | hx
  · exact hb
  · exact hfull x hx

theorem snakeChars_eq_nil_iff : snakeChars cs = [] ↔ cs.flatMap letters = [] := by
  rw [← filter_snakeChars, List.filter_eq_nil_iff]
  constructor
  · intro h
    rw [h]
    exact List.forall_mem_nil _
  · intro h
    have hhead : (snakeChars cs).head? ≠ some '_' := head_strip _
    cases hsnake : snakeChars cs with
    | nil => rfl
    | cons c rest =>
      rw [hsnake] at h hhead
      exact absurd (by simpa using hhead) (h c List.mem_cons_self)

/-! ## Names in ASCII -/

theorem letters_ascii_all : ((List.range 128).map Char.ofNat).all (fun c =>
    decide (letters c = if c.isAlphanum then [c.toLower] else []) &&
      (letters c).all fun x => x.isLower || x.isDigit) = true := by
  decide +kernel

theorem letters_ascii (h : c.toNat < 128) :
    (letters c = if c.isAlphanum then [c.toLower] else []) ∧
      ∀ x ∈ letters c, (x.isLower || x.isDigit) = true := by
  have hc := Text.of_ascii letters_ascii_all h
  rw [Bool.and_eq_true, decide_eq_true_eq, List.all_eq_true] at hc
  exact hc

theorem flatMap_letters_ascii (h : ∀ c ∈ cs, c.toNat < 128) :
    cs.flatMap letters = (cs.filter Char.isAlphanum).map Char.toLower := by
  induction cs with
  | nil => rfl
  | cons c rest ih =>
    obtain ⟨hc, hrest⟩ := List.forall_mem_cons.mp h
    rw [List.flatMap_cons, (letters_ascii hc).1, ih hrest, List.filter_cons]
    split <;> rfl

theorem small_of_mem_snakeChars (h : ∀ c ∈ cs, c.toNat < 128) (hc : c ∈ snakeChars cs)
    (hmark : c ≠ '_') : (c.isLower || c.isDigit) = true := by
  have hletter : c ∈ (snakeChars cs).filter (· ≠ '_') :=
    List.mem_filter.mpr ⟨hc, decide_eq_true hmark⟩
  rw [filter_snakeChars] at hletter
  obtain ⟨d, hd, hc⟩ := List.mem_flatMap.mp hletter
  exact (letters_ascii (h d hd)).2 c hc

theorem snake_eq_empty_iff {name : String} : snake name = "" ↔ snakeChars name.toList = [] :=
  String.ofList_eq_empty_iff

theorem snake_eq_intercalate {name : String} {blocks : List (List Char)}
    (h : snakeChars name.toList = ['_'].intercalate blocks) :
    snake name = "_".intercalate (blocks.map String.ofList) := by
  have hblocks : (blocks.map String.ofList).map String.toList = blocks := by
    rw [List.map_map, String.toList_comp_ofList, List.map_id]
  rw [← String.toList_inj, String.toList_intercalate, hblocks, snake, String.toList_ofList, h]
  rfl

/-- `text` holds the letters and digits of `name` as words in small letters, and is left alone by
snake case. -/
structure SnakeOf (name text : String) : Prop where
  shape : text = "" ∨ ∃ words : List String, words ≠ [] ∧
    (∀ w ∈ words, w ≠ "" ∧ ∀ c ∈ w.toList, (c.isLower || c.isDigit) = true) ∧
    text = "_".intercalate words
  empty : text = "" ↔ ∀ c ∈ name.toList, c.isAlphanum = false
  letters : text.toList.filter (· ≠ '_') = (name.toList.filter Char.isAlphanum).map Char.toLower
  stays : snake text = text

/-- Snake case of a name in ASCII consists of small words with single marks between them, which hold
the letters and digits of the name in order. It is empty only where the name has none, and is in
snake case already. -/
theorem snakeOf_snake {name : String} (h : ∀ c ∈ name.toList, c.toNat < 128) :
    SnakeOf name (snake name) where
  shape := by
    rw [snake_eq_empty_iff, or_iff_not_imp_left]
    intro hne
    obtain ⟨blocks, hblocks, hfull, heq⟩ := exists_blocks hne
    refine ⟨blocks.map String.ofList, by simpa using hblocks, ?_, snake_eq_intercalate heq⟩
    intro w hw
    obtain ⟨b, hb, rfl⟩ := List.mem_map.mp hw
    obtain ⟨hletters, hmark⟩ := hfull b hb
    refine ⟨fun hempty => hletters (String.ofList_eq_empty_iff.mp hempty), fun c hc => ?_⟩
    rw [String.toList_ofList] at hc
    refine small_of_mem_snakeChars h (heq ▸ mem_intercalate hb hc) ?_
    rintro rfl
    exact hmark hc
  empty := by
    rw [snake_eq_empty_iff, snakeChars_eq_nil_iff, flatMap_letters_ascii h, List.map_eq_nil_iff,
      List.filter_eq_nil_iff]
    simp only [Bool.not_eq_true]
  letters := by
    rw [snake, String.toList_ofList, filter_snakeChars, flatMap_letters_ascii h]
  stays := snake_snake_iff.mpr (stable_of_ascii h)

/-- A name with marks in front, a run of capitals, a digit and punctuation. -/
theorem snakeOf_mixed : (∀ c ∈ "__MyAPIKey v2--X!".toList, c.toNat < 128) ∧
    SnakeOf "__MyAPIKey v2--X!" "my_apikey_v2_x" := by
  have hall : ("__MyAPIKey v2--X!".toList.all (·.toNat < 128)) = true := by decide +kernel
  have hascii : ∀ c ∈ "__MyAPIKey v2--X!".toList, c.toNat < 128 := fun c hc =>
    of_decide_eq_true (List.all_eq_true.mp hall c hc)
  have hsnake : snake "__MyAPIKey v2--X!" = "my_apikey_v2_x" := by decide +kernel
  exact ⟨hascii, hsnake ▸ snakeOf_snake hascii⟩

end Wirework.Naming
