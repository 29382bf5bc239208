import Mathlib.Data.List.Chain
import Mathlib.Data.List.DropRight
import Wirework.Proofs.Naming

/-!
# Snake case of snake case

A name in snake case may change when it is put into snake case again. Two kinds of capitals are the
reason. The lower case of a few has a character that is no letter, and becomes a mark the second
time; and capitals without a lower case, such as `ℝ`, stay, so that a word starts at them the second
time if what stood before them was a capital and no longer is. `Stable` says that a name has none of
this, and exactly then a second time makes no difference (`snakeChars_snakeChars_iff`). A third time
never does (`snakeChars_stays`).

The proof compares two views of what snake case leaves alone. `InSnakeCase` describes it without
`snakeChars`, by what stands beside what; `Stable` describes which names lead there.
-/

namespace Wirework

/-! ## Lower case has no capitals -/

namespace Text

variable {r r' : Run} {s : Shift} {c x : Char}

def Run.codes (r : Run) : List Nat :=
  List.range' r.first ((r.last - r.first) / r.stride + 1) r.stride

/-- Two runs have no character in common. Runs that do not overlap are told by their ends. -/
def Run.apart (r r' : Run) : Bool :=
  r.last.blt r'.first || r'.last.blt r.first ||
    r.codes.all fun n => !(r'.first.ble n && n.ble r'.last && (n - r'.first) % r'.stride == 0)

theorem Run.has_iff : r.has c = true ↔
    r.first ≤ c.toNat ∧ c.toNat ≤ r.last ∧ (c.toNat - r.first) % r.stride = 0 := by
  simp [Run.has, and_assoc]

theorem Run.mem_codes (h : r.has c = true) : c.toNat ∈ r.codes := by
  obtain ⟨hfirst, hlast, hstride⟩ := Run.has_iff.mp h
  have hstep := Nat.div_add_mod (c.toNat - r.first) r.stride
  have hcount : (c.toNat - r.first) / r.stride ≤ (r.last - r.first) / r.stride :=
    Nat.div_le_div_right (by omega)
  exact List.mem_range'.mpr ⟨(c.toNat - r.first) / r.stride, by omega, by omega⟩

theorem Run.not_has_of_apart (h : r.apart r' = true) (hr : r.has c = true) : r'.has c = false := by
  obtain ⟨hfirst, hlast, -⟩ := Run.has_iff.mp hr
  rw [Bool.eq_false_iff, ne_eq, Run.has_iff]
  rintro ⟨hfirst', hlast', hstride'⟩
  rw [Run.apart, Bool.or_eq_true, Bool.or_eq_true, Nat.blt_eq, Nat.blt_eq] at h
  rcases h with (hbefore | hbehind) | hcodes
  · omega
  · omega
  · have hcode := List.all_eq_true.mp hcodes _ (Run.mem_codes hr)
    simp [Nat.ble_eq_true_of_le hfirst', Nat.ble_eq_true_of_le hlast', hstride'] at hcode

theorem Run.exists_of_covers {runs : List Run} (h : Run.covers runs c = true) :
    ∃ r ∈ runs, r.has c = true := by
  induction runs with
  | nil => cases h
  | cons r rest ih =>
    rw [Run.covers, Bool.and_eq_true, Bool.or_eq_true] at h
    rcases h.2 with hr | hrest
    · exact ⟨r, List.mem_cons_self, hr⟩
    · obtain ⟨r', hr', hc⟩ := ih hrest
      exact ⟨r', List.mem_cons_of_mem r hr', hc⟩

def Shift.moved (s : Shift) : Run :=
  ⟨(s.first + s.distance).toNat, (s.last + s.distance).toNat, s.stride⟩

theorem lowerShifts_apart : (lowerShifts.all fun s => uppercaseRuns.all s.moved.apart) = true := by
  decide +kernel

theorem Shift.has_moved (hs : s ∈ lowerShifts) (hc : s.run.has c = true)
    (hx : (x.toNat : Int) = c.toNat + s.distance) : s.moved.has x = true := by
  obtain ⟨hlow, -⟩ := lowerShifts_land s hs
  obtain ⟨hfirst, hlast, hstride⟩ := Run.has_iff.mp hc
  have hfirst' : s.first ≤ c.toNat := hfirst
  have hlast' : c.toNat ≤ s.last := hlast
  have hsame : x.toNat - (s.first + s.distance).toNat = c.toNat - s.first := by omega
  refine Run.has_iff.mpr ⟨?_, ?_, ?_⟩
  · change (s.first + s.distance).toNat ≤ x.toNat
    omega
  · change x.toNat ≤ (s.last + s.distance).toNat
    omega
  · change (x.toNat - (s.first + s.distance).toNat) % s.stride = 0
    rw [hsame]
    exact hstride

/-- A character is its own lower case, or its lower case has no capital in it. -/
theorem lowerChar_small (c : Char) : lowerChar c = [c] ∨
    lowerChar c ≠ [] ∧ ∀ x ∈ lowerChar c, isUppercase x = false := by
  rcases lowerChar_cases c with heq | heq | ⟨s, hs, hc, x, heq, hcode⟩
  · exact Or.inl heq
  · have hall : ['i', '\u0307'].all (!isUppercase ·) = true := by decide +kernel
    rw [heq]
    exact Or.inr ⟨List.cons_ne_nil _ _, fun x hx => by simpa using List.all_eq_true.mp hall x hx⟩
  · rw [heq]
    refine Or.inr ⟨List.cons_ne_nil _ _, fun y hy => ?_⟩
    obtain rfl := List.mem_singleton.mp hy
    rw [Bool.eq_false_iff]
    intro hupper
    obtain ⟨r, hr, hy⟩ := Run.exists_of_covers hupper
    have hapart := List.all_eq_true.mp (List.all_eq_true.mp lowerShifts_apart s hs) r hr
    rw [Run.not_has_of_apart hapart (Shift.has_moved hs hc hcode)] at hy
    cases hy

end Text

namespace Naming

variable {b c x : Char} {cs rest : List Char} {start capital : Bool}

/-! ## Marks where words start -/

/-- The characters that snake case does not replace by marks. -/
def isKept (c : Char) : Bool := c = '_' || Text.isAlphanumeric c || Text.isUppercase c

/-- One character may follow another where no mark is missing between them. -/
def MayFollow (b c : Char) : Prop :=
  Text.isUppercase c = true → b = '_' ∨ Text.isUppercase b = true

/-- No mark is missing: none for a character, and none where a word starts. -/
structure WellMarked (cs : List Char) : Prop where
  kept : ∀ c ∈ cs, isKept c = true
  follow : cs.IsChain MayFollow

theorem isUppercase_mark : Text.isUppercase '_' = false := by decide

theorem mayFollow_of_small (h : Text.isUppercase c = false) : MayFollow b c := fun hc => by
  rw [h] at hc
  cases hc

theorem mark_mayFollow : MayFollow '_' c := fun _ => Or.inl rfl

theorem capital_mayFollow (h : Text.isUppercase b = true) : MayFollow b c := fun _ => Or.inr h

theorem wellMarked_nil : WellMarked [] := ⟨List.forall_mem_nil _, .nil⟩

theorem wellMarked_cons : WellMarked (c :: cs) ↔
    isKept c = true ∧ (∀ b ∈ cs.head?, MayFollow c b) ∧ WellMarked cs := by
  constructor
  · rintro ⟨hkept, hfollow⟩
    obtain ⟨hc, hkept⟩ := List.forall_mem_cons.mp hkept
    obtain ⟨hhead, hfollow⟩ := List.isChain_cons.mp hfollow
    exact ⟨hc, hhead, hkept, hfollow⟩
  · rintro ⟨hc, hhead, hkept, hfollow⟩
    exact ⟨List.forall_mem_cons.mpr ⟨hc, hkept⟩, List.isChain_cons.mpr ⟨hhead, hfollow⟩⟩

theorem wellMarked_mark_cons : WellMarked ('_' :: cs) ↔ WellMarked cs := by
  rw [wellMarked_cons]
  exact ⟨fun h => h.2.2, fun h => ⟨by decide, fun _ _ => mark_mayFollow, h⟩⟩

theorem wellMarked_append_mark : WellMarked (cs ++ ['_']) ↔ WellMarked cs := by
  constructor
  · exact fun h => ⟨fun c hc => h.kept c (List.mem_append_left _ hc), h.follow.left_of_append⟩
  · rintro ⟨hkept, hfollow⟩
    refine ⟨fun c hc => ?_, hfollow.append (.singleton _) fun b _ c hc => ?_⟩
    · rcases List.mem_append.mp hc with hc | hc
      · exact hkept c hc
      · rw [List.mem_singleton.mp hc]
        decide
    · obtain rfl : '_' = c := Option.some.inj hc
      exact mayFollow_of_small isUppercase_mark

/-! ## Marks that are too many -/

theorem head?_squeeze (cs : List Char) : (squeeze cs).head? = cs.head? := by
  induction cs with
  | nil => rfl
  | cons c rest ih =>
    rw [squeeze]
    split
    · rename_i hmarks
      rw [Bool.and_eq_true] at hmarks
      rw [ih, of_decide_eq_true hmarks.2, of_decide_eq_true hmarks.1]
      rfl
    · rfl

theorem isChain_squeeze (cs : List Char) :
    (squeeze cs).IsChain fun b c => ¬ (b = '_' ∧ c = '_') := by
  induction cs with
  | nil => exact .nil
  | cons c rest ih =>
    rw [squeeze]
    split
    · exact ih
    · rename_i hmarks
      refine List.isChain_cons.mpr ⟨fun b hb => ?_, ih⟩
      rw [head?_squeeze] at hb
      rintro ⟨rfl, rfl⟩
      exact hmarks (by simpa using hb)

theorem wellMarked_squeeze_iff : WellMarked (squeeze cs) ↔ WellMarked cs := by
  induction cs with
  | nil => rfl
  | cons c rest ih =>
    rw [squeeze]
    split
    · rename_i hmarks
      rw [Bool.and_eq_true] at hmarks
      obtain rfl := of_decide_eq_true hmarks.1
      rw [wellMarked_mark_cons, ih]
    · rw [wellMarked_cons, wellMarked_cons, head?_squeeze, ih]

theorem strip_eq (cs : List Char) :
    strip cs = (cs.dropWhile (· = '_')).rdropWhile (· = '_') := rfl

theorem wellMarked_strip_iff : WellMarked (strip cs) ↔ WellMarked cs := by
  have hfront : ∀ cs : List Char, WellMarked (cs.dropWhile (· = '_')) ↔ WellMarked cs := by
    intro cs
    induction cs with
    | nil => rfl
    | cons c rest ih =>
      by_cases hc : c = '_'
      · subst hc
        rw [List.dropWhile_cons_of_pos (by decide), ih, wellMarked_mark_cons]
      · rw [List.dropWhile_cons_of_neg (by simpa using hc)]
  have hback : ∀ cs : List Char, WellMarked (cs.rdropWhile (· = '_')) ↔ WellMarked cs := by
    intro cs
    induction cs using List.reverseRecOn with
    | nil => rfl
    | append_singleton rest c ih =>
      by_cases hc : c = '_'
      · subst hc
        rw [List.rdropWhile_concat_pos _ _ _ (by decide), ih, wellMarked_append_mark]
      · rw [List.rdropWhile_concat_neg _ _ _ (by simpa using hc)]
  rw [strip_eq, hback, hfront]

theorem isChain_strip {R : Char → Char → Prop} (h : cs.IsChain R) : (strip cs).IsChain R := by
  obtain ⟨back, hback⟩ := List.rdropWhile_prefix (· = '_') (cs.dropWhile (· = '_'))
  have hfront := h.suffix (List.dropWhile_suffix (· = '_'))
  rw [← hback] at hfront
  exact hfront.left_of_append

theorem head_strip (cs : List Char) : (strip cs).head? ≠ some '_' := by
  obtain ⟨back, hback⟩ := List.rdropWhile_prefix (· = '_') (cs.dropWhile (· = '_'))
  rw [← strip_eq] at hback
  have hhead := List.head?_dropWhile_not (· = '_') cs
  rw [← hback] at hhead
  intro h
  rw [List.head?_append, h, Option.some_or] at hhead
  exact absurd hhead (by decide)

theorem last_strip (cs : List Char) : (strip cs).getLast? ≠ some '_' := by
  intro h
  have hne : strip cs ≠ [] := by
    intro hnil
    rw [hnil] at h
    cases h
  rw [List.getLast?_eq_some_getLast hne] at h
  exact List.rdropWhile_last_not (· = '_') _ hne (decide_eq_true (Option.some.inj h))

theorem strip_strip (cs : List Char) : strip (strip cs) = strip cs := by
  have hfront : (strip cs).dropWhile (· = '_') = strip cs := by
    cases hstrip : strip cs with
    | nil => rfl
    | cons c rest =>
      have hhead := head_strip cs
      rw [hstrip] at hhead
      exact List.dropWhile_cons_of_neg (by simpa using hhead)
  rw [strip_eq (strip cs), hfront, strip_eq cs, List.rdropWhile_idempotent]

/-! ## Capitals without a lower case -/

def isCaseless (c : Char) : Bool := Text.isUppercase c && Text.lowerChar c = [c]

/-- The lower case of the capitals of a name consists of letters, and where capitals stand side by
side, those without a lower case come first. -/
structure Stable (cs : List Char) : Prop where
  lowered : ∀ c ∈ cs, Text.isUppercase c = true → ∀ x ∈ Text.lowerChar c, isKept x = true
  runs : cs.IsChain fun b c =>
    Text.isUppercase b = true → isCaseless c = true → isCaseless b = true

theorem isCaseless_iff : isCaseless c = true ↔
    Text.isUppercase c = true ∧ Text.lowerChar c = [c] := by
  simp [isCaseless]

theorem stable_nil : Stable [] := ⟨List.forall_mem_nil _, .nil⟩

theorem stable_cons : Stable (c :: cs) ↔
    (Text.isUppercase c = true → (∀ x ∈ Text.lowerChar c, isKept x = true) ∧
      ∀ b ∈ cs.head?, isCaseless b = true → isCaseless c = true) ∧ Stable cs := by
  constructor
  · rintro ⟨hlowered, hruns⟩
    obtain ⟨hc, hlowered⟩ := List.forall_mem_cons.mp hlowered
    obtain ⟨hhead, hruns⟩ := List.isChain_cons.mp hruns
    exact ⟨fun hupper => ⟨hc hupper, fun b hb => hhead b hb hupper⟩, hlowered, hruns⟩
  · rintro ⟨hc, hlowered, hruns⟩
    exact ⟨List.forall_mem_cons.mpr ⟨fun hupper => (hc hupper).1, hlowered⟩,
      List.isChain_cons.mpr ⟨fun b hb hupper => (hc hupper).2 b hb, hruns⟩⟩

/-- A capital has no lower case, or its lower case is of small characters. -/
theorem isCaseless_or_small (h : Text.isUppercase c = true) : Text.lowerChar c = [c] ∨
    isCaseless c = false ∧ Text.lowerChar c ≠ [] ∧
      ∀ x ∈ Text.lowerChar c, Text.isUppercase x = false ∧ x ≠ '_' := by
  rcases Text.lowerChar_small c with heq | ⟨hne, hsmall⟩
  · exact Or.inl heq
  · have hcase : isCaseless c = false := by
      rw [Bool.eq_false_iff, ne_eq, isCaseless_iff]
      rintro ⟨-, heq⟩
      rw [hsmall c (by simp [heq])] at h
      cases h
    refine Or.inr ⟨hcase, hne, fun x hx => ⟨hsmall x hx, ?_⟩⟩
    rintro rfl
    rcases Text.mem_lowerChar hx with rfl | hsmall
    · exact absurd h (by decide)
    · exact absurd hsmall (by decide)

theorem markWords_capital (h : Text.isUppercase c = true) : markWords start capital (c :: rest) =
    (if start || capital then [] else ['_']) ++ (Text.lowerChar c ++ markWords false true rest) := by
  rw [markWords, if_pos h, List.append_assoc]

theorem markWords_small (start capital : Bool) (rest : List Char) (h : Text.isUppercase c = false) :
    ∃ x, isKept x = true ∧ Text.isUppercase x = false ∧
      markWords start capital (c :: rest) = x :: markWords false false rest := by
  rw [markWords, if_neg (by simp [h])]
  split
  · rename_i hkept
    refine ⟨c, ?_, h, rfl⟩
    rw [isKept, Bool.or_comm (decide (c = '_')), hkept, Bool.true_or]
  · exact ⟨'_', by decide, isUppercase_mark, rfl⟩

/-- What is no capital in a name with marks is followed by none without a mark. -/
theorem head_markWords_small :
    ∀ x ∈ (markWords false false cs).head?, Text.isUppercase x = false := by
  cases cs with
  | nil => simp [markWords]
  | cons c rest =>
    intro x hx
    cases hupper : Text.isUppercase c with
    | true =>
      rw [markWords_capital hupper] at hx
      obtain rfl : '_' = x := Option.some.inj hx
      exact isUppercase_mark
    | false =>
      obtain ⟨y, -, hsmall, heq⟩ := markWords_small false false rest hupper
      rw [heq] at hx
      obtain rfl : y = x := Option.some.inj hx
      exact hsmall

/-- After a capital a name with marks goes on with a capital just if the next one has no lower
case. -/
theorem head_markWords_capital :
    (∀ x ∈ (markWords false true cs).head?, Text.isUppercase x = false) ↔
      ∀ c ∈ cs.head?, isCaseless c = false := by
  cases cs with
  | nil => simp [markWords]
  | cons c rest =>
    have hhead : (c :: rest).head? = some c := rfl
    cases hupper : Text.isUppercase c with
    | true =>
      have heq : markWords false true (c :: rest) = Text.lowerChar c ++ markWords false true rest :=
        markWords_capital hupper
      rcases isCaseless_or_small hupper with hself | ⟨hcase, hne, hsmall⟩
      · simp [heq, hself, isCaseless, hupper]
      · obtain ⟨x, xs, hlower⟩ := List.exists_cons_of_ne_nil hne
        have hx := (hsmall x (by simp [hlower])).1
        simp [heq, hlower, hcase, hx]
    | false =>
      obtain ⟨x, -, hsmall, heq⟩ := markWords_small false true rest hupper
      simp [heq, hsmall, isCaseless, hupper]

theorem wellMarked_optionalMark {b : Bool} :
    WellMarked ((if b then [] else ['_']) ++ cs) ↔ WellMarked cs := by
  cases b with
  | true => rfl
  | false => exact wellMarked_mark_cons

/-- Behind small characters no word may start. -/
theorem wellMarked_small_append {xs : List Char} (hne : xs ≠ [])
    (hsmall : ∀ x ∈ xs, Text.isUppercase x = false ∧ x ≠ '_') : WellMarked (xs ++ cs) ↔
      (∀ x ∈ xs, isKept x = true) ∧ (∀ c ∈ cs.head?, Text.isUppercase c = false) ∧
        WellMarked cs := by
  induction xs with
  | nil => exact absurd rfl hne
  | cons x xs ih =>
    obtain ⟨⟨hx, hmark⟩, hsmall⟩ := List.forall_mem_cons.mp hsmall
    rw [List.cons_append, wellMarked_cons, List.forall_mem_cons]
    by_cases hxs : xs = []
    · subst hxs
      have hfollow : ∀ c, MayFollow x c ↔ Text.isUppercase c = false := by
        intro c
        simp [MayFollow, hx, hmark]
      simp [hfollow]
    · have hfollow : ∀ c ∈ (xs ++ cs).head?, MayFollow x c := by
        intro c hc
        obtain ⟨y, ys, rfl⟩ := List.exists_cons_of_ne_nil hxs
        obtain rfl : y = c := Option.some.inj hc
        exact mayFollow_of_small (hsmall y List.mem_cons_self).1
      rw [ih hxs hsmall]
      tauto

/-- A name with marks lacks none exactly if the name is stable. -/
theorem wellMarked_markWords_iff (start capital : Bool) :
    WellMarked (markWords start capital cs) ↔ Stable cs := by
  induction cs generalizing start capital with
  | nil => exact ⟨fun _ => stable_nil, fun _ => wellMarked_nil⟩
  | cons c rest ih =>
    rw [stable_cons]
    cases hupper : Text.isUppercase c with
    | true =>
      rw [markWords_capital hupper, wellMarked_optionalMark]
      rcases isCaseless_or_small hupper with hself | ⟨hcase, hne, hsmall⟩
      · have hkept : isKept c = true := by simp [isKept, hupper]
        have hcase : isCaseless c = true := isCaseless_iff.mpr ⟨hupper, hself⟩
        have hfollow : ∀ b ∈ (markWords false true rest).head?, MayFollow c b :=
          fun _ _ => capital_mayFollow hupper
        rw [hself, List.singleton_append, wellMarked_cons, and_iff_right hkept,
          and_iff_right hfollow, ih]
        simp [hkept, hcase]
      · rw [wellMarked_small_append hne hsmall, head_markWords_capital, ih]
        simp [hcase, and_assoc]
    | false =>
      obtain ⟨x, hkept, -, heq⟩ := markWords_small start capital rest hupper
      have hfollow : ∀ b ∈ (markWords false false rest).head?, MayFollow x b :=
        fun b hb => mayFollow_of_small (head_markWords_small b hb)
      rw [heq, wellMarked_cons, and_iff_right hkept, and_iff_right hfollow, ih]
      simp

theorem caseless_of_mem_markWords (h : x ∈ markWords start capital cs)
    (hx : Text.isUppercase x = true) : Text.lowerChar x = [x] := by
  induction cs generalizing start capital with
  | nil => cases h
  | cons c rest ih =>
    cases hupper : Text.isUppercase c with
    | true =>
      rw [markWords_capital hupper, List.mem_append, List.mem_append] at h
      rcases h with h | h | h
      · split at h
        · cases h
        · rw [List.mem_singleton.mp h, isUppercase_mark] at hx
          cases hx
      · rcases isCaseless_or_small hupper with hself | ⟨-, -, hsmall⟩
        · rw [hself] at h
          rw [List.mem_singleton.mp h, hself]
        · rw [(hsmall x h).1] at hx
          cases hx
      · exact ih h
    | false =>
      obtain ⟨y, -, hsmall, heq⟩ := markWords_small start capital rest hupper
      rw [heq] at h
      rcases List.mem_cons.mp h with rfl | h
      · rw [hsmall] at hx
        cases hx
      · exact ih h

theorem wellMarked_snakeChars_iff : WellMarked (snakeChars cs) ↔ Stable cs := by
  rw [snakeChars, wellMarked_strip_iff, wellMarked_squeeze_iff, wellMarked_markWords_iff]

theorem caseless_of_mem_snakeChars (h : x ∈ snakeChars cs) (hx : Text.isUppercase x = true) :
    Text.lowerChar x = [x] :=
  caseless_of_mem_markWords ((squeeze_sublist _).subset (strip_subset _ h)) hx

/-! ## What snake case leaves alone -/

/-- A text in snake case: no mark is missing, none is too many, and there is no capital left that has
a lower case. -/
structure InSnakeCase (cs : List Char) : Prop extends WellMarked cs where
  caseless : ∀ c ∈ cs, Text.isUppercase c = true → Text.lowerChar c = [c]
  single : cs.IsChain fun b c => ¬ (b = '_' ∧ c = '_')
  stripped : strip cs = cs

theorem squeeze_cons_of_not (h : ¬ (b = '_' ∧ rest.head? = some '_')) :
    squeeze (b :: rest) = b :: squeeze rest := by
  rw [squeeze, if_neg (by simpa using h)]

theorem markWords_kept (h : Text.isUppercase c = false) (hkept : isKept c = true) :
    markWords start capital (c :: rest) = c :: markWords false false rest := by
  rw [isKept, h, Bool.or_false, Bool.or_comm] at hkept
  rw [markWords, if_neg (by simp [h]), if_pos hkept]

/-- Behind a character, marks come in again just where they stand already. -/
theorem squeeze_markWords (hmarked : WellMarked (b :: cs))
    (hcaseless : ∀ c ∈ cs, Text.isUppercase c = true → Text.lowerChar c = [c])
    (hsingle : (b :: cs).IsChain fun b c => ¬ (b = '_' ∧ c = '_')) :
    squeeze (b :: markWords false (Text.isUppercase b) cs) = b :: cs := by
  induction cs generalizing b with
  | nil => exact squeeze_cons_of_not (by simp [markWords])
  | cons c rest ih =>
    obtain ⟨-, hfollow, hrest⟩ := wellMarked_cons.mp hmarked
    obtain ⟨hkept, -, -⟩ := wellMarked_cons.mp hrest
    obtain ⟨hc, hcaseless⟩ := List.forall_mem_cons.mp hcaseless
    obtain ⟨hmarks, hsingle⟩ := List.isChain_cons.mp hsingle
    have ih := ih hrest hcaseless hsingle
    cases hupper : Text.isUppercase c with
    | true =>
      have hmark : c ≠ '_' := by
        rintro rfl
        cases isUppercase_mark.symm.trans hupper
      rw [hupper] at ih
      rw [markWords_capital hupper, hc hupper, List.singleton_append]
      rcases hfollow c rfl hupper with rfl | hb
      · -- The second mark is the one that snake case sets, and goes away with the first.
        rw [isUppercase_mark]
        change squeeze ('_' :: '_' :: c :: markWords false true rest) = _
        rw [squeeze, if_pos (by simp), squeeze_cons_of_not (by simp [hmark]), ih]
      · have hb' : b ≠ '_' := by
          rintro rfl
          cases isUppercase_mark.symm.trans hb
        rw [hb]
        change squeeze (b :: c :: markWords false true rest) = _
        rw [squeeze_cons_of_not (by simp [hb']), ih]
    | false =>
      rw [hupper] at ih
      rw [markWords_kept hupper hkept, squeeze_cons_of_not (by simpa using hmarks c rfl), ih]

theorem snakeChars_of_inSnakeCase (h : InSnakeCase cs) : snakeChars cs = cs := by
  have hsqueeze : squeeze (markWords true false cs) = cs := by
    cases cs with
    | nil => rfl
    | cons c rest =>
      have hfirst : markWords true false (c :: rest) =
          c :: markWords false (Text.isUppercase c) rest := by
        cases hupper : Text.isUppercase c with
        | true =>
          rw [markWords_capital hupper, h.caseless c List.mem_cons_self hupper]
          rfl
        | false => exact markWords_kept hupper (h.kept c List.mem_cons_self)
      rw [hfirst]
      exact squeeze_markWords h.toWellMarked
        (fun c hc => h.caseless c (List.mem_cons_of_mem _ hc)) h.single
  rw [snakeChars, hsqueeze, h.stripped]

theorem inSnakeCase_snakeChars_iff : InSnakeCase (snakeChars cs) ↔ Stable cs := by
  rw [← wellMarked_snakeChars_iff]
  refine ⟨fun h => h.toWellMarked, fun h => ⟨h, ?_, ?_, strip_strip _⟩⟩
  · exact fun c hc hupper => caseless_of_mem_snakeChars hc hupper
  · exact isChain_strip (isChain_squeeze _)

theorem stable_of_caseless (h : ∀ c ∈ cs, Text.isUppercase c = true → Text.lowerChar c = [c]) :
    Stable cs := by
  induction cs with
  | nil => exact stable_nil
  | cons c rest ih =>
    obtain ⟨hc, hrest⟩ := List.forall_mem_cons.mp h
    refine stable_cons.mpr ⟨fun hupper => ⟨fun x hx => ?_, fun _ _ _ => ?_⟩, ih hrest⟩
    · rw [hc hupper] at hx
      rw [List.mem_singleton.mp hx]
      simp [isKept, hupper]
    · exact isCaseless_iff.mpr ⟨hupper, hc hupper⟩

theorem stable_snakeChars (cs : List Char) : Stable (snakeChars cs) :=
  stable_of_caseless fun _ hc hupper => caseless_of_mem_snakeChars hc hupper

/-- Snake case leaves a name in snake case alone exactly if the name is stable. -/
theorem snakeChars_snakeChars_iff : snakeChars (snakeChars cs) = snakeChars cs ↔ Stable cs := by
  constructor
  · intro h
    have htwice := inSnakeCase_snakeChars_iff.mpr (stable_snakeChars cs)
    rw [h] at htwice
    exact inSnakeCase_snakeChars_iff.mp htwice
  · exact fun h => snakeChars_of_inSnakeCase (inSnakeCase_snakeChars_iff.mpr h)

/-- Snake case makes no difference the third time. -/
theorem snakeChars_stays (cs : List Char) :
    snakeChars (snakeChars (snakeChars cs)) = snakeChars (snakeChars cs) :=
  snakeChars_snakeChars_iff.mpr (stable_snakeChars cs)

theorem snake_snake_iff {name : String} : snake (snake name) = snake name ↔ Stable name.toList := by
  rw [snake, snake, String.toList_ofList, String.ofList_inj, snakeChars_snakeChars_iff]

/-- The capitals of ASCII are written in small letters of ASCII. -/
theorem lowerChar_ascii : ((List.range 128).map Char.ofNat).all (fun c =>
    !isCaseless c && (!Text.isUppercase c || (Text.lowerChar c).all isKept)) = true := by
  decide +kernel

theorem stable_of_ascii (h : ∀ c ∈ cs, c.toNat < 128) : Stable cs := by
  have hascii : ∀ c ∈ cs, isCaseless c = false ∧
      (Text.isUppercase c = true → ∀ x ∈ Text.lowerChar c, isKept x = true) := by
    intro c hc
    have hlower := Text.of_ascii lowerChar_ascii (h c hc)
    simpa [imp_iff_not_or] using hlower
  induction cs with
  | nil => exact stable_nil
  | cons c rest ih =>
    obtain ⟨hc, hrest⟩ := List.forall_mem_cons.mp hascii
    refine stable_cons.mpr ⟨fun hupper => ⟨hc.2 hupper, fun b hb hcase => ?_⟩,
      ih (List.forall_mem_cons.mp h).2 hrest⟩
    rw [(hrest b (List.mem_of_head? hb)).1] at hcase
    cases hcase

end Naming

end Wirework
