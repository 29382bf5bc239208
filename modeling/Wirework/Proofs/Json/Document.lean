import Wirework.Proofs.Json.Numeral

/-!
# Documents read back

What a document holds of a value is its printed form: numbers without digits become nulls, tuples
become lists, keys become texts, and a setting becomes the object of its kind and content. Main
statement: the text of a value is read as its printed form, unless that is nested too deep or holds
an integer that is too long (`parse?_document?`).
-/

namespace Wirework

/-! ## Printed forms -/

namespace Setting

mutual

def printedContent : Setting → Data
  | .null => .null
  | .bool b => .bool b
  | .int n => .int n
  | .float x => if x.isFinite then .float x else .null
  | .string s => .text s
  | .array items => .list (printedItems items)
  | .object entries => .object (printedEntries entries)

def printedItems : List Setting → List Data
  | [] => []
  | v :: rest =>
    .object [("kind", .text v.kind.label), ("value", v.printedContent)] :: printedItems rest

def printedEntries : List (String × Setting) → List (String × Data)
  | [] => []
  | (key, v) :: rest =>
    (key, .object [("kind", .text v.kind.label), ("value", v.printedContent)])
      :: printedEntries rest

end

/-- What a document holds of a setting. -/
def printed (v : Setting) : Data :=
  .object [("kind", .text v.kind.label), ("value", v.printedContent)]

end Setting

namespace Data

mutual

def printed : Data → Data
  | .float x => if x.isFinite then .float x else .null
  | .list items => .list (printedItems items)
  | .tuple items => .list (printedItems items)
  | .object entries => .object (printedEntries entries)
  | .mapping pairs => .object (printedPairs pairs)
  | .member _ _ value => value.printed
  | .setting v => v.printed
  | .kind k => .text k.label
  | .named _ => .null
  | .sealed => .null
  | d => d

def printedItems : List Data → List Data
  | [] => []
  | d :: rest => d.printed :: printedItems rest

def printedEntries : List (String × Data) → List (String × Data)
  | [] => []
  | (key, d) :: rest => (key, d.printed) :: printedEntries rest

def printedPairs : List (Data × Data) → List (String × Data)
  | [] => []
  | (key, d) :: rest => ((Json.keyText? key).getD "", d.printed) :: printedPairs rest

end

@[simp] theorem printed_text (s : String) : (Data.text s).printed = .text s := rfl

theorem printedItems_eq (items : List Data) : printedItems items = items.map printed := by
  induction items with
  | nil => rfl
  | cons d items ih => rw [printedItems, ih, List.map_cons]

theorem printedEntries_eq (entries : List (String × Data)) :
    printedEntries entries = entries.map fun e => (e.1, e.2.printed) := by
  induction entries with
  | nil => rfl
  | cons e entries ih => rw [printedEntries, ih, List.map_cons]

@[simp] theorem printed_list (items : List Data) :
    (Data.list items).printed = .list (items.map printed) := by
  rw [printed, printedItems_eq]

@[simp] theorem printed_object (entries : List (String × Data)) :
    (Data.object entries).printed = .object (entries.map fun e => (e.1, e.2.printed)) := by
  rw [printed, printedEntries_eq]

mutual

/-- Whether a document may hold a value inside `depth` more lists and objects. Those that hold
nothing do not count. -/
def fits : Data → Nat → Bool
  | .int n, _ => (Nat.toDigits 10 n.natAbs).length ≤ Number.digitLimit
  | .list items, depth => items.isEmpty || (0 < depth && fitsItems items (depth - 1))
  | .object entries, depth => entries.isEmpty || (0 < depth && fitsEntries entries (depth - 1))
  | _, _ => true

def fitsItems : List Data → Nat → Bool
  | [], _ => true
  | d :: rest, depth => d.fits depth && fitsItems rest depth

def fitsEntries : List (String × Data) → Nat → Bool
  | [], _ => true
  | (_, d) :: rest, depth => d.fits depth && fitsEntries rest depth

end

end Data

namespace Json

variable {rest text : List Char} {style : Style} {d : Data} {depth fuel : Nat}

/-! ## White space -/

theorem skipSpace_append {ws : List Char} (hws : ∀ c ∈ ws, isSpace c = true) (cs : List Char) :
    skipSpace (ws ++ cs) = skipSpace cs := by
  rw [skipSpace, skipSpace, List.dropWhile_append_of_pos hws]

theorem skipSpace_cons {c : Char} (hc : isSpace c = false) (cs : List Char) :
    skipSpace (c :: cs) = c :: cs := by
  rw [skipSpace, List.dropWhile_cons_of_neg (by simp [hc])]

theorem value?_space {ws : List Char} (hws : ∀ c ∈ ws, isSpace c = true) (cs : List Char) :
    value? depth (ws ++ cs) fuel = value? depth cs fuel := by
  cases fuel with
  | zero => simp [value?]
  | succ fuel => rw [value?, value?, skipSpace_append hws]

theorem isSpace_break (level : Nat) : ∀ c ∈ (style.break level).toList, isSpace c = true := by
  intro c hc
  unfold Style.break at hc
  split at hc
  · rw [String.toList_append, String.toList_ofList, List.mem_append] at hc
    rcases hc with hc | hc
    · obtain rfl : c = '\n' := by simpa using hc
      rfl
    · rw [String.toList_ofList] at hc
      rw [List.eq_of_mem_replicate hc]
      rfl
  · simp at hc

/-! ## Strings -/

theorem hex_control : ∀ n < 0x20, (Text.hex 4 n).length = 4 ∧
    hexUnit? ((Text.hex 4 n).getD 0 ' ') ((Text.hex 4 n).getD 1 ' ') ((Text.hex 4 n).getD 2 ' ')
      ((Text.hex 4 n).getD 3 ' ') = some n := by
  decide +kernel

theorem string?_escapeUnit {c : Char} (hc : c.toNat < 0x20) (acc : List Char) :
    string? acc (escapeUnit c.toNat ++ rest) = string? (c :: acc) rest := by
  obtain ⟨hlength, hunit⟩ := hex_control c.toNat hc
  rw [escapeUnit]
  generalize Text.hex 4 c.toNat = ds at *
  rcases ds with _ | ⟨a, _ | ⟨b, _ | ⟨c', _ | ⟨d, _ | ⟨x, ds⟩⟩⟩⟩⟩ <;> try simp at hlength
  have hunit : hexUnit? a b c' d = some c.toNat := hunit
  simp only [List.cons_append, List.nil_append, string?, hunit]
  rw [if_neg (by omega), if_neg (by omega), Char.ofNat_toNat]

theorem string?_escapeChar (hascii : style.asciiOnly = false) (c : Char) (acc : List Char) :
    string? acc (escapeChar style c ++ rest) = string? (c :: acc) rest := by
  have hcode : ∀ n, c.toNat = n → c = Char.ofNat n := fun n h => h ▸ c.ofNat_toNat.symm
  unfold escapeChar
  simp only [hascii, Bool.false_eq_true, false_and, if_false]
  split
  · subst c
    rfl
  split
  · subst c
    rfl
  repeat
    split
    · rw [hcode _ ‹_›]
      rfl
  split
  · exact string?_escapeUnit ‹_› acc
  · rename_i hslash _ _ _ _ _ hcontrol
    simp [string?, hslash, hcontrol]

/-- A written string reads back, whatever follows it. -/
theorem string?_writeString (hascii : style.asciiOnly = false) (s : String) (rest : List Char) :
    ∃ body, (writeString style s).toList = '"' :: body ∧
      string? [] (body ++ rest) = some (s, rest) := by
  have hbody : ∀ cs acc : List Char, string? acc (cs.flatMap (escapeChar style) ++ '"' :: rest) =
      some (String.ofList (acc.reverse ++ cs), rest) := by
    intro cs
    induction cs with
    | nil => simp [string?]
    | cons c cs ih =>
      intro acc
      rw [List.flatMap_cons, List.append_assoc, string?_escapeChar hascii, ih]
      simp
  refine ⟨s.toList.flatMap (escapeChar style) ++ ['"'], by simp [writeString], ?_⟩
  simpa using hbody s.toList []

/-! ## Values -/

/-- The text is read as the value, whatever follows that cannot extend it. -/
structure Reads (text : List Char) (d : Data) : Prop where
  starts : ∃ c cs, text = c :: cs ∧ isSpace c = false ∧ c ≠ ']'
  value : ∀ depth {fuel rest}, Ends rest → 2 * text.length ≤ fuel →
    value? depth (text ++ rest) fuel = if d.fits depth then some (d, rest) else none

theorem isSpace_of_isDigit {c : Char} (hc : c.isDigit = true) : isSpace c = false := by
  rw [Bool.eq_false_iff]
  intro h
  simp only [isSpace, Bool.or_eq_true, decide_eq_true_eq] at h
  rcases h with ((rfl | rfl) | rfl) | rfl <;> exact absurd hc (by decide)

theorem value?_of_isDigit {c : Char} (hc : c.isDigit = true) (cs : List Char) :
    value? depth (c :: cs) (fuel + 1) = number? (c :: cs) := by
  rw [value?, skipSpace_cons (isSpace_of_isDigit hc)]
  split
  all_goals first
    | rfl
    | rename_i h
      rw [(List.cons.inj h).1] at hc
      exact absurd hc (by decide)

theorem value?_of_minus {c : Char} (hc : c.isDigit = true) (cs : List Char) :
    value? depth ('-' :: c :: cs) (fuel + 1) = number? ('-' :: c :: cs) := by
  rw [value?, skipSpace_cons (by decide)]
  split
  all_goals first
    | rfl
    | rename_i h
      exact absurd (List.cons.inj h).1 (by decide)
    | rename_i h
      rw [(List.cons.inj (List.cons.inj h).2).1] at hc
      exact absurd hc (by decide)

theorem value?_numeral {n : Numeral} (h : n.Valid) :
    value? depth (n.text ++ rest) (fuel + 1) = number? (n.text ++ rest) := by
  obtain ⟨c, cs, hcs⟩ := List.exists_cons_of_ne_nil h.whole_ne_nil
  have hc : c.isDigit = true := h.whole c (by simp [hcs])
  rw [Numeral.text, hcs]
  cases n.negative with
  | true => exact value?_of_minus hc _
  | false => exact value?_of_isDigit hc _

theorem starts_numeral {n : Numeral} (h : n.Valid) :
    ∃ c cs, n.text = c :: cs ∧ isSpace c = false ∧ c ≠ ']' := by
  obtain ⟨c, cs, hcs⟩ := List.exists_cons_of_ne_nil h.whole_ne_nil
  have hc : c.isDigit = true := h.whole c (by simp [hcs])
  rw [Numeral.text, hcs]
  cases n.negative with
  | true => exact ⟨'-', _, rfl, by decide, by decide⟩
  | false =>
    refine ⟨c, _, rfl, isSpace_of_isDigit hc, ?_⟩
    rintro rfl
    exact absurd hc (by decide)

theorem reads_text (hascii : style.asciiOnly = false) (s : String) :
    Reads (writeString style s).toList (.text s) := by
  obtain ⟨body, hbody, -⟩ := string?_writeString hascii s []
  refine ⟨⟨'"', body, hbody, by decide, by decide⟩, fun depth {fuel rest} _ hfuel => ?_⟩
  obtain ⟨body', hbody', hread⟩ := string?_writeString hascii s rest
  rw [hbody'] at hfuel ⊢
  obtain ⟨fuel, rfl⟩ : ∃ k, fuel = k + 1 := ⟨fuel - 1, by simp at hfuel; omega⟩
  rw [List.cons_append, value?, skipSpace_cons (by decide)]
  simp [hread, Data.fits]

theorem reads_numeral {n : Numeral} (h : n.Valid)
    (hfits : ∀ depth, d.fits depth = decide (n.whole.length ≤ Number.digitLimit))
    (hdata : n.data = d) : Reads n.text d := by
  refine ⟨starts_numeral h, fun depth {fuel rest} hrest hfuel => ?_⟩
  obtain ⟨c, cs, hcs, -⟩ := starts_numeral h
  obtain ⟨fuel, rfl⟩ : ∃ k, fuel = k + 1 := ⟨fuel - 1, by simp [hcs] at hfuel; omega⟩
  rw [value?_numeral h, Numeral.number?_text h hrest, hdata, hfits]
  simp only [decide_eq_true_eq]

theorem reads_int (n : Int) : Reads (toString n).toList (.int n) := by
  rw [Numeral.toList_toString]
  exact reads_numeral (Numeral.valid_ofInt n) (fun _ => rfl) (Numeral.data_ofInt n)

theorem reads_word {word : String} {c : Char} {cs : List Char} (hword : word.toList = c :: cs)
    (hc : isSpace c = false ∧ c ≠ ']') (hfits : ∀ depth, d.fits depth = true)
    (hvalue : ∀ depth fuel rest, value? depth (c :: (cs ++ rest)) (fuel + 1) =
      word? word d (c :: (cs ++ rest))) : Reads word.toList d := by
  refine ⟨⟨c, cs, hword, hc⟩, fun depth {fuel rest} _ hfuel => ?_⟩
  obtain ⟨fuel, rfl⟩ : ∃ k, fuel = k + 1 := ⟨fuel - 1, by simp [hword] at hfuel; omega⟩
  rw [hfits, hword, List.cons_append, hvalue, word?, hword]
  have hdrop : (c :: (cs ++ rest)).drop word.length = rest := by
    rw [← String.length_toList, hword, ← List.cons_append, List.drop_left]
  simp [hdrop]

theorem reads_null : Reads "null".toList .null :=
  reads_word rfl (by decide) (fun _ => rfl) fun _ _ _ => rfl

theorem reads_bool (b : Bool) : Reads (if b then "true" else "false").toList (.bool b) := by
  cases b with
  | true => exact reads_word rfl (by decide) (fun _ => rfl) fun _ _ _ => rfl
  | false => exact reads_word rfl (by decide) (fun _ => rfl) fun _ _ _ => rfl

theorem reads_float (x : Double) :
    Reads (Layout.document.write x).toList (if x.isFinite then .float x else .null) := by
  cases x with
  | nan => exact reads_null
  | infinity negative => cases negative <;> exact reads_null
  | finite negative m e hc =>
    rw [Numeral.toList_write]
    refine reads_numeral (Numeral.valid_ofFinite hc) (fun depth => ?_) (Numeral.data_ofFinite hc)
    exact (decide_eq_true (Numeral.length_whole_ofDecimal ..)).symm

/-! ## Lists and objects -/

theorem toList_intercalate (sep first : String) (others : List String) :
    (sep.intercalate (first :: others)).toList =
      first.toList ++ others.flatMap fun part => sep.toList ++ part.toList := by
  induction others generalizing first with
  | nil => simp
  | cons part others ih =>
    rw [String.intercalate_cons_cons, String.toList_append, String.toList_append, ih]
    simp

/-- Parts between brackets: each but the first stands behind a comma and a break. -/
theorem toList_enclose (style : Style) (level : Nat) (left right first : String)
    (others : List String) :
    (style.enclose level left right (first :: others)).toList =
      left.toList ++ ((style.break (level + 1)).toList ++ (first.toList ++
        ((others.map String.toList).flatMap (fun part =>
          ',' :: ((style.break (level + 1)).toList ++ part)) ++
            ((style.break level).toList ++ right.toList)))) := by
  simp only [Style.enclose, String.toList_append, toList_intercalate, List.flatMap_map,
    List.append_assoc]
  rfl

/-- What stands behind an item cannot extend a number. -/
theorem ends_tail (texts : List (List Char)) (ws : List Char) {ws' : List Char} {close : Char}
    (hws : ∀ c ∈ ws', isSpace c = true) (hclose : close = ']' ∨ close = '\x7d') :
    Ends (texts.flatMap (fun text => ',' :: (ws ++ text)) ++ (ws' ++ close :: rest)) := by
  intro c hc
  cases texts with
  | cons text texts =>
    obtain rfl : ',' = c := Option.some.inj hc
    decide
  | nil =>
    cases ws' with
    | cons w ws' =>
      obtain rfl : w = c := Option.some.inj hc
      have hw := hws w (by simp)
      simp only [isSpace, Bool.or_eq_true, decide_eq_true_eq] at hw
      rcases hw with ((rfl | rfl) | rfl) | rfl <;> decide
    | nil =>
      obtain rfl : close = c := Option.some.inj hc
      rcases hclose with rfl | rfl <;> decide

theorem items?_reads (depth : Nat) (rest : List Char) {texts : List (List Char)}
    {items : List Data} (hitems : List.Forall₂ Reads texts items) {first : List Char}
    (hfirst : Reads first d) {ws ws' ws₀ : List Char} (hws : ∀ c ∈ ws, isSpace c = true)
    (hws' : ∀ c ∈ ws', isSpace c = true) (hws₀ : ∀ c ∈ ws₀, isSpace c = true)
    (acc : List Data)
    (hfuel : 2 * (first ++ texts.flatMap fun text => ',' :: (ws ++ text)).length < fuel) :
    items? depth acc (ws₀ ++ (first ++ (texts.flatMap (fun text => ',' :: (ws ++ text)) ++
        (ws' ++ ']' :: rest)))) fuel =
      if d.fits depth && Data.fitsItems items depth then some (acc.reverse ++ d :: items, rest)
      else none := by
  induction hitems generalizing first d acc fuel ws₀ with
  | nil =>
    obtain ⟨fuel, rfl⟩ : ∃ k, fuel = k + 1 := ⟨fuel - 1, by omega⟩
    simp only [List.flatMap_nil, List.append_nil] at hfuel
    rw [items?, value?_space hws₀, hfirst.value depth (ends_tail _ _ hws' (Or.inl rfl)) (by omega)]
    cases hfits : d.fits depth with
    | false => rfl
    | true =>
      simp only [if_true, List.flatMap_nil, List.nil_append, skipSpace_append hws',
        skipSpace_cons (show isSpace ']' = false by decide)]
      simp [Data.fitsItems]
  | cons hsecond hitems ih =>
    rename_i text item texts items
    obtain ⟨fuel, rfl⟩ : ∃ k, fuel = k + 1 := ⟨fuel - 1, by omega⟩
    rw [List.flatMap_cons, List.length_append, List.length_append, List.length_cons,
      List.length_append] at hfuel
    rw [items?, value?_space hws₀, hfirst.value depth (ends_tail _ _ hws' (Or.inl rfl)) (by omega)]
    cases hfits : d.fits depth with
    | false => rfl
    | true =>
      simp only [if_true, List.flatMap_cons, List.cons_append,
        skipSpace_cons (show isSpace ',' = false by decide), List.append_assoc]
      rw [ih hsecond hws (d :: acc)]
      · simp [Data.fitsItems]
      · rw [List.length_append]
        omega

theorem toList_enclose_nil (style : Style) (level : Nat) (left right : String) :
    (style.enclose level left right []).toList = left.toList ++ right.toList :=
  String.toList_append

theorem skipSpace_of_starts {ws first tail : List Char} {c : Char} {cs : List Char}
    (hws : ∀ c ∈ ws, isSpace c = true) (hfirst : first = c :: cs) (hc : isSpace c = false) :
    skipSpace (ws ++ (first ++ tail)) = first ++ tail := by
  rw [skipSpace_append hws, hfirst, List.cons_append, skipSpace_cons hc]

theorem reads_items {texts : List (List Char)} {items : List Data} {first : List Char}
    {ws ws' : List Char} (hitems : List.Forall₂ Reads texts items) (hfirst : Reads first d)
    (hws : ∀ c ∈ ws, isSpace c = true) (hws' : ∀ c ∈ ws', isSpace c = true) :
    Reads ('[' :: (ws ++ (first ++ (texts.flatMap (fun text => ',' :: (ws ++ text)) ++
      (ws' ++ [']']))))) (.list (d :: items)) := by
  refine ⟨⟨'[', _, rfl, by decide, by decide⟩, fun depth {fuel rest} _ hfuel => ?_⟩
  obtain ⟨c, cs, hcs, hspace, hclose⟩ := hfirst.starts
  rw [List.length_cons, List.length_append, List.length_append, List.length_append] at hfuel
  obtain ⟨fuel, rfl⟩ : ∃ k, fuel = k + 1 := ⟨fuel - 1, by omega⟩
  simp only [List.cons_append, List.append_assoc, List.nil_append]
  rw [value?, skipSpace_cons (by decide)]
  simp only [skipSpace_of_starts hws hcs hspace]
  cases depth with
  | zero =>
    simp [hcs, hclose, Data.fits]
  | succ depth =>
    have hnone : ∀ c ∈ ([] : List Char), isSpace c = true := by simp
    have hbound : 2 * (first ++ texts.flatMap fun text => ',' :: (ws ++ text)).length < fuel := by
      rw [List.length_append]
      omega
    have hread := items?_reads depth rest hitems hfirst hws hws' hnone [] hbound
    rw [List.nil_append, hcs, List.cons_append] at hread
    rw [hcs, List.cons_append]
    simp [hclose, hread, Data.fits, Data.fitsItems]

theorem reads_list {texts : List String} {items : List Data} {level : Nat}
    (h : List.Forall₂ (fun text d => Reads text.toList d) texts items) :
    Reads (style.enclose level "[" "]" texts).toList (.list items) := by
  cases h with
  | nil =>
    rw [toList_enclose_nil]
    refine ⟨⟨'[', [']'], rfl, by decide, by decide⟩, fun depth {fuel rest} _ hfuel => ?_⟩
    obtain ⟨fuel, rfl⟩ : ∃ k, fuel = k + 1 := ⟨fuel - 1, by simp at hfuel; omega⟩
    rfl
  | cons hfirst hothers =>
    rw [toList_enclose]
    exact reads_items (List.forall₂_map_left_iff.mpr hothers) hfirst (isSpace_break _)
      (isSpace_break _)

/-! ## Objects -/

/-- The text is that of an entry whose value reads back. -/
def ReadsEntry (style : Style) (text : List Char) (e : String × Data) : Prop :=
  ∃ value, text = (writeString style e.1).toList ++ (style.colon.toList ++ value) ∧ Reads value e.2

theorem colon_append (style : Style) : ∃ ws, style.colon.toList = ':' :: ws ∧
    ∀ c ∈ ws, isSpace c = true := by
  unfold Style.colon
  split
  · exact ⟨[' '], rfl, List.forall_mem_singleton.mpr rfl⟩
  · exact ⟨[], rfl, List.forall_mem_nil _⟩

/-- One entry is read, up to the comma or the brace behind it. -/
theorem entries?_step (hascii : style.asciiOnly = false) {first tail ws : List Char}
    {e : String × Data} (hfirst : ReadsEntry style first e) (hws : ∀ c ∈ ws, isSpace c = true)
    (htail : Ends tail) (acc : List (String × Data)) (hfuel : 2 * first.length ≤ fuel) :
    (skipSpace tail = ',' :: rest → entries? depth acc (ws ++ (first ++ tail)) (fuel + 1) =
      if e.2.fits depth then entries? depth (e :: acc) rest fuel else none) ∧
    (skipSpace tail = '\x7d' :: rest → entries? depth acc (ws ++ (first ++ tail)) (fuel + 1) =
      if e.2.fits depth then some ((e :: acc).reverse, rest) else none) := by
  obtain ⟨value, htext, hvalue⟩ := hfirst
  obtain ⟨blank, hcolon, hblank⟩ := colon_append style
  obtain ⟨body, hbody, hstring⟩ :=
    string?_writeString hascii e.1 (':' :: (blank ++ (value ++ tail)))
  rw [htext, hbody, hcolon] at hfuel
  have hbound : 2 * value.length ≤ fuel := by
    simp only [List.length_append] at hfuel
    omega
  have hread := hvalue.value depth htail hbound
  have hentry : ws ++ (first ++ tail) =
      ws ++ ('"' :: (body ++ ':' :: (blank ++ (value ++ tail)))) := by
    rw [htext, hbody, hcolon]
    simp
  rw [hentry, entries?, skipSpace_append hws, skipSpace_cons (by decide)]
  simp only [hstring, skipSpace_cons (show isSpace ':' = false by decide), value?_space hblank,
    hread]
  cases e.2.fits depth with
  | false => simp
  | true =>
    refine ⟨fun h => ?_, fun h => ?_⟩
    · simp [h]
    · simp [h]

theorem entries?_reads (depth : Nat) (rest : List Char) (hascii : style.asciiOnly = false)
    {texts : List (List Char)} {entries : List (String × Data)} (hentries : List.Forall₂ (ReadsEntry style) texts entries)
    {first : List Char} {e : String × Data} (hfirst : ReadsEntry style first e)
    {ws ws' ws₀ : List Char} (hws : ∀ c ∈ ws, isSpace c = true)
    (hws' : ∀ c ∈ ws', isSpace c = true) (hws₀ : ∀ c ∈ ws₀, isSpace c = true)
    (acc : List (String × Data))
    (hfuel : 2 * (first ++ texts.flatMap fun text => ',' :: (ws ++ text)).length < fuel) :
    entries? depth acc (ws₀ ++ (first ++ (texts.flatMap (fun text => ',' :: (ws ++ text)) ++
        (ws' ++ '\x7d' :: rest)))) fuel =
      if e.2.fits depth && Data.fitsEntries entries depth then
        some (acc.reverse ++ e :: entries, rest)
      else none := by
  induction hentries generalizing first e acc fuel ws₀ with
  | nil =>
    obtain ⟨fuel, rfl⟩ : ∃ k, fuel = k + 1 := ⟨fuel - 1, by omega⟩
    simp only [List.flatMap_nil, List.append_nil] at hfuel
    have hskip : skipSpace (ws' ++ '\x7d' :: rest) = '\x7d' :: rest := by
      rw [skipSpace_append hws', skipSpace_cons (by decide)]
    have hends : Ends (ws' ++ '\x7d' :: rest) := ends_tail [] [] hws' (Or.inr rfl)
    rw [List.flatMap_nil, List.nil_append,
      (entries?_step hascii hfirst hws₀ hends acc (by omega)).2 hskip]
    simp [Data.fitsEntries]
  | cons hsecond hentries ih =>
    rename_i text entry texts entries
    obtain ⟨fuel, rfl⟩ : ∃ k, fuel = k + 1 := ⟨fuel - 1, by omega⟩
    rw [List.flatMap_cons, List.length_append, List.length_append, List.length_cons,
      List.length_append] at hfuel
    have hbound : 2 * (text ++ texts.flatMap fun text => ',' :: (ws ++ text)).length < fuel := by
      rw [List.length_append]
      omega
    have hskip : skipSpace ((text :: texts).flatMap (fun text => ',' :: (ws ++ text)) ++
        (ws' ++ '\x7d' :: rest)) = ',' :: (ws ++ (text ++ (texts.flatMap
          (fun text => ',' :: (ws ++ text)) ++ (ws' ++ '\x7d' :: rest)))) := by
      rw [List.flatMap_cons, List.cons_append, List.cons_append, skipSpace_cons (by decide)]
      simp
    rw [(entries?_step hascii hfirst hws₀ (ends_tail _ _ hws' (Or.inr rfl)) acc (by omega)).1 hskip,
      ih hsecond hws (e :: acc) hbound]
    cases e.2.fits depth <;> simp [Data.fitsEntries]

theorem starts_entry (hascii : style.asciiOnly = false) {first : List Char} {e : String × Data}
    (h : ReadsEntry style first e) : ∃ cs, first = '"' :: cs := by
  obtain ⟨value, htext, -⟩ := h
  obtain ⟨body, hbody, -⟩ := string?_writeString hascii e.1 []
  exact ⟨body ++ (style.colon.toList ++ value), by rw [htext, hbody, List.cons_append]⟩

theorem reads_entries (hascii : style.asciiOnly = false) {texts : List (List Char)}
    {entries : List (String × Data)} {first : List Char} {e : String × Data}
    {ws ws' : List Char} (hentries : List.Forall₂ (ReadsEntry style) texts entries)
    (hfirst : ReadsEntry style first e) (hws : ∀ c ∈ ws, isSpace c = true)
    (hws' : ∀ c ∈ ws', isSpace c = true) :
    Reads ('\x7b' :: (ws ++ (first ++ (texts.flatMap (fun text => ',' :: (ws ++ text)) ++
      (ws' ++ ['\x7d']))))) (.object (e :: entries)) := by
  refine ⟨⟨'\x7b', _, rfl, by decide, by decide⟩, fun depth {fuel rest} _ hfuel => ?_⟩
  obtain ⟨cs, hcs⟩ := starts_entry hascii hfirst
  rw [List.length_cons, List.length_append, List.length_append, List.length_append] at hfuel
  obtain ⟨fuel, rfl⟩ : ∃ k, fuel = k + 1 := ⟨fuel - 1, by omega⟩
  simp only [List.cons_append, List.append_assoc, List.nil_append]
  rw [value?, skipSpace_cons (by decide)]
  simp only [skipSpace_of_starts hws hcs (by decide)]
  cases depth with
  | zero =>
    simp [hcs, Data.fits]
  | succ depth =>
    have hnone : ∀ c ∈ ([] : List Char), isSpace c = true := by simp
    have hbound : 2 * (first ++ texts.flatMap fun text => ',' :: (ws ++ text)).length < fuel := by
      rw [List.length_append]
      omega
    have hread := entries?_reads depth rest hascii hentries hfirst hws hws' hnone [] hbound
    rw [List.nil_append, hcs, List.cons_append] at hread
    rw [hcs, List.cons_append]
    simp [hread, Data.fits, Data.fitsEntries]

theorem reads_object (hascii : style.asciiOnly = false) {texts : List String}
    {entries : List (String × Data)} {level : Nat}
    (h : List.Forall₂ (fun text e => ReadsEntry style text.toList e) texts entries) :
    Reads (style.enclose level "\x7b" "\x7d" texts).toList (.object entries) := by
  cases h with
  | nil =>
    rw [toList_enclose_nil]
    refine ⟨⟨'\x7b', ['\x7d'], rfl, by decide, by decide⟩, fun depth {fuel rest} _ hfuel => ?_⟩
    obtain ⟨fuel, rfl⟩ : ∃ k, fuel = k + 1 := ⟨fuel - 1, by simp at hfuel; omega⟩
    rfl
  | cons hfirst hothers =>
    rw [toList_enclose]
    exact reads_entries hascii (List.forall₂_map_left_iff.mpr hothers) hfirst (isSpace_break _)
      (isSpace_break _)

/-! ## Documents -/

theorem readsEntry_of_reads {key text : String} (h : Reads text.toList d) :
    ReadsEntry style (writeString style key ++ style.colon ++ text).toList (key, d) :=
  ⟨text.toList, by simp, h⟩

variable {compact : Bool}

theorem reads_setting_of_payload {level : Nat} {v : Setting}
    (h : Reads (writePayload (.file compact) (level + 1) v).toList v.printedContent) :
    Reads (writeSetting (.file compact) level v).toList v.printed := by
  rw [writeSetting, Setting.printed]
  exact reads_object rfl (.cons (readsEntry_of_reads (reads_text rfl _))
    (.cons (readsEntry_of_reads h) .nil))

mutual

theorem reads_payload (level : Nat) (v : Setting) :
    Reads (writePayload (.file compact) level v).toList v.printedContent := by
  cases v with
  | null =>
    rw [writePayload]
    exact reads_null
  | bool b =>
    rw [writePayload]
    exact reads_bool b
  | int n =>
    rw [writePayload]
    exact reads_int n
  | float x =>
    rw [writePayload]
    exact reads_float x
  | string s =>
    rw [writePayload]
    exact reads_text rfl s
  | array items =>
    rw [writePayload]
    exact reads_list (reads_settings (level + 1) items)
  | object entries =>
    rw [writePayload]
    exact reads_object rfl (reads_fields (level + 1) entries)

theorem reads_settings (level : Nat) (items : List Setting) :
    List.Forall₂ (fun text d => Reads text.toList d) (writeSettings (.file compact) level items)
      (Setting.printedItems items) := by
  cases items with
  | nil =>
    rw [writeSettings]
    exact .nil
  | cons v items =>
    rw [writeSettings]
    exact .cons (reads_setting_of_payload (reads_payload (level + 1) v))
      (reads_settings level items)

theorem reads_fields (level : Nat) (entries : List (String × Setting)) :
    List.Forall₂ (fun text e => ReadsEntry (.file compact) text.toList e)
      (writeFields (.file compact) level entries) (Setting.printedEntries entries) := by
  cases entries with
  | nil =>
    rw [writeFields]
    exact .nil
  | cons e entries =>
    obtain ⟨key, v⟩ := e
    rw [writeFields]
    exact .cons (readsEntry_of_reads (reads_setting_of_payload (reads_payload (level + 1) v)))
      (reads_fields level entries)

end

mutual

/-- The text of a value is read as its printed form. -/
theorem reads_write? (level : Nat) (d : Data) {text : String}
    (h : write? (.file compact) level d = some text) : Reads text.toList d.printed := by
  cases d with
  | null =>
    obtain rfl := Option.some.inj h
    exact reads_null
  | bool b =>
    obtain rfl := Option.some.inj h
    exact reads_bool b
  | int n =>
    obtain rfl := Option.some.inj h
    exact reads_int n
  | float x =>
    obtain rfl := Option.some.inj h
    exact reads_float x
  | text s =>
    obtain rfl := Option.some.inj h
    exact reads_text rfl s
  | list items =>
    obtain ⟨texts, htexts, rfl⟩ := Option.map_eq_some_iff.mp h
    exact reads_list (reads_writeItems? (level + 1) items htexts)
  | tuple items =>
    obtain ⟨texts, htexts, rfl⟩ := Option.map_eq_some_iff.mp h
    exact reads_list (reads_writeItems? (level + 1) items htexts)
  | object entries =>
    obtain ⟨texts, htexts, rfl⟩ := Option.map_eq_some_iff.mp h
    exact reads_object rfl (reads_writeEntries? (level + 1) entries htexts)
  | mapping pairs =>
    obtain ⟨texts, htexts, rfl⟩ := Option.map_eq_some_iff.mp h
    exact reads_object rfl (reads_writePairs? (level + 1) pairs htexts)
  | member _ _ value => exact reads_write? level value h
  | setting v =>
    obtain rfl := Option.some.inj h
    exact reads_setting_of_payload (reads_payload (level + 1) v)
  | kind k =>
    obtain rfl := Option.some.inj h
    exact reads_text rfl k.label
  | named s => cases h
  | sealed => cases h

theorem reads_writeItems? (level : Nat) (items : List Data) {texts : List String}
    (h : writeItems? (.file compact) level items = some texts) :
    List.Forall₂ (fun text d => Reads text.toList d) texts (Data.printedItems items) := by
  cases items with
  | nil =>
    obtain rfl := Option.some.inj h
    exact .nil
  | cons d items =>
    simp only [writeItems?, Option.bind_eq_bind, Option.bind_eq_some_iff] at h
    obtain ⟨first, hfirst, others, hothers, hall⟩ := h
    obtain rfl := Option.some.inj hall
    exact .cons (reads_write? level d hfirst) (reads_writeItems? level items hothers)

theorem reads_writeEntries? (level : Nat) (entries : List (String × Data)) {texts : List String}
    (h : writeEntries? (.file compact) level entries = some texts) :
    List.Forall₂ (fun text e => ReadsEntry (.file compact) text.toList e) texts
      (Data.printedEntries entries) := by
  cases entries with
  | nil =>
    obtain rfl := Option.some.inj h
    exact .nil
  | cons e entries =>
    obtain ⟨key, d⟩ := e
    simp only [writeEntries?, Option.bind_eq_bind, Option.bind_eq_some_iff] at h
    obtain ⟨first, hfirst, others, hothers, hall⟩ := h
    obtain rfl := Option.some.inj hall
    exact .cons (readsEntry_of_reads (reads_write? level d hfirst))
      (reads_writeEntries? level entries hothers)

theorem reads_writePairs? (level : Nat) (pairs : List (Data × Data)) {texts : List String}
    (h : writePairs? (.file compact) level pairs = some texts) :
    List.Forall₂ (fun text e => ReadsEntry (.file compact) text.toList e) texts
      (Data.printedPairs pairs) := by
  cases pairs with
  | nil =>
    obtain rfl := Option.some.inj h
    exact .nil
  | cons e pairs =>
    obtain ⟨key, d⟩ := e
    simp only [writePairs?, Option.bind_eq_bind, Option.bind_eq_some_iff] at h
    obtain ⟨name, hname, first, hfirst, others, hothers, hall⟩ := h
    obtain rfl := Option.some.inj hall
    rw [Data.printedPairs, hname, Option.getD_some]
    exact .cons (readsEntry_of_reads (reads_write? level d hfirst))
      (reads_writePairs? level pairs hothers)

end

/-- The text of a document is read as the printed form of what was written, unless that is nested
too deep or holds an integer that is too long. -/
theorem parse?_document? {text : String} (h : document? (.file compact) d = some text) :
    parse? text = if d.printed.fits depthLimit then some d.printed else none := by
  have hends : Ends [] := by simp [Ends]
  have hfuel : 2 * text.toList.length ≤ 2 * text.toList.length + 2 := by omega
  have hread := (reads_write? 0 d h).value depthLimit hends hfuel
  rw [List.append_nil] at hread
  simp only [parse?, parseWithin, hread]
  cases d.printed.fits depthLimit <;> rfl

end Json

end Wirework
