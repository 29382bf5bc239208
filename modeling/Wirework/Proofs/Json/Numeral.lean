import Wirework.Json.Writer
import Wirework.Json.Reader
import Wirework.Proofs.Number.Shortest

/-!
# Numbers in JSON texts

A `Numeral` is a number as it is written, split into its parts. Main statements: the reader takes a
numeral apart again, whatever follows that cannot extend it (`number?_text`), and the numerals of a
project file stand for the numbers that they were written for (`data_ofInt`, `data_ofFinite`).
-/

namespace Wirework.Json

/-- What follows cannot extend a number. -/
def Ends (rest : List Char) : Prop :=
  ∀ c ∈ rest.head?, c.isDigit = false ∧ c ≠ '.' ∧ c ≠ 'e' ∧ c ≠ 'E'

/-! ## Digits -/

theorem digits_append {ds rest : List Char} (hds : ∀ c ∈ ds, c.isDigit = true)
    (hrest : ∀ c ∈ rest.head?, c.isDigit = false) : digits (ds ++ rest) = (ds, rest) := by
  rw [digits, List.span_eq_takeWhile_dropWhile, List.takeWhile_append_of_pos hds,
    List.dropWhile_append_of_pos hds]
  cases rest with
  | nil => simp
  | cons c rest =>
    have hc : c.isDigit = false := hrest c rfl
    simp [hc]

theorem natOf_eq (ds : List Char) : natOf ds = Nat.ofDigitChars 10 ds 0 := by
  rw [natOf, Number.ofDigits, List.foldl_map, Nat.ofDigitChars_eq_foldl]
  simp only [Nat.mul_comm]

@[simp] theorem natOf_toDigits (n : Nat) : natOf (Nat.toDigits 10 n) = n := by
  rw [natOf_eq, Nat.ofDigitChars_ten_toDigits]

theorem natOf_append (ds es : List Char) :
    natOf (ds ++ es) = natOf ds * 10 ^ es.length + natOf es := by
  rw [natOf_eq, natOf_eq, natOf_eq, Nat.ofDigitChars_append, Nat.ofDigitChars_eq_ofDigitChars_zero,
    Nat.mul_comm]

theorem natOf_zeros (k : Nat) : natOf (List.replicate k '0') = 0 := by
  rw [natOf_eq, Nat.ofDigitChars_replicate_zero, Nat.mul_zero]

theorem natOf_append_zeros (ds : List Char) (k : Nat) :
    natOf (ds ++ List.replicate k '0') = natOf ds * 10 ^ k := by
  rw [natOf_append, natOf_zeros, Nat.add_zero, List.length_replicate]

theorem natOf_zeros_append (ds : List Char) (k : Nat) :
    natOf (List.replicate k '0' ++ ds) = natOf ds := by
  rw [natOf_append, natOf_zeros, Nat.zero_mul, Nat.zero_add]

theorem isDigit_toDigits {n : Nat} {c : Char} (h : c ∈ Nat.toDigits 10 n) : c.isDigit = true :=
  Nat.isDigit_of_mem_toDigits (by decide) (by decide) h

/-- No number but zero begins with a zero. -/
theorem head_toDigits {n : Nat} (hn : n ≠ 0) : (Nat.toDigits 10 n).head? ≠ some '0' := by
  induction n using Nat.strongRecOn with
  | ind n ih =>
    rw [Nat.toDigits_eq_if (by decide)]
    split
    · rename_i hlt
      have hdigit : ∀ k < 10, k ≠ 0 → k.digitChar ≠ '0' := by decide
      simpa using hdigit n hlt hn
    · have hhead := ih (n / 10) (by omega) (by omega)
      rwa [List.head?_append_of_ne_nil _ Nat.toDigits_ne_nil]

/-! ## Numerals -/

/-- The parts of a written number; an exponent is a sign and digits. -/
structure Numeral where
  negative : Bool
  whole : List Char
  fraction : Option (List Char)
  exponent : Option (Bool × List Char)

namespace Numeral

variable {n : Numeral} {rest : List Char}

def ofInt (n : Int) : Numeral := ⟨n < 0, Nat.toDigits 10 n.natAbs, none, none⟩

def fractionText (n : Numeral) : List Char := n.fraction.elim [] ('.' :: ·)

def exponentText (n : Numeral) : List Char :=
  n.exponent.elim [] fun e => 'e' :: (if e.1 then '-' else '+') :: e.2

def text (n : Numeral) : List Char :=
  (if n.negative then ['-'] else []) ++ (n.whole ++ (n.fractionText ++ n.exponentText))

/-- Every part that is there has a digit and only digits, and the whole part has no zero in
front. -/
structure Valid (n : Numeral) : Prop where
  whole : ∀ c ∈ n.whole, c.isDigit = true
  whole_ne_nil : n.whole ≠ []
  head : 1 < n.whole.length → n.whole.head? ≠ some '0'
  fraction : ∀ ds ∈ n.fraction, ds ≠ [] ∧ ∀ c ∈ ds, c.isDigit = true
  exponent : ∀ e ∈ n.exponent, e.2 ≠ [] ∧ ∀ c ∈ e.2, c.isDigit = true

/-- The digits with the fraction, and the power of ten of the last one. -/
def digits (n : Numeral) : Nat := natOf (n.whole ++ n.fraction.getD [])

def power (n : Numeral) : Int :=
  (n.exponent.map fun e => Number.signed e.1 (natOf e.2)).getD 0 - (n.fraction.getD []).length

def data (n : Numeral) : Data :=
  if n.fraction.isNone && n.exponent.isNone then .int (Number.signed n.negative (natOf n.whole))
  else .float (Double.ofDecimal n.negative n.digits n.power)

theorem exponent?_text (h : n.Valid) (hrest : Ends rest) :
    exponent? (n.exponentText ++ rest) =
      some (n.exponent.map fun e => Number.signed e.1 (natOf e.2), rest) := by
  rw [exponentText]
  cases hexp : n.exponent with
  | none =>
    cases rest with
    | nil => rfl
    | cons c rest =>
      obtain ⟨-, -, he, hE⟩ := hrest c rfl
      simp [exponent?, he, hE]
  | some e =>
    obtain ⟨negative, ds⟩ := e
    obtain ⟨hne, hds⟩ : ds ≠ [] ∧ ∀ c ∈ ds, c.isDigit = true := h.exponent _ hexp
    have hsign : Number.takeSign ((if negative then '-' else '+') :: (ds ++ rest)) =
        (negative, ds ++ rest) := by
      cases negative <;> rfl
    rw [Option.elim_some, List.cons_append, List.cons_append, exponent?, if_pos (Or.inl rfl), hsign]
    simp only [digits_append hds fun c hc => (hrest c hc).1]
    obtain ⟨d, ds, rfl⟩ := List.exists_cons_of_ne_nil hne
    rfl

theorem fraction?_text (h : n.Valid) (hrest : Ends rest) :
    fraction? (n.fractionText ++ (n.exponentText ++ rest)) =
      some (n.fraction, n.exponentText ++ rest) := by
  have htail : ∀ c ∈ (n.exponentText ++ rest).head?, c.isDigit = false ∧ c ≠ '.' := by
    rw [exponentText]
    cases n.exponent with
    | none => exact fun c hc => ⟨(hrest c hc).1, (hrest c hc).2.1⟩
    | some e =>
      intro c hc
      obtain rfl := Option.some.inj hc
      decide
  rw [fractionText]
  cases hfrac : n.fraction with
  | none =>
    generalize n.exponentText ++ rest = tail at *
    cases tail with
    | nil => rfl
    | cons c tail => simp [fraction?, (htail c rfl).2]
  | some ds =>
    obtain ⟨hne, hds⟩ := h.fraction _ hfrac
    rw [Option.elim_some, List.cons_append, fraction?, digits_append hds fun c hc => (htail c hc).1]
    obtain ⟨d, ds, rfl⟩ := List.exists_cons_of_ne_nil hne
    rfl

/-- The text after the whole part does not go on with a digit. -/
theorem head_tail (hrest : Ends rest) :
    ∀ c ∈ (n.fractionText ++ (n.exponentText ++ rest)).head?, c.isDigit = false := by
  rw [fractionText, exponentText]
  cases n.fraction with
  | none =>
    cases n.exponent with
    | none => exact fun c hc => (hrest c hc).1
    | some e =>
      intro c hc
      obtain rfl := Option.some.inj hc
      decide
  | some ds =>
    intro c hc
    obtain rfl := Option.some.inj hc
    decide

/-- The reader takes a numeral apart, unless its whole part is too long. -/
theorem number?_text (h : n.Valid) (hrest : Ends rest) :
    number? (n.text ++ rest) =
      if n.whole.length ≤ Number.digitLimit then some (n.data, rest) else none := by
  have hbody : Json.digits (n.whole ++ (n.fractionText ++ (n.exponentText ++ rest))) =
      (n.whole, n.fractionText ++ (n.exponentText ++ rest)) :=
    digits_append h.whole (head_tail hrest)
  have hhead : (n.whole.isEmpty || (n.whole.length > 1 && n.whole.head? = some '0')) = false := by
    simpa [h.whole_ne_nil] using h.head
  unfold number?
  split
  rename_i negative body hsign
  have hsplit : negative = n.negative ∧
      body = n.whole ++ (n.fractionText ++ (n.exponentText ++ rest)) := by
    have htext : n.text ++ rest = (if n.negative then ['-'] else []) ++
        (n.whole ++ (n.fractionText ++ (n.exponentText ++ rest))) := by
      simp [text]
    rw [htext] at hsign
    cases hneg : n.negative with
    | true =>
      simpa [hneg, eq_comm] using hsign
    | false =>
      obtain ⟨d, ds, hds⟩ := List.exists_cons_of_ne_nil h.whole_ne_nil
      have hd : d ≠ '-' := by
        rintro rfl
        exact absurd (h.whole '-' (by simp [hds])) (by decide)
      simpa [hneg, hds, hd, eq_comm] using hsign
  obtain ⟨rfl, rfl⟩ := hsplit
  rw [hbody]
  simp only [hhead, if_false, Bool.false_eq_true, fraction?_text h hrest]
  by_cases hlength : n.whole.length ≤ Number.digitLimit
  · rw [if_pos hlength, if_neg (Nat.not_lt.mpr hlength)]
    simp only [Option.bind_eq_bind, Option.bind_some, exponent?_text h hrest, Option.isNone_map,
      data, digits, power]
    split <;> rfl
  · rw [if_neg hlength, if_pos (Nat.lt_of_not_le hlength)]

/-! ## Integers -/

theorem toList_toString (n : Int) : (toString n).toList = (ofInt n).text := by
  cases n with
  | ofNat n =>
    change (Nat.repr n).toList = _
    simp [ofInt, text, fractionText, exponentText, Int.not_lt.mpr (Int.natCast_nonneg n)]
  | negSucc n =>
    change ("-" ++ Nat.repr (n + 1)).toList = _
    simp [ofInt, text, fractionText, exponentText]

theorem valid_ofInt (n : Int) : (ofInt n).Valid where
  whole _ hc := isDigit_toDigits hc
  whole_ne_nil := Nat.toDigits_ne_nil
  head hlength := by
    refine head_toDigits fun h0 => ?_
    simp [ofInt, h0] at hlength
  fraction _ h := by cases h
  exponent _ h := by cases h

theorem signed_natAbs (n : Int) : Number.signed (n < 0) n.natAbs = n := by
  unfold Number.signed
  split
  · have := of_decide_eq_true ‹_›
    omega
  · have := of_decide_eq_false (Bool.eq_false_iff.mpr ‹_›)
    omega

theorem data_ofInt (n : Int) : (ofInt n).data = .int n := by
  simp [ofInt, data, signed_natAbs]

/-! ## Decimals -/

def ofDecimal (negative : Bool) (d : Decimal) : Numeral :=
  let ds := Nat.toDigits 10 d.digits
  let exponent := d.power + ds.length - 1
  if Layout.document.leastExponent ≤ exponent ∧ exponent < Layout.document.exponentLimit then
    if exponent < 0 then
      ⟨negative, ['0'], some (List.replicate (exponent.natAbs - 1) '0' ++ ds), none⟩
    else
      let whole := exponent.toNat + 1
      if ds.length ≤ whole then
        ⟨negative, ds ++ List.replicate (whole - ds.length) '0', some ['0'], none⟩
      else ⟨negative, ds.take whole, some (ds.drop whole), none⟩
  else
    ⟨negative, ds.take 1, if ds.length ≤ 1 then none else some (ds.drop 1),
      some (exponent < 0, Nat.toDigits 10 exponent.natAbs)⟩

/-- Exponents have no least width. -/
theorem padLeft_toDigits (n : Nat) :
    Layout.padLeft Layout.document.exponentWidth (Nat.toDigits 10 n) = Nat.toDigits 10 n := by
  have hpos : 1 ≤ (Nat.toDigits 10 n).length := Nat.length_toDigits_pos
  rw [Layout.padLeft, Layout.document, Nat.sub_eq_zero_of_le hpos]
  rfl

theorem text_ofDecimal (negative : Bool) (d : Decimal) :
    (ofDecimal negative d).text =
      (if negative then ['-'] else []) ++ Layout.document.writeDecimal d := by
  unfold ofDecimal Layout.writeDecimal Layout.positional Layout.scientific
  simp only [padLeft_toDigits]
  repeat' split
  all_goals simp [text, fractionText, exponentText, *]

theorem value_ofDecimal (negative : Bool) (d : Decimal) :
    ((ofDecimal negative d).digits : ℚ) * 10 ^ (ofDecimal negative d).power = d.value := by
  have hpos : 1 ≤ (Nat.toDigits 10 d.digits).length := Nat.length_toDigits_pos
  have hds := natOf_toDigits d.digits
  unfold ofDecimal
  simp only
  generalize Nat.toDigits 10 d.digits = ds at *
  -- But for a whole number with zeros behind it, digits and power are those of the decimal.
  have hsame : ∀ n : Numeral, n.digits = d.digits → n.power = d.power →
      (n.digits : ℚ) * 10 ^ n.power = d.value := by
    intro n hdigits hpower
    rw [hdigits, hpower, Decimal.value]
  split
  · split
    · refine hsame _ ?_ ?_
      · rw [digits, Option.getD_some, ← List.append_assoc, List.singleton_append,
          ← List.replicate_succ, natOf_zeros_append, hds]
      · simp only [power, Option.map_none, Option.getD_none, Option.getD_some, List.length_append,
          List.length_replicate]
        omega
    · split
      · obtain ⟨k, hk⟩ : ∃ k : Nat, d.power = k := ⟨d.power.toNat, by omega⟩
        have hzeros : (d.power + ds.length - 1).toNat + 1 - ds.length = k := by omega
        rw [hzeros, digits, power, Option.getD_some, List.append_assoc,
          show ['0'] = List.replicate 1 '0' from rfl, List.replicate_append_replicate,
          natOf_append_zeros, hds, Decimal.value, hk, pow_succ]
        norm_num
        ring
      · refine hsame _ ?_ ?_
        · rw [digits, Option.getD_some, List.take_append_drop, hds]
        · simp only [power, Option.map_none, Option.getD_none, Option.getD_some, List.length_drop]
          omega
  · have hexponent : Number.signed (decide (d.power + ds.length - 1 < 0))
        (d.power + ds.length - 1).natAbs = d.power + ds.length - 1 := signed_natAbs _
    refine hsame _ ?_ ?_
    · split
      · rw [digits, Option.getD_none, List.append_nil, List.take_of_length_le ‹_›, hds]
      · rw [digits, Option.getD_some, List.take_append_drop, hds]
    · simp only [power, Option.map_some, Option.getD_some, natOf_toDigits, hexponent]
      split
      · simp only [Option.getD_none, List.length_nil]
        omega
      · simp only [Option.getD_some, List.length_drop]
        omega

section Layouts

variable {negative : Bool} {ds : List Char} (hne : ds ≠ []) (hall : ∀ c ∈ ds, c.isDigit = true)

theorem isDigit_zeros {k : Nat} {c : Char} (hc : c ∈ List.replicate k '0') : c.isDigit = true := by
  rw [List.eq_of_mem_replicate hc]
  decide

include hne hall

theorem valid_below_one (k : Nat) :
    Valid ⟨negative, ['0'], some (List.replicate k '0' ++ ds), none⟩ where
  whole := by simp
  whole_ne_nil := by simp
  head := by simp
  fraction := by
    rintro _ ⟨⟩
    refine ⟨by simp [hne], fun c hc => ?_⟩
    rcases List.mem_append.mp hc with hc | hc
    exacts [isDigit_zeros hc, hall c hc]
  exponent := by simp

theorem valid_whole {k : Nat} (hhead : 1 < ds.length + k → ds.head? ≠ some '0') :
    Valid ⟨negative, ds ++ List.replicate k '0', some ['0'], none⟩ where
  whole := by
    intro c hc
    rcases List.mem_append.mp hc with hc | hc
    exacts [hall c hc, isDigit_zeros hc]
  whole_ne_nil := by simp [hne]
  head := by
    intro hlength
    rw [List.length_append, List.length_replicate] at hlength
    rw [List.head?_append_of_ne_nil _ hne]
    exact hhead hlength
  fraction := by
    rintro _ ⟨⟩
    exact ⟨List.cons_ne_nil _ _, List.forall_mem_singleton.mpr rfl⟩
  exponent := by simp

theorem valid_split {k : Nat} (hk : 0 < k) (hlength : k < ds.length)
    (hhead : ds.head? ≠ some '0') :
    Valid ⟨negative, ds.take k, some (ds.drop k), none⟩ where
  whole c hc := hall c (List.mem_of_mem_take hc)
  whole_ne_nil := by
    rw [ne_eq, List.take_eq_nil_iff]
    exact not_or.mpr ⟨by omega, hne⟩
  head := by
    intro _
    rwa [List.head?_take, if_neg (by omega)]
  fraction := by
    rintro _ ⟨⟩
    refine ⟨?_, fun c hc => hall c (List.mem_of_mem_drop hc)⟩
    rw [ne_eq, List.drop_eq_nil_iff]
    omega
  exponent := by simp

/-- The point stands behind the first digit, and the exponent behind them all. -/
theorem valid_scientific (small : Bool) (k : Nat) :
    Valid ⟨negative, ds.take 1, if ds.length ≤ 1 then none else some (ds.drop 1),
      some (small, Nat.toDigits 10 k)⟩ where
  whole c hc := hall c (List.mem_of_mem_take hc)
  whole_ne_nil := by simp [hne]
  head := by
    intro hlength
    rw [List.length_take] at hlength
    omega
  fraction := by
    intro fs hfs
    split at hfs
    · cases hfs
    · obtain rfl := Option.some.inj hfs
      refine ⟨?_, fun c hc => hall c (List.mem_of_mem_drop hc)⟩
      rw [ne_eq, List.drop_eq_nil_iff]
      omega
  exponent := by
    rintro _ ⟨⟩
    exact ⟨Nat.toDigits_ne_nil, fun _ => isDigit_toDigits⟩

end Layouts

theorem valid_ofDecimal {negative : Bool} {d : Decimal} (h : d.digits ≠ 0 ∨ d.power = 0) :
    (ofDecimal negative d).Valid := by
  have hne : Nat.toDigits 10 d.digits ≠ [] := Nat.toDigits_ne_nil
  have hall : ∀ c ∈ Nat.toDigits 10 d.digits, c.isDigit = true := fun _ => isDigit_toDigits
  -- Only the digits of zero begin with a zero, and they are written without another digit.
  have hhead : (Nat.toDigits 10 d.digits).head? ≠ some '0' ∨
      (Nat.toDigits 10 d.digits).length = 1 ∧ d.power = 0 := by
    by_cases h0 : d.digits = 0
    · exact Or.inr ⟨by simp [h0], h.resolve_left (not_not_intro h0)⟩
    · exact Or.inl (head_toDigits h0)
  unfold ofDecimal
  simp only
  generalize Nat.toDigits 10 d.digits = ds at *
  have hpos : 0 < ds.length := List.length_pos_iff.mpr hne
  split
  · split
    · exact valid_below_one hne hall _
    · split
      · exact valid_whole hne hall fun hlength => hhead.resolve_right (by omega)
      · exact valid_split hne hall (by omega) (by omega) (hhead.resolve_right (by omega))
  · exact valid_scientific hne hall _ _

theorem length_whole_ofDecimal (negative : Bool) (d : Decimal) :
    (ofDecimal negative d).whole.length ≤ Number.digitLimit := by
  unfold ofDecimal
  simp only [Number.digitLimit]
  generalize Nat.toDigits 10 d.digits = ds
  split
  · rename_i hrange
    have hlimit : d.power + ds.length - 1 < 16 := hrange.2
    split
    · simp
    · split
      · rw [List.length_append, List.length_replicate]
        omega
      · rw [List.length_take]
        omega
  · rw [List.length_take]
    omega

/-- A decimal has a fraction or an exponent, so it is no integer. -/
theorem data_ofDecimal (negative : Bool) (d : Decimal) :
    (ofDecimal negative d).data = .float (Double.ofDecimal negative
      (ofDecimal negative d).digits (ofDecimal negative d).power) := by
  have hnegative : (ofDecimal negative d).negative = negative := by
    unfold ofDecimal
    simp only
    repeat' split
    all_goals rfl
  have hmark : ((ofDecimal negative d).fraction.isNone && (ofDecimal negative d).exponent.isNone)
      = false := by
    unfold ofDecimal
    simp only
    repeat' split
    all_goals simp
  rw [data, hmark, hnegative]
  rfl

/-! ## Finite numbers -/

def ofFinite (negative : Bool) (m : Nat) (e : Int) : Numeral :=
  ofDecimal negative (Decimal.shortest m e)

variable {negative : Bool} {m : Nat} {e : Int}

theorem toList_write (hc : Double.Canonical m e) :
    (Layout.document.write (.finite negative m e hc)).toList = (ofFinite negative m e).text := by
  rw [Layout.write, String.toList_ofList, ofFinite, text_ofDecimal]

theorem valid_ofFinite (hc : Double.Canonical m e) : (ofFinite negative m e).Valid := by
  refine valid_ofDecimal ?_
  by_cases hm : m = 0
  · exact Or.inr (by rw [Decimal.shortest, if_pos hm])
  · exact Or.inl (Decimal.digits_shortest_ne_zero hc hm)

/-- The numeral of a finite number stands for that number. -/
theorem data_ofFinite (hc : Double.Canonical m e) :
    (ofFinite negative m e).data = .float (.finite negative m e hc) := by
  rw [ofFinite, data_ofDecimal]
  congr 1
  by_cases hm : m = 0
  · subst hm
    obtain rfl : e = -1074 := hc.2.2.2.resolve_left (by decide)
    rfl
  · refine Double.ofDecimal_of_near hc hm ?_
    rw [value_ofDecimal]
    exact Decimal.near_shortest hc hm

end Numeral

end Wirework.Json
