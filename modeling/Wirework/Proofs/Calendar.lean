import Wirework.Calendar
import Wirework.Proofs.Json.Numeral

/-!
# Moments in text

ISO text names an offset in hours and minutes, so its seconds are lost, and one of a day or more
cannot be read. Main statement: the text of a moment is read as the moment with the offset in whole
minutes (`ofText?_toIso`). A stamp is written in digits alone (`isDigit_of_mem_stamp`).
-/

namespace Wirework.Moment

variable {rest : List Char}

/-! ## Digits -/

theorem length_padded {width n : Nat} (h : (Nat.toDigits 10 n).length ≤ width) :
    (padded width n).toList.length = width := by
  rw [padded, String.toList_ofList, List.length_append, List.length_replicate]
  omega

theorem isDigit_padded {width n : Nat} {c : Char} (h : c ∈ (padded width n).toList) :
    c.isDigit = true := by
  rw [padded, String.toList_ofList, List.mem_append] at h
  rcases h with h | h
  · rw [List.eq_of_mem_replicate h]
    decide
  · exact Json.isDigit_toDigits h

theorem natOf_padded (width n : Nat) : Json.natOf (padded width n).toList = n := by
  rw [padded, String.toList_ofList, Json.natOf_zeros_append, Json.natOf_toDigits]

theorem takeExactly_padded {width n : Nat} (hwidth : 0 < width) (h : n < 10 ^ width)
    (rest : List Char) :
    takeExactly width ((padded width n).toList ++ rest) = some (n, rest) := by
  have hlength := length_padded ((Nat.length_toDigits_le_iff (by decide) hwidth).mpr h)
  rw [takeExactly, List.take_left' hlength, List.drop_left' hlength, if_pos]
  · exact congrArg (fun n => some (n, rest)) (natOf_padded width n)
  · refine ⟨hlength, ?_⟩
    rw [List.all_eq_true]
    exact fun c hc => isDigit_padded hc

/-- The offset in whole minutes, those beyond being cut off. -/
def wholeMinutes (s : Int) : Int := Number.signed (s < 0) (s.natAbs / 60 * 60)

theorem length_takeExactly {count n : Nat} {cs : List Char}
    (h : takeExactly count cs = some (n, rest)) : cs.length = count + rest.length := by
  unfold takeExactly at h
  simp only at h
  split at h
  · rename_i htake
    obtain ⟨rfl, rfl⟩ := Prod.mk.inj (Option.some.inj h)
    have hlength := htake.1
    rw [List.length_take] at hlength
    rw [List.length_drop]
    omega
  · cases h

/-- An offset with a sign has at most five more characters. -/
theorem offset?_of_long (sign : Char) {cs : List Char} (h : 5 < cs.length) :
    offset? (sign :: cs) = none := by
  rw [Option.eq_none_iff_forall_ne_some]
  intro offset hoffset
  unfold offset? at hoffset
  split at hoffset
  · rename_i hnil
    cases hnil
  · rename_i hz
    rw [(List.cons.inj hz).2] at h
    simp at h
  · rename_i hz
    rw [(List.cons.inj hz).2] at h
    simp at h
  · rename_i c rest hne hne' hcons
    obtain ⟨rfl, rfl⟩ := List.cons.inj hcons
    split at hoffset
    · simp only [Option.bind_eq_bind, Option.bind_eq_some_iff] at hoffset
      obtain ⟨⟨hours, rest⟩, hhours, ⟨minutes, rest'⟩, hminutes, hlast⟩ := hoffset
      have hlength := length_takeExactly hhours
      have hlength' := length_takeExactly hminutes
      simp only at hlength' hlast
      split at hlast
      · rename_i hempty
        have hnil := List.isEmpty_iff.mp hempty.1
        subst hnil
        split at hlength' <;> simp_all
      · cases hlast
    · cases hoffset

theorem offset?_padded {negative : Bool} {hours minutes : Nat} (hminutes : minutes < 60) :
    offset? ((if negative then '-' else '+') ::
        ((padded 2 hours).toList ++ ':' :: (padded 2 minutes).toList)) =
      if hours < 24 then
        some (some (Number.signed negative (hours * 3600 + minutes * 60)))
      else none := by
  by_cases hlong : hours < 100
  · have hhours := takeExactly_padded (show 0 < 2 by decide) hlong
      (':' :: (padded 2 minutes).toList)
    have hrest := takeExactly_padded (show 0 < 2 by decide) (show minutes < 10 ^ 2 by omega) []
    rw [List.append_nil] at hrest
    have hbound : (hours ≤ 23 ∧ minutes ≤ 59) ↔ hours < 24 := by omega
    cases negative
    · simp [offset?, hhours, hrest, hbound, Number.signed]
    · simp [offset?, hhours, hrest, hbound, Number.signed]
  · rw [offset?_of_long, if_neg (by omega)]
    have hdigits : ¬ (Nat.toDigits 10 hours).length ≤ 2 := by
      rw [Nat.length_toDigits_le_iff (by decide) (by decide)]
      omega
    have hpad := length_padded (show (Nat.toDigits 10 minutes).length ≤ 2 by
      rw [Nat.length_toDigits_le_iff (by decide) (by decide)]
      omega)
    rw [List.length_append, List.length_cons, hpad, padded, String.toList_ofList,
      List.length_append]
    omega

/-- An offset of less than a day reads back in whole minutes. -/
theorem offset?_offsetText (offset : Option Int) :
    offset? (offsetText offset).toList =
      if ∀ s ∈ offset, s.natAbs < 86400 then some (offset.map wholeMinutes) else none := by
  cases offset with
  | none => rfl
  | some s =>
    by_cases hzero : s = 0
    · subst hzero
      rfl
    · have htext : (offsetText (some s)).toList = (if decide (s < 0) then '-' else '+') ::
          ((padded 2 (s.natAbs / 60 / 60)).toList ++ ':' ::
            (padded 2 (s.natAbs / 60 % 60)).toList) := by
        rw [offsetText, if_neg hzero]
        by_cases hneg : s < 0 <;> simp [hneg]
      have hday : s.natAbs / 60 / 60 < 24 ↔ ∀ t ∈ some s, t.natAbs < 86400 := by
        simp
        omega
      rw [htext, offset?_padded (Nat.mod_lt _ (by decide)), if_congr hday rfl rfl]
      have hseconds : s.natAbs / 60 / 60 * 3600 + s.natAbs / 60 % 60 * 60 = s.natAbs / 60 * 60 := by
        omega
      rw [hseconds]
      rfl

/-! ## Dates and times -/

theorem takeChar_cons (c : Char) (cs : List Char) : takeChar c (c :: cs) = some cs := by
  simp [takeChar]

theorem takeDate_padded (d : Date) :
    takeDate ((padded 4 d.year).toList ++ '-' :: ((padded 2 d.month).toList ++
      '-' :: ((padded 2 d.day).toList ++ rest))) = some (d, rest) := by
  obtain ⟨year, month, day, hvalid⟩ := d
  obtain ⟨hyear, hmonth, hday⟩ := hvalid
  have hlong : day < 10 ^ 2 := by
    have hdays : Date.daysIn year month ≤ 31 := by
      unfold Date.daysIn
      repeat' split
      all_goals decide
    omega
  simp only [takeDate, takeExactly_padded (show 0 < 4 by decide) (show year < 10 ^ 4 by omega),
    takeExactly_padded (show 0 < 2 by decide) (show month < 10 ^ 2 by omega),
    takeExactly_padded (show 0 < 2 by decide) hlong, takeChar_cons, Option.bind_eq_bind,
    Option.bind_some]
  rw [Date.of?, dif_pos ⟨hyear, hmonth, hday⟩]
  rfl

/-- A fraction that is written with six digits, or not at all if it is zero. -/
theorem takeFraction_padded {micros : Nat} (h : micros < 1000000)
    (hrest : ∀ c ∈ rest.head?, c.isDigit = false ∧ c ≠ '.' ∧ c ≠ ',') :
    takeFraction ((if micros = 0 then "" else "." ++ padded 6 micros).toList ++ rest) =
      some (micros, rest) := by
  split
  · subst micros
    cases rest with
    | nil => rfl
    | cons c rest =>
      obtain ⟨-, hpoint, hcomma⟩ := hrest c rfl
      simp [takeFraction, hpoint, hcomma]
  · have hlength := length_padded (show (Nat.toDigits 10 micros).length ≤ 6 by
      rw [Nat.length_toDigits_le_iff (by decide) (by decide)]
      exact h)
    have hspan : ((padded 6 micros).toList ++ rest).span Char.isDigit =
        ((padded 6 micros).toList, rest) :=
      Json.digits_append (fun _ => isDigit_padded) fun c hc => (hrest c hc).1
    have hne : (padded 6 micros).toList.isEmpty = false := by
      rw [← Bool.not_eq_true, List.isEmpty_iff_length_eq_zero]
      omega
    have hsix : (padded 6 micros).toList.take 6 ++
        List.replicate (6 - (padded 6 micros).toList.length) '0' = (padded 6 micros).toList := by
      rw [hlength, List.take_of_length_le (by omega)]
      simp
    rw [String.toList_append]
    change takeFraction ('.' :: ((padded 6 micros).toList ++ rest)) = _
    simp only [takeFraction, true_or, if_true, hspan, hne, hsix, Bool.false_eq_true, if_false]
    exact congrArg (fun n => some (n, rest)) (natOf_padded 6 micros)

/-- An offset begins with no digit and with no point. -/
theorem head_offsetText (offset : Option Int) :
    ∀ c ∈ (offsetText offset).toList.head?, c.isDigit = false ∧ c ≠ '.' ∧ c ≠ ',' := by
  cases offset with
  | none => simp [offsetText]
  | some s =>
    rw [offsetText]
    split
    · intro c hc
      obtain rfl := Option.some.inj hc
      decide
    · intro c hc
      split at hc
      all_goals
        rw [String.append_assoc, String.append_assoc, String.toList_append] at hc
        obtain rfl := Option.some.inj hc
        decide

theorem takeTime_padded (t : Moment)
    (hrest : ∀ c ∈ rest.head?, c.isDigit = false ∧ c ≠ '.' ∧ c ≠ ',') :
    takeTime ((padded 2 t.hour).toList ++ ':' :: ((padded 2 t.minute).toList ++ ':' ::
      ((padded 2 t.second).toList ++ ((if t.micros.val = 0 then "" else
        "." ++ padded 6 t.micros.val).toList ++ rest)))) =
      some ((t.seconds.val, t.micros.val), rest) := by
  have hseconds := t.seconds.isLt
  have hhour : t.hour < 24 := by
    rw [hour]
    omega
  have hminute : t.minute < 60 := Nat.mod_lt _ (by decide)
  have hsecond : t.second < 60 := Nat.mod_lt _ (by decide)
  have hsum : t.hour * 3600 + t.minute * 60 + t.second = t.seconds.val := by
    rw [hour, minute, second]
    omega
  simp only [takeTime, takeExactly_padded (show 0 < 2 by decide) (show t.hour < 10 ^ 2 by omega),
    takeExactly_padded (show 0 < 2 by decide) (show t.minute < 10 ^ 2 by omega),
    takeExactly_padded (show 0 < 2 by decide) (show t.second < 10 ^ 2 by omega), takeChar_cons,
    Option.bind_eq_bind, Option.bind_some]
  rw [if_neg (by omega), if_neg (by omega), takeFraction_padded t.micros.isLt hrest,
    Option.bind_some, hsum]
  rfl

/-! ## Moments -/

/-- The moment with its offset in whole minutes, unless that is a day or more. -/
def inMinutes? (t : Moment) : Option Moment :=
  if ∀ s ∈ t.offset, s.natAbs < 86400 then some { t with offset := t.offset.map wholeMinutes }
  else none

theorem toList_toIso (t : Moment) :
    t.toIso.toList = (padded 4 t.date.year).toList ++ '-' :: ((padded 2 t.date.month).toList ++
      '-' :: ((padded 2 t.date.day).toList ++ 'T' :: ((padded 2 t.hour).toList ++ ':' ::
        ((padded 2 t.minute).toList ++ ':' :: ((padded 2 t.second).toList ++
          ((if t.micros.val = 0 then "" else "." ++ padded 6 t.micros.val).toList ++
            (offsetText t.offset).toList)))))) := by
  have hmarks : "-".toList = ['-'] ∧ "T".toList = ['T'] ∧ ":".toList = [':'] := ⟨rfl, rfl, rfl⟩
  simp only [toIso, String.toList_append, List.append_assoc, hmarks, List.cons_append,
    List.nil_append]

theorem ofIso?_toIso (t : Moment) : ofIso? t.toIso.toList = t.inMinutes? := by
  rw [toList_toIso, ofIso?, takeDate_padded]
  simp only [Option.bind_eq_bind, Option.bind_some, true_or, if_true,
    takeTime_padded t (head_offsetText t.offset), offset?_offsetText, inMinutes?]
  split
  · rw [Option.bind_some, of?, dif_pos t.seconds.isLt, dif_pos t.micros.isLt]
  · rfl

/-- The text of a moment reads back with the offset in whole minutes. -/
theorem ofText?_toIso (t : Moment) : ofText? t.toIso = t.inMinutes? := by
  rw [ofText?, ofIso?_toIso]
  cases h : t.inMinutes? with
  | some t' => rfl
  | none =>
    -- Without its date the text would have to be a number, but a dash follows the year.
    rw [toList_toIso]
    generalize (padded 2 t.date.month).toList ++ _ = tail
    have hsign : Number.takeSign ((padded 4 t.date.year).toList ++ '-' :: tail) =
        (false, (padded 4 t.date.year).toList ++ '-' :: tail) := by
      have hyear := t.date.valid.1
      have hlength := length_padded (show (Nat.toDigits 10 t.date.year).length ≤ 4 by
        rw [Nat.length_toDigits_le_iff (by decide) (by decide)]
        omega)
      obtain ⟨c, cs, hcs⟩ := List.exists_cons_of_length_pos (show 0 < _ by rw [hlength]; decide)
      have hc : c.isDigit = true := isDigit_padded (by rw [hcs]; exact List.mem_cons_self)
      rw [hcs, List.cons_append]
      unfold Number.takeSign
      split
      · rename_i hcons
        rw [(List.cons.inj hcons).1] at hc
        exact absurd hc (by decide)
      · rename_i hcons
        rw [(List.cons.inj hcons).1] at hc
        exact absurd hc (by decide)
      · rfl
    have hspan : ((padded 4 t.date.year).toList ++ '-' :: tail).span Char.isDigit =
        ((padded 4 t.date.year).toList, '-' :: tail) := by
      refine Json.digits_append (fun _ => isDigit_padded) fun c hc => ?_
      obtain rfl := Option.some.inj hc
      decide
    simp only [hsign, hspan]
    rfl

/-! ## Stamps -/

theorem toList_stamp (t : Moment) :
    t.stamp.toList = Nat.toDigits 10 t.date.year ++ (padded 2 t.date.month).toList ++
      (padded 2 t.date.day).toList ++ (padded 2 t.hour).toList ++ (padded 2 t.minute).toList ++
      (padded 2 t.second).toList := by
  have hyear : (toString t.date.year).toList = Nat.toDigits 10 t.date.year := by
    change (Nat.repr t.date.year).toList = _
    simp
  simp only [stamp, String.toList_append, hyear]

theorem isDigit_of_mem_stamp {c : Char} {t : Moment} (h : c ∈ t.stamp.toList) :
    c.isDigit = true := by
  rw [toList_stamp] at h
  simp only [List.mem_append] at h
  obtain ((((h | h) | h) | h) | h) | h := h
  · exact Json.isDigit_toDigits h
  all_goals exact isDigit_padded h

end Wirework.Moment
