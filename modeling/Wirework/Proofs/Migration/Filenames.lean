import Wirework.Proofs.Calendar
import Wirework.Proofs.Dict
import Wirework.Proofs.Migration.ForeignKeys

/-!
# The order of migration files

The name of a migration file begins with its version, which are the digits of a moment from year to
second. As a number, these digits are the rank of the moment (`natOf_stamp`). A second raises the rank,
whatever it carries over into (`rank_lt_of_addSeconds?`), and digits of one length are ordered as their
numbers, whatever follows them (`append_lt_append_of_natOf`). Main statement: from the year 1000 on,
the files of a run are named in the order of their migrations (`filenames_increasing`).
-/

namespace Wirework

/-! ## Digits in order -/

namespace Json

theorem natOf_cons (c : Char) (ds : List Char) :
    natOf (c :: ds) = (c.toNat - '0'.toNat) * 10 ^ ds.length + natOf ds := by
  have hsingle : natOf [c] = c.toNat - '0'.toNat := Nat.zero_add _
  rw [← List.singleton_append, natOf_append, hsingle]

theorem isDigit_bounds {c : Char} (h : c.isDigit = true) :
    '0'.toNat ≤ c.toNat ∧ c.toNat - '0'.toNat < 10 := by
  have hzero : '0'.toNat = 48 := rfl
  have hbounds : 48 ≤ c.toNat ∧ c.toNat ≤ 57 := by
    unfold Char.isDigit at h
    simpa [UInt32.le_iff_toNat_le] using h
  omega

theorem natOf_lt {ds : List Char} (h : ∀ c ∈ ds, c.isDigit = true) : natOf ds < 10 ^ ds.length := by
  induction ds with
  | nil => decide
  | cons c ds ih =>
    obtain ⟨hc, hds⟩ := List.forall_mem_cons.mp h
    have hdigit : c.toNat - '0'.toNat + 1 ≤ 10 := (isDigit_bounds hc).2
    calc natOf (c :: ds) < (c.toNat - '0'.toNat) * 10 ^ ds.length + 10 ^ ds.length := by
          rw [natOf_cons]
          exact Nat.add_lt_add_left (ih hds) _
      _ = (c.toNat - '0'.toNat + 1) * 10 ^ ds.length := by rw [Nat.succ_mul]
      _ ≤ 10 * 10 ^ ds.length := Nat.mul_le_mul_right _ hdigit
      _ = 10 ^ (c :: ds).length := by rw [List.length_cons, Nat.pow_succ, Nat.mul_comm]

/-- Of two texts that begin with as many digits, the one with the less number comes first. -/
theorem append_lt_append_of_natOf {ds es : List Char} (hds : ∀ c ∈ ds, c.isDigit = true)
    (hes : ∀ c ∈ es, c.isDigit = true) (hlength : ds.length = es.length)
    (h : natOf ds < natOf es) (rest rest' : List Char) : ds ++ rest < es ++ rest' := by
  induction ds generalizing es with
  | nil =>
    rw [List.length_eq_zero_iff.mp hlength.symm] at h
    exact absurd h (Nat.lt_irrefl _)
  | cons c ds ih =>
    obtain ⟨d, es, rfl⟩ := List.exists_cons_of_length_eq_add_one hlength.symm
    obtain ⟨hc, hds⟩ := List.forall_mem_cons.mp hds
    obtain ⟨hd, hes⟩ := List.forall_mem_cons.mp hes
    have hlength : ds.length = es.length := Nat.succ.inj hlength
    rw [natOf_cons, natOf_cons, hlength] at h
    rw [List.cons_append, List.cons_append, List.cons_lt_cons_iff]
    rcases Nat.lt_trichotomy c.toNat d.toNat with hlt | heq | hgt
    · exact Or.inl hlt
    · rw [heq] at h
      exact Or.inr ⟨Char.toNat_inj.mp heq, ih hds hes hlength (Nat.lt_of_add_lt_add_left h)⟩
    · -- The rest of the digits cannot make up for a greater one in front.
      have hstep : (d.toNat - '0'.toNat + 1) * 10 ^ es.length ≤
          (c.toNat - '0'.toNat) * 10 ^ es.length := by
        refine Nat.mul_le_mul_right _ ?_
        have := (isDigit_bounds hd).1
        omega
      have hrest := natOf_lt hes
      rw [Nat.succ_mul] at hstep
      omega

end Json

/-! ## Dates and moments in order -/

namespace Date

variable {d d' : Date} {n : Nat}

/-- The digits of a date as a number. -/
def rank (d : Date) : Nat := (d.year * 100 + d.month) * 100 + d.day

theorem daysIn_le (y m : Nat) : daysIn y m ≤ 31 := by
  unfold daysIn
  repeat' split
  all_goals omega

theorem of?_fields {y m day : Nat} (h : of? y m day = some d) :
    d.year = y ∧ d.month = m ∧ d.day = day := by
  unfold of? at h
  split at h
  · cases h
    exact ⟨rfl, rfl, rfl⟩
  · cases h

theorem fields_lt (d : Date) : d.month < 100 ∧ d.day < 100 := by
  obtain ⟨-, ⟨-, hmonth⟩, -, hday⟩ := d.valid
  have := daysIn_le d.year d.month
  omega

theorem rank_lt_of_next? (h : d.next? = some d') : d.rank < d'.rank := by
  have hlt := d.fields_lt
  unfold next? at h
  unfold rank
  -- The first field that is raised outweighs those behind it, which start again.
  repeat' split at h
  all_goals
    obtain ⟨hy, hm, hd⟩ := of?_fields h
    rw [hy, hm, hd]
    omega

theorem rank_lt_of_after? (h : d.after? (n + 1) = some d') : d.rank < d'.rank := by
  induction n generalizing d with
  | zero =>
    obtain ⟨next, hnext, hafter⟩ := Option.bind_eq_some_iff.mp h
    cases hafter
    exact rank_lt_of_next? hnext
  | succ n ih =>
    obtain ⟨next, hnext, hafter⟩ := Option.bind_eq_some_iff.mp h
    exact (rank_lt_of_next? hnext).trans (ih hafter)

theorem after?_add (d : Date) (m n : Nat) :
    d.after? (m + n) = (d.after? m).bind (·.after? n) := by
  induction m generalizing d with
  | zero => rw [Nat.zero_add]; rfl
  | succ m ih =>
    rw [Nat.succ_add, after?, after?, Option.bind_assoc]
    exact Option.bind_congr fun next _ => ih next

theorem year_le_of_after? (h : d.after? n = some d') : d.year ≤ d'.year := by
  cases n with
  | zero =>
    cases h
    exact Nat.le_refl _
  | succ n =>
    have hrank := rank_lt_of_after? h
    have hlt := d'.fields_lt
    unfold rank at hrank
    omega

end Date

namespace Moment

variable {base t t' : Moment} {i j : Nat}

/-- The digits of a moment as a number. -/
def rank (t : Moment) : Nat :=
  ((t.date.rank * 100 + t.hour) * 100 + t.minute) * 100 + t.second

theorem fields_of_addSeconds? (h : base.addSeconds? i = some t) :
    base.date.after? ((base.seconds.val + i) / 86400) = some t.date ∧
      t.seconds.val = (base.seconds.val + i) % 86400 := by
  obtain ⟨d, hd, rfl⟩ := Option.map_eq_some_iff.mp h
  exact ⟨hd, rfl⟩

theorem rank_lt_of_addSeconds? (hij : i < j) (h : base.addSeconds? i = some t)
    (h' : base.addSeconds? j = some t') : t.rank < t'.rank := by
  obtain ⟨hdate, hseconds⟩ := fields_of_addSeconds? h
  obtain ⟨hdate', hseconds'⟩ := fields_of_addSeconds? h'
  have hlt := t.seconds.isLt
  have hlt' := t'.seconds.isLt
  unfold rank hour minute second
  rcases (Nat.div_le_div_right (c := 86400) (by omega :
    base.seconds.val + i ≤ base.seconds.val + j)).eq_or_lt with hsame | hless
  · rw [hsame, hdate'] at hdate
    rw [Option.some.inj hdate]
    have hless : t.seconds.val < t'.seconds.val := by omega
    have hhour : ∀ n, n / 3600 = n / 60 / 60 := fun n => (Nat.div_div_eq_div_mul n 60 60).symm
    rw [hhour, hhour]
    omega
  · obtain ⟨n, hn⟩ := Nat.exists_eq_add_of_lt hless
    rw [hn, Nat.add_assoc, Date.after?_add, hdate] at hdate'
    have := Date.rank_lt_of_after? hdate'
    omega

theorem fields_lt (t : Moment) : t.hour < 100 ∧ t.minute < 100 ∧ t.second < 100 := by
  have := t.seconds.isLt
  unfold hour minute second
  omega

theorem length_padded_two {n : Nat} (h : n < 100) : (padded 2 n).toList.length = 2 :=
  length_padded ((Nat.length_toDigits_le_iff (by decide) (by decide)).mpr h)

theorem natOf_stamp (t : Moment) : Json.natOf t.stamp.toList = t.rank := by
  obtain ⟨hmonth, hday⟩ := t.date.fields_lt
  obtain ⟨hhour, hminute, hsecond⟩ := t.fields_lt
  rw [toList_stamp]
  simp only [Json.natOf_append, Json.natOf_toDigits, natOf_padded, length_padded_two, hmonth, hday,
    hhour, hminute, hsecond]
  rfl

theorem length_stamp (h : 1000 ≤ t.date.year) : t.stamp.toList.length = 14 := by
  obtain ⟨hmonth, hday⟩ := t.date.fields_lt
  obtain ⟨hhour, hminute, hsecond⟩ := t.fields_lt
  have hle : (Nat.toDigits 10 t.date.year).length ≤ 4 := by
    rw [Nat.length_toDigits_le_iff (by decide) (by decide)]
    exact Nat.lt_succ_of_le t.date.valid.1.2
  have hgt : ¬ (Nat.toDigits 10 t.date.year).length ≤ 3 := by
    rw [Nat.length_toDigits_le_iff (by decide) (by decide)]
    exact Nat.not_lt.mpr h
  rw [toList_stamp]
  simp only [List.length_append, length_padded_two, hmonth, hday, hhour, hminute, hsecond]
  omega

/-- Texts that begin with the stamps of later and later moments are in order. -/
theorem stamp_append_lt (hyear : 1000 ≤ base.date.year) (hij : i < j)
    (h : base.addSeconds? i = some t) (h' : base.addSeconds? j = some t') (rest rest' : String) :
    t.stamp ++ rest < t'.stamp ++ rest' := by
  have hlength := length_stamp (hyear.trans (Date.year_le_of_after? (fields_of_addSeconds? h).1))
  have hlength' := length_stamp (hyear.trans (Date.year_le_of_after? (fields_of_addSeconds? h').1))
  rw [String.lt_iff, String.toList_append, String.toList_append]
  refine Json.append_lt_append_of_natOf (fun _ => isDigit_of_mem_stamp)
    (fun _ => isDigit_of_mem_stamp) (hlength.trans hlength'.symm) ?_ _ _
  rw [natOf_stamp, natOf_stamp]
  exact rank_lt_of_addSeconds? hij h h'

end Moment

/-! ## Runs -/

namespace Migration

/-- From the year 1000 on, a run names its files in the order of its migrations, whose versions are one
second apart, and writes one file for each; and runs are made unless a default is too long or the
calendar ends. -/
theorem filenames_increasing (base : Moment) (o : Options) (now : Moment) (nodes : List Node)
    (hyear : 1000 ≤ base.date.year) :
    ((base.addSeconds? 2).isSome = true → Scriptable o nodes →
      ∃ ms, plan o now (some base) nodes = .ok ms) ∧
    ∀ ms, plan o now (some base) nodes = .ok ms →
      (ms.map (·.filename)).Pairwise (· < ·) ∧ (ms.map (·.version)).Pairwise (· < ·) ∧
      (∀ i m, ms[i]? = some m → (base.addSeconds? i).map Moment.stamp = some m.version) ∧
      ∃ d, files ms = some d ∧
        (d.entries.map fun e => (e.1, some e.2)) = ms.map fun m => (m.filename, m.text) := by
  constructor
  · intro hend hnodes
    refine plan_succeeds now hnodes fun t ht => ?_
    cases ht
    exact (Moment.addSeconds?_isSome_iff (by decide)).mp hend
  intro ms hms
  have hversion : ∀ i m, ms[i]? = some m →
      (base.addSeconds? i).map Moment.stamp = some m.version := by
    intro i m hm
    simpa using version_of_assignVersions (assignVersions_of_plan hms) hm
  have hordered : ∀ (rest : Migration → String),
      (ms.map fun m => m.version ++ rest m).Pairwise (· < ·) := by
    intro rest
    rw [List.pairwise_map, List.pairwise_iff_getElem]
    intro i j hi hj hij
    obtain ⟨t, ht, hstamp⟩ := Option.map_eq_some_iff.mp (hversion i _ (List.getElem?_eq_getElem hi))
    obtain ⟨t', ht', hstamp'⟩ :=
      Option.map_eq_some_iff.mp (hversion j _ (List.getElem?_eq_getElem hj))
    rw [← hstamp, ← hstamp']
    exact Moment.stamp_append_lt hyear hij ht ht' _ _
  refine ⟨?_, ?_, hversion, ?_⟩
  · simpa only [filename_eq] using hordered fun m => label m.name
  · simpa using hordered fun _ => ""
  · have htext : ∀ m ∈ ms, m.text = some (m.text.getD "") := by
      intro m hm
      obtain ⟨text, htext⟩ := Option.isSome_iff_exists.mp (isSome_text_of_plan hms m hm)
      rw [htext, Option.getD_some]
    have hall : (ms.mapM fun m => do return (m.filename, ← m.text)) =
        some (ms.map fun m => (m.filename, m.text.getD "")) := by
      refine mapM_eq_some fun m hm => ?_
      rw [htext m hm]
      rfl
    have hfiles : files ms = some (.ofList (ms.map fun m => (m.filename, m.text.getD ""))) := by
      rw [files, hall]
      rfl
    have hnames : ((ms.map fun m => (m.filename, m.text.getD "")).map Prod.fst).Nodup := by
      rw [List.map_map]
      exact nodup_filename hms
    refine ⟨_, hfiles, ?_⟩
    rw [Dict.entries_ofList_iff.mpr hnames, List.map_map]
    exact List.map_congr_left fun m hm => congrArg (Prod.mk _) (htext m hm).symm

/-- The second but one of a leap day. -/
def leapEve : Moment := ⟨⟨2024, 2, 29, by decide⟩, ⟨86398, by decide⟩, ⟨0, by decide⟩, some 0⟩

theorem filenames_increasing_shop : ∃ ms, plan {} leapEve (some leapEve) shop = .ok ms ∧
    (ms.map (·.filename)).Pairwise (· < ·) ∧
    ms.map (·.version) = ["20240229235958", "20240229235959", "20240301000000"] := by
  obtain ⟨hruns, hordered⟩ := filenames_increasing leapEve {} leapEve shop (by decide)
  obtain ⟨ms, hms⟩ := hruns (by decide) (scriptable_shop {})
  obtain ⟨hnames, -⟩ := hordered ms hms
  have hversions : (plan {} leapEve (some leapEve) shop).toOption.map (·.map (·.version)) =
      some ["20240229235958", "20240229235959", "20240301000000"] := by
    decide +kernel
  rw [hms] at hversions
  exact ⟨ms, hms, hnames, Option.some.inj hversions⟩

end Migration

end Wirework
