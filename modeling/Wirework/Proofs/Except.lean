/-!
# How computations fail

Computations that may fail are described by what a success has gone through (`bind_eq_ok_iff`,
`forall_of_mapM_ok`) and by a bound on their failures: `FailsOnly E x` says that every failure of
`x` is one of `E`. With no failure allowed it says that `x` succeeds (`failsOnly_false_iff`), so one
proof gives both the failures that can occur and, where none can, the success.
-/

namespace Wirework

variable {α β γ ε : Type} {x : Except ε α} {f : α → Except ε β} {xs : List α} {ys : List β}
  {E : ε → Prop}

/-! ## Success -/

theorem bind_eq_ok_iff {b : β} : (x >>= f) = .ok b ↔ ∃ a, x = .ok a ∧ f a = .ok b := by
  cases x with
  | ok a => simp [bind, Except.bind]
  | error e => simp [bind, Except.bind]

theorem exists_of_map_eq_ok {g : α → β} {b : β} (h : x.map g = .ok b) : ∃ a, x = .ok a ∧ g a = b := by
  cases x with
  | ok a => exact ⟨a, rfl, Except.ok.inj h⟩
  | error e => cases h

theorem map_isOk_iff {g : α → β} : (∃ b, x.map g = .ok b) ↔ ∃ a, x = .ok a := by
  cases x with
  | ok a => exact iff_of_true ⟨g a, rfl⟩ ⟨a, rfl⟩
  | error e => exact iff_of_false (by rintro ⟨_, ⟨⟩⟩) (by rintro ⟨_, ⟨⟩⟩)

theorem any_toOption_iff {p : α → Bool} :
    x.toOption.any p = true ↔ ∃ a, x = .ok a ∧ p a = true := by
  cases x with
  | ok a => simp [Except.toOption]
  | error e => simp [Except.toOption]

theorem mapM_cons_eq_ok_iff {a : α} {zs : List β} : (a :: xs).mapM f = .ok zs ↔
    ∃ b ys, f a = .ok b ∧ xs.mapM f = .ok ys ∧ zs = b :: ys := by
  rw [List.mapM_cons, bind_eq_ok_iff]
  constructor
  · rintro ⟨b, hb, h⟩
    obtain ⟨ys, hys, h⟩ := bind_eq_ok_iff.mp h
    cases h
    exact ⟨b, ys, hb, hys, rfl⟩
  · rintro ⟨b, ys, hb, hys, rfl⟩
    exact ⟨b, hb, bind_eq_ok_iff.mpr ⟨ys, hys, rfl⟩⟩

theorem forall_of_mapM_ok (h : xs.mapM f = .ok ys) : ∀ a ∈ xs, ∃ b ∈ ys, f a = .ok b := by
  induction xs generalizing ys with
  | nil => exact fun a ha => absurd ha List.not_mem_nil
  | cons a rest ih =>
    obtain ⟨b, ys, hb, hys, rfl⟩ := mapM_cons_eq_ok_iff.mp h
    intro a' ha'
    rcases List.mem_cons.mp ha' with rfl | hrest
    · exact ⟨b, List.mem_cons_self .., hb⟩
    · obtain ⟨b', hb', hf⟩ := ih hys a' hrest
      exact ⟨b', List.mem_cons_of_mem _ hb', hf⟩

theorem mapM_eq_ok {g : α → β} (h : ∀ a ∈ xs, f a = .ok (g a)) : xs.mapM f = .ok (xs.map g) := by
  induction xs with
  | nil => rfl
  | cons a rest ih =>
    obtain ⟨hfirst, hrest⟩ := List.forall_mem_cons.mp h
    exact mapM_cons_eq_ok_iff.mpr ⟨_, _, hfirst, ih hrest, rfl⟩

theorem exists_of_mapM_ok (h : xs.mapM f = .ok ys) : ∀ b ∈ ys, ∃ a ∈ xs, f a = .ok b := by
  induction xs generalizing ys with
  | nil =>
    cases h
    exact fun b hb => absurd hb List.not_mem_nil
  | cons a rest ih =>
    obtain ⟨b, ys, hb, hys, rfl⟩ := mapM_cons_eq_ok_iff.mp h
    intro b' hb'
    rcases List.mem_cons.mp hb' with rfl | hrest
    · exact ⟨a, List.mem_cons_self .., hb⟩
    · obtain ⟨a', ha', hf⟩ := ih hys b' hrest
      exact ⟨a', List.mem_cons_of_mem _ ha', hf⟩

/-- What every step keeps of its item, a pass over a list keeps of the list. -/
theorem map_eq_of_mapM_ok {p : β → γ} {q : α → γ} (hstep : ∀ a b, f a = .ok b → p b = q a)
    (h : xs.mapM f = .ok ys) : ys.map p = xs.map q := by
  induction xs generalizing ys with
  | nil =>
    cases h
    rfl
  | cons a rest ih =>
    obtain ⟨b, ys, hb, hys, rfl⟩ := mapM_cons_eq_ok_iff.mp h
    rw [List.map_cons, List.map_cons, ih hys, hstep a b hb]

/-- A pass over changed items, whose steps are those over the items themselves. -/
theorem mapM_map_eq {g : γ → α} {f' : γ → Except ε β} {zs : List γ}
    (h : ∀ c ∈ zs, f (g c) = f' c) : (zs.map g).mapM f = zs.mapM f' := by
  induction zs with
  | nil => rfl
  | cons c zs ih =>
    obtain ⟨hfirst, hrest⟩ := List.forall_mem_cons.mp h
    rw [List.map_cons, List.mapM_cons, List.mapM_cons, hfirst, ih hrest]

/-! ## Parts that may be missing -/

section Option

variable {f : α → Option β}

theorem isSome_mapM_iff : (xs.mapM f).isSome = true ↔ ∀ a ∈ xs, (f a).isSome = true := by
  induction xs with
  | nil => simp
  | cons a xs ih =>
    rw [List.mapM_cons, List.forall_mem_cons, ← ih]
    cases f a with
    | none => simp
    | some b => cases xs.mapM f <;> simp

theorem exists_of_mapM_eq_some (h : xs.mapM f = some ys) : ∀ a ∈ xs, ∃ b ∈ ys, f a = some b := by
  induction xs generalizing ys with
  | nil => exact List.forall_mem_nil _
  | cons x rest ih =>
    rw [List.mapM_cons] at h
    obtain ⟨b, hb, h⟩ := Option.bind_eq_some_iff.mp h
    obtain ⟨others, hothers, h⟩ := Option.bind_eq_some_iff.mp h
    obtain rfl := Option.some.inj h
    refine List.forall_mem_cons.mpr ⟨⟨b, List.mem_cons_self, hb⟩, fun a ha => ?_⟩
    obtain ⟨b', hb', hfb⟩ := ih hothers a ha
    exact ⟨b', List.mem_cons_of_mem b hb', hfb⟩

theorem mem_of_mapM_eq_some (h : xs.mapM f = some ys) : ∀ b ∈ ys, ∃ a ∈ xs, f a = some b := by
  induction xs generalizing ys with
  | nil =>
    obtain rfl := Option.some.inj h
    exact fun _ h => nomatch h
  | cons a xs ih =>
    simp only [List.mapM_cons, Option.bind_eq_bind, Option.bind_eq_some_iff] at h
    obtain ⟨b, hb, bs, hbs, hall⟩ := h
    obtain rfl := Option.some.inj hall
    refine List.forall_mem_cons.mpr ⟨⟨a, List.mem_cons_self, hb⟩, fun c hc => ?_⟩
    obtain ⟨a', ha', hf⟩ := ih hbs c hc
    exact ⟨a', List.mem_cons_of_mem _ ha', hf⟩

theorem mapM_eq_some {g : α → β} (h : ∀ a ∈ xs, f a = some (g a)) :
    xs.mapM f = some (xs.map g) := by
  induction xs with
  | nil => rfl
  | cons a xs ih =>
    obtain ⟨hfirst, hrest⟩ := List.forall_mem_cons.mp h
    rw [List.mapM_cons, hfirst, ih hrest]
    rfl

theorem mapM_eq_some_self {f : α → Option α} {xs : List α} (h : ∀ a ∈ xs, f a = some a) :
    xs.mapM f = some xs := by
  rw [mapM_eq_some h, List.map_id']

end Option

/-! ## Failure -/

/-- Every failure of a computation is one of some. -/
def FailsOnly (E : ε → Prop) (x : Except ε α) : Prop := ∀ e, x = .error e → E e

theorem failsOnly_ok (a : α) : FailsOnly E (.ok a : Except ε α) := fun _ h => nomatch h

theorem failsOnly_error {e : ε} (he : E e) : FailsOnly E (.error e : Except ε α) := by
  rintro _ ⟨⟩
  exact he

theorem failsOnly_false_iff : FailsOnly (fun _ => False) x ↔ ∃ a, x = .ok a := by
  cases x with
  | ok a => exact ⟨fun _ => ⟨a, rfl⟩, fun _ => failsOnly_ok a⟩
  | error e => exact ⟨fun h => (h e rfl).elim, by rintro ⟨a, ha⟩; cases ha⟩

namespace FailsOnly

theorem mono {E' : ε → Prop} (h : FailsOnly E x) (hE : ∀ e, E e → E' e) : FailsOnly E' x :=
  fun e he => hE e (h e he)

theorem bind (hx : FailsOnly E x) (hf : ∀ a, x = .ok a → FailsOnly E (f a)) :
    FailsOnly E (x >>= f) := by
  cases x with
  | ok a => exact hf a rfl
  | error e => exact failsOnly_error (hx e rfl)

theorem map (hx : FailsOnly E x) (g : α → β) : FailsOnly E (g <$> x) := by
  cases x with
  | ok a => exact failsOnly_ok _
  | error e => exact failsOnly_error (hx e rfl)

theorem mapM (hf : ∀ a ∈ xs, FailsOnly E (f a)) : FailsOnly E (xs.mapM f) := by
  induction xs with
  | nil => exact failsOnly_ok _
  | cons a rest ih =>
    rw [List.mapM_cons]
    refine (hf a (List.mem_cons_self ..)).bind fun b _ => ?_
    exact (ih fun a' ha' => hf a' (List.mem_cons_of_mem _ ha')).bind fun _ _ => failsOnly_ok _

end FailsOnly

end Wirework
