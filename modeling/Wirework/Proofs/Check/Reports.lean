import Wirework.Check.Validator

/-!
# What validators report

A validator has two options: the least severity that it reports, and whether it stops at the first
rule with an error. Neither can hide an error. No severity is above that of an error, so the filter
keeps every error of a rule (`errorsAmong_reported`), and a validator that stops early has reported
an error by then (`any_isError_untilError`). Whether a project is valid is therefore a matter of the
rules alone (`isValid_iff`).
-/

namespace Wirework

theorem Severity.error_atLeast (s : Severity) : Severity.error.atLeast s = true := by
  cases s <;> rfl

theorem errorsAmong_eq_nil_iff {issues : List Issue} :
    errorsAmong issues = [] ↔ issues.any (·.isError) = false := by
  rw [errorsAmong, List.filter_eq_nil_iff, List.any_eq_false]

namespace Validator

variable {v : Validator} {g : Graph} {r : ProjectRule} {rules : List ProjectRule}

/-! ## All rules -/

def findings (v : Validator) (g : Graph) : List Issue := v.rules.flatMap (·.findings g)

theorem validateAll_eq_filter :
    v.validateAll g = (v.findings g).filter (·.severity.atLeast v.minSeverity) := by
  rw [findings, List.filter_flatMap]
  rfl

theorem errorsAmong_reported : errorsAmong (v.reported g r) = errorsAmong (r.findings g) := by
  rw [errorsAmong, errorsAmong, reported, List.filter_filter]
  refine List.filter_congr fun i _ => ?_
  cases he : i.isError with
  | false => simp
  | true =>
    have hs : i.severity = .error := by simpa [Issue.isError] using he
    rw [hs, Severity.error_atLeast]
    rfl

theorem errorsAmong_validateAll : errorsAmong (v.validateAll g) = errorsAmong (v.findings g) := by
  rw [errorsAmong, errorsAmong, validateAll, findings, List.filter_flatMap, List.filter_flatMap]
  congr 1
  funext r
  exact errorsAmong_reported

/-! ## Stopping at an error -/

def Stops (v : Validator) (g : Graph) (r : ProjectRule) : Prop :=
  (v.reported g r).any (·.isError) = true

theorem stops_iff : v.Stops g r ↔ errorsAmong (r.findings g) ≠ [] := by
  rw [Stops, ← errorsAmong_reported, ne_eq, errorsAmong_eq_nil_iff, Bool.not_eq_false]

theorem untilError_of_forall_not (h : ∀ r ∈ rules, ¬ v.Stops g r) :
    v.untilError g rules = rules.flatMap (v.reported g) := by
  induction rules with
  | nil => rfl
  | cons r rest ih =>
    have hr : ¬ (v.reported g r).any (·.isError) = true := h r (List.mem_cons_self ..)
    rw [untilError, if_neg hr, ih fun r' hr' => h r' (List.mem_cons_of_mem _ hr'),
      List.flatMap_cons]

/-- The first rule that stops a validator is the last one that it reports. -/
theorem untilError_append_cons {before after : List ProjectRule}
    (hbefore : ∀ r ∈ before, ¬ v.Stops g r) (hr : v.Stops g r) :
    v.untilError g (before ++ r :: after) = (before ++ [r]).flatMap (v.reported g) := by
  induction before with
  | nil =>
    have hstop : (v.reported g r).any (·.isError) = true := hr
    rw [List.nil_append, untilError, if_pos hstop]
    simp
  | cons b rest ih =>
    have hb : ¬ (v.reported g b).any (·.isError) = true := hbefore b (List.mem_cons_self ..)
    rw [List.cons_append, untilError, if_neg hb,
      ih fun r' hr' => hbefore r' (List.mem_cons_of_mem _ hr'), List.cons_append,
      List.flatMap_cons]

/-- Rules without one that stops, or split at the first one that does. -/
theorem stops_cases (v : Validator) (g : Graph) (rules : List ProjectRule) :
    (∀ r ∈ rules, ¬ v.Stops g r) ∨ ∃ before r after, rules = before ++ r :: after ∧
      (∀ r' ∈ before, ¬ v.Stops g r') ∧ v.Stops g r := by
  induction rules with
  | nil => exact Or.inl fun _ hr => nomatch hr
  | cons r rest ih =>
    by_cases hr : v.Stops g r
    · exact Or.inr ⟨[], r, rest, rfl, fun _ hr' => absurd hr' List.not_mem_nil, hr⟩
    · rcases ih with hnone | ⟨before, r', after, rfl, hbefore, hr'⟩
      · exact Or.inl fun r' hm => (List.mem_cons.mp hm).elim (fun he => he ▸ hr) (hnone r')
      · refine Or.inr ⟨r :: before, r', after, rfl, fun b hm => ?_, hr'⟩
        exact (List.mem_cons.mp hm).elim (fun he => he ▸ hr) (hbefore b)

/-- Stopping early hides no error: there is one among the findings up to there. -/
theorem any_isError_untilError :
    (v.untilError g rules).any (·.isError) = (rules.flatMap (v.reported g)).any (·.isError) := by
  rcases stops_cases v g rules with hnone | ⟨before, r, after, rfl, hbefore, hr⟩
  · rw [untilError_of_forall_not hnone]
  · have herror : ∃ i ∈ v.reported g r, i.isError = true := List.any_eq_true.mp hr
    rw [untilError_append_cons hbefore hr, Bool.eq_iff_iff, List.any_eq_true, List.any_eq_true]
    obtain ⟨i, hi, he⟩ := herror
    refine ⟨fun _ => ⟨i, ?_, he⟩, fun _ => ⟨i, ?_, he⟩⟩
    · exact List.mem_flatMap.mpr ⟨r, by simp, hi⟩
    · exact List.mem_flatMap.mpr ⟨r, by simp, hi⟩

theorem validate_prefix : v.validate g <+: v.validateAll g := by
  unfold validate validateAll
  split
  · rcases stops_cases v g v.rules with hnone | ⟨before, r, after, hrules, hbefore, hr⟩
    · exact ⟨[], by rw [untilError_of_forall_not hnone, List.append_nil]⟩
    · have hall : (before ++ r :: after).flatMap (v.reported g) =
          (before ++ [r]).flatMap (v.reported g) ++ after.flatMap (v.reported g) := by
        rw [List.append_cons, List.flatMap_append]
      rw [hrules, untilError_append_cons hbefore hr, hall]
      exact List.prefix_append ..
  · exact List.prefix_rfl

/-! ## Validity -/

theorem any_isError_validate :
    (v.validate g).any (·.isError) = (v.validateAll g).any (·.isError) := by
  unfold validate
  split
  · exact any_isError_untilError
  · rfl

theorem isValid_eq_false_iff : v.isValid g = false ↔ errorsAmong (v.findings g) ≠ [] := by
  rw [isValid, Bool.not_eq_false', any_isError_validate, ← errorsAmong_validateAll, ne_eq,
    errorsAmong_eq_nil_iff, Bool.not_eq_false]

/-- A project is valid if no rule finds an error, whatever is reported of the findings. -/
theorem isValid_iff : v.isValid g = true ↔
    ∀ r ∈ v.rules, ∀ i ∈ r.findings g, i.isError = false := by
  rw [← Bool.not_eq_false, isValid_eq_false_iff, ne_eq, Classical.not_not,
    errorsAmong_eq_nil_iff, findings, List.any_eq_false]
  simp only [List.mem_flatMap, Bool.not_eq_true]
  constructor
  · intro h r hr i hi
    exact h i ⟨r, hr, hi⟩
  · rintro h i ⟨r, hr, hi⟩
    exact h r hr i hi

theorem isValid_congr {w : Validator} (h : v.rules = w.rules) : v.isValid g = w.isValid g := by
  rw [Bool.eq_iff_iff, isValid_iff, isValid_iff, h]

/-- The errors among all findings are demanded to be none, whatever is reported of the findings. -/
theorem requireNoErrors_validateAll : requireNoErrors (v.validateAll g) =
    if v.isValid g = true then .ok ()
    else .error (.validationFailed (errorsAmong (v.findings g))) := by
  rw [requireNoErrors, errorsAmong_validateAll]
  cases hvalid : v.isValid g with
  | false =>
    have hne := isValid_eq_false_iff.mp hvalid
    cases herrors : errorsAmong (v.findings g) with
    | nil => exact absurd herrors hne
    | cons i rest => rfl
  | true =>
    have hnil : errorsAmong (v.findings g) = [] := by
      refine Classical.not_not.mp fun hne => ?_
      rw [isValid_eq_false_iff.mpr hne] at hvalid
      cases hvalid
    rw [hnil]
    rfl

end Validator

end Wirework
