import Wirework.Proofs.Command.Steps
import Wirework.Proofs.Service.Totality

/-!
# One verdict on a project

Whether a project is valid is decided along three ways: by a validator that reports findings, by one
that stops at the first rule with an error, and by the generation of a service. The decision is the
same along all of them (`Validator.accords`).

The commands for validation and for generation take this decision for the same project with the
same manifest. Where it is against the project, both fail. How they fail also depends on the
console: findings are shown with the names of nodes in them, a name may hold what looks like markup,
and broken markup ends a command before it comes to its own end (`Command.validate_of_not_isValid`,
`Command.generate_of_not_isValid`).
-/

namespace Wirework

open Act

variable {t : Tree} {project : Path} {mint : Mint} {g : Graph} {mf : Manifest}
  {v : Validator} {s : Session}

/-! ## Validators and generation -/

/-- What a validator decides is a matter of its rules: its options only select from the findings. -/
structure Validator.Accords (v : Validator) (g : Graph) : Prop where
  all : v.validateAll g =
    (v.rules.flatMap (·.findings g)).filter (·.severity.atLeast v.minSeverity)
  patient : v.failFast = false → v.validate g = v.validateAll g
  /-- A validator that fails fast reports the findings up to the first rule with an error. -/
  hasty : v.failFast = true → ∀ before r after, v.rules = before ++ r :: after →
    (∀ b ∈ before, errorsAmong (b.findings g) = []) → errorsAmong (r.findings g) ≠ [] →
    v.validate g =
      ((before ++ [r]).flatMap (·.findings g)).filter (·.severity.atLeast v.minSeverity)
  beginning : v.validate g <+: v.validateAll g
  /-- Without errors, failing fast makes no difference. -/
  clean : (∀ r ∈ v.rules, errorsAmong (r.findings g) = []) → v.validate g = v.validateAll g
  /-- The options have no part in the decision. -/
  steady : ∀ failFast minSeverity, { v with failFast, minSeverity }.isValid g = v.isValid g
  generation : ∀ o a issues, Service.generate o a v g = .error (.validationFailed issues) ↔
    v.isValid g = false ∧ issues = errorsAmong (v.rules.flatMap (·.findings g))

namespace Validator

theorem filter_flatMap_findings (rules : List ProjectRule) :
    (rules.flatMap (·.findings g)).filter (·.severity.atLeast v.minSeverity) =
      rules.flatMap (v.reported g) := by
  rw [List.filter_flatMap]
  rfl

theorem validate_of_clean (h : ∀ r ∈ v.rules, errorsAmong (r.findings g) = []) :
    v.validate g = v.validateAll g := by
  unfold validate validateAll
  split
  · refine untilError_of_forall_not fun r hr => ?_
    rw [stops_iff, ne_eq, Classical.not_not]
    exact h r hr
  · rfl

theorem validationFailed_iff {o : Service.Options} {a : Service.AuthOptions} {issues : List Issue} :
    Service.generate o a v g = .error (.validationFailed issues) ↔
      v.isValid g = false ∧ issues = errorsAmong (v.findings g) := by
  cases hvalid : v.isValid g with
  | true =>
    rw [Service.generate_of_isValid hvalid]
    refine iff_of_false (fun h => ?_) (by simp)
    rcases Service.failsOnly_output _ h with hf | hf | hf <;> cases hf
  | false =>
    rw [Service.generate_of_not_isValid hvalid]
    simp [eq_comm]

theorem accords (v : Validator) (g : Graph) : v.Accords g where
  all := validateAll_eq_filter
  patient := fun h => by rw [validate, h]; rfl
  hasty := by
    intro hfast before r after hrules hbefore hr
    have hstay : ∀ b ∈ before, ¬ v.Stops g b := fun b hb => by
      rw [stops_iff, ne_eq, Classical.not_not]
      exact hbefore b hb
    rw [filter_flatMap_findings, validate, if_pos hfast, hrules,
      untilError_append_cons hstay (stops_iff.mpr hr)]
  beginning := validate_prefix
  clean := validate_of_clean
  steady := fun _ _ => isValid_congr rfl
  generation := fun _ _ _ => validationFailed_iff

end Validator

namespace Command

/-! ## Validation -/

def outcome (c : Command) (mint : Mint) (t : Tree) : Outcome :=
  ((act (m := StateM Tree) c).finish mint t).1.1

def summary (issues : List Issue) : String :=
  let count := fun p : Issue → Bool => toString (issues.filter p).length
  count Issue.isError ++ " error(s), " ++ count Issue.isWarning ++ " warning(s), "
    ++ count Issue.isInfo ++ " info"

/-- Findings that the console can show, in a table and in numbers. -/
def Presentable (g : Graph) (issues : List Issue) : Prop :=
  (issueTable g issues).lines.isOk = true ∧ (Console.lines (summary issues)).isOk = true

variable {minSeverity : Option String} {severity : Option Severity} {json : Bool}

theorem shows_sayIssues (g : Graph) (issues : List Issue) :
    Shows (Presentable g issues) (sayIssues g issues) :=
  (shows_sayTable _).bind (shows_say _)

def present (g : Graph) (issues : List Issue) (json : Bool) : Act (StateM Tree) Unit :=
  if json then echo (issuesJson issues)
  else if issues.isEmpty then say ("[green]✓[/green] '" ++ g.about.name ++ "' is valid")
  else sayIssues g issues

theorem present_bind (issues : List Issue) (k : Unit → Act (StateM Tree) Unit) :
    present g issues json >>= k =
      if json = true then echo (issuesJson issues) >>= k
      else if issues.isEmpty = true then
        say ("[green]✓[/green] '" ++ g.about.name ++ "' is valid") >>= k
      else sayIssues g issues >>= k := by
  unfold present
  split
  · rfl
  · split
    · rfl
    · rfl

theorem ends_present {E : String → Prop} (g : Graph) (issues : List Issue) (json : Bool) :
    Ends E (fun _ => True) (present g issues json) := by
  unfold present
  split
  · exact (shows_echo _).ends
  · split
    · exact (shows_say _).ends
    · exact (shows_sayIssues g issues).ends

theorem shows_present {issues : List Issue} (hne : issues ≠ []) :
    Shows (json = true ∨ Presentable g issues) (present g issues json) := by
  unfold present
  rw [if_neg (c := issues.isEmpty = true) (by simpa using hne)]
  cases json with
  | true => simpa using shows_echo (issuesJson issues)
  | false => simpa using shows_sayIssues g issues

/-- The validator of a manifest, with another least severity if one is asked for. -/
def validatorFor (mf : Manifest) (severity : Option Severity) : Validator :=
  { mf.validator with minSeverity := severity.getD mf.validator.minSeverity }

theorem any_isError_validatorFor : ((validatorFor mf severity).validate g).any (·.isError) =
    !mf.validator.isValid g := by
  have hsame : mf.validator.isValid g = (validatorFor mf severity).isValid g :=
    Validator.isValid_congr rfl
  rw [hsame, Validator.isValid, Bool.not_not]

theorem runValidate_of_opens (h : Opens t project mint g mf)
    (hseverity : minSeverity.mapM (choose "severity") = .ok severity) :
    ∃ mint', (runValidate project minSeverity json : Act (StateM Tree) Unit) { mint } t =
      (present g ((validatorFor mf severity).validate g) json >>= fun _ =>
        if mf.validator.isValid g = true then pure () else giveUp) { mint := mint' } t := by
  obtain ⟨mint', hload⟩ := load_of_opens h
  have hend : (if mf.validator.isValid g = true then pure () else giveUp : Act (StateM Tree) Unit) =
      if ((validatorFor mf severity).validate g).any (·.isError) = true then giveUp
      else pure () := by
    rw [any_isError_validatorFor]
    cases mf.validator.isValid g <;> rfl
  refine ⟨mint', ?_⟩
  rw [runValidate, bind_of_ok hload, bind_of_ok (manifestOf_of_opens h),
    bind_of_ok (chosen_of_ok hseverity), hend, present_bind]
  rfl

/-- A command fails over what it has shown, and has no error to report. -/
def FailsOverFindings (o : Outcome) : Prop := o.code = 1 ∧ o.failure = none ∧ o.err = ""

theorem validate_of_isValid (h : Opens t project mint g mf)
    (hseverity : minSeverity.mapM (choose "severity") = .ok severity)
    (hvalid : mf.validator.isValid g = true) :
    ¬ FailsOverFindings (outcome (.validate project minSeverity json) mint t) := by
  obtain ⟨mint', hrun⟩ := runValidate_of_opens h hseverity
  have hends := (ends_present (E := fun _ => False) g ((validatorFor mf severity).validate g)
    json).bind fun _ _ => ends_pure (P := fun _ => True) (a := ()) trivial
  rw [outcome, finish_apply, act, hrun, hvalid, if_pos rfl]
  rintro ⟨hcode, hfailure, -⟩
  rcases hends.outcome (s := { mint := mint' }) t rfl with hzero | hfails | hfalse
  · cases hzero.symm.trans hcode
  · exact hfails hfailure
  · exact hfalse

/-- Validation fails over findings with an error, if the findings can be shown. A document always
can be. -/
theorem validate_of_not_isValid (h : Opens t project mint g mf)
    (hseverity : minSeverity.mapM (choose "severity") = .ok severity)
    (hvalid : mf.validator.isValid g = false) :
    FailsWith "" (json = true ∨ Presentable g ((validatorFor mf severity).validate g))
      (outcome (.validate project minSeverity json) mint t) := by
  obtain ⟨mint', hrun⟩ := runValidate_of_opens h hseverity
  have hne : (validatorFor mf severity).validate g ≠ [] := by
    intro hnil
    have hany : ((validatorFor mf severity).validate g).any (·.isError) = !mf.validator.isValid g :=
      any_isError_validatorFor
    rw [hnil, hvalid] at hany
    cases hany
  rw [outcome, finish_apply, act, hrun, hvalid, if_neg (by simp)]
  exact (shows_present hne).failsWith fun out => ⟨_, rfl, rfl⟩

/-! ## Generation -/

def refusal (errors : Nat) : String :=
  report ("generation aborted, " ++ toString errors ++ " validation error(s)")

/-- A command fails with the report that a service is refused over errors. -/
def Refuses (o : Outcome) : Prop := o.code = 1 ∧ o.failure = none ∧ ∃ errors, o.err = refusal errors

theorem not_reportsFile_refusal (errors : Nat) : ¬ ReportsFile (refusal errors) := by
  rintro ⟨path, detail, h⟩
  -- The reports differ in the character after `Error: `.
  have hrefusal : (refusal errors).toList[7]? = some 'g' := report_head (by simp) (by decide)
  obtain ⟨c, hc, hhead⟩ := head_text_unwritable path detail
  rw [h] at hrefusal
  rcases hc with rfl | rfl
  · rw [report_head hhead (by decide)] at hrefusal
    cases hrefusal
  · rw [report_head hhead (by decide)] at hrefusal
    cases hrefusal

/-- A command that reports nothing but files does not refuse a service. -/
theorem not_refuses {act : Act (StateM Tree) Unit} (h : Ends ReportsFile (fun _ => True) act)
    (hs : s.err = "") : ¬ Refuses (outcomeOf (act s t).1) := by
  rintro ⟨hcode, hfailure, errors, herr⟩
  rcases h.outcome t hs with hzero | hfails | hreports
  · cases hzero.symm.trans hcode
  · exact hfails hfailure
  · rw [herr] at hreports
    exact not_reportsFile_refusal errors hreports

theorem generated_of_not_isValid {o : Service.Options} (hvalid : mf.validator.isValid g = false) :
    let errors := errorsAmong (mf.validator.findings g)
    (generated o mf g : Act (StateM Tree) Output) = (do
      sayTable (issueTable g errors)
      abort ("generation aborted, " ++ toString errors.length ++ " validation error(s)")) := by
  unfold generated
  rw [Service.generate_of_not_isValid hvalid]

theorem ends_generated {o : Service.Options} (hvalid : mf.validator.isValid g = true) :
    Ends ReportsFile (fun _ => True) (generated o mf g : Act (StateM Tree) Output) := by
  unfold generated
  rw [Service.generate_of_isValid hvalid]
  cases hout : (Service.Plan.make o mf.authOptions g).output with
  | ok out => exact ends_pure trivial
  | error f =>
    rcases Service.failsOnly_output f hout with rfl | rfl | rfl <;> exact ends_escape _

theorem ends_targetOf {output : Option Path} {o : Service.Options} :
    Ends ReportsFile (fun _ => True) (targetOf project output mf o g : Act (StateM Tree) Path) := by
  unfold targetOf
  cases output with
  | some path => exact ends_pure trivial
  | none =>
    refine Ends.bind (P := fun _ => True) ?_ fun _ _ => ends_pure trivial
    exact (ends_within (P := fun _ => True) fun _ => trivial).bind fun _ _ => ends_pure trivial

variable {output : Option Path} {framework database : Option String} {fw : Option Framework}
  {db : Option Backend} {noMigrations dryRun : Bool}

def deliver (project : Path) (output : Option Path) (mf : Manifest) (o : Service.Options)
    (g : Graph) (dryRun : Bool) (out : Output) : Act (StateM Tree) Unit := do
  out.warnings.forM fun w => say ("[yellow]Warning:[/yellow] " ++ w)
  let target ← targetOf project output mf o g
  if dryRun then
    say ("[bold]Would generate " ++ toString out.fileCount ++ " files in " ++ target.text
      ++ ":[/bold]")
    out.paths.forM fun path => say ("  " ++ path)
  else
    let written ← require (← within (out.writeTo target))
    say ("[green]✓[/green] Generated " ++ toString written.length ++ " files in " ++ target.text)

theorem ends_deliver {o : Service.Options} (out : Output) :
    Ends ReportsFile (fun _ => True) (deliver project output mf o g dryRun out) := by
  refine (ends_forM _ fun w _ => (shows_say _).ends).bind fun _ _ => ?_
  refine ends_targetOf.bind fun target _ => ?_
  split
  · refine (shows_say _).ends.bind fun _ _ => ?_
    exact ends_forM _ fun path _ => (shows_say _).ends
  · exact (ends_writeTo out target).bind fun written _ => (shows_say _).ends

theorem runGenerate_of_opens (h : Opens t project mint g mf)
    (hframework : framework.mapM (choose "framework") = .ok fw)
    (hdatabase : database.mapM (choose "database") = .ok db) :
    ∃ mint' o, (runGenerate project output framework database noMigrations dryRun :
      Act (StateM Tree) Unit) { mint } t =
        (generated o mf g >>= deliver project output mf o g dryRun) { mint := mint' } t := by
  obtain ⟨mint', hload⟩ := load_of_opens h
  obtain ⟨o, ho⟩ := Manifest.options_of_load h.manifest
  have hoptions : (require mf.options : Act (StateM Tree) Service.Options) { mint := mint' } t =
      ((.ok o, { mint := mint' }), t) := by
    rw [ho]
    rfl
  refine ⟨mint', { o with
    framework := fw.or o.framework
    database := db.or o.database
    migrations := o.migrations && !noMigrations }, ?_⟩
  rw [runGenerate, bind_of_ok hload, bind_of_ok (manifestOf_of_opens h), bind_of_ok hoptions,
    bind_of_ok (chosen_of_ok hframework), bind_of_ok (chosen_of_ok hdatabase)]
  rfl

theorem generate_of_isValid (h : Opens t project mint g mf)
    (hframework : framework.mapM (choose "framework") = .ok fw)
    (hdatabase : database.mapM (choose "database") = .ok db)
    (hvalid : mf.validator.isValid g = true) :
    ¬ Refuses
      (outcome (.generate project output framework database noMigrations dryRun) mint t) := by
  obtain ⟨mint', o, hrun⟩ := runGenerate_of_opens h hframework hdatabase
  rw [outcome, finish_apply, act, hrun]
  exact not_refuses ((ends_generated hvalid).bind fun out _ => ends_deliver out) rfl

/-- Generation fails over a project with an error, and refuses a service if all errors can be
shown. -/
theorem generate_of_not_isValid (h : Opens t project mint g mf)
    (hframework : framework.mapM (choose "framework") = .ok fw)
    (hdatabase : database.mapM (choose "database") = .ok db)
    (hvalid : mf.validator.isValid g = false) :
    FailsWith (refusal (errorsAmong (mf.validator.findings g)).length)
      ((issueTable g (errorsAmong (mf.validator.findings g))).lines.isOk = true)
      (outcome (.generate project output framework database noMigrations dryRun) mint t) := by
  obtain ⟨mint', o, hrun⟩ := runGenerate_of_opens h hframework hdatabase
  rw [outcome, finish_apply, act, hrun, generated_of_not_isValid hvalid, bind_assoc]
  refine (shows_sayTable _).failsWith fun out => ⟨_, bind_of_error (abort_apply _ rfl), rfl⟩

/-- **One verdict.** The options of a validator have no part in its decision, and generation takes
the same decision. So the commands for validation and for generation fail over the same projects,
the one over findings and the other with a refusal, as far as the console can show what they
found. -/
theorem verdicts_agree (v : Validator) (g : Graph) :
    v.Accords g ∧
    ∀ {t : Tree} {project : Path} {mint : Mint} {mf : Manifest}
      (minSeverity : Option String) (severity : Option Severity) (json : Bool)
      (output : Option Path) (framework database : Option String) (fw : Option Framework)
      (db : Option Backend) (noMigrations dryRun : Bool),
      Opens t project mint g mf →
      minSeverity.mapM (choose "severity") = .ok severity →
      framework.mapM (choose "framework") = .ok fw →
      database.mapM (choose "database") = .ok db →
      let validation := outcome (.validate project minSeverity json) mint t
      let generation :=
        outcome (.generate project output framework database noMigrations dryRun) mint t
      let errors := errorsAmong (mf.validator.findings g)
      (FailsOverFindings validation ↔ mf.validator.isValid g = false ∧
        (json = true ∨ Presentable g ((validatorFor mf severity).validate g))) ∧
      (Refuses generation ↔ mf.validator.isValid g = false ∧
        (issueTable g errors).lines.isOk = true) ∧
      (mf.validator.isValid g = false → validation.code = 1 ∧ generation.code = 1) := by
  refine ⟨v.accords g, ?_⟩
  intro t project mint mf minSeverity severity json output framework database fw db noMigrations
    dryRun hopens hseverity hframework hdatabase validation generation errors
  cases hvalid : mf.validator.isValid g with
  | true =>
    refine ⟨iff_of_false (validate_of_isValid hopens hseverity hvalid) (by simp),
      iff_of_false (generate_of_isValid hopens hframework hdatabase hvalid) (by simp), by simp⟩
  | false =>
    have hvalidation : FailsWith "" _ validation :=
      validate_of_not_isValid hopens hseverity hvalid
    have hgeneration : FailsWith (refusal errors.length) _ generation :=
      generate_of_not_isValid hopens hframework hdatabase hvalid
    refine ⟨⟨?_, ?_⟩, ⟨?_, ?_⟩, fun _ => ⟨hvalidation.code, hgeneration.code⟩⟩
    · rintro ⟨-, hfailure, -⟩
      exact ⟨rfl, hvalidation.shown_of_failure hfailure⟩
    · rintro ⟨-, hshown⟩
      exact ⟨hvalidation.code, hvalidation.reported hshown⟩
    · rintro ⟨-, hfailure, -⟩
      exact ⟨rfl, hgeneration.shown_of_failure hfailure⟩
    · rintro ⟨-, hshown⟩
      obtain ⟨hfailure, herr⟩ := hgeneration.reported hshown
      exact ⟨hgeneration.code, hfailure, errors.length, herr⟩

/-- A project with two nodes of one name, which closes a tag that is not open. -/
def markedFile : String :=
  "\x7b\"project\":\x7b\"meta\":\x7b\"name\":\"\"\x7d,\"nodes\":\x7b
    \"a\":\x7b\"component_type\":\"u\",\"name\":\"[/]\"\x7d,
    \"b\":\x7b\"component_type\":\"u\",\"name\":\"[/]\"\x7d\x7d\x7d\x7d"

def markedTree : Tree := { here := .ofText "/", files := [(.ofText "/p", markedFile)] }

/-- The project has an error that the console cannot show. -/
theorem markedTree_findings : ((ProjectFile.load (m := StateM Tree) (.ofText "p") default
    markedTree).1.toOption.any fun r => (Manifest.load (m := StateM Tree)
      (Path.absolute markedTree.here (.ofText "p")).parent markedTree).1.toOption.any fun mf =>
        !mf.validator.isValid r.1 &&
          (issueTable r.1 (errorsAmong (mf.validator.findings r.1))).rows.any fun row =>
            !(Markup.shown (row.getD 3 "")).isOk) = true := by
  decide +kernel

/-- Validation of that project fails over findings, and generation fails without a refusal. -/
theorem verdicts_diverge_over_markup :
    FailsOverFindings (outcome (.validate (.ofText "p") none true) default markedTree) ∧
      (outcome (.generate (.ofText "p") none none none false true) default markedTree).code = 1 ∧
      ¬ Refuses
        (outcome (.generate (.ofText "p") none none none false true) default markedTree) := by
  obtain ⟨⟨g, mint⟩, hload, hfindings⟩ := any_toOption_iff.mp markedTree_findings
  obtain ⟨mf, hmanifest, hfindings⟩ := any_toOption_iff.mp hfindings
  simp only [Bool.and_eq_true, Bool.not_eq_true', List.any_eq_true] at hfindings
  obtain ⟨hvalid, row, hrow, hcell⟩ := hfindings
  have hopens : Opens markedTree (.ofText "p") default g mf := ⟨⟨mint, hload⟩, hmanifest⟩
  obtain ⟨-, hcommands⟩ := verdicts_agree mf.validator g
  obtain ⟨hvalidation, hgeneration, hcodes⟩ := hcommands none none true none none none none none
    false true hopens rfl rfl rfl
  refine ⟨hvalidation.mpr ⟨hvalid, Or.inl rfl⟩, (hcodes hvalid).2, fun hrefuses => ?_⟩
  have hshown := Table.shown_of_lines (hgeneration.mp hrefuses).2 hrow (show 3 < 4 by decide)
  rw [hcell] at hshown
  cases hshown

end Command

end Wirework
