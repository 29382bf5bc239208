import Wirework.Command.Run
import Wirework.Proofs.Except
import Wirework.Storage.Tree

/-!
# Commands on a tree of files

How the steps of a command run on a tree of files, what they show, and what a command may have
reported when it ends. Two kinds of steps matter. `Act.Shows` is about a step that writes to the
console and ends the command where that cannot be done. `Act.Ends` bounds the reports of a step: it
says nothing where errors are reported unless it ends the command, so the bound of a whole command
follows from the bounds of its steps (`Ends.bind`).
-/

namespace Wirework

open Act

variable {α β : Type} {s s' : Session} {t t' : Tree} {E : String → Prop} {P : α → Prop}

namespace Act

/-! ## Steps -/

theorem bind_of_ok {act : Act (StateM Tree) α} {f : α → Act (StateM Tree) β} {a : α}
    (h : act s t = ((.ok a, s'), t')) : (act >>= f) s t = f a s' t' := by
  simp only [bind, ExceptT.bind, ExceptT.mk, StateT.bind, ExceptT.bindCont, h]

theorem bind_of_error {act : Act (StateM Tree) α} {f : α → Act (StateM Tree) β} {e : Stop}
    (h : act s t = ((.error e, s'), t')) : (act >>= f) s t = ((.error e, s'), t') := by
  simp only [bind, ExceptT.bind, ExceptT.mk, StateT.bind, ExceptT.bindCont, h]
  rfl

theorem within_apply (step : StateM Tree α) :
    (within step : Act (StateM Tree) α) s t = ((.ok (step t).1, s), (step t).2) := rfl

theorem echo_apply (line : String) : (echo line : Act (StateM Tree) Unit) s t =
    ((.ok (), { s with out := s.out ++ line ++ "\n" }), t) := rfl

theorem echo_all (lines : List String) : ∃ out,
    (lines.forM echo : Act (StateM Tree) Unit) s t = ((.ok (), { s with out }), t) := by
  induction lines generalizing s with
  | nil => exact ⟨s.out, rfl⟩
  | cons line rest ih =>
    obtain ⟨out, hout⟩ := @ih { s with out := s.out ++ line ++ "\n" }
    exact ⟨out, (bind_of_ok (echo_apply line)).trans hout⟩

/-! ## Showing -/

/-- An act does nothing but write to the console, or it ends the command if that cannot be done. -/
def Shows (shown : Prop) (act : Act (StateM Tree) Unit) : Prop :=
  ∀ s t, (shown ∧ ∃ out, act s t = ((.ok (), { s with out }), t)) ∨
    (¬ shown ∧ ∃ f out, act s t = ((.error (.unexpected f), { s with out }), t))

theorem shows_echo (line : String) : Shows True (echo line) :=
  fun _ _ => Or.inl ⟨trivial, _, echo_apply line⟩

theorem shows_display (lines : Except Markup.Error (List String)) :
    Shows (lines.isOk = true) (display lines) := by
  intro s t
  cases lines with
  | ok lines => exact Or.inl ⟨rfl, echo_all lines⟩
  | error e =>
    refine Or.inr ⟨nofun, ?_⟩
    cases e with
    | broken => exact ⟨.brokenMarkup, s.out, rfl⟩
    | color => exact ⟨.brokenColor, s.out, rfl⟩
    | misfit why => exact ⟨.unfit why, s.out, rfl⟩

theorem shows_say (text : String) : Shows ((Console.lines text).isOk = true) (say text) :=
  shows_display _

theorem shows_sayTable (table : Table) : Shows (table.lines.isOk = true) (sayTable table) :=
  shows_display _

theorem Shows.bind {shown shown' : Prop} {act act' : Act (StateM Tree) Unit} (h : Shows shown act)
    (h' : Shows shown' act') : Shows (shown ∧ shown') (act >>= fun _ => act') := by
  intro s t
  rcases h s t with ⟨hshown, out, hrun⟩ | ⟨hshown, f, out, hrun⟩
  · rw [bind_of_ok hrun]
    rcases h' { s with out } t with ⟨hshown', hrun'⟩ | ⟨hshown', hrun'⟩
    · exact Or.inl ⟨⟨hshown, hshown'⟩, hrun'⟩
    · exact Or.inr ⟨fun hboth => hshown' hboth.2, hrun'⟩
  · exact Or.inr ⟨fun hboth => hshown hboth.1, f, out, bind_of_error hrun⟩

/-! ## Reports -/

def report (message : String) : String := Console.plain ("Error: " ++ message) ++ "\n"

theorem abort_apply (message : String) (hs : s.err = "") :
    (abort message : Act (StateM Tree) α) s t =
      ((.error .reported, { s with err := report message }), t) := by
  have hrun : (abort message : Act (StateM Tree) α) s t = ((.error .reported, { s with
      err := s.err ++ Console.plain ("Error: " ++ message) ++ "\n" }), t) := rfl
  rw [hrun, hs, String.empty_append]
  rfl

theorem report_head {message : String} {c : Char} (h : message.toList.head? = some c)
    (hc : c ≠ '\x1b') : (report message).toList[7]? = some c := by
  obtain ⟨cs, hcs⟩ : ∃ cs, message.toList = c :: cs := List.head?_eq_some_iff.mp h
  have hsteps : ∀ n, Console.withoutSequences (n + 8)
      ('E' :: 'r' :: 'r' :: 'o' :: 'r' :: ':' :: ' ' :: c :: cs) =
        'E' :: 'r' :: 'r' :: 'o' :: 'r' :: ':' :: ' ' :: c :: Console.withoutSequences n cs := by
    intro n
    simp [Console.withoutSequences, hc]
  have htext : ("Error: " ++ message).toList =
      'E' :: 'r' :: 'r' :: 'o' :: 'r' :: ':' :: ' ' :: c :: cs := by
    simp [hcs]
  unfold report Console.plain
  rw [htext]
  simp only [List.length_cons]
  rw [hsteps]
  simp

/-! ## Bounds of reports -/

/-- Started with nothing reported, an act gives a value and has reported nothing, or it ends the
command with a report within bounds or unexpectedly. -/
structure Ends (E : String → Prop) (P : α → Prop) (act : Act (StateM Tree) α) : Prop where
  run : ∀ s t, s.err = "" → match (act s t).1 with
    | (.ok a, s') => P a ∧ s'.err = ""
    | (.error .reported, s') => E s'.err
    | (.error (.unexpected _), _) => True

theorem ends_pure {a : α} (h : P a) : Ends E P (pure a) := ⟨fun _ _ hs => ⟨h, hs⟩⟩

theorem Ends.bind {Q : β → Prop} {act : Act (StateM Tree) α} {f : α → Act (StateM Tree) β}
    (h : Ends E P act) (hf : ∀ a, P a → Ends E Q (f a)) : Ends E Q (act >>= f) := by
  refine ⟨fun s t hs => ?_⟩
  have hact := h.run s t hs
  rcases hrun : act s t with ⟨⟨stop | a, s'⟩, t'⟩
  · rw [bind_of_error hrun]
    rw [hrun] at hact
    cases stop with
    | reported => exact hact
    | unexpected f => trivial
  · rw [bind_of_ok hrun]
    rw [hrun] at hact
    exact (hf a hact.1).run s' t' hact.2

theorem ends_within {step : StateM Tree α} (h : ∀ t, P (step t).1) : Ends E P (within step) :=
  ⟨fun _ t hs => ⟨h t, hs⟩⟩

theorem ends_escape (f : Failure) : Ends E P (escape f) := ⟨fun _ _ _ => trivial⟩

theorem Shows.ends {shown : Prop} {act : Act (StateM Tree) Unit} (h : Shows shown act) :
    Ends E (fun _ => True) act := by
  refine ⟨fun s t hs => ?_⟩
  rcases h s t with ⟨-, out, hrun⟩ | ⟨-, f, out, hrun⟩
  · rw [hrun]
    exact ⟨trivial, hs⟩
  · rw [hrun]
    trivial

theorem ends_forM {f : β → Act (StateM Tree) Unit} (xs : List β)
    (h : ∀ x ∈ xs, Ends E (fun _ => True) (f x)) : Ends E (fun _ => True) (xs.forM f) := by
  induction xs with
  | nil => exact ends_pure trivial
  | cons x rest ih =>
    exact (h x (List.mem_cons_self ..)).bind fun _ _ =>
      ih fun y hy => h y (List.mem_cons_of_mem _ hy)

theorem ends_require {r : Except Failure α}
    (h : FailsOnly (fun f => f.isReportable = true → E (report f.text)) r) :
    Ends E (fun _ => True) (require r) := by
  refine ⟨fun s t hs => ?_⟩
  cases r with
  | ok a => exact ⟨trivial, hs⟩
  | error f =>
    rw [require]
    by_cases hf : f.isReportable = true
    · rw [if_pos hf, abort_apply _ hs]
      exact h f rfl hf
    · rw [if_neg hf]
      trivial

/-! ## Outcomes -/

def outcomeOf : Except Stop Unit × Session → Outcome
  | (.ok _, s) => ⟨0, s.out, s.err, none⟩
  | (.error .reported, s) => ⟨1, s.out, s.err, none⟩
  | (.error (.unexpected f), s) => ⟨1, s.out, s.err, some f⟩

theorem finish_apply (act : Act (StateM Tree) Unit) (mint : Mint) (t : Tree) :
    (act.finish mint t).1.1 = outcomeOf (act { mint } t).1 := by
  rcases hrun : act { mint } t with ⟨⟨stop | _, s⟩, t'⟩
  · simp only [finish, bind, StateT.bind, ExceptT.run, StateT.run, hrun]
    cases stop <;> rfl
  · simp only [finish, bind, StateT.bind, ExceptT.run, StateT.run, hrun]
    rfl

/-- A command fails, with a report if something can be shown before, and unexpectedly if not. -/
structure FailsWith (report : String) (shown : Prop) (o : Outcome) : Prop where
  code : o.code = 1
  reported : shown → o.failure = none ∧ o.err = report
  unexpected : ¬ shown → o.failure ≠ none

theorem FailsWith.shown_of_failure {shown : Prop} {r : String} {o : Outcome}
    (h : FailsWith r shown o) (hfailure : o.failure = none) : shown :=
  Classical.byContradiction fun hnot => h.unexpected hnot hfailure

theorem Shows.failsWith {shown : Prop} {act next : Act (StateM Tree) Unit} {r : String}
    (h : Shows shown act)
    (hnext : ∀ out, ∃ s', next { s with out } t = ((.error .reported, s'), t) ∧ s'.err = r) :
    FailsWith r shown (outcomeOf ((act >>= fun _ => next) s t).1) := by
  rcases h s t with ⟨hshown, out, hrun⟩ | ⟨hshown, f, out, hrun⟩
  · obtain ⟨s', hstop, herr⟩ := hnext out
    rw [bind_of_ok hrun, hstop]
    exact ⟨rfl, fun _ => ⟨rfl, herr⟩, fun hnot => absurd hshown hnot⟩
  · rw [bind_of_error hrun]
    exact ⟨rfl, fun hshown' => absurd hshown' hshown, fun _ => nofun⟩

/-- A command within bounds of reports fails silently only if it does so unexpectedly. -/
theorem Ends.outcome {act : Act (StateM Tree) Unit} (h : Ends E (fun _ => True) act) (t : Tree)
    (hs : s.err = "") :
    (outcomeOf (act s t).1).code = 0 ∨ (outcomeOf (act s t).1).failure ≠ none ∨
      E (outcomeOf (act s t).1).err := by
  have hact := h.run s t hs
  rcases hrun : act s t with ⟨⟨stop | _, s'⟩, t'⟩
  · rw [hrun] at hact
    cases stop with
    | reported => exact Or.inr (Or.inr hact)
    | unexpected f => exact Or.inr (Or.inl (by simp [outcomeOf]))
  · exact Or.inl rfl

end Act

/-! ## Reading -/

def Tree.Reads (step : StateM Tree α) : Prop := ∀ t, (step t).2 = t

namespace Tree

theorem reads_pure (a : α) : Reads (pure a) := fun _ => rfl

theorem Reads.bind {step : StateM Tree α} {f : α → StateM Tree β} (h : Reads step)
    (hf : ∀ a, Reads (f a)) : Reads (step >>= f) := by
  intro t
  have hrun : (step >>= f) t = f (step t).1 (step t).2 := rfl
  rw [hrun, h t]
  exact hf _ t

theorem reads_look (p : Path) : Reads (Storage.look p) := fun _ => rfl

theorem reads_fileText (p : Path) : Reads (Storage.fileText p) := fun _ => rfl

theorem reads_entry (p : Path) : Reads (Storage.entry? p) := by
  refine (reads_look p).bind fun e => ?_
  split <;> exact reads_pure _

theorem reads_readText (p : Path) : Reads (Storage.readText p) :=
  (reads_fileText p).bind fun _ => reads_pure _

theorem reads_loadProject (p : Path) (mint : Mint) : Reads (ProjectFile.load p mint) := by
  refine (reads_entry p).bind fun e => (reads_readText p).bind fun text => ?_
  split <;> exact reads_pure _

theorem reads_loadManifest (p : Path) : Reads (Manifest.load p) := by
  refine (reads_look p).bind fun e => ?_
  refine (reads_entry _).bind fun e => (reads_fileText _).bind fun text => ?_
  split
  · exact reads_pure _
  · exact reads_pure _
  · exact reads_pure _
  · split <;> exact reads_pure _

def Gives (P : α → Prop) (step : StateM Tree α) : Prop := ∀ t, P (step t).1

theorem Gives.bind {P : β → Prop} {step : StateM Tree α} {f : α → StateM Tree β}
    (hf : ∀ a, Gives P (f a)) : Gives P (step >>= f) := fun t => hf (step t).1 (step t).2

end Tree

end Wirework
