import Wirework.Proofs.Calendar
import Wirework.Proofs.Service.Modules
import Wirework.Proofs.Storage.Frame

/-!
# Services stay in their folder

The paths of a service are made of fixed folders and of names that come from the project: entities
and interfaces in snake case, and the time stamps of migrations. Neither snake case nor a stamp
writes a character that paths are made with (`isPlain_of_mem_snake`, `isDigit_of_mem_stamp`), so
every such name is one segment of its path, and the ending that it has keeps it from being `.` or
`..`. Main statement: every path of a service is contained, and writing the service to a folder
changes no file outside of it (`output_contained`).
-/

namespace Wirework

/-! ## Segments -/

namespace Path

variable {acc cs rest : List Char} {path folder name : String}

theorem split_cons_of_ne {c : Char} (hc : c ≠ '/') : split acc (c :: cs) = split (c :: acc) cs := by
  rw [split]
  exact fun heq => hc heq

theorem split_append : split acc (cs ++ '/' :: rest) = split acc cs ++ split [] rest := by
  induction cs generalizing acc with
  | nil => rfl
  | cons c cs ih =>
    by_cases hc : c = '/'
    · subst hc
      rw [List.cons_append, split, split, ih, List.cons_append]
    · rw [List.cons_append, split_cons_of_ne hc, split_cons_of_ne hc, ih]

theorem split_of_not_mem (h : '/' ∉ cs) : split acc cs = [String.ofList (acc.reverse ++ cs)] := by
  induction cs generalizing acc with
  | nil => rw [split, List.append_nil]
  | cons c cs ih =>
    have hc : c ≠ '/' := fun heq => h (heq ▸ List.mem_cons_self)
    have hcs : '/' ∉ cs := fun hmem => h (List.mem_cons_of_mem _ hmem)
    rw [split_cons_of_ne hc, ih hcs, List.reverse_cons, List.append_assoc]
    rfl

theorem split_ne_nil : split acc cs ≠ [] := by
  induction cs generalizing acc with
  | nil => simp [split]
  | cons c cs ih =>
    by_cases hc : c = '/'
    · subst hc
      simp [split]
    · rw [split_cons_of_ne hc]
      exact ih

/-- Characters that stand for themselves in a path. -/
def isPlain (c : Char) : Bool := c ≠ '/' && c ≠ '\\' && c ≠ '\x00'

/-- A segment leads to something in its folder. -/
def isProper (segment : String) : Bool := segment ≠ "" && segment ≠ "." && segment ≠ ".."

/-- A path stays below the folder that it goes on from, whoever reads it. -/
structure Contained (path : String) : Prop where
  relative : path.toList.head? ≠ some '/'
  segments : ∀ s ∈ split [] path.toList, isProper s = true
  backslash : '\\' ∉ path.toList
  nul : '\x00' ∉ path.toList

instance : Decidable (Contained path) :=
  decidable_of_iff (path.toList.head? ≠ some '/' ∧ (∀ s ∈ split [] path.toList, isProper s = true) ∧
    '\\' ∉ path.toList ∧ '\x00' ∉ path.toList)
    ⟨fun h => ⟨h.1, h.2.1, h.2.2.1, h.2.2.2⟩, fun h => ⟨h.1, h.2, h.3, h.4⟩⟩

namespace Contained

theorem file (h : Contained folder) (hplain : ∀ c ∈ name.toList, isPlain c = true)
    (hname : isProper name = true) : Contained (folder ++ "/" ++ name) := by
  have hchars : (folder ++ "/" ++ name).toList = folder.toList ++ '/' :: name.toList := by simp
  have hone : split [] name.toList = [name] := by
    have hslash : '/' ∉ name.toList := fun hmem => absurd (hplain _ hmem) (by decide)
    rw [split_of_not_mem hslash, List.reverse_nil, List.nil_append, String.ofList_toList]
  have hkept : ∀ c, isPlain c = false → c ≠ '/' → c ∉ folder.toList →
      c ∉ (folder ++ "/" ++ name).toList := by
    intro c hc hne hfolder hmem
    rw [hchars, List.mem_append, List.mem_cons] at hmem
    rcases hmem with hmem | hslash | hmem
    · exact hfolder hmem
    · exact hne hslash
    · rw [hplain c hmem] at hc
      cases hc
  refine ⟨?_, ?_, hkept _ rfl (by decide) h.backslash, hkept _ rfl (by decide) h.nul⟩
  -- A folder without a character would have an empty segment.
  · rw [hchars]
    intro hhead
    cases hfolder : folder.toList with
    | nil =>
      have hempty := h.segments "" (by rw [hfolder]; exact List.mem_singleton_self _)
      exact absurd hempty (by decide)
    | cons c cs =>
      rw [hfolder] at hhead
      exact h.relative (by rw [hfolder]; exact hhead)
  · rw [hchars, split_append, hone]
    intro s hs
    rcases List.mem_append.mp hs with hs | hs
    · exact h.segments s hs
    · rw [List.mem_singleton.mp hs]
      exact hname

theorem isAbsolute_ofText (h : Contained path) : (ofText path).isAbsolute = false := by
  have hnone : path.toList.takeWhile (· = '/') = [] := by
    cases hchars : path.toList with
    | nil => rfl
    | cons c cs =>
      have hc : c ≠ '/' := fun heq => h.relative (by rw [hchars, heq]; rfl)
      rw [List.takeWhile_cons_of_neg (by simpa using hc)]
  rw [isAbsolute, ofText, hnone]
  rfl

theorem parts_ofText (h : Contained path) : (ofText path).parts = split [] path.toList := by
  refine List.filter_eq_self.mpr fun s hs => ?_
  have hproper := h.segments s hs
  simp only [isProper, Bool.and_eq_true] at hproper
  exact Bool.and_eq_true .. |>.mpr hproper.1

/-- Wherever a contained path goes on from, it leads below that. -/
theorem below (h : Contained path) (here root : Path) :
    absolute here root ∈ (absolute here (root.join (ofText path))).ancestors := by
  have hup : ".." ∉ (ofText path).parts := by
    rw [h.parts_ofText]
    exact fun hmem => absurd (h.segments _ hmem) (by decide)
  rw [absolute_join h.isAbsolute_ofText hup]
  refine mem_ancestors_join h.isAbsolute_ofText ?_
  rw [h.parts_ofText]
  exact split_ne_nil

end Contained

/-- A file whose name has an ending of its own, which keeps it from being `.` or `..`. -/
theorem Contained.inFolder (folder : String) {lead stem ending : String} (h : Contained folder)
    (hlead : lead = folder ++ "/") (hstem : ∀ c ∈ stem.toList, isPlain c = true)
    (hending : ending.toList.all isPlain = true) (hlong : 3 ≤ ending.toList.length) :
    Contained (lead ++ stem ++ ending) := by
  have hne : ∀ short : String, short.toList.length ≤ 2 → stem ++ ending ≠ short := by
    intro short hshort heq
    have hlength := congrArg (fun s : String => s.toList.length) heq
    simp only [String.toList_append, List.length_append] at hlength
    omega
  rw [hlead, String.append_assoc]
  refine h.file (fun c hc => ?_) ?_
  · rw [String.toList_append, List.mem_append] at hc
    exact hc.elim (hstem c) (List.all_eq_true.mp hending c)
  · simp [isProper, hne "" (by decide), hne "." (by decide), hne ".." (by decide)]

end Path

/-! ## Names from a project -/

open Wirework.Path

theorem Naming.isPlain_of_mem_snake {c : Char} {name : String} (h : c ∈ (snake name).toList) :
    isPlain c = true := by
  have hwritable := isWritable_of_mem_snake h
  have hne : ∀ d, isWritable d = false → c ≠ d := by
    rintro d hd rfl
    rw [hwritable] at hd
    cases hd
  simp [isPlain, hne '/' (by decide), hne '\\' (by decide), hne '\x00' (by decide)]

theorem isPlain_of_isDigit {c : Char} (h : c.isDigit = true) : isPlain c = true := by
  have hne : ∀ d : Char, d.isDigit = false → c ≠ d := by
    rintro d hd rfl
    rw [h] at hd
    cases hd
  simp [isPlain, hne '/' (by decide), hne '\\' (by decide), hne '\x00' (by decide)]

namespace Migration

variable {o : Options} {now base : Moment} {nodes : List Node} {ms : List Migration}

theorem version_of_plan (h : plan o now (some base) nodes = .ok ms) :
    ∀ m ∈ ms, ∃ t : Moment, m.version = t.stamp := by
  intro m hm
  obtain ⟨k, hk⟩ := List.mem_iff_getElem?.mp hm
  obtain ⟨t, -, ht⟩ := Option.map_eq_some_iff.mp
    (version_of_assignVersions (assignVersions_of_plan h) hk)
  exact ⟨t, ht.symm⟩

end Migration

namespace Service

variable {o : Options} {a : AuthOptions} {v : Validator} {g : Graph} {out : Output}
  {ms : List Migration} {f : File}

theorem contained_model (e : Node) : Contained (File.model e).path :=
  .inFolder "src/models" (by decide) rfl (fun _ => Naming.isPlain_of_mem_snake)
    (by decide) (by decide)

theorem isPlain_of_mem_stem (n : Node) :
    ∀ c ∈ (Endpoint.ofNode n).stem.toList, isPlain c = true := by
  rw [Endpoint.ofNode, stemOf_eq, stemFor]
  dsimp only
  split
  · exact List.all_eq_true.mp (by decide)
  · exact fun _ => Naming.isPlain_of_mem_snake

theorem contained_handler {e : Endpoint} (hstem : ∀ c ∈ e.stem.toList, isPlain c = true) :
    Contained (File.handler e).path :=
  .inFolder "src/handlers" (by decide) rfl hstem (by decide) (by decide)

theorem contained_migration {m : Migration} {t : Moment} (h : m.version = t.stamp) :
    Contained (File.migration m).path := by
  have hstem : ∀ c ∈ (m.version ++ "_" ++ Naming.snake m.name).toList, isPlain c = true := by
    intro c hc
    rw [h] at hc
    simp only [String.toList_append, List.mem_append] at hc
    rcases hc with (hc | hc) | hc
    · exact isPlain_of_isDigit (Moment.isDigit_of_mem_stamp hc)
    · rw [List.mem_singleton.mp hc]
      rfl
    · exact Naming.isPlain_of_mem_snake hc
  rw [File.path, Migration.filename, ← String.append_assoc]
  exact .inFolder "migrations" (by decide) rfl hstem (by decide) (by decide)

theorem contained_path (hms : (Plan.make o a g).migrations = .ok ms)
    (hf : f ∈ (Plan.make o a g).files ms) : Contained f.path := by
  cases f with
  | model e => exact contained_model e
  | handler e =>
    obtain ⟨-, he⟩ : (Plan.make o a g).hasEndpoints = true ∧ e ∈ (Plan.make o a g).endpoints := by
      simpa [Plan.files, Plan.sources, Plan.companions] using hf
    obtain ⟨n, -, rfl⟩ := List.mem_map.mp he
    exact contained_handler (isPlain_of_mem_stem n)
  | migration m =>
    have hm : m ∈ ms := by simpa [Plan.files, Plan.sources, Plan.companions] using hf
    have hversion : ∃ t : Moment, m.version = t.stamp := by
      unfold Plan.migrations at hms
      split at hms
      · exact Migration.version_of_plan hms m hm
      · cases hms
        cases hm
    obtain ⟨t, ht⟩ := hversion
    exact contained_migration ht
  | _ => decide

/-- **A service stays in its folder.** Whatever the names in a project are, every path of its service
is relative and made of segments that lead downwards; each file goes below the folder that the
service is written to, and no text outside of that folder is changed. -/
theorem output_contained (h : generate o a v g = .ok out) :
    (∀ path ∈ out.files.keys, Contained path ∧ ∀ here root,
      absolute here root ∈ (absolute here (root.join (.ofText path))).ancestors) ∧
    ∀ (root : Path) (t : Tree) (full : Path), absolute t.here root ∉ full.ancestors →
      ((out.writeTo root : StateM Tree _) t).2.text? full = t.text? full := by
  obtain ⟨code, ms, hholds⟩ := Plan.exists_holds (output_of_generate h)
  have hcontained : ∀ path ∈ out.files.keys, Contained path := by
    intro path hpath
    have hfile := (hholds.contains_iff path).mp (Dict.contains_iff_mem_keys.mpr hpath)
    obtain ⟨f, hf, rfl⟩ := List.mem_map.mp hfile
    exact contained_path hholds.migrations_eq hf
  refine ⟨fun path hpath => ⟨hcontained path hpath, (hcontained path hpath).below⟩, ?_⟩
  intro root t full houtside
  refine (Tree.confined_writeTo out root).text_eq t full ?_
  rintro ⟨path, hpath, rfl⟩
  exact houtside ((hcontained path hpath).below t.here root)

/-- An entity called after a file elsewhere gets a file in the service, and the file elsewhere is
left as it is. -/
theorem contained_portal :
    ∃ out, generate {} {} defaultValidator (portal "../../etc/passwd") = .ok out ∧
      Contained ("src/models/" ++ Naming.snake "../../etc/passwd" ++ ".rs") ∧
      ∀ t : Tree, t.here = .ofText "/srv/work" →
        ((out.writeTo (.ofText "../out") : StateM Tree _) t).2.text? (.ofText "/etc/passwd") =
          t.text? (.ofText "/etc/passwd") := by
  obtain ⟨out, hout⟩ := generate_portal "../../etc/passwd" (by decide +kernel)
  obtain ⟨hpaths, hwrite⟩ := output_contained hout
  obtain ⟨code, ms, hholds⟩ := Plan.exists_holds (output_of_generate hout)
  have hmodel := hholds.contains_model (mem_entities_portal "../../etc/passwd")
  rw [Rust.unraw_ident, Dict.contains_iff_mem_keys] at hmodel
  refine ⟨out, hout, (hpaths _ hmodel).1, fun t ht => hwrite _ t _ ?_⟩
  rw [ht]
  decide

end Service

end Wirework
