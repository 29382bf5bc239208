import Mathlib.Data.List.Nodup
import Wirework.Proofs.Dict
import Wirework.Proofs.Service.Totality

/-!
# Paths of a service's files

A service is written file by file, and of two files at one path only the second is left. The files
lie on shelves that have no path in common: models, handlers, migrations, and everything else
(`Shelf.ofPath_path`). Migrations differ in their names, and the other files are fixed. So paths can
only meet between a model or a handler and the index of its folder, and between two handlers
(`nodup_path_iff`).

Of the nodes whose names agree in snake case only the first is kept, so two handlers meet only
through the name that stands in for an empty one.
-/

namespace Wirework.Service

variable {o : Options} {a : AuthOptions} {v : Validator} {g : Graph} {p : Plan} {nodes : List Node}
  {seen : List String} {s : String} {ms : List Migration}

/-! ## Kept nodes -/

def snakes (nodes : List Node) : List String := nodes.map fun n => Naming.snake n.name

theorem mem_snakes_keepFrom : s ∈ snakes (keepFrom seen nodes) ↔ s ∉ seen ∧ s ∈ snakes nodes := by
  induction nodes generalizing seen with
  | nil => simp [keepFrom, snakes]
  | cons n rest ih =>
    simp only [snakes, List.map_cons, List.mem_cons] at ih ⊢
    rw [keepFrom]
    by_cases hs : seen.contains (Naming.snake n.name) = true
    · rw [if_pos hs, ih]
      have hmem : Naming.snake n.name ∈ seen := List.contains_iff_mem.mp hs
      constructor
      · exact fun h => ⟨h.1, Or.inr h.2⟩
      · rintro ⟨hseen, rfl | hrest⟩
        · exact absurd hmem hseen
        · exact ⟨hseen, hrest⟩
    · rw [if_neg hs, List.map_cons, List.mem_cons, ih, List.mem_cons, not_or]
      have hnew : Naming.snake n.name ∉ seen := fun h => hs (List.contains_iff_mem.mpr h)
      by_cases he : s = Naming.snake n.name
      · simp [he, hnew]
      · simp [he]

theorem nodup_snakes_keepFrom : (snakes (keepFrom seen nodes)).Nodup := by
  induction nodes generalizing seen with
  | nil => exact List.nodup_nil
  | cons n rest ih =>
    rw [keepFrom]
    split
    · exact ih
    · rw [snakes, List.map_cons, List.nodup_cons]
      refine ⟨fun hm => ?_, ih⟩
      exact (mem_snakes_keepFrom.mp hm).1 (List.mem_cons_self ..)

theorem nodup_snakes_kept : (snakes (kept nodes)).Nodup := nodup_snakes_keepFrom

theorem mem_snakes_kept : s ∈ snakes (kept nodes) ↔ s ∈ snakes nodes := by
  rw [kept, mem_snakes_keepFrom]
  simp

/-! ## Stems of handlers -/

def stemFor (s : String) : String := if s = "" then "endpoint" else s

theorem stemOf_eq (n : Node) : Endpoint.stemOf n = stemFor (Naming.snake n.name) := by
  unfold Endpoint.stemOf stemFor nonEmpty?
  by_cases h : Naming.snake n.name = "" <;> simp [h]

theorem mod_mem_stems_iff {names : List String} : "mod" ∈ names.map stemFor ↔ "mod" ∈ names := by
  simp only [List.mem_map, stemFor]
  constructor
  · rintro ⟨s, hs, hstem⟩
    split at hstem
    · exact absurd hstem (by decide)
    · exact hstem ▸ hs
  · exact fun h => ⟨"mod", h, by decide⟩

/-- Distinct names have distinct stems unless an empty one meets the one that stands in for it. -/
theorem nodup_stems_iff {names : List String} (h : names.Nodup) :
    (names.map stemFor).Nodup ↔ ¬ ("" ∈ names ∧ "endpoint" ∈ names) := by
  rw [List.nodup_map_iff_inj_on h]
  constructor
  · rintro hinj ⟨hempty, hendpoint⟩
    exact absurd (hinj "" hempty "endpoint" hendpoint (by decide)) (by decide)
  · intro hapart s hs t ht hst
    simp only [stemFor] at hst
    split at hst <;> split at hst
    · simp_all
    · rename_i hs' ht'
      subst hs' hst
      exact absurd ⟨hs, ht⟩ hapart
    · rename_i hs' ht'
      subst ht' hst
      exact absurd ⟨ht, hs⟩ hapart
    · exact hst

/-! ## Shelves -/

/-- A part of a service that shares no path with another one. -/
inductive Shelf where
  | models | handlers | migrations | elsewhere
  deriving DecidableEq

/-- The shelf of a path: its first eleven characters tell. -/
def Shelf.ofPath (path : String) : Shelf :=
  let lead := path.toList.take 11
  if lead = "src/models/".toList then .models
  else if lead = "src/handler".toList then .handlers
  else if lead = "migrations/".toList then .migrations
  else .elsewhere

def File.shelf : File → Shelf
  | .modelIndex | .model _ => .models
  | .handlerIndex | .handler _ => .handlers
  | .migration _ => .migrations
  | _ => .elsewhere

theorem take_lead {lead rest : String} (h : 11 ≤ lead.toList.length) :
    (lead ++ rest).toList.take 11 = lead.toList.take 11 := by
  rw [String.toList_append, List.take_append_of_le_length h]

theorem Shelf.ofPath_path (f : File) : Shelf.ofPath f.path = f.shelf := by
  cases f with
  | model e =>
    rw [File.path, File.shelf, ofPath, String.append_assoc, take_lead (by decide)]
    decide
  | handler e =>
    rw [File.path, File.shelf, Endpoint.file, ofPath, String.append_assoc, take_lead (by decide)]
    decide
  | migration m =>
    rw [File.path, File.shelf, ofPath, take_lead (by decide)]
    decide
  | _ => decide

theorem nodup_path_iff_shelves {fs : List File} : (fs.map File.path).Nodup ↔
    ∀ shelf, ((fs.filter (·.shelf = shelf)).map File.path).Nodup := by
  constructor
  · exact fun h shelf => h.sublist (List.filter_sublist.map _)
  · intro h
    induction fs with
    | nil => exact List.nodup_nil
    | cons f rest ih =>
      rw [List.map_cons, List.nodup_cons]
      constructor
      · intro hm
        obtain ⟨f', hf', hpath⟩ := List.mem_map.mp hm
        -- The path tells the shelf, so a file at the same path is on the same shelf.
        have hshelf : f'.shelf = f.shelf := by
          rw [← Shelf.ofPath_path, ← Shelf.ofPath_path, hpath]
        have hown := h f.shelf
        rw [List.filter_cons_of_pos (by simp), List.map_cons, List.nodup_cons] at hown
        exact hown.1 (List.mem_map.mpr ⟨f', List.mem_filter.mpr ⟨hf', by simp [hshelf]⟩, hpath⟩)
      · refine ih fun shelf => (h shelf).sublist ?_
        exact ((List.sublist_cons_self f rest).filter _).map _

/-! ## The files of a plan -/

theorem filter_of_shelf {fs : List File} {shelf shelf' : Shelf} (h : ∀ f ∈ fs, f.shelf = shelf') :
    fs.filter (·.shelf = shelf) = if shelf' = shelf then fs else [] := by
  split
  · rename_i he
    exact List.filter_eq_self.mpr fun f hf => by simp [h f hf, he]
  · rename_i he
    exact List.filter_eq_nil_iff.mpr fun f hf => by simp [h f hf, he]

def inFolder (folder stem : String) : String := folder ++ stem ++ ".rs"

theorem inFolder_injective (folder : String) : Function.Injective (inFolder folder) := by
  intro s t h
  simpa [inFolder] using h

/-- The files of a folder have distinct paths if their stems are distinct and none is that of the
folder's index. -/
theorem nodup_inFolder_iff (folder : String) {stems : List String} :
    (inFolder folder "mod" :: stems.map (inFolder folder)).Nodup ↔ "mod" ∉ stems ∧ stems.Nodup := by
  rw [← List.map_cons, List.nodup_map_iff (inFolder_injective folder), List.nodup_cons]

namespace Plan

def modelFiles (p : Plan) : List File :=
  if p.hasEntities then .modelIndex :: p.entities.map .model else []

def handlerFiles (p : Plan) : List File :=
  if p.hasEndpoints then .handlerIndex :: p.endpoints.map .handler else []

/-- The files at fixed paths outside the folders of models and handlers. -/
def rootFiles : List File := [.cargoManifest, .mainProgram, .libraryRoot, .configuration, .errors]

def authFiles (p : Plan) : List File :=
  (if p.hasAuth then [.auth] else []) ++ (if p.hasAuthRoutes then [.authRoutes] else [])

def routeFiles (p : Plan) : List File := if p.hasEndpoints then [.routes] else []

theorem shelf_modelFiles : ∀ f ∈ p.modelFiles, f.shelf = .models := by
  unfold modelFiles
  split <;> simp [File.shelf]

theorem shelf_handlerFiles : ∀ f ∈ p.handlerFiles, f.shelf = .handlers := by
  unfold handlerFiles
  split <;> simp [File.shelf]

theorem shelf_migrations : ∀ f ∈ ms.map File.migration, f.shelf = .migrations := by
  simp [File.shelf]

theorem shelf_authFiles : ∀ f ∈ p.authFiles, f.shelf = .elsewhere := by
  unfold authFiles
  split <;> split <;> simp [File.shelf]

theorem shelf_routeFiles : ∀ f ∈ p.routeFiles, f.shelf = .elsewhere := by
  unfold routeFiles
  split <;> simp [File.shelf]

theorem files_eq (p : Plan) (ms : List Migration) : p.files ms =
    rootFiles ++ p.modelFiles ++ p.authFiles ++ p.handlerFiles ++ p.routeFiles
      ++ ms.map .migration ++ [.envExample, .readme] := by
  unfold files sources companions rootFiles modelFiles authFiles handlerFiles routeFiles
  cases p.hasEndpoints <;> simp

def onShelf (p : Plan) (ms : List Migration) : Shelf → List File
  | .models => p.modelFiles
  | .handlers => p.handlerFiles
  | .migrations => ms.map .migration
  | .elsewhere => rootFiles ++ p.authFiles ++ p.routeFiles ++ [.envExample, .readme]

theorem filter_files (shelf : Shelf) :
    (p.files ms).filter (·.shelf = shelf) = p.onShelf ms shelf := by
  have hroot : ∀ f ∈ rootFiles, f.shelf = .elsewhere := by simp [rootFiles, File.shelf]
  have hlast : ∀ f ∈ [File.envExample, .readme], f.shelf = .elsewhere := by simp [File.shelf]
  rw [files_eq]
  simp only [List.filter_append, filter_of_shelf hroot, filter_of_shelf hlast,
    filter_of_shelf shelf_modelFiles, filter_of_shelf shelf_handlerFiles,
    filter_of_shelf shelf_migrations, filter_of_shelf shelf_authFiles,
    filter_of_shelf shelf_routeFiles]
  cases shelf <;> simp [onShelf]

theorem nodup_models_iff : (p.modelFiles.map File.path).Nodup ↔
    "mod" ∉ snakes p.entities ∧ (snakes p.entities).Nodup := by
  unfold modelFiles
  split
  · rw [← nodup_inFolder_iff "src/models/", snakes, List.map_cons, List.map_map,
      List.map_map]
    rfl
  · rename_i h
    have hnil : p.entities = [] := by simpa [hasEntities] using h
    simp [hnil, snakes]

theorem nodup_handlers_iff : (p.handlerFiles.map File.path).Nodup ↔
    "mod" ∉ p.endpoints.map (·.stem) ∧ (p.endpoints.map (·.stem)).Nodup := by
  unfold handlerFiles
  split
  · rw [← nodup_inFolder_iff "src/handlers/", List.map_cons, List.map_map,
      List.map_map]
    rfl
  · rename_i h
    have hnil : p.endpoints = [] := by simpa [hasEndpoints] using h
    simp [hnil]

theorem nodup_elsewhere : ((p.onShelf ms .elsewhere).map File.path).Nodup := by
  rw [onShelf, authFiles, routeFiles]
  cases p.hasAuth <;> cases p.hasAuthRoutes <;> cases p.hasEndpoints <;> decide

/-- The paths of a plan's files are distinct if the stems of its models and handlers are, and none
of them is that of an index. -/
theorem nodup_path_iff (hms : (ms.map (·.filename)).Nodup) : ((p.files ms).map File.path).Nodup ↔
    ("mod" ∉ snakes p.entities ∧ (snakes p.entities).Nodup) ∧
      ("mod" ∉ p.endpoints.map (·.stem) ∧ (p.endpoints.map (·.stem)).Nodup) := by
  have hmigrations : ((ms.map File.migration).map File.path).Nodup := by
    have hinj : Function.Injective fun name => "migrations/" ++ name := fun s t h => by
      simpa using h
    rw [← List.nodup_map_iff hinj, List.map_map] at hms
    rwa [List.map_map]
  rw [nodup_path_iff_shelves, ← nodup_models_iff, ← nodup_handlers_iff]
  simp only [filter_files]
  constructor
  · exact fun h => ⟨h .models, h .handlers⟩
  · rintro ⟨hmodels, hhandlers⟩ shelf
    cases shelf with
    | models => exact hmodels
    | handlers => exact hhandlers
    | migrations => exact hmigrations
    | elsewhere => exact nodup_elsewhere

theorem paths_writes {writes : List (String × String)} (h : p.writes = .ok writes) :
    ∃ ms, p.migrations = .ok ms ∧ writes.map Prod.fst = (p.files ms).map File.path := by
  obtain ⟨code, -, h⟩ := bind_eq_ok_iff.mp h
  obtain ⟨sources, hsources, h⟩ := bind_eq_ok_iff.mp h
  obtain ⟨ms, hms, h⟩ := bind_eq_ok_iff.mp h
  obtain ⟨others, hothers, h⟩ := bind_eq_ok_iff.mp h
  cases h
  have hpath : ∀ f w, (p.text code f).map (f.path, ·) = .ok w → w.1 = f.path := by
    intro f w hw
    cases htext : p.text code f with
    | error e =>
      rw [htext] at hw
      cases hw
    | ok text =>
      rw [htext] at hw
      cases hw
      rfl
  refine ⟨ms, hms, ?_⟩
  rw [List.map_append, map_eq_of_mapM_ok hpath hsources, map_eq_of_mapM_ok hpath hothers, files,
    List.map_append]

theorem nodup_migrations (h : p.migrations = .ok ms) : (ms.map (·.filename)).Nodup := by
  unfold migrations at h
  split at h
  · exact Migration.nodup_filename h
  · cases h
    exact List.nodup_nil

end Plan

/-! ## Projects -/

/-- No node of a project has a file at the path of another one. -/
structure Apart (g : Graph) : Prop where
  models : ∀ n ∈ g.entities, Naming.snake n.name ≠ "mod"
  handlers : ∀ n ∈ g.nodesOfFamily Component.apiFamily, Naming.snake n.name ≠ "mod"
  /-- A handler without a name of its own meets none of the name that stands in for it. -/
  unnamed : ∀ n ∈ g.nodesOfFamily Component.apiFamily, Naming.snake n.name = "" →
    ∀ m ∈ g.nodesOfFamily Component.apiFamily, Naming.snake m.name ≠ "endpoint"

theorem not_mem_snakes : s ∉ snakes nodes ↔ ∀ n ∈ nodes, Naming.snake n.name ≠ s := by
  simp [snakes]

theorem apart_iff : Apart g ↔
    "mod" ∉ snakes g.entities ∧ "mod" ∉ snakes (g.nodesOfFamily Component.apiFamily) ∧
      ¬ ("" ∈ snakes (g.nodesOfFamily Component.apiFamily) ∧
        "endpoint" ∈ snakes (g.nodesOfFamily Component.apiFamily)) := by
  rw [not_mem_snakes, not_mem_snakes]
  constructor
  · rintro ⟨hmodels, hhandlers, hunnamed⟩
    refine ⟨hmodels, hhandlers, ?_⟩
    rintro ⟨hempty, hendpoint⟩
    obtain ⟨n, hn, hname⟩ := List.mem_map.mp hempty
    exact not_mem_snakes.mpr (hunnamed n hn hname) hendpoint
  · rintro ⟨hmodels, hhandlers, hapart⟩
    refine ⟨hmodels, hhandlers, fun n hn hname => not_mem_snakes.mp fun hendpoint => ?_⟩
    exact hapart ⟨List.mem_map.mpr ⟨n, hn, hname⟩, hendpoint⟩

theorem stems_make : (Plan.make o a g).endpoints.map (·.stem) =
    (snakes (kept (g.nodesOfFamily Component.apiFamily))).map stemFor := by
  simp only [Plan.make, snakes, List.map_map, Function.comp_def, Endpoint.ofNode, stemOf_eq]

theorem nodup_make_iff (hms : (ms.map (·.filename)).Nodup) :
    (((Plan.make o a g).files ms).map File.path).Nodup ↔ Apart g := by
  have hentities : snakes (Plan.make o a g).entities = snakes (kept g.entities) := rfl
  rw [Plan.nodup_path_iff hms, hentities, stems_make, mod_mem_stems_iff,
    nodup_stems_iff nodup_snakes_kept, apart_iff]
  simp only [mem_snakes_kept]
  have hnodup : (snakes (kept g.entities)).Nodup := nodup_snakes_kept
  tauto

/-- **Every file has its path.** Where a service is generated, no two files are written to one path
exactly if the nodes of the project are apart, and exactly then the output consists of the files as
they were written. -/
theorem paths_distinct_iff {out : Output} (h : generate o a v g = .ok out) :
    ∃ writes, (Plan.make o a g).writes = .ok writes ∧
      ((writes.map Prod.fst).Nodup ↔ Apart g) ∧ (out.files.entries = writes ↔ Apart g) := by
  obtain ⟨-, -, h⟩ := bind_eq_ok_iff.mp h
  obtain ⟨writes, hwrites, h⟩ := bind_eq_ok_iff.mp h
  cases h
  obtain ⟨ms, hms, hpaths⟩ := Plan.paths_writes hwrites
  have hnodup : (writes.map Prod.fst).Nodup ↔ Apart g := by
    rw [hpaths, nodup_make_iff (Plan.nodup_migrations hms)]
  exact ⟨writes, hwrites, hnodup, Dict.entries_ofList_iff.trans hnodup⟩

def interface (id name : String) : Node where
  id := id
  componentType := "api.rest"
  name := name
  createdAt := default
  modifiedAt := default

/-- A project of two interfaces, the first of them without a letter in its name. -/
def unnamedBeside (name : String) : Graph where
  about := .create "Interfaces" default
  nodes := .ofList [("a", interface "a" "!"), ("b", interface "b" name)]

theorem generate_unnamedBeside (name : String)
    (hvalid : defaultValidator.isValid (unnamedBeside name) = true) :
    ∃ out, generate {} {} defaultValidator (unnamedBeside name) = .ok out := by
  have hdate : (default : Moment).date ≠ Date.last := by decide +kernel
  have hnodes : ∀ n ∈ [interface "a" "!", interface "b" name], isSimple n = true := by
    simp [isSimple, interface, Component.session]
  exact generate_of_isSimple hvalid hdate hnodes

/-- Beside an interface called after the stand-in the file of the unnamed one is lost, and beside
another both files are left. -/
theorem paths_unnamedBeside :
    (∃ out writes, generate {} {} defaultValidator (unnamedBeside "Endpoint") = .ok out ∧
      (Plan.make {} {} (unnamedBeside "Endpoint")).writes = .ok writes ∧
      ¬ (writes.map Prod.fst).Nodup ∧ out.files.entries ≠ writes) ∧
    (∃ out writes, generate {} {} defaultValidator (unnamedBeside "Users") = .ok out ∧
      (Plan.make {} {} (unnamedBeside "Users")).writes = .ok writes ∧
      (writes.map Prod.fst).Nodup ∧ out.files.entries = writes) := by
  constructor
  · obtain ⟨out, hout⟩ := generate_unnamedBeside "Endpoint" (by decide +kernel)
    obtain ⟨writes, hwrites, hpaths, hfiles⟩ := paths_distinct_iff hout
    have hmeet : ¬ Apart (unnamedBeside "Endpoint") := by
      rw [apart_iff]
      decide +kernel
    exact ⟨out, writes, hout, hwrites, fun h => hmeet (hpaths.mp h), fun h => hmeet (hfiles.mp h)⟩
  · obtain ⟨out, hout⟩ := generate_unnamedBeside "Users" (by decide +kernel)
    obtain ⟨writes, hwrites, hpaths, hfiles⟩ := paths_distinct_iff hout
    have hapart : Apart (unnamedBeside "Users") := by
      rw [apart_iff]
      decide +kernel
    exact ⟨out, writes, hout, hwrites, hpaths.mpr hapart, hfiles.mpr hapart⟩

end Wirework.Service
