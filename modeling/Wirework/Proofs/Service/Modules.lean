import Mathlib.Tactic.TFAE
import Wirework.Proofs.Naming
import Wirework.Proofs.Service.Paths

/-!
# Modules of a service

A service declares its modules in three places: the root of the library lists the parts of the
service, the index of models lists the entities, and the module of authentication names its routes.
The files themselves are written elsewhere, each under a condition of its own. Here both sides are
read off the plan: what an output holds on each shelf (`Holds.contains_eq`), and when the code for
authentication has routes (`Auth.routes_isEmpty`). They agree, so no module is declared without a
file and no part of a service is left out of the library (`modules_closed`).
-/

namespace Wirework.Service

open Template (Value Scope)

variable {o : Options} {a : AuthOptions} {v : Validator} {g : Graph} {p : Plan} {out : Output}
  {code : Auth.Code} {ms : List Migration} {path : String} {f f' : File}

/-! ## Files at fixed paths -/

/-- The files outside of folders that hold one file for each node or migration. -/
def File.fixed : List File := [.cargoManifest, .mainProgram, .libraryRoot, .configuration, .errors,
  .auth, .authRoutes, .routes, .envExample, .readme]

theorem File.mem_fixed (hf : f.shelf = .elsewhere) : f ∈ fixed := by
  cases f <;> simp [File.shelf, fixed] at hf ⊢

theorem File.nodup_fixed : (fixed.map File.path).Nodup := by decide

/-- A file at a fixed path is told by its path. -/
theorem File.eq_of_path_eq (hf : f.shelf = .elsewhere) (h : f'.path = f.path) : f' = f := by
  have hf' : f'.shelf = .elsewhere := by rw [← Shelf.ofPath_path, h, Shelf.ofPath_path, hf]
  exact List.inj_on_of_nodup_map nodup_fixed (mem_fixed hf') (mem_fixed hf) h

/-! ## The files of an output -/

namespace Plan

/-- An output consists of the files of a plan: it has a file at each of their paths and nowhere
else, and a file that has its path for itself stands there with its text. -/
structure Holds (p : Plan) (code : Auth.Code) (ms : List Migration) (out : Output) : Prop where
  code_eq : Auth.code p.auth p.authNodes = .ok code
  migrations_eq : p.migrations = .ok ms
  contains_iff : ∀ path, out.files.contains path = true ↔ path ∈ (p.files ms).map File.path
  text_eq : ∀ f ∈ p.files ms, (∀ f' ∈ p.files ms, f'.path = f.path → f' = f) →
    ∃ text, p.text code f = .ok text ∧ out.files.get? f.path = some text

theorem exists_holds (h : p.output = .ok out) : ∃ code ms, p.Holds code ms out := by
  obtain ⟨writes, hwrites, h⟩ := bind_eq_ok_iff.mp h
  cases h
  have hpaths := paths_writes hwrites
  obtain ⟨code, hcode, h⟩ := bind_eq_ok_iff.mp hwrites
  obtain ⟨sources, hsources, h⟩ := bind_eq_ok_iff.mp h
  obtain ⟨ms, hms, h⟩ := bind_eq_ok_iff.mp h
  obtain ⟨others, hothers, h⟩ := bind_eq_ok_iff.mp h
  cases h
  obtain ⟨ms', hms', hpaths⟩ := hpaths
  cases hms.symm.trans hms'
  have hwrite : ∀ f w, (p.text code f).map (f.path, ·) = .ok w →
      w.1 = f.path ∧ p.text code f = .ok w.2 := by
    intro f w hw
    cases htext : p.text code f with
    | error e =>
      rw [htext] at hw
      cases hw
    | ok text =>
      rw [htext] at hw
      cases hw
      exact ⟨rfl, rfl⟩
  have hentry : ∀ w ∈ sources ++ others, ∃ f ∈ p.files ms, w.1 = f.path ∧ p.text code f = .ok w.2 := by
    intro w hw
    rcases List.mem_append.mp hw with hw | hw
    · obtain ⟨f, hf, hfw⟩ := exists_of_mapM_ok hsources w hw
      exact ⟨f, List.mem_append_left _ hf, hwrite f w hfw⟩
    · obtain ⟨f, hf, hfw⟩ := exists_of_mapM_ok hothers w hw
      exact ⟨f, List.mem_append_right _ hf, hwrite f w hfw⟩
  refine ⟨code, ms, hcode, hms, fun path => ?_, fun f hf hown => ?_⟩
  · rw [Dict.contains_ofList_iff, hpaths]
  · have hkey : f.path ∈ (sources ++ others).map Prod.fst := hpaths ▸ List.mem_map_of_mem hf
    obtain ⟨⟨path, text⟩, hw, rfl⟩ := List.mem_map.mp hkey
    obtain ⟨f', hf', hpath, htext⟩ := hentry _ hw
    obtain rfl := hown f' hf' hpath.symm
    refine ⟨text, htext, Dict.get?_ofList_of_forall hw fun u hu => ?_⟩
    obtain ⟨f'', hf'', hpath', htext'⟩ := hentry _ hu
    obtain rfl := hown f'' hf'' hpath'.symm
    exact (Except.ok.inj (htext.symm.trans htext')).symm

/-- The files of a plan at fixed paths, by what the plan has. -/
def fixedFiles (auth routes api : Bool) : List File :=
  rootFiles ++ ((if auth then [File.auth] else []) ++ (if routes then [File.authRoutes] else []))
    ++ (if api then [File.routes] else []) ++ [File.envExample, .readme]

namespace Holds

/-- Whether there is a file at a path is decided on the shelf of that path. -/
theorem contains_eq (h : p.Holds code ms out) (path : String) : out.files.contains path =
    ((p.onShelf ms (Shelf.ofPath path)).map File.path).contains path := by
  rw [Bool.eq_iff_iff, h.contains_iff, List.contains_iff_mem, ← filter_files, List.mem_map,
    List.mem_map]
  constructor
  · rintro ⟨f, hf, rfl⟩
    exact ⟨f, List.mem_filter.mpr ⟨hf, by simp [Shelf.ofPath_path]⟩, rfl⟩
  · rintro ⟨f, hf, rfl⟩
    exact ⟨f, (List.mem_filter.mp hf).1, rfl⟩

/-- Whether there is a file at a path off the folders depends on three facts about the plan. -/
theorem contains_fixed (h : p.Holds code ms out) {b : Bool → Bool → Bool → Bool}
    (hpath : Shelf.ofPath path = .elsewhere)
    (hb : ∀ auth routes api, ((fixedFiles auth routes api).map File.path).contains path =
      b auth routes api) :
    out.files.contains path = b p.hasAuth p.hasAuthRoutes p.hasEndpoints := by
  rw [h.contains_eq, hpath]
  exact hb ..

theorem contains_modelIndex (h : p.Holds code ms out) :
    out.files.contains "src/models/mod.rs" = p.hasEntities := by
  have hshelf : Shelf.ofPath "src/models/mod.rs" = .models := by decide
  rw [h.contains_eq, hshelf, onShelf, modelFiles]
  cases p.hasEntities with
  | false => rfl
  | true => simp [File.path]

theorem contains_handlerIndex (h : p.Holds code ms out) :
    out.files.contains "src/handlers/mod.rs" = p.hasEndpoints := by
  have hshelf : Shelf.ofPath "src/handlers/mod.rs" = .handlers := by decide
  rw [h.contains_eq, hshelf, onShelf, handlerFiles]
  cases p.hasEndpoints with
  | false => rfl
  | true => simp [File.path]

/-- The folder of handlers has no file of its name beside it, though such a path would stand on its
shelf. -/
theorem contains_handlers (h : p.Holds code ms out) :
    out.files.contains "src/handlers.rs" = false := by
  rw [Bool.eq_false_iff, ne_eq, h.contains_iff, List.mem_map]
  rintro ⟨f, -, hpath⟩
  have hshelf : f.shelf = .handlers := by
    rw [← Shelf.ofPath_path, hpath]
    decide
  have hlead : ∀ stem, "src/handlers/" ++ stem ++ ".rs" ≠ "src/handlers.rs" := by
    intro stem heq
    have htake := congrArg (fun s : String => s.toList.take 13) heq
    rw [String.append_assoc, String.toList_append, List.take_append_of_le_length (by decide)] at htake
    exact absurd htake (by decide)
  cases f with
  | handlerIndex => exact absurd hpath (by decide)
  | handler e => exact hlead e.stem hpath
  | _ => cases hshelf

theorem text_fixed (h : p.Holds code ms out) (hf : f ∈ p.files ms) (hshelf : f.shelf = .elsewhere) :
    ∃ text, p.text code f = .ok text ∧ out.files.get? f.path = some text :=
  h.text_eq f hf fun _ _ hpath => File.eq_of_path_eq hshelf hpath

end Holds

end Plan

/-! ## The root of the library -/

/-- The parts that a service can have, in the order in which its root declares them. -/
def moduleNames : List String := ["config", "error", "models", "auth", "handlers", "routes"]

/-- Whether an output has the file of a module below the root: one of its own or the index of a
folder. -/
def hasModule (out : Output) (name : String) : Bool :=
  out.files.contains ("src/" ++ name ++ ".rs") || out.files.contains ("src/" ++ name ++ "/mod.rs")

/-- The root declares the modules that the output has. -/
theorem Plan.Holds.modules_eq (h : p.Holds code ms out) :
    p.modules = moduleNames.filter (hasModule out) := by
  have hconfig : hasModule out "config" = true := by
    rw [hasModule, h.contains_fixed (b := fun _ _ _ => true) (by decide) (by decide)]
    rfl
  have herror : hasModule out "error" = true := by
    rw [hasModule, h.contains_fixed (b := fun _ _ _ => true) (by decide) (by decide)]
    rfl
  have hmodels : hasModule out "models" = p.hasEntities := by
    rw [hasModule, h.contains_fixed (b := fun _ _ _ => false) (by decide) (by decide)]
    exact h.contains_modelIndex
  have hauth : hasModule out "auth" = p.hasAuth := by
    rw [hasModule, h.contains_fixed (b := fun _ _ _ => false) (by decide) (by decide),
      h.contains_fixed (b := fun auth _ _ => auth) (by decide) (by decide)]
    rfl
  have hhandlers : hasModule out "handlers" = p.hasEndpoints := by
    have hbeside : out.files.contains ("src/" ++ "handlers" ++ ".rs") = false := h.contains_handlers
    rw [hasModule, hbeside, Bool.false_or]
    exact h.contains_handlerIndex
  have hroutes : hasModule out "routes" = p.hasEndpoints := by
    rw [hasModule, h.contains_fixed (b := fun _ _ api => api) (by decide) (by decide),
      h.contains_fixed (b := fun _ _ _ => false) (by decide) (by decide), Bool.or_false]
  simp only [moduleNames, List.filter_cons, List.filter_nil, hconfig, herror, hmodels, hauth,
    hhandlers, hroutes, modules]
  cases p.hasEntities <;> cases p.hasAuth <;> cases p.hasEndpoints <;> rfl

/-! ## Models -/

theorem render_index {α : Type} {scope : Scope} {title item : String}
    {list : Template.Expr} {body : List Template.Block} {items : List α} {value : α → Value}
    {declaration : α → String} (hitems : list.items scope = .ok (items.map value))
    (hbody : ∀ x, Template.renderAll ((item, value x) :: scope) body = .ok (declaration x)) :
    Template.render [.text [title, ""], .each item list body] scope =
      .ok (title ++ "\n\n" ++ String.join (items.map declaration)) := by
  have hloop := Template.render_each hitems hbody
  refine bind_eq_ok_iff.mpr
    ⟨_, rfl, bind_eq_ok_iff.mpr ⟨_, bind_eq_ok_iff.mpr ⟨_, hloop, rfl⟩, ?_⟩⟩
  simp [pure, Except.pure, String.append_assoc]

def modelDeclaration (e : Node) : String :=
  String.join ["pub mod ", Rust.ident e.name, ";", "\n",
    "pub use ", Rust.ident e.name, "::", Naming.pascal e.name, ";", "\n"]

theorem render_modelDeclaration {scope : Scope} (e : Node) :
    Template.renderAll (("entity", entityValue e) :: scope)
      [.line ["pub mod ", (Templates.entity.get "name").ident, ";"],
        .line ["pub use ", (Templates.entity.get "name").ident, "::",
          (Templates.entity.get "name").pascal, ";"]] = .ok (modelDeclaration e) := by
  have hident : ((Templates.entity.get "name").ident).eval (("entity", entityValue e) :: scope) =
      .ok (some (.ofText (Rust.ident e.name))) := rfl
  have hpascal : ((Templates.entity.get "name").pascal).eval (("entity", entityValue e) :: scope) =
      .ok (some (.ofText (Naming.pascal e.name))) := rfl
  simp only [Template.renderAll, Template.Block.render, Template.renderLine, List.mapM_cons,
    List.mapM_nil, Template.Piece.render, hident, hpascal]
  simp [bind, Except.bind, pure, Except.pure, Template.Value.display_ofText,
    modelDeclaration, String.append_assoc, -String.reduceAppend]

/-- The index of models declares the entities of a plan one after the other. -/
theorem Plan.text_modelIndex : p.text code .modelIndex =
    .ok ("//! Data models\n\n" ++ String.join (p.entities.map modelDeclaration)) := by
  have hitems : Templates.entities.items [("entities", p.entitiesValue)] =
      .ok (p.entities.map entityValue) := rfl
  rw [text, Templates.fill, Templates.modelIndex, render_index hitems render_modelDeclaration]
  rfl

/-- Every entity has the file of the module that the index declares for it. An entity called `mod`
takes the place of the index itself. -/
theorem Plan.Holds.contains_model (h : p.Holds code ms out) {e : Node} (he : e ∈ p.entities) :
    out.files.contains ("src/models/" ++ Rust.unraw (Rust.ident e.name) ++ ".rs") = true := by
  rw [Rust.unraw_ident]
  have hsome : p.hasEntities = true := by simpa [hasEntities] using List.ne_nil_of_mem he
  have hfile : File.model e ∈ p.files ms := by simp [files, sources, hsome, he]
  exact (h.contains_iff _).mpr (List.mem_map_of_mem hfile)

/-! ## Authentication -/

namespace Auth

variable {o : AuthOptions} {nodes : List Node} {framework : Framework} {c : Code}

theorem Flow.isSome_ofComponent?_iff {componentType : String} :
    (ofComponent? componentType).isSome = true ↔
      componentType ∈ [Component.login, Component.register, Component.logout] := by
  unfold ofComponent?
  split_ifs <;> simp [*]

/-- Some node is routed if any of them has a flow: the first one that has is never a repetition. -/
theorem routes_ne_nil_iff :
    routes nodes ≠ [] ↔ ∃ n ∈ nodes, (Flow.ofComponent? n.componentType).isSome = true := by
  unfold routes
  induction nodes with
  | nil => simp [routesFrom]
  | cons n rest ih =>
    rw [routesFrom, List.contains_nil, Bool.or_false]
    cases hflow : Flow.ofComponent? n.componentType with
    | none => simpa [hflow] using ih
    | some flow => simp [hflow]

theorem hasRouteFile_iff : hasRouteFile framework nodes = true ↔ framework ≠ .custom ∧
    ∃ n ∈ nodes, n.componentType ∈ [Component.login, Component.register, Component.logout] := by
  simp only [← Flow.isSome_ofComponent?_iff, ← routes_ne_nil_iff]
  simp [hasRouteFile]

theorem routesText_isEmpty {text : String} (h : routesText framework nodes = .ok text) :
    text.isEmpty = !hasRouteFile framework nodes := by
  unfold routesText at h
  split at h
  next hfile =>
    rw [hfile]
    unfold Templates.fill at h
    split at h
    next s hs =>
      cases h
      unfold Template.render Templates.Auth.routeTable Template.renderAll at hs
      obtain ⟨opening, hopening, hs⟩ := bind_eq_ok_iff.mp hs
      obtain ⟨others, -, hs⟩ := bind_eq_ok_iff.mp hs
      cases hopening
      cases hs
      simp
    next => cases h
  next hfile =>
    cases h
    rw [Bool.eq_false_iff.mpr hfile]
    rfl

/-- The routes that the code holds are the text of the file of routes. -/
theorem routes_isEmpty (hall : ∀ n ∈ nodes, n.isAuth = true) (h : Auth.code o nodes = .ok c) :
    c.routes.isEmpty = !hasRouteFile o.framework nodes := by
  unfold Auth.code at h
  rw [List.filter_eq_self.mpr hall] at h
  split at h
  next =>
    cases h
    simp [hasRouteFile, routes, routesFrom]
  next => exact routesText_isEmpty (filled_of_codeFor h).routes

namespace Code

def opening (c : Code) : List String :=
  ["//! Authentication module - Generated by Immortal Engine", "",
    "use serde::\x7bDeserialize, Serialize\x7d;"]
    ++ if (Text.trim c.imports.toList).isEmpty then [] else [Text.dropTrailing '\n' c.imports]

def sections (c : Code) : List (String × String) := [
  ("Auth Types", c.types),
  ("Auth Utilities", c.support),
  ("Auth Middleware", c.middleware),
  ("Auth Handlers", "\n\n".intercalate (c.handlers.map (Text.dropTrailing '\n'))),
  ("Session Management", c.session)]

def declaration : List String := ["", "pub mod routes;"]

/-- The pieces that the module consists of, each on lines of its own. -/
def pieces (c : Code) : List String :=
  c.opening ++ (if c.routes.isEmpty then [] else declaration)
    ++ c.sections.flatMap fun s => titled s.1 s.2

theorem moduleText_eq (c : Code) : c.moduleText = "\n".intercalate c.pieces ++ "\n" := by
  simp [moduleText, pieces, opening, sections, declaration, List.append_assoc]

/-- No section reads like the declaration of the routes. -/
theorem not_declaration_isPrefix (parts : List (String × String)) :
    ¬ declaration <+: parts.flatMap fun s => titled s.1 s.2 := by
  induction parts with
  | nil => simp [declaration]
  | cons s rest ih =>
    rw [List.flatMap_cons, titled]
    split
    · exact ih
    · rintro ⟨tail, h⟩
      have hsecond : "pub mod routes;" = "// ========== " ++ s.1 ++ " ==========" :=
        (List.cons.inj (List.cons.inj h).2).1
      have hfirst := congrArg (fun line : String => line.toList.take 1) hsecond
      rw [String.append_assoc, String.toList_append, List.take_append_of_le_length (by decide)]
        at hfirst
      exact absurd hfirst (by decide)

/-- The module declares the routes exactly if there are any. -/
theorem declares_routes_iff : c.opening ++ declaration <+: c.pieces ↔ c.routes.isEmpty = false := by
  unfold pieces
  cases c.routes.isEmpty with
  | false => simp
  | true => simpa using not_declaration_isPrefix c.sections

end Code

end Auth

/-! ## The modules of a service -/

/-- What a service declares is what it has: its root the modules below it, the index of models the
files beside it, and the root and the module of authentication the file of routes. -/
structure Closed (p : Plan) (code : Auth.Code) (out : Output) : Prop where
  /-- The text of the root comes from the values of the plan. -/
  root_text : ∃ text, Templates.fill "lib_rs" Templates.libraryRoot p.libraryScope = .ok text ∧
    out.files.get? File.libraryRoot.path = some text
  root_modules : p.libraryScope.lookup "modules" =
    some (.ofTexts (moduleNames.filter (hasModule out)))
  index_text : p.text code .modelIndex =
    .ok ("//! Data models\n\n" ++ String.join (p.entities.map modelDeclaration))
  index_files : ∀ e ∈ p.entities,
    out.files.contains ("src/models/" ++ Rust.unraw (Rust.ident e.name) ++ ".rs") = true
  auth_text : p.hasAuth = true →
    out.files.get? File.auth.path = some ("\n".intercalate code.pieces ++ "\n")
  routes : List.TFAE [
    p.libraryScope.lookup "has_auth_routes" = some (.ofBool true),
    out.files.contains "src/auth/routes.rs" = true,
    code.opening ++ ["", "pub mod routes;"] <+: code.pieces,
    p.framework ≠ .custom ∧ ∃ n ∈ p.authNodes,
      n.componentType ∈ [Component.login, Component.register, Component.logout]]

namespace Plan.Holds

/-- The file of routes is there exactly if a node of sign-in has a flow and the framework is known. -/
theorem hasAuthRoutes_iff : p.hasAuthRoutes = true ↔ p.framework ≠ .custom ∧ ∃ n ∈ p.authNodes,
    n.componentType ∈ [Component.login, Component.register, Component.logout] := by
  rw [hasAuthRoutes, Bool.and_eq_true, Auth.hasRouteFile_iff]
  refine and_iff_right_of_imp ?_
  rintro ⟨-, n, hn, -⟩
  simpa [hasAuth] using List.ne_nil_of_mem hn

theorem contains_authRoutes (h : p.Holds code ms out) :
    out.files.contains "src/auth/routes.rs" = p.hasAuthRoutes := by
  rw [h.contains_fixed (b := fun _ routes _ => routes) (by decide) (by decide)]

theorem closed (h : p.Holds code ms out) (hauth : p.auth.framework = p.framework)
    (hall : ∀ n ∈ p.authNodes, n.isAuth = true) : Closed p code out where
  root_text := h.text_fixed (f := .libraryRoot) (by simp [files, sources]) rfl
  root_modules := by
    rw [← h.modules_eq]
    rfl
  index_text := text_modelIndex
  index_files := fun _ he => h.contains_model he
  auth_text := by
    intro hsome
    obtain ⟨text, htext, hget⟩ := h.text_fixed (f := .auth) (by simp [files, sources, hsome]) rfl
    rw [hget, ← Except.ok.inj htext, Auth.Code.moduleText_eq]
  routes := by
    have hdeclared := Auth.Code.declares_routes_iff (c := code)
    rw [Auth.routes_isEmpty hall h.code_eq, hauth, Bool.not_eq_false', Auth.hasRouteFile_iff]
      at hdeclared
    have hmounted : p.libraryScope.lookup "has_auth_routes" = some (.ofBool p.hasAuthRoutes) := rfl
    tfae_have 1 ↔ 4 := by
      rw [← hasAuthRoutes_iff, hmounted]
      simp [Value.ofBool]
    tfae_have 2 ↔ 4 := by rw [h.contains_authRoutes, hasAuthRoutes_iff]
    tfae_have 3 ↔ 4 := hdeclared
    tfae_finish

end Plan.Holds

theorem output_of_generate (h : generate o a v g = .ok out) : (Plan.make o a g).output = .ok out := by
  obtain ⟨-, -, h⟩ := bind_eq_ok_iff.mp h
  exact h

/-- The modules of every service that can be generated are closed. -/
theorem modules_closed (h : generate o a v g = .ok out) :
    ∃ code, Auth.code (Plan.make o a g).auth (Plan.make o a g).authNodes = .ok code ∧
      Closed (Plan.make o a g) code out := by
  obtain ⟨code, ms, hholds⟩ := Plan.exists_holds (output_of_generate h)
  exact ⟨code, hholds.code_eq, hholds.closed rfl fun n hn => (List.mem_filter.mp hn).2⟩

def portal (entity : String) : Graph where
  about := .create "Portal" default
  nodes := .ofList [("a", bare "a" Component.entity entity), ("b", bare "b" "api.rest" "Items"),
    ("c", bare "c" Component.login "Sign in")]

theorem mem_entities_portal (entity : String) : bare "a" Component.entity entity ∈
    (Plan.make {} {} (portal entity)).entities := by
  have hentities : (portal entity).entities = [bare "a" Component.entity entity] := rfl
  simp [Plan.make, hentities, kept, keepFrom]

theorem mem_authNodes_portal (entity : String) : bare "c" Component.login "Sign in" ∈
    (Plan.make {} {} (portal entity)).authNodes := by
  have hvalues : (portal entity).nodes.values = [bare "a" Component.entity entity,
      bare "b" "api.rest" "Items", bare "c" Component.login "Sign in"] := rfl
  exact List.mem_filter.mpr ⟨by simp [hvalues], by decide⟩

theorem generate_portal (entity : String)
    (hvalid : defaultValidator.isValid (portal entity) = true) :
    ∃ out, generate {} {} defaultValidator (portal entity) = .ok out := by
  have hdate : (default : Moment).date ≠ Date.last := by decide
  have hnodes : ∀ n ∈ [bare "a" Component.entity entity, bare "b" "api.rest" "Items",
      bare "c" Component.login "Sign in"], isSimple n = true := by
    simp [isSimple, bare, Component.entity, Component.login, Component.session]
  exact generate_of_isSimple hvalid hdate hnodes

/-- Among the modules of a service are one for an entity whose name is a keyword, and one for the
routes of a login. -/
theorem modules_portal : ∃ out, generate {} {} defaultValidator (portal "Type") = .ok out ∧
    out.files.contains ("src/models/" ++ Rust.unraw (Rust.ident "Type") ++ ".rs") = true ∧
    out.files.contains "src/auth/routes.rs" = true := by
  obtain ⟨out, hout⟩ := generate_portal "Type" (by decide +kernel)
  obtain ⟨code, -, hclosed⟩ := modules_closed hout
  have hmodel := hclosed.index_files _ (mem_entities_portal "Type")
  have hroutes : out.files.contains "src/auth/routes.rs" = true ↔ _ := hclosed.routes.out 1 3
  exact ⟨out, hout, hmodel,
    hroutes.mpr ⟨by decide, _, mem_authNodes_portal "Type", List.mem_cons_self⟩⟩

end Wirework.Service
