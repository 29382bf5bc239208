import Wirework.Proofs.Naming.Repeated
import Wirework.Proofs.Service.Modules

/-!
# Modules of handlers

The index of handlers declares a module for each endpoint, and each endpoint has a file of its own.
The file is called after the name of the endpoint in snake case, but the module after that in snake
case once more, so that the two part ways where the name is not stable. The file of the module is
there all the same if another endpoint happens to have it, or if the module is called like the index
itself; `handlers_declared` says that this is all.
-/

namespace Wirework.Service

open Template (Value Scope)

variable {o : Options} {a : AuthOptions} {v : Validator} {g : Graph} {p : Plan} {out : Output}
  {code : Auth.Code} {ms : List Migration}

/-! ## The index of handlers -/

/-- The name of the module that the index declares for an endpoint, as it stands in a path. -/
def Endpoint.module (e : Endpoint) : String := Rust.unraw e.handler

theorem Endpoint.module_eq (e : Endpoint) : e.module = Naming.snake e.stem := by
  rw [Endpoint.module, Endpoint.handler, Rust.unraw_ident]

def handlerDeclaration (e : Endpoint) : String := String.join ["pub mod ", e.handler, ";", "\n"]

theorem render_handlerDeclaration {scope : Scope} (e : Endpoint) :
    Template.renderAll (("endpoint", e.value) :: scope)
      [.line ["pub mod ", Templates.endpoint.get "module", ";"]] = .ok (handlerDeclaration e) := by
  have hmodule : (Templates.endpoint.get "module").eval (("endpoint", e.value) :: scope) =
      .ok (some (.ofText e.handler)) := rfl
  simp only [Template.renderAll, Template.Block.render, Template.renderLine, List.mapM_cons,
    List.mapM_nil, Template.Piece.render, hmodule]
  simp [bind, Except.bind, pure, Except.pure, Template.Value.display_ofText,
    handlerDeclaration, String.append_assoc, -String.reduceAppend]

/-- The index of handlers declares the endpoints of a plan one after the other. -/
theorem Plan.text_handlerIndex : p.text code .handlerIndex =
    .ok ("//! API handlers\n\n" ++ String.join (p.endpoints.map handlerDeclaration)) := by
  have hitems : Templates.endpoints.items [("endpoints", p.endpointsValue)] =
      .ok (p.endpoints.map Endpoint.value) := rfl
  rw [text, Templates.fill, Templates.handlerIndex, render_index hitems render_handlerDeclaration]
  rfl

/-! ## The folder of handlers -/

theorem Shelf.ofPath_handlers (stem : String) :
    Shelf.ofPath (inFolder "src/handlers/" stem) = .handlers :=
  Shelf.ofPath_path (.handler ⟨"", stem, .get, ""⟩)

theorem File.path_handlerIndex : handlerIndex.path = inFolder "src/handlers/" "mod" := by decide

theorem File.path_handler (e : Endpoint) : (handler e).path = inFolder "src/handlers/" e.stem := rfl

theorem Plan.hasEndpoints_of_mem {e : Endpoint} (he : e ∈ p.endpoints) : p.hasEndpoints = true := by
  simpa [hasEndpoints] using List.ne_nil_of_mem he

namespace Plan.Holds

theorem contains_inHandlers (h : p.Holds code ms out) (hsome : p.hasEndpoints = true)
    (stem : String) : out.files.contains (inFolder "src/handlers/" stem) = true ↔
      stem = "mod" ∨ ∃ e ∈ p.endpoints, e.stem = stem := by
  rw [h.contains_eq, Shelf.ofPath_handlers, onShelf, handlerFiles, if_pos hsome,
    List.contains_iff_mem, List.map_cons, List.mem_cons, List.map_map, List.mem_map,
    File.path_handlerIndex, (inFolder_injective _).eq_iff]
  simp only [Function.comp_apply, File.path_handler, (inFolder_injective _).eq_iff]

theorem text_handlerIndex (h : p.Holds code ms out) (hsome : p.hasEndpoints = true)
    (hmod : ∀ e ∈ p.endpoints, e.stem ≠ "mod") : out.files.get? "src/handlers/mod.rs" =
      some ("//! API handlers\n\n" ++ String.join (p.endpoints.map handlerDeclaration)) := by
  have hfile : File.handlerIndex ∈ p.files ms := by simp [files, sources, hsome]
  have hown : ∀ f ∈ p.files ms, f.path = File.handlerIndex.path → f = .handlerIndex := by
    intro f hf hpath
    have hshelf : f.shelf = .handlers := by
      rw [← Shelf.ofPath_path, hpath]
      decide
    have hmem : f ∈ p.handlerFiles := by
      rw [← show p.onShelf ms .handlers = p.handlerFiles from rfl, ← filter_files]
      exact List.mem_filter.mpr ⟨hf, decide_eq_true hshelf⟩
    rw [handlerFiles, if_pos hsome] at hmem
    rcases List.mem_cons.mp hmem with rfl | hmem
    · rfl
    · obtain ⟨e, he, rfl⟩ := List.mem_map.mp hmem
      rw [File.path_handler, File.path_handlerIndex] at hpath
      exact absurd (inFolder_injective _ hpath) (hmod e he)
  obtain ⟨text, htext, hget⟩ := h.text_eq _ hfile hown
  rw [Plan.text_handlerIndex] at htext
  rw [Except.ok.inj htext]
  exact hget

end Plan.Holds

/-! ## Modules and files -/

/-- The module of an endpoint is called like its file exactly if the name of the endpoint is
stable. -/
theorem Endpoint.module_eq_stem_iff (n : Node) : (ofNode n).module = (ofNode n).stem ↔
    Naming.Stable n.name.toList := by
  have hstem : (ofNode n).stem = stemFor (Naming.snake n.name) := by
    simp only [ofNode, stemOf_eq]
  rw [Endpoint.module_eq, hstem, ← Naming.snake_snake_iff, stemFor]
  split
  · rename_i hempty
    have hendpoint : Naming.snake "endpoint" = "endpoint" := by decide +kernel
    have hnothing : Naming.snake "" = "" := by decide
    rw [hempty]
    exact iff_of_true hendpoint hnothing
  · rfl

theorem Plan.module_eq_stem_iff {e : Endpoint} (he : e ∈ (Plan.make o a g).endpoints) :
    e.module = e.stem ↔ Naming.Stable e.name.toList := by
  obtain ⟨n, -, rfl⟩ := List.mem_map.mp he
  exact Endpoint.module_eq_stem_iff n

/-- The file of an endpoint's module is its own if its name is stable, or else the index or the file
of another endpoint. -/
theorem Plan.Holds.contains_module_iff (h : (Plan.make o a g).Holds code ms out) {e : Endpoint}
    (he : e ∈ (Plan.make o a g).endpoints) :
    out.files.contains ("src/handlers/" ++ e.module ++ ".rs") = true ↔
      Naming.Stable e.name.toList ∨ e.module = "mod" ∨
        ∃ e' ∈ (Plan.make o a g).endpoints, e' ≠ e ∧ e'.stem = e.module := by
  change out.files.contains (inFolder "src/handlers/" e.module) = true ↔ _
  rw [h.contains_inHandlers (Plan.hasEndpoints_of_mem he), ← Plan.module_eq_stem_iff he]
  constructor
  · rintro (hmod | ⟨e', he', hstem⟩)
    · exact Or.inr (Or.inl hmod)
    · by_cases heq : e' = e
      · subst heq
        exact Or.inl hstem.symm
      · exact Or.inr (Or.inr ⟨e', he', heq, hstem⟩)
  · rintro (hown | hmod | ⟨e', he', -, hstem⟩)
    · exact Or.inr ⟨e, he, hown.symm⟩
    · exact Or.inl hmod
    · exact Or.inr ⟨e', he', hstem⟩

/-- **What the index of handlers declares.** Where a service is generated, the index declares the
module of each endpoint, unless an endpoint takes its place. The file of that module is there exactly
if the name of the endpoint is stable, or the module is called like the index or like the file of
another endpoint. -/
theorem handlers_declared (h : generate o a v g = .ok out) :
    ((Plan.make o a g).endpoints ≠ [] → (∀ e ∈ (Plan.make o a g).endpoints, e.stem ≠ "mod") →
      out.files.get? "src/handlers/mod.rs" = some ("//! API handlers\n\n" ++
        String.join ((Plan.make o a g).endpoints.map handlerDeclaration))) ∧
    ∀ e ∈ (Plan.make o a g).endpoints,
      (out.files.contains ("src/handlers/" ++ e.module ++ ".rs") = true ↔
        Naming.Stable e.name.toList ∨ e.module = "mod" ∨
          ∃ e' ∈ (Plan.make o a g).endpoints, e' ≠ e ∧ e'.stem = e.module) := by
  obtain ⟨code, ms, hholds⟩ := Plan.exists_holds (output_of_generate h)
  refine ⟨fun hne hmod => hholds.text_handlerIndex ?_ hmod, fun e he => ?_⟩
  · simpa [Plan.hasEndpoints] using hne
  · exact hholds.contains_module_iff he

/-- The capital that `İstanbul` starts with has a lower case of two characters, so its module has no
file, while that of `Ankara` has one. -/
theorem handlers_istanbul :
    (∃ out, generate {} {} defaultValidator (unnamedBeside "İstanbul") = .ok out ∧
      out.files.get? "src/handlers/mod.rs" =
        some "//! API handlers\n\npub mod endpoint;\npub mod i_stanbul;\n" ∧
      out.files.contains "src/handlers/i_stanbul.rs" = false) ∧
    (∃ out, generate {} {} defaultValidator (unnamedBeside "Ankara") = .ok out ∧
      out.files.contains "src/handlers/ankara.rs" = true) := by
  constructor
  · have hends : (Plan.make {} {} (unnamedBeside "İstanbul")).endpoints =
        [⟨"!", "endpoint", .get, "/"⟩, ⟨"İstanbul", "i\u0307stanbul", .get, "/"⟩] := by
      decide +kernel
    have htext : "//! API handlers\n\n" ++ String.join (List.map handlerDeclaration
        [⟨"!", "endpoint", .get, "/"⟩, ⟨"İstanbul", "i\u0307stanbul", .get, "/"⟩]) =
          "//! API handlers\n\npub mod endpoint;\npub mod i_stanbul;\n" := by decide +kernel
    have hmodule : Endpoint.module ⟨"İstanbul", "i\u0307stanbul", .get, "/"⟩ = "i_stanbul" := by
      decide +kernel
    have hunstable : ¬ Naming.Stable "İstanbul".toList := by
      rw [← Naming.snake_snake_iff]
      decide +kernel
    obtain ⟨out, hout⟩ := generate_unnamedBeside "İstanbul" (by decide +kernel)
    obtain ⟨hindex, hfiles⟩ := handlers_declared hout
    rw [hends] at hindex hfiles
    rw [htext] at hindex
    have hfile := hfiles ⟨"İstanbul", "i\u0307stanbul", .get, "/"⟩ (by simp)
    rw [hmodule] at hfile
    refine ⟨out, hout, hindex (by simp) (by simp), ?_⟩
    rw [Bool.eq_false_iff]
    intro hthere
    rcases hfile.mp hthere with hstable | hmod | ⟨e, he, hother, hstem⟩
    · exact hunstable hstable
    · exact absurd hmod (by decide)
    · rcases List.mem_pair.mp he with rfl | rfl
      · exact absurd hstem (by decide)
      · exact hother rfl
  · have hends : (Plan.make {} {} (unnamedBeside "Ankara")).endpoints =
        [⟨"!", "endpoint", .get, "/"⟩, ⟨"Ankara", "ankara", .get, "/"⟩] := by
      decide +kernel
    have hmodule : Endpoint.module ⟨"Ankara", "ankara", .get, "/"⟩ = "ankara" := by decide +kernel
    have hascii : "Ankara".toList.all (·.toNat < 128) = true := by decide +kernel
    obtain ⟨out, hout⟩ := generate_unnamedBeside "Ankara" (by decide +kernel)
    obtain ⟨-, hfiles⟩ := handlers_declared hout
    rw [hends] at hfiles
    have hfile := hfiles ⟨"Ankara", "ankara", .get, "/"⟩ (by simp)
    rw [hmodule] at hfile
    refine ⟨out, hout, hfile.mpr (Or.inl (Naming.stable_of_ascii fun c hc => ?_))⟩
    exact of_decide_eq_true (List.all_eq_true.mp hascii c hc)

end Wirework.Service
