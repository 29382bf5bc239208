import Wirework.Proofs.Naming.Repeated
import Wirework.Proofs.Service.Items

/-!
# Names that a service declares twice

The index of models re-exports one type for each entity, and the module of authentication declares
the types and the function of each handler beside its own. Entities and handlers are kept apart by
their names in snake case, but their types are named in Pascal case, and nothing keeps the names of
handlers apart from those that every service with authentication declares. No name is declared twice
exactly if the nodes are apart in these respects too (`declarations_distinct_iff`).
-/

namespace Wirework

/-- Where one name tells the items of a list apart, another does just if it tells the first. -/
theorem nodup_map_iff_of_nodup_map {α β γ : Type} {f : α → β} {g : α → γ} {xs : List α}
    (h : (xs.map g).Nodup) :
    (xs.map f).Nodup ↔ ∀ x ∈ xs, ∀ y ∈ xs, f x = f y → g x = g y := by
  rw [List.nodup_map_iff_inj_on h.of_map]
  constructor
  · intro hinj x hx y hy hxy
    rw [hinj x hx y hy hxy]
  · intro htell x hx y hy hxy
    exact List.inj_on_of_nodup_map h hx hy (htell x hx y hy hxy)

namespace Service

namespace Auth

variable {o : AuthOptions} {nodes : List Node} {n : Node} {flow : Flow} {name : String}

/-! ## Items that are there anyway -/

/-- The items beside those of handlers that there can be. -/
def fixedItems : List String :=
  typeItems
    ++ (["hash_password", "verify_password"]
      ++ (["TOKEN_TTL_SECS", "Claims", "generate_jwt_token"]
        ++ ["REFRESH_TTL_SECS", "generate_refresh_token"] ++ ["decode_jwt_token", "get_jwt_secret"])
      ++ ["is_valid_email", "validate_password_strength"])
    ++ ["OptionalAuthUser", "jwt_validator", "current_user", "AuthMiddleware", "JwtAuthMiddleware"]
    ++ sessionItems

theorem ite_sublist {b : Bool} {xs : List String} : (if b then xs else []).Sublist xs := by
  cases b with
  | false => exact List.nil_sublist _
  | true => exact List.Sublist.refl _

/-- The items of a service beside those of its handlers, in the order of `fixedItems`. -/
theorem fixed_sublist (o : AuthOptions) (nodes : List Node) :
    (sharedItems o ++ if (session? nodes).isSome then sessionItems else []).Sublist fixedItems := by
  have htokens : (if o.tokens then tokenItems o else []).Sublist
      (["TOKEN_TTL_SECS", "Claims", "generate_jwt_token"]
        ++ ["REFRESH_TTL_SECS", "generate_refresh_token"]
        ++ ["decode_jwt_token", "get_jwt_secret"]) :=
    ite_sublist.trans (((List.Sublist.refl _).append ite_sublist).append (List.Sublist.refl _))
  have hmiddleware : (middlewareItems o).Sublist ["OptionalAuthUser", "jwt_validator",
      "current_user", "AuthMiddleware", "JwtAuthMiddleware"] := by
    unfold middlewareItems
    cases o.framework <;> cases o.tokens <;> decide
  have hsupport := ((List.Sublist.refl ["hash_password", "verify_password"]).append htokens).append
    (List.Sublist.refl ["is_valid_email", "validate_password_strength"])
  exact (((List.Sublist.refl typeItems).append hsupport).append hmiddleware).append ite_sublist

theorem nodup_fixedItems : fixedItems.Nodup := by
  simp [fixedItems, typeItems, sessionItems]

def ending (name : String) : List Char := name.toList.reverse.take 2

theorem ending_append {suffix : String} (h : 2 ≤ suffix.toList.length) :
    ending (name ++ suffix) = ending suffix := by
  simp [ending, List.take_append_of_le_length, h]

/-- Of all these items only one is named like the type of a handler. -/
theorem ending_fixedItems : ∀ name ∈ fixedItems, ending name ≠ ending "Request" ∧
    (ending name = ending "Response" → name = "UserResponse") := by
  decide +kernel

theorem request_notMem_fixedItems : name ++ "Request" ∉ fixedItems := fun h =>
  (ending_fixedItems _ h).1 (ending_append (by decide))

theorem response_mem_fixedItems_iff : name ++ "Response" ∈ fixedItems ↔ name = "User" := by
  constructor
  · intro h
    have huser : name ++ "Response" = "User" ++ "Response" :=
      (ending_fixedItems _ h).2 (ending_append (by decide))
    exact String.append_left_inj _ |>.mp huser
  · rintro rfl
    exact List.mem_append_left _ (by simp [typeItems])

/-! ## Items of handlers -/

/-- The name of a function has no capitals that have a small letter. -/
theorem notMem_handlerName {c : Char} (hc : Text.isUppercase c = true)
    (hlower : Text.lowerChar c ≠ [c]) (hraw : c ∉ Rust.rawMark.toList) :
    c ∉ (handlerName n).toList := by
  intro h
  rcases mem_handlerName h with h | h
  · exact hraw h
  · rw [Naming.snake, String.toList_ofList] at h
    exact hlower (Naming.caseless_of_mem_snakeChars h hc)

def suffixes : List String := ["Request", "Response"]

theorem handlerName_ne {suffix : String} (h : suffix ∈ suffixes) :
    handlerName n ≠ name ++ suffix := by
  have hcapital : ∀ suffix ∈ suffixes, 'R' ∈ suffix.toList := by decide
  intro heq
  have hmem : 'R' ∈ (handlerName n).toList := by
    rw [heq, String.toList_append]
    exact List.mem_append_right _ (hcapital suffix h)
  exact notMem_handlerName (by decide) (by decide) (by decide) hmem

theorem eq_of_append_suffix {name' suffix suffix' : String} (h : suffix ∈ suffixes)
    (h' : suffix' ∈ suffixes) (heq : name ++ suffix = name' ++ suffix') : name = name' := by
  have hlong : ∀ suffix ∈ suffixes, 2 ≤ suffix.toList.length := by decide
  have hendings : ∀ suffix ∈ suffixes, ∀ suffix' ∈ suffixes, ending suffix = ending suffix' →
      suffix = suffix' := by decide
  have hsame := congrArg ending heq
  rw [ending_append (hlong _ h), ending_append (hlong _ h')] at hsame
  rw [hendings _ h _ h' hsame] at heq
  exact String.append_left_inj _ |>.mp heq

theorem mem_handlerItems (h : name ∈ handlerItems flow n) :
    name = handlerName n ∨ ∃ suffix ∈ suffixes, name = typePrefix n ++ suffix := by
  rw [handlerItems, List.mem_append] at h
  rcases h with h | h
  · split at h
    · cases h
    · exact Or.inr ⟨"Request", by decide, List.mem_singleton.mp h⟩
  · rcases List.mem_cons.mp h with h | h
    · exact Or.inr ⟨"Response", by decide, h⟩
    · exact Or.inl (List.mem_singleton.mp h)

theorem response_mem_handlerItems : typePrefix n ++ "Response" ∈ handlerItems flow n :=
  List.mem_append_right _ List.mem_cons_self

theorem handlerName_mem_handlerItems : handlerName n ∈ handlerItems flow n :=
  List.mem_append_right _ (List.mem_cons_of_mem _ List.mem_cons_self)

theorem nodup_handlerItems : (handlerItems flow n).Nodup := by
  have htypes : typePrefix n ++ "Request" ≠ typePrefix n ++ "Response" := by simp
  have hfunction : ∀ suffix ∈ suffixes, typePrefix n ++ suffix ≠ handlerName n :=
    fun _ h heq => handlerName_ne h heq.symm
  have hrequest := hfunction "Request" (by decide)
  have hresponse := hfunction "Response" (by decide)
  rw [handlerItems]
  split <;> simp [htypes, hrequest, hresponse]

/-- Handlers with different functions declare different items if their types differ. -/
theorem disjoint_handlerItems_iff {flow' : Flow} {n' : Node}
    (hne : handlerName n ≠ handlerName n') :
    (handlerItems flow n).Disjoint (handlerItems flow' n') ↔ typePrefix n ≠ typePrefix n' := by
  constructor
  · intro hdisjoint heq
    refine hdisjoint response_mem_handlerItems ?_
    rw [heq]
    exact response_mem_handlerItems
  · intro htypes x hx hx'
    rcases mem_handlerItems hx with hname | ⟨suffix, hsuffix, hname⟩
    · rcases mem_handlerItems hx' with hname' | ⟨suffix', hsuffix', hname'⟩
      · exact hne (hname.symm.trans hname')
      · exact handlerName_ne hsuffix' (hname.symm.trans hname')
    · rcases mem_handlerItems hx' with hname' | ⟨suffix', hsuffix', hname'⟩
      · exact handlerName_ne hsuffix (hname'.symm.trans hname)
      · exact htypes (eq_of_append_suffix hsuffix hsuffix' (hname.symm.trans hname'))

theorem nodup_handlerNames (nodes : List Node) :
    ((handlers nodes).map fun h => handlerName h.2).Nodup := by
  have hroutes : ((routes nodes).map (·.handler)).Nodup := (nodup_routesFrom [] nodes).1
  rw [routes_eq, List.map_map] at hroutes
  simpa only [Function.comp_def, Route.handler_ofNode] using hroutes

theorem nodup_allHandlerItems_iff : (allHandlerItems nodes).Nodup ↔
    ∀ h ∈ handlers nodes, ∀ h' ∈ handlers nodes, typePrefix h.2 = typePrefix h'.2 →
      handlerName h.2 = handlerName h'.2 := by
  have hnames := List.pairwise_map.mp (nodup_handlerNames nodes)
  rw [← nodup_map_iff_of_nodup_map (nodup_handlerNames nodes), allHandlerItems, List.nodup_flatMap,
    and_iff_right fun _ _ => nodup_handlerItems, List.Nodup, List.pairwise_map]
  constructor
  · intro hdisjoint
    exact (hdisjoint.and hnames).imp fun h => (disjoint_handlerItems_iff h.2).mp h.1
  · intro htypes
    exact (htypes.and hnames).imp fun h => (disjoint_handlerItems_iff h.2).mpr h.1

/-- No two handlers have the same types, none has the type of a user that is sent, and none has the
function of another item. -/
structure Distinct (o : AuthOptions) (nodes : List Node) : Prop where
  types : ∀ h ∈ handlers nodes, ∀ h' ∈ handlers nodes, typePrefix h.2 = typePrefix h'.2 →
    handlerName h.2 = handlerName h'.2
  notUser : ∀ h ∈ handlers nodes, typePrefix h.2 ≠ "User"
  functions : ∀ h ∈ handlers nodes, handlerName h.2 ∉ sharedItems o

theorem disjoint_fixed_iff : (sharedItems o ++ if (session? nodes).isSome then sessionItems else
      []).Disjoint (allHandlerItems nodes) ↔
    (∀ h ∈ handlers nodes, typePrefix h.2 ≠ "User") ∧
      ∀ h ∈ handlers nodes, handlerName h.2 ∉ sharedItems o := by
  constructor
  · intro hdisjoint
    refine ⟨fun h hh heq => ?_, fun h hh hshared => ?_⟩
    · refine hdisjoint (List.mem_append_left _ ?_)
        (List.mem_flatMap.mpr ⟨h, hh, response_mem_handlerItems⟩)
      rw [heq]
      simp [sharedItems, typeItems]
    · exact hdisjoint (List.mem_append_left _ hshared)
        (List.mem_flatMap.mpr ⟨h, hh, handlerName_mem_handlerItems⟩)
  · rintro ⟨huser, hfunctions⟩ x hx hitem
    obtain ⟨h, hh, hitem⟩ := List.mem_flatMap.mp hitem
    rcases mem_handlerItems hitem with hname | ⟨suffix, hsuffix, hname⟩
    · rw [hname] at hx
      rcases List.mem_append.mp hx with hx | hx
      · exact hfunctions h hh hx
      · have hcapital : ∀ name ∈ sessionItems, 'S' ∈ name.toList := by decide
        exact notMem_handlerName (by decide) (by decide) (by decide)
          (hcapital _ (ite_sublist.subset hx))
    · have hfixed := (fixed_sublist o nodes).subset hx
      rw [hname] at hfixed
      rcases List.mem_cons.mp hsuffix with hsuffix | hsuffix
      · rw [hsuffix] at hfixed
        exact request_notMem_fixedItems hfixed
      · rw [List.mem_singleton.mp hsuffix] at hfixed
        exact huser h hh (response_mem_fixedItems_iff.mp hfixed)

theorem nodup_items_iff : (items o nodes).Nodup ↔ Distinct o nodes := by
  have hperm : (items o nodes).Perm
      ((sharedItems o ++ if (session? nodes).isSome then sessionItems else [])
        ++ allHandlerItems nodes) := by
    rw [items, List.append_assoc]
    exact List.perm_append_comm.append_left _
  have hfixed := (fixed_sublist o nodes).nodup nodup_fixedItems
  rw [hperm.nodup_iff, List.nodup_append', and_iff_right hfixed, nodup_allHandlerItems_iff,
    disjoint_fixed_iff]
  constructor
  · rintro ⟨htypes, huser, hfunctions⟩
    exact ⟨htypes, huser, hfunctions⟩
  · intro h
    exact ⟨h.types, h.notUser, h.functions⟩

theorem code_eq (hall : ∀ n ∈ nodes, n.isAuth = true) (hne : nodes ≠ []) :
    Auth.code o nodes = codeFor o nodes := by
  rw [Auth.code, List.filter_eq_self.mpr hall]
  split
  · exact absurd rfl hne
  · rfl

end Auth

/-! ## Services -/

variable {o : Options} {a : AuthOptions} {v : Validator} {g : Graph} {p : Plan} {out : Output}
  {code : Auth.Code} {ms : List Migration}

/-- The index of models stands in its place unless an entity takes it. -/
theorem Plan.Holds.text_modelIndex (h : p.Holds code ms out) (hsome : p.hasEntities = true)
    (hmod : ∀ e ∈ p.entities, Naming.snake e.name ≠ "mod") : out.files.get? "src/models/mod.rs" =
      some ("//! Data models\n\n" ++ String.join (p.entities.map modelDeclaration)) := by
  have hindex : File.modelIndex.path = inFolder "src/models/" "mod" := by decide
  have hfile : File.modelIndex ∈ p.files ms := by simp [files, sources, hsome]
  have hown : ∀ f ∈ p.files ms, f.path = File.modelIndex.path → f = .modelIndex := by
    intro f hf hpath
    have hshelf : f.shelf = .models := by
      rw [← Shelf.ofPath_path, hpath]
      decide
    have hmem : f ∈ p.modelFiles := by
      rw [← show p.onShelf ms .models = p.modelFiles from rfl, ← filter_files]
      exact List.mem_filter.mpr ⟨hf, decide_eq_true hshelf⟩
    rw [modelFiles, if_pos hsome] at hmem
    rcases List.mem_cons.mp hmem with rfl | hmem
    · rfl
    · obtain ⟨e, he, rfl⟩ := List.mem_map.mp hmem
      rw [hindex] at hpath
      exact absurd (inFolder_injective _ hpath) (hmod e he)
  obtain ⟨text, htext, hget⟩ := h.text_eq _ hfile hown
  rw [Plan.text_modelIndex] at htext
  rw [Except.ok.inj htext]
  exact hget

/-- What the index of models and the module of authentication declare. -/
structure Declared (p : Plan) (out : Output) : Prop where
  models : p.hasEntities = true → (∀ e ∈ p.entities, Naming.snake e.name ≠ "mod") →
    out.files.get? "src/models/mod.rs" =
      some ("//! Data models\n\n" ++ String.join (p.entities.map modelDeclaration))
  auth : p.hasAuth = true → ∃ lines,
    out.files.get? "src/auth/mod.rs" = some (Template.unlines lines) ∧
      lines.filterMap Template.item? = Auth.items p.auth p.authNodes

theorem Plan.Holds.declared (h : p.Holds code ms out)
    (hall : ∀ n ∈ p.authNodes, n.isAuth = true) : Declared p out where
  models := h.text_modelIndex
  auth := by
    intro hsome
    have hne : p.authNodes ≠ [] := by simpa [hasAuth] using hsome
    have hcode := h.code_eq
    rw [Auth.code_eq hall hne] at hcode
    obtain ⟨lines, hlines, hitems⟩ := Auth.items_moduleText hcode
    obtain ⟨text, htext, hget⟩ := h.text_fixed (f := .auth) (by simp [files, sources, hsome]) rfl
    refine ⟨lines, ?_, hitems⟩
    rw [← hlines, Except.ok.inj htext]
    exact hget

/-- **No name is declared twice unless names fall together.** The index of models re-exports the
Pascal-case names of the entities, and these differ if and only if entities with the same one also
have the same snake-case name. The module of authentication declares the items of its templates and
of the handlers, and these differ if and only if the handlers are distinct. -/
theorem declarations_distinct_iff (h : generate o a v g = .ok out) :
    Declared (Plan.make o a g) out ∧
    (((Plan.make o a g).entities.map fun e => Naming.pascal e.name).Nodup ↔
      ∀ e ∈ (Plan.make o a g).entities, ∀ e' ∈ (Plan.make o a g).entities,
        Naming.pascal e.name = Naming.pascal e'.name → Naming.snake e.name = Naming.snake e'.name) ∧
    ((Auth.items (Plan.make o a g).auth (Plan.make o a g).authNodes).Nodup ↔
      Auth.Distinct (Plan.make o a g).auth (Plan.make o a g).authNodes) := by
  obtain ⟨code, ms, hholds⟩ := Plan.exists_holds (output_of_generate h)
  refine ⟨hholds.declared fun n hn => (List.mem_filter.mp hn).2, ?_, Auth.nodup_items_iff⟩
  exact nodup_map_iff_of_nodup_map nodup_snakes_kept

/-- Two levels and a login for users. -/
def crowded : Graph where
  about := .create "Crowd" default
  nodes := .ofList [("a", bare "a" Component.entity "Level1"),
    ("b", bare "b" Component.entity "Level 1"), ("c", bare "c" Component.login "User")]

theorem entities_crowded : (Plan.make {} {} crowded).entities =
    [bare "a" Component.entity "Level1", bare "b" Component.entity "Level 1"] := by
  have hentities : crowded.entities =
      [bare "a" Component.entity "Level1", bare "b" Component.entity "Level 1"] := rfl
  have hnew : Naming.snake "Level 1" ≠ Naming.snake "Level1" := by decide +kernel
  rw [Plan.make, hentities, kept, keepFrom, if_neg (by simp), keepFrom,
    if_neg (by simpa [bare] using hnew), keepFrom]

theorem authNodes_crowded :
    (Plan.make {} {} crowded).authNodes = [bare "c" Component.login "User"] := rfl

theorem handlers_crowded : Auth.handlers [bare "c" Component.login "User"] =
    [(.login, bare "c" Component.login "User")] := rfl

theorem generate_crowded : ∃ out, generate {} {} defaultValidator crowded = .ok out := by
  have hvalid : defaultValidator.isValid crowded = true := by decide +kernel
  have hdate : (default : Moment).date ≠ Date.last := by decide
  have hnodes : ∀ n ∈ crowded.nodes.values, isSimple n = true := by decide +kernel
  exact generate_of_isSimple hvalid hdate hnodes

/-- Both levels are re-exported under one name, and the response to a login for users is named like
the user that is sent. -/
theorem declarations_crowded : ∃ out, generate {} {} defaultValidator crowded = .ok out ∧
    out.files.get? "src/models/mod.rs" = some ("//! Data models\n\n" ++
      "pub mod level1;\npub use level1::Level1;\npub mod level_1;\npub use level_1::Level1;\n") ∧
    ¬ ((Plan.make {} {} crowded).entities.map fun e => Naming.pascal e.name).Nodup ∧
    ∃ lines, out.files.get? "src/auth/mod.rs" = some (Template.unlines lines) ∧
      ¬ (lines.filterMap Template.item?).Nodup := by
  obtain ⟨out, hout⟩ := generate_crowded
  obtain ⟨hdeclared, hmodels, hauth⟩ := declarations_distinct_iff hout
  have hsome : (Plan.make {} {} crowded).hasEntities = true := by
    rw [Plan.hasEntities, entities_crowded]
    rfl
  have hmod : ∀ e ∈ (Plan.make {} {} crowded).entities, Naming.snake e.name ≠ "mod" := by
    rw [entities_crowded]
    decide +kernel
  refine ⟨out, hout, ?_, fun hnodup => ?_, ?_⟩
  · rw [hdeclared.models hsome hmod, entities_crowded]
    decide +kernel
  · have hsnake := hmodels.mp hnodup
    rw [entities_crowded] at hsnake
    exact absurd (hsnake _ List.mem_cons_self _ (List.mem_cons_of_mem _ List.mem_cons_self)
      (by decide +kernel)) (by decide +kernel)
  · obtain ⟨lines, htext, hitems⟩ := hdeclared.auth rfl
    refine ⟨lines, htext, fun hnodup => ?_⟩
    rw [hitems] at hnodup
    have huser := (hauth.mp hnodup).notUser
    rw [authNodes_crowded, handlers_crowded] at huser
    exact huser _ List.mem_cons_self (by decide +kernel)

end Service

end Wirework
