import Wirework.Proofs.Migration.Essence
import Wirework.Proofs.Service.Totality

/-!
# What a service does not depend on

A service is generated from the component types, names, descriptions, fields and settings of the
nodes of a project, and from what the project says about itself. Main statement: two projects that
are alike in these have the same service, whatever their editors keep beside them
(`generate_independent`).
-/

namespace Wirework.Service

open Template (Value Scope)

/-! ## Authentication -/

namespace Auth

def Omission.essence : Omission → Omission
  | .secondSession n => .secondSession n.essence
  | .unknownComponent n => .unknownComponent n.essence
  | .repeatedHandler n => .repeatedHandler n.essence

def Part.essence : Part → Part
  | .handler flow n => .handler flow n.essence
  | .session n => .session n.essence
  | .omitted why => .omitted why.essence

variable (n : Node) (nodes : List Node)

theorem partsFrom_essence (hasSession : Bool) (handlers : List String) :
    partsFrom hasSession handlers (nodes.map Node.essence) =
      (partsFrom hasSession handlers nodes).map Part.essence := by
  induction nodes generalizing hasSession handlers with
  | nil => rfl
  | cons n nodes ih =>
    have htype : n.essence.componentType = n.componentType := rfl
    have hname : handlerName n.essence = handlerName n := rfl
    rw [List.map_cons, partsFrom, partsFrom, htype, hname]
    split
    · split
      · rw [List.map_cons, ih]
        rfl
      · rw [List.map_cons, ih]
        rfl
    · split
      · rw [List.map_cons, ih]
        rfl
      · split
        · rw [List.map_cons, ih]
          rfl
        · rw [List.map_cons, ih]
          rfl

theorem handlers_essence :
    handlers (nodes.map Node.essence) = (handlers nodes).map fun h => (h.1, h.2.essence) := by
  rw [handlers, handlers, parts, partsFrom_essence, List.filterMap_map, List.map_filterMap]
  exact List.filterMap_congr fun part _ => by cases part <;> rfl

theorem session?_essence :
    session? (nodes.map Node.essence) = (session? nodes).map Node.essence := by
  rw [session?, session?, parts, partsFrom_essence, List.findSome?_map, List.map_findSome?]
  exact congrArg (List.findSome? · _) (funext fun part => by cases part <;> rfl)

theorem warnings_essence : warnings (nodes.map Node.essence) = warnings nodes := by
  rw [warnings, warnings, parts, partsFrom_essence, List.filterMap_map]
  refine List.filterMap_congr fun part _ => ?_
  rcases part with _ | _ | why
  · rfl
  · rfl
  · cases why <;> rfl

theorem routesFrom_essence (seen : List String) :
    routesFrom seen (nodes.map Node.essence) = routesFrom seen nodes := by
  induction nodes generalizing seen with
  | nil => rfl
  | cons n nodes ih =>
    have htype : n.essence.componentType = n.componentType := rfl
    have hname : handlerName n.essence = handlerName n := rfl
    rw [List.map_cons, routesFrom, routesFrom, htype, hname, ih, ih]
    rfl

theorem bodyFields_essence : bodyFields n.essence = (bodyFields n).map Field.essence :=
  List.filter_map ..

theorem withCredentials_essence (required : List String) :
    withCredentials n.essence required = withCredentials n required := by
  rw [withCredentials, withCredentials, bodyFields_essence, List.map_map]
  rfl

theorem loginFields_essence : loginFields n.essence = loginFields n := by
  simp only [loginFields, withCredentials_essence, identityField, Node.hasField_essence]

theorem registerFields_essence : registerFields n.essence = registerFields n := by
  have hasks : asksTwice n.essence = asksTwice n := n.hasField_essence _
  rw [registerFields, registerFields, withCredentials_essence, hasks]

theorem firstOfName_essence (seen : List String) (fields : List Field) :
    firstOfName seen (fields.map Field.essence) = (firstOfName seen fields).map Field.essence := by
  induction fields generalizing seen with
  | nil => rfl
  | cons f fields ih =>
    have hname : f.essence.name = f.name := rfl
    rw [List.map_cons, firstOfName, firstOfName, hname]
    split
    · exact ih seen
    · rw [List.map_cons, ih]

theorem userFields_essence : userFields (nodes.map Node.essence) = userFields nodes := by
  have hfields : ((nodes.map Node.essence).filter
      (·.componentType = Component.register)).flatMap bodyFields =
        ((nodes.filter (·.componentType = Component.register)).flatMap bodyFields).map
          Field.essence := by
    rw [Node.filter_essence _ fun _ => rfl, List.flatMap_map, List.map_flatMap]
    exact List.flatMap_congr fun n _ => bodyFields_essence n
  rw [userFields, userFields, hfields, firstOfName_essence, List.map_map]
  rfl

theorem provided_essence : provided (nodes.map Node.essence) n.essence = provided nodes n := by
  simp only [provided, registerFields_essence, userFields_essence]

theorem handlerText_essence (o : AuthOptions) (flow : Flow) :
    handlerText o (nodes.map Node.essence) flow n.essence = handlerText o nodes flow n := by
  have hscope : handlerScope o n.essence = handlerScope o n := rfl
  cases flow with
  | login =>
    simp only [handlerText, hscope, loginFields_essence, identityField, Node.hasField_essence]
  | register =>
    simp only [handlerText, hscope, registerFields_essence, asksTwice, Node.hasField_essence,
      userFields_essence, provided_essence]
  | logout => rfl

theorem hasRouteFile_essence (f : Framework) :
    hasRouteFile f (nodes.map Node.essence) = hasRouteFile f nodes := by
  rw [hasRouteFile, hasRouteFile, routes, routesFrom_essence, ← routes]

theorem routesText_essence (f : Framework) :
    routesText f (nodes.map Node.essence) = routesText f nodes := by
  have hroutes : routes (nodes.map Node.essence) = routes nodes := routesFrom_essence nodes []
  rw [routesText, routesText, hasRouteFile_essence, hroutes]

theorem codeFor_essence (o : AuthOptions) :
    codeFor o (nodes.map Node.essence) = codeFor o nodes := by
  unfold codeFor
  simp only [userFields_essence, warnings_essence, routesText_essence, session?_essence,
    handlers_essence]
  rw [mapM_map_eq fun h _ => handlerText_essence h.2 nodes o h.1]
  cases session? nodes <;> rfl

theorem code_essence (o : AuthOptions) : code o (nodes.map Node.essence) = code o nodes := by
  have hauth := Node.filter_essence (·.isAuth) (fun _ => rfl) nodes
  unfold code
  rw [hauth]
  cases nodes.filter (·.isAuth) with
  | nil => rfl
  | cons n rest => exact codeFor_essence (n :: rest) o

end Auth

/-! ## Plans -/

theorem keepFrom_essence (seen : List String) (nodes : List Node) :
    keepFrom seen (nodes.map Node.essence) = (keepFrom seen nodes).map Node.essence := by
  induction nodes generalizing seen with
  | nil => rfl
  | cons n nodes ih =>
    have hname : n.essence.name = n.name := rfl
    rw [List.map_cons, keepFrom, keepFrom, hname]
    split
    · exact ih seen
    · rw [List.map_cons, ih]

theorem dropFrom_essence (seen : List String) (nodes : List Node) :
    dropFrom seen (nodes.map Node.essence) = (dropFrom seen nodes).map Node.essence := by
  induction nodes generalizing seen with
  | nil => rfl
  | cons n nodes ih =>
    have hname : n.essence.name = n.name := rfl
    rw [List.map_cons, dropFrom, dropFrom, hname]
    split
    · rw [List.map_cons, ih]
    · exact ih _

theorem collisions_essence (kind : String) (nodes : List Node) :
    collisions kind (nodes.map Node.essence) = collisions kind nodes := by
  rw [collisions, collisions, dropFrom_essence, List.map_map]
  rfl

theorem ofNode_essence (n : Node) : Endpoint.ofNode n.essence = Endpoint.ofNode n := by
  have hpath : Endpoint.pathOf n.essence = Endpoint.pathOf n := by
    rw [Endpoint.pathOf, Endpoint.pathOf, Node.field?_essence]
    cases n.field? "path" <;> rfl
  rw [Endpoint.ofNode, Endpoint.ofNode, hpath]
  rfl

namespace Plan

def essence (p : Plan) : Plan :=
  { p with entities := p.entities.map Node.essence, authNodes := p.authNodes.map Node.essence }

theorem essence_make {g g' : Graph} (habout : g.about = g'.about)
    (h : g.nodes.values.map Node.essence = g'.nodes.values.map Node.essence) (o : Options)
    (a : AuthOptions) : (make o a g).essence = (make o a g').essence := by
  have hfilter (q : Node → Bool) (hq : ∀ n, q (Node.essence n) = q n) :
      (g.nodes.values.filter q).map Node.essence = (g'.nodes.values.filter q).map Node.essence := by
    rw [← Node.filter_essence q hq, ← Node.filter_essence q hq, h]
  have hentities : g.entities.map Node.essence = g'.entities.map Node.essence :=
    hfilter _ fun _ => rfl
  have hauth : (g.nodesOfFamily Component.authFamily).map Node.essence =
      (g'.nodesOfFamily Component.authFamily).map Node.essence := hfilter _ fun _ => rfl
  have hapi : (g.nodesOfFamily Component.apiFamily).map Node.essence =
      (g'.nodesOfFamily Component.apiFamily).map Node.essence := hfilter _ fun _ => rfl
  have hendpoints (nodes : List Node) : (kept nodes).map Endpoint.ofNode =
      (kept (nodes.map Node.essence)).map Endpoint.ofNode := by
    rw [kept, kept, keepFrom_essence, List.map_map]
    exact List.map_congr_left fun n _ => (ofNode_essence n).symm
  rw [make, make, essence, essence, habout]
  simp only [mk.injEq, true_and]
  refine ⟨?_, ?_, hauth, ?_⟩
  · rw [kept, kept, ← keepFrom_essence, ← keepFrom_essence, hentities]
  · rw [hendpoints, hapi, ← hendpoints]
  · rw [← collisions_essence "entity" g.entities, ← collisions_essence "endpoint", hentities, hapi,
      collisions_essence, collisions_essence]

variable (p : Plan)

@[simp] theorem hasEntities_essence : p.essence.hasEntities = p.hasEntities :=
  congrArg (! ·) List.isEmpty_map

@[simp] theorem hasAuth_essence : p.essence.hasAuth = p.hasAuth :=
  congrArg (! ·) List.isEmpty_map

@[simp] theorem hasMigrations_essence : p.essence.hasMigrations = p.hasMigrations :=
  congrArg (· && _) p.hasEntities_essence

@[simp] theorem hasAuthRoutes_essence : p.essence.hasAuthRoutes = p.hasAuthRoutes := by
  rw [hasAuthRoutes, hasAuthRoutes, hasAuth_essence]
  exact congrArg (_ && ·) (Auth.hasRouteFile_essence p.authNodes p.framework)

theorem authRoutes_essence : p.essence.authRoutes = p.authRoutes := by
  rw [authRoutes, authRoutes, hasAuthRoutes_essence]
  exact congrArg (if p.hasAuthRoutes then · else []) (Auth.routesFrom_essence p.authNodes [])

theorem modules_essence : p.essence.modules = p.modules := by
  rw [modules, modules, hasEntities_essence, hasAuth_essence]
  rfl

theorem warnings_essence : p.essence.warnings = p.warnings :=
  congrArg (_ ++ ·) (Auth.warnings_essence p.authNodes)

end Plan

/-! ## Texts -/

theorem fill_essence (name : String) (t : Template) (scope : Scope) :
    Templates.fill name t scope.essence = Templates.fill name t scope := by
  rw [Templates.fill, Templates.fill, Template.render, Template.render,
    Template.renderAll_essence]

def File.essence : File → File
  | .model e => .model e.essence
  | f => f

theorem File.path_essence (f : File) : f.essence.path = f.path := by cases f <;> rfl

theorem entityValue_essence (n : Node) : entityValue n.essence = (entityValue n).essence := by
  simp [entityValue, Node.essence, Function.comp_def]

namespace Plan

variable (p : Plan)

theorem entitiesValue_essence : p.essence.entitiesValue = p.entitiesValue.essence := by
  simp [entitiesValue, essence, entityValue_essence, Function.comp_def]

theorem endpointsValue_essence : p.endpointsValue.essence = p.endpointsValue := by
  simp [endpointsValue, Endpoint.value, Function.comp_def]

theorem readmeScope_essence : p.essence.readmeScope = p.readmeScope.essence := by
  have hroutes : (Value.list (p.authRoutes.map Auth.Route.value)).essence =
      .list (p.authRoutes.map Auth.Route.value) := by
    simp [Auth.Route.value, Function.comp_def]
  simp only [readmeScope, Scope.essence, List.map_cons, List.map_nil, Value.essence_ofText,
    Value.essence_ofBool, hroutes, endpointsValue_essence, entitiesValue_essence,
    authRoutes_essence, hasMigrations_essence, hasAuth_essence]
  rfl

theorem text_essence (code : Auth.Code) (f : File) :
    p.essence.text code f.essence = p.text code f := by
  cases f with
  | model e =>
    have hscope : Scope.essence [("entity", entityValue e)] =
        [("entity", entityValue e.essence)] := by
      simp [Scope.essence, entityValue_essence]
    exact (congrArg (Templates.fill _ _) hscope.symm).trans (fill_essence ..)
  | modelIndex =>
    have hscope : Scope.essence [("entities", p.entitiesValue)] =
        [("entities", p.essence.entitiesValue)] := by
      simp [Scope.essence, entitiesValue_essence]
    exact (congrArg (Templates.fill _ _) hscope.symm).trans (fill_essence ..)
  | readme => exact (congrArg (Templates.fill _ _) p.readmeScope_essence).trans (fill_essence ..)
  | cargoManifest =>
    have hscope : p.essence.manifestScope = p.manifestScope := by
      simp only [manifestScope, hasAuth_essence]
      rfl
    exact congrArg (Templates.fill _ _) hscope
  | libraryRoot =>
    have hscope : p.essence.libraryScope = p.libraryScope := by
      simp only [libraryScope, hasAuth_essence, hasAuthRoutes_essence, modules_essence]
      rfl
    exact congrArg (Templates.fill _ _) hscope
  | configuration =>
    have hscope : p.essence.configurationScope = p.configurationScope := by
      simp only [configurationScope, hasMigrations_essence]
      rfl
    exact congrArg (Templates.fill _ _) hscope
  | envExample =>
    have hscope (hours : Ordinal) : p.essence.envScope hours = p.envScope hours := by
      simp only [envScope, hasAuth_essence]
      rfl
    simp only [text, File.essence, hscope]
    rfl
  | _ => rfl

/-! ## Services -/

theorem sources_essence : p.essence.sources = p.sources.map File.essence := by
  have hmodels : p.essence.entities.map File.model =
      (p.entities.map File.model).map File.essence := by
    rw [List.map_map]
    exact List.map_map ..
  have hhandlers : (p.endpoints.map File.handler).map File.essence = p.endpoints.map File.handler :=
    List.map_map ..
  have hsame : p.essence.endpoints = p.endpoints ∧ p.essence.hasEndpoints = p.hasEndpoints :=
    ⟨rfl, rfl⟩
  simp only [sources, hasEntities_essence, hasAuth_essence, hasAuthRoutes_essence, hmodels, hsame,
    List.map_append, List.map_cons, List.map_nil, apply_ite (List.map File.essence), hhandlers]
  rfl

theorem write_essence (code : Auth.Code) (files : List File) :
    ((files.map File.essence).mapM fun f => (p.essence.text code f).map (f.path, ·)) =
      files.mapM fun f => (p.text code f).map (f.path, ·) :=
  mapM_map_eq fun f _ => by rw [text_essence, File.path_essence]

theorem companions_essence (migrations : List Migration) :
    (companions migrations).map File.essence = companions migrations := by
  simp [companions, File.essence, Function.comp_def]

/-- Plans that are alike and have the same migrations have the same files. -/
theorem writes_congr {p p' : Plan} (h : p.essence = p'.essence)
    (hmigrations : p.migrations = p'.migrations) : p.writes = p'.writes := by
  have hcode (q : Plan) : Auth.code q.auth q.authNodes =
      Auth.code q.essence.auth q.essence.authNodes :=
    (Auth.code_essence q.authNodes q.auth).symm
  have hsources (q : Plan) (code : Auth.Code) :
      (q.sources.mapM fun f => (q.text code f).map (f.path, ·)) =
        q.essence.sources.mapM fun f => (q.essence.text code f).map (f.path, ·) := by
    rw [sources_essence, write_essence]
  have hothers (q : Plan) (code : Auth.Code) (ms : List Migration) :
      ((companions ms).mapM fun f => (q.text code f).map (f.path, ·)) =
        (companions ms).mapM fun f => (q.essence.text code f).map (f.path, ·) := by
    rw [← write_essence, companions_essence]
  simp only [writes, hcode p, hcode p', hsources p, hsources p', hothers p, hothers p', h,
    hmigrations]

/-- Plans that are alike and whose entities have distinct ids have the same migrations. -/
theorem migrations_congr {p p' : Plan} (h : p.essence = p'.essence)
    (hids : (p.entities.map (·.id)).Nodup) (hids' : (p'.entities.map (·.id)).Nodup) :
    p.migrations = p'.migrations := by
  have hhas : p.hasMigrations = p'.hasMigrations := by
    rw [← hasMigrations_essence, h, hasMigrations_essence]
  have hdatabase : p.database = p'.database :=
    show p.essence.database = p'.essence.database from congrArg database h
  have hbase : p.migrationBase = p'.migrationBase :=
    show p.essence.migrationBase = p'.essence.migrationBase from congrArg migrationBase h
  have hentities : p.entities.map Node.essence = p'.entities.map Node.essence :=
    congrArg entities h
  rw [migrations, migrations, hhas, hdatabase, hbase, Migration.plan_congr hids hids' hentities]

end Plan

/-- What a service is generated from is the same in both nodes. -/
structure Alike (n n' : Node) : Prop where
  componentType : n.componentType = n'.componentType
  name : n.name = n'.name
  description : n.description = n'.description
  fields : n.fields.map Field.essence = n'.fields.map Field.essence
  config : n.config = n'.config

theorem Alike.essence_eq {n n' : Node} (h : Alike n n') : n.essence = n'.essence := by
  rw [Node.essence, Node.essence, h.componentType, h.name, h.description, h.fields, h.config]

theorem essence_eq_of_alike {nodes nodes' : List Node} (h : List.Forall₂ Alike nodes nodes') :
    nodes.map Node.essence = nodes'.map Node.essence := by
  induction h with
  | nil => rfl
  | cons hn _ ih => rw [List.map_cons, List.map_cons, hn.essence_eq, ih]

theorem nodup_ids_make {g : Graph} (hids : (g.nodes.values.map (·.id)).Nodup) (o : Options)
    (a : AuthOptions) : ((Plan.make o a g).entities.map (·.id)).Nodup := by
  have hkept : (Plan.make o a g).entities.Sublist g.nodes.values :=
    keepFrom_sublist.trans List.filter_sublist
  exact hids.sublist (hkept.map _)

/-- Projects that are alike have the same output, be it files or a failure. -/
theorem output_congr {g g' : Graph} (hids : (g.nodes.values.map (·.id)).Nodup)
    (hids' : (g'.nodes.values.map (·.id)).Nodup) (habout : g.about = g'.about)
    (hnodes : List.Forall₂ Alike g.nodes.values g'.nodes.values) (o : Options) (a : AuthOptions) :
    (Plan.make o a g).output = (Plan.make o a g').output := by
  have hplan := Plan.essence_make habout (essence_eq_of_alike hnodes) o a
  have hmigrations := Plan.migrations_congr hplan (nodup_ids_make hids o a)
    (nodup_ids_make hids' o a)
  have hwarnings : (Plan.make o a g).warnings = (Plan.make o a g').warnings := by
    rw [← Plan.warnings_essence, hplan, Plan.warnings_essence]
  have hname : (Plan.make o a g).about.name = (Plan.make o a g').about.name :=
    congrArg About.name habout
  rw [Plan.output, Plan.output, Plan.writes_congr hplan hmigrations, hwarnings, hname]

/-- **Nothing that is for editors only reaches a service.** Two projects whose nodes have distinct
ids, that say the same about themselves and whose nodes are alike in order, have the same service
where both have one, whatever validators let them pass. -/
theorem generate_independent {o : Options} {a : AuthOptions} {v v' : Validator} {g g' : Graph}
    {out out' : Output} (hids : (g.nodes.values.map (·.id)).Nodup)
    (hids' : (g'.nodes.values.map (·.id)).Nodup) (habout : g.about = g'.about)
    (hnodes : List.Forall₂ Alike g.nodes.values g'.nodes.values)
    (hout : generate o a v g = .ok out) (hout' : generate o a v' g' = .ok out') : out = out' := by
  obtain ⟨-, -, hout⟩ := bind_eq_ok_iff.mp hout
  obtain ⟨-, -, hout'⟩ := bind_eq_ok_iff.mp hout'
  rw [output_congr hids hids' habout hnodes, hout'] at hout
  cases hout
  rfl

/-- An entity that an editor keeps under an id, with tags. -/
def tagged (id name : String) (tags : List String) (fields : List Field) : Node where
  id := id
  componentType := Component.entity
  name := name
  fields := fields
  tags := tags
  createdAt := default
  modifiedAt := default

/-- A shop whose orders refer to its users, with ids for the two entities and tags. -/
def shop (orders users : String) (tags : List String) : Graph where
  about := .create "Shop" default
  nodes := .ofList [
    (orders, tagged orders "Order" tags
      [{ id := orders ++ "1", name := "buyer", dataType := .reference "User" }]),
    (users, tagged users "User" tags [{ id := users ++ "1", name := "email" }])]

/-- The two entities may change their ids with one another and be tagged. -/
theorem generate_shop_renamed :
    ∃ out, generate {} {} defaultValidator (shop "a" "b" []) = .ok out ∧
      generate {} {} defaultValidator (shop "b" "a" ["new"]) = .ok out := by
  have hdate : (default : Moment).date ≠ Date.last := by decide +kernel
  obtain ⟨out, hout⟩ := generate_of_isSimple (v := defaultValidator) (g := shop "a" "b" [])
    (by decide +kernel) hdate (by decide +kernel)
  obtain ⟨out', hout'⟩ := generate_of_isSimple (v := defaultValidator) (g := shop "b" "a" ["new"])
    (by decide +kernel) hdate (by decide +kernel)
  have habout : (shop "a" "b" []).about = (shop "b" "a" ["new"]).about := rfl
  have hnodes : List.Forall₂ Alike (shop "a" "b" []).nodes.values
      (shop "b" "a" ["new"]).nodes.values :=
    .cons ⟨rfl, rfl, rfl, rfl, rfl⟩ (.cons ⟨rfl, rfl, rfl, rfl, rfl⟩ .nil)
  have hsame : out = out' :=
    generate_independent (by decide +kernel) (by decide +kernel) habout hnodes hout hout'
  exact ⟨out, hout, hsame ▸ hout'⟩

end Wirework.Service
