import Mathlib.Data.List.Forall2
import Mathlib.Data.List.Nodup
import Wirework.Proofs.Service.Totality

/-!
# Routes and handlers of authentication

The routes of sign-in are listed by one pass over the nodes and the handlers behind them are written
by another, each with its own record of the names that it has seen. A pass over the nodes makes one
part of each of them (`length_partsFrom`), and the routes are those of the parts that are handlers
(`routes_eq`). So every route leads to a function that is declared, no name or path is used twice,
and every node of the family becomes a handler, the session, or a note (`routes_lead_to_handlers`).
-/

namespace Wirework

theorem forall₂_of_mapM_ok {α β ε : Type} {f : α → Except ε β} {xs : List α} {ys : List β}
    (h : xs.mapM f = .ok ys) : List.Forall₂ (fun a b => f a = .ok b) xs ys := by
  induction xs generalizing ys with
  | nil =>
    cases h
    exact .nil
  | cons a rest ih =>
    obtain ⟨b, ys, hb, hys, rfl⟩ := mapM_cons_eq_ok_iff.mp h
    exact .cons hb (ih hys)

/-! ## Lines that a template always writes -/

namespace Template

variable {p : List Piece → Bool} {scope : Scope} {text : String}

mutual

/-- Whichever way the tests go, a line for which `p` holds is written. -/
def Block.always (p : List Piece → Bool) : Block → Bool
  | .line pieces => p pieces
  | .choose _ yes no => always p yes && always p no
  | .text _ | .each .. | .eachPair .. => false

/-- Among the lines that blocks write there is one for which `p` holds. -/
def always (p : List Piece → Bool) : List Block → Bool
  | [] => false
  | b :: rest => b.always p || always p rest

end

/-- Somewhere in a text there is a line for which `p` holds. -/
def HasLine (p : List Piece → Bool) (scope : Scope) (text : String) : Prop :=
  ∃ pieces line before after, p pieces = true ∧ renderLine scope pieces = .ok line ∧
    text = before ++ (line ++ after)

theorem HasLine.append_left {other : String} (h : HasLine p scope text) :
    HasLine p scope (other ++ text) := by
  obtain ⟨pieces, line, before, after, hp, hline, rfl⟩ := h
  exact ⟨pieces, line, other ++ before, after, hp, hline, (String.append_assoc ..).symm⟩

theorem HasLine.append_right {other : String} (h : HasLine p scope text) :
    HasLine p scope (text ++ other) := by
  obtain ⟨pieces, line, before, after, hp, hline, rfl⟩ := h
  exact ⟨pieces, line, before, after ++ other, hp, hline, by simp only [String.append_assoc]⟩

mutual

theorem Block.hasLine_of_always : (b : Block) → {text : String} → b.always p = true →
    b.render scope = .ok text → HasLine p scope text
  | .line pieces, text, h, hrender => by
    rw [Block.render] at hrender
    exact ⟨pieces, text, "", "", h, hrender, by simp⟩
  | .choose test yes no, text, h, hrender => by
    rw [Block.always, Bool.and_eq_true] at h
    rw [Block.render] at hrender
    obtain ⟨b, -, hrender⟩ := bind_eq_ok_iff.mp hrender
    split at hrender
    · exact hasLine_of_always yes h.1 hrender
    · exact hasLine_of_always no h.2 hrender
  | .text _, _, h, _ | .each .., _, h, _ | .eachPair .., _, h, _ => by
    rw [Block.always] at h
    cases h

theorem hasLine_of_always : (bs : List Block) → {text : String} → always p bs = true →
    renderAll scope bs = .ok text → HasLine p scope text
  | [], _, h, _ => by
    rw [always] at h
    cases h
  | b :: rest, text, h, hrender => by
    rw [always, Bool.or_eq_true] at h
    rw [renderAll] at hrender
    obtain ⟨first, hfirst, hrender⟩ := bind_eq_ok_iff.mp hrender
    obtain ⟨others, hothers, hrender⟩ := bind_eq_ok_iff.mp hrender
    cases hrender
    rcases h with h | h
    · exact (Block.hasLine_of_always b h hfirst).append_right
    · exact (hasLine_of_always rest h hothers).append_left

end

/-- A template that opens with a line as it stands is not rendered to nothing. -/
theorem ne_empty_of_renderAll_text {line : String} {lines : List String} {rest : List Block}
    (h : renderAll scope (.text (line :: lines) :: rest) = .ok text) : text ≠ "" := by
  rw [renderAll] at h
  obtain ⟨first, hfirst, h⟩ := bind_eq_ok_iff.mp h
  obtain ⟨others, -, h⟩ := bind_eq_ok_iff.mp h
  rw [Block.render, List.map_cons] at hfirst
  cases hfirst
  cases h
  simp

end Template

namespace Service.Auth

open Template (Piece Scope Value)

variable {o : AuthOptions} {nodes : List Node} {n : Node} {flow : Flow} {c : Code}
  {name text : String}

/-! ## Parts -/

def Route.ofNode (n : Node) : Route := ⟨"/" ++ Naming.snake n.name, handlerName n⟩

theorem Route.handler_ofNode (n : Node) : (ofNode n).handler = handlerName n := by
  rw [ofNode]

/-- What the two passes make of a node: both leave it out, or the first makes it the session, or it
gets a handler and a route under a name that is new. -/
theorem partsFrom_cons (hasSession : Bool) (seen : List String) (n : Node) (rest : List Node) :
    (∃ why, partsFrom hasSession seen (n :: rest) = .omitted why :: partsFrom hasSession seen rest ∧
      routesFrom seen (n :: rest) = routesFrom seen rest) ∨
    (hasSession = false ∧
      partsFrom hasSession seen (n :: rest) = .session n :: partsFrom true seen rest ∧
      routesFrom seen (n :: rest) = routesFrom seen rest) ∨
    (∃ flow, handlerName n ∉ seen ∧ partsFrom hasSession seen (n :: rest) =
        .handler flow n :: partsFrom hasSession (handlerName n :: seen) rest ∧
      routesFrom seen (n :: rest) = Route.ofNode n :: routesFrom (handlerName n :: seen) rest) := by
  rw [partsFrom, routesFrom]
  by_cases hsession : n.componentType = Component.session
  · -- A session has no flow, so it takes no name from the handlers.
    have hflow : Flow.ofComponent? n.componentType = none := by
      rw [hsession]
      decide
    rw [if_pos hsession, hflow]
    cases hasSession with
    | false => exact Or.inr (Or.inl ⟨rfl, rfl, rfl⟩)
    | true => exact Or.inl ⟨_, rfl, rfl⟩
  · rw [if_neg hsession]
    cases hflow : Flow.ofComponent? n.componentType with
    | none => exact Or.inl ⟨_, rfl, rfl⟩
    | some flow =>
      by_cases hseen : seen.contains (handlerName n) = true
      · rw [hseen]
        exact Or.inl ⟨_, rfl, rfl⟩
      · have hnew : handlerName n ∉ seen := fun h => hseen (List.contains_iff_mem.mpr h)
        rw [Bool.eq_false_iff.mpr hseen]
        exact Or.inr (Or.inr ⟨flow, hnew, rfl, rfl⟩)

/-- Both passes keep the same nodes, given that they have seen the same names. -/
theorem routesFrom_eq (hasSession : Bool) (seen : List String) (nodes : List Node) :
    routesFrom seen nodes =
      ((partsFrom hasSession seen nodes).filterMap Part.handler?).map fun h => Route.ofNode h.2 := by
  induction nodes generalizing hasSession seen with
  | nil => rfl
  | cons n rest ih =>
    rcases partsFrom_cons hasSession seen n rest with
      ⟨why, hparts, hroutes⟩ | ⟨-, hparts, hroutes⟩ | ⟨flow, -, hparts, hroutes⟩
    · rw [hparts, hroutes, List.filterMap_cons_none rfl, ← ih]
    · rw [hparts, hroutes, List.filterMap_cons_none rfl, ← ih]
    · rw [hparts, hroutes]
      simp only [List.filterMap_cons, Part.handler?, List.map_cons]
      exact congrArg (Route.ofNode n :: ·) (ih _ _)

theorem routes_eq (nodes : List Node) :
    routes nodes = (handlers nodes).map fun h => Route.ofNode h.2 :=
  routesFrom_eq false [] nodes

/-- No name is routed that was seen before, and none twice. -/
theorem nodup_routesFrom (seen : List String) (nodes : List Node) :
    ((routesFrom seen nodes).map (·.handler)).Nodup ∧ ∀ r ∈ routesFrom seen nodes, r.handler ∉ seen := by
  induction nodes generalizing seen with
  | nil => exact ⟨List.nodup_nil, List.forall_mem_nil _⟩
  | cons n rest ih =>
    rcases partsFrom_cons false seen n rest with
      ⟨-, -, hroutes⟩ | ⟨-, -, hroutes⟩ | ⟨-, hnew, -, hroutes⟩
    · rw [hroutes]
      exact ih seen
    · rw [hroutes]
      exact ih seen
    · obtain ⟨hnodup, hunseen⟩ := ih (handlerName n :: seen)
      rw [hroutes, List.map_cons, List.nodup_cons]
      refine ⟨⟨fun hmem => ?_, hnodup⟩, fun r hr => ?_⟩
      · obtain ⟨r, hr, hname⟩ := List.mem_map.mp hmem
        refine hunseen r hr ?_
        rw [hname, Route.handler_ofNode]
        exact List.mem_cons_self
      · rcases List.mem_cons.mp hr with rfl | hr
        · rw [Route.handler_ofNode]
          exact hnew
        · exact fun hmem => hunseen r hr (List.mem_cons_of_mem _ hmem)

/-- The path of a route tells its handler, so no path is used twice either. -/
theorem nodup_paths (nodes : List Node) : ((routes nodes).map (·.path)).Nodup := by
  have hnames : ((routes nodes).map (·.handler)).Nodup := (nodup_routesFrom [] _).1
  rw [routes_eq, List.map_map] at hnames ⊢
  refine List.Pairwise.map _ (fun h h' hne heq => hne ?_) (List.pairwise_map.mp hnames)
  have hsnake : Naming.snake h.2.name = Naming.snake h'.2.name := by
    simpa [Route.ofNode] using heq
  simp only [Function.comp_apply, Route.ofNode, handlerName, Rust.ident, hsnake]

/-! ## Every node counts -/

/-- There is at most one session, and none where there was one before. -/
theorem length_sessions (hasSession : Bool) (seen : List String) (nodes : List Node) :
    ((partsFrom hasSession seen nodes).filterMap Part.session?).length +
      (if hasSession then 1 else 0) ≤ 1 := by
  induction nodes generalizing hasSession seen with
  | nil => cases hasSession <;> simp [partsFrom]
  | cons n rest ih =>
    rcases partsFrom_cons hasSession seen n rest with
      ⟨why, hparts, -⟩ | ⟨rfl, hparts, -⟩ | ⟨flow, -, hparts, -⟩
    · rw [hparts, List.filterMap_cons_none rfl]
      exact ih hasSession seen
    · have hlast := ih true seen
      rw [hparts]
      simp only [List.filterMap_cons, Part.session?, List.length_cons]
      simpa using hlast
    · rw [hparts, List.filterMap_cons_none rfl]
      exact ih hasSession (handlerName n :: seen)

/-- From any state of the pass on, each node becomes one part. -/
theorem length_partsFrom (hasSession : Bool) (seen : List String) (nodes : List Node) :
    ((partsFrom hasSession seen nodes).filterMap Part.handler?).length +
      ((partsFrom hasSession seen nodes).filterMap Part.session?).length +
      ((partsFrom hasSession seen nodes).filterMap Part.warning?).length = nodes.length := by
  induction nodes generalizing hasSession seen with
  | nil => rfl
  | cons n rest ih =>
    rcases partsFrom_cons hasSession seen n rest with
      ⟨why, hparts, -⟩ | ⟨-, hparts, -⟩ | ⟨flow, -, hparts, -⟩
    all_goals
      rw [hparts]
      simp only [List.filterMap_cons, Part.handler?, Part.session?, Part.warning?,
        List.length_cons]
    · have := ih hasSession seen
      omega
    · have := ih true seen
      omega
    · have := ih hasSession (handlerName n :: seen)
      omega

theorem session?_eq (nodes : List Node) :
    session? nodes = ((parts nodes).filterMap Part.session?).head? :=
  List.head?_filterMap.symm

theorem length_parts (nodes : List Node) : (handlers nodes).length +
    (if session? nodes = none then 0 else 1) + (warnings nodes).length = nodes.length := by
  have htotal := length_partsFrom false [] nodes
  have hfew := length_sessions false [] nodes
  have hsessions : ((parts nodes).filterMap Part.session?).length =
      if session? nodes = none then 0 else 1 := by
    rw [session?_eq]
    cases hlist : (parts nodes).filterMap Part.session? with
    | nil => rfl
    | cons n rest =>
      rw [parts] at hlist
      rw [hlist] at hfew
      simpa using hfew
  rw [← hsessions]
  exact htotal

/-! ## Handlers -/

def Declares (text name : String) : Prop :=
  ∃ before after, text = before ++ ("pub async fn " ++ (name ++ ("(" ++ after)))

def isDeclaration : List Piece → Bool
  | .text opening :: .put (.var name) :: .text arguments :: _ =>
    opening = "pub async fn " && name = "handler" && Text.startsWith arguments "("
  | _ => false

theorem declares_of_hasLine {scope : Scope}
    (hscope : scope.lookup "handler" = some (.ofText name))
    (h : Template.HasLine isDeclaration scope text) : Declares text name := by
  obtain ⟨pieces, line, before, after, hpieces, hline, rfl⟩ := h
  unfold isDeclaration at hpieces
  split at hpieces
  · rename_i opening var arguments rest
    simp only [Bool.and_eq_true, decide_eq_true_eq] at hpieces
    obtain ⟨⟨rfl, rfl⟩, harguments⟩ := hpieces
    obtain ⟨tail, htail⟩ := List.isPrefixOf_iff_prefix.mp harguments
    have hsplit : arguments = "(" ++ String.ofList tail := by
      rw [← String.ofList_toList (s := arguments), ← htail, String.ofList_append]
      rfl
    obtain ⟨texts, htexts, hjoin⟩ := bind_eq_ok_iff.mp hline
    obtain ⟨first, behind, hfirst, hbehind, rfl⟩ := mapM_cons_eq_ok_iff.mp htexts
    obtain ⟨second, ending, hsecond, hending, rfl⟩ := mapM_cons_eq_ok_iff.mp hbehind
    obtain ⟨third, others, hthird, -, rfl⟩ := mapM_cons_eq_ok_iff.mp hending
    simp only [Piece.render, Template.Expr.eval, hscope] at hfirst hsecond hthird
    cases hfirst
    cases hsecond
    cases hthird
    cases hjoin
    refine ⟨before, String.ofList tail ++ (String.join others ++ ("\n" ++ after)), ?_⟩
    simp [hsplit, String.append_assoc]
  · cases hpieces

theorem declares_of_fill {template : String} {t : Template} {scope : Scope}
    (halways : Template.always isDeclaration t = true)
    (hscope : scope.lookup "handler" = some (.ofText name))
    (h : Templates.fill template t scope = .ok text) : Declares text name := by
  unfold Templates.fill at h
  split at h
  next s hs =>
    cases h
    exact declares_of_hasLine hscope (Template.hasLine_of_always t halways hs)
  next => cases h

theorem lookup_handler (scope : Scope) :
    (handlerScope o n ++ scope).lookup "handler" = some (.ofText (handlerName n)) := rfl

/-- The code of a handler declares the function that the route leads to. -/
theorem handlerText_declares (h : handlerText o nodes flow n = .ok text) :
    Declares text (handlerName n) := by
  cases flow with
  | login => exact declares_of_fill (by decide +kernel) (lookup_handler _) h
  | register => exact declares_of_fill (by decide +kernel) (lookup_handler _) h
  | logout =>
    have hscope := lookup_handler (o := o) (n := n) []
    rw [List.append_nil] at hscope
    exact declares_of_fill (by decide +kernel) hscope h

theorem sessionText_ne_empty (h : sessionText o n = .ok text) : text ≠ "" := by
  unfold sessionText Templates.fill at h
  split at h
  next s hs =>
    cases h
    exact Template.ne_empty_of_renderAll_text hs
  next => cases h

/-! ## The code -/

/-- What the code for nodes holds besides the shared texts: the code of every handler in the order
of the nodes, the code of the session if there is one, and a note for every other node. -/
theorem code_parts (h : Auth.code o nodes = .ok c) :
    (handlers (nodes.filter (·.isAuth))).mapM
        (fun h => handlerText o (nodes.filter (·.isAuth)) h.1 h.2) = .ok c.handlers ∧
      (c.session = "" ↔ session? (nodes.filter (·.isAuth)) = none) ∧
      c.warnings = warnings (nodes.filter (·.isAuth)) := by
  unfold Auth.code at h
  split at h
  next hnone =>
    cases h
    rw [hnone]
    exact ⟨rfl, iff_of_true rfl rfl, rfl⟩
  next =>
    have hfilled := filled_of_codeFor h
    refine ⟨hfilled.handlers, ⟨fun hempty => ?_, hfilled.sessionless⟩, hfilled.warnings⟩
    refine Option.eq_none_iff_forall_ne_some.mpr fun n hn => ?_
    exact sessionText_ne_empty (hfilled.session n hn) hempty

/-- The code for a family of nodes goes with its routes: their handlers are those for which code is
written, in the same order, and the code of each declares the function that the route names. No two
routes have a handler or a path in common. -/
structure Routed (o : AuthOptions) (family : List Node) (c : Code) : Prop where
  names : (routes family).map (·.handler) = (handlers family).map fun h => handlerName h.2
  texts : List.Forall₂ (fun h text => handlerText o family h.1 h.2 = .ok text ∧
    Declares text (handlerName h.2)) (handlers family) c.handlers
  nodup_handlers : ((routes family).map (·.handler)).Nodup
  nodup_paths : ((routes family).map (·.path)).Nodup

theorem routed_code (h : Auth.code o nodes = .ok c) : Routed o (nodes.filter (·.isAuth)) c where
  names := by
    rw [routes_eq, List.map_map]
    exact List.map_congr_left fun h _ => Route.handler_ofNode h.2
  texts := by
    refine (forall₂_of_mapM_ok (code_parts h).1).imp fun _ _ htext => ?_
    exact ⟨htext, handlerText_declares htext⟩
  nodup_handlers := (nodup_routesFrom [] _).1
  nodup_paths := nodup_paths _

/-- **Routes and handlers of sign-in agree.** For moderate nodes the code for authentication is
written exactly if the durations that it states can be. Whatever the nodes and the options are, the
handlers of written code go with the routes, and no node is dropped silently: each node of the family
is a handler, the session, or the subject of a note. -/
theorem routes_lead_to_handlers (o : AuthOptions) (nodes : List Node) :
    ((∀ n ∈ nodes, Moderate n) → ((∃ c, Auth.code o nodes = .ok c) ↔ Timed o nodes)) ∧
    ∀ c, Auth.code o nodes = .ok c → Routed o (nodes.filter (·.isAuth)) c ∧
      c.handlers.length + (if c.session = "" then 0 else 1) + c.warnings.length =
        nodes.countP fun n => Text.startsWith n.componentType "auth." := by
  refine ⟨fun _ => code_isOk_iff, fun c hc => ?_⟩
  have hrouted := routed_code hc
  obtain ⟨-, hsession, hwarnings⟩ := code_parts hc
  refine ⟨hrouted, ?_⟩
  have htotal := length_parts (nodes.filter (·.isAuth))
  rw [hrouted.texts.length_eq, ← hwarnings] at htotal
  simp only [← hsession] at htotal
  rw [htotal, ← List.countP_eq_length_filter]
  rfl

/-- Two nodes of one name that sign in, the session, and a node that no code is written for. -/
def entrances : List Node := [bare "a" Component.login "Sign in", bare "b" Component.login "Sign in",
  bare "c" Component.session "Session", bare "d" "auth.key" "Key"]

theorem routes_entrances : ∃ c, Auth.code {} entrances = .ok c ∧
    Routed {} (entrances.filter (·.isAuth)) c ∧
      c.handlers.length + (if c.session = "" then 0 else 1) + c.warnings.length = 4 := by
  obtain ⟨hwritten, hrouted⟩ := routes_lead_to_handlers {} entrances
  have hmoderate : ∀ n ∈ entrances, Moderate n := by
    simp only [entrances, List.forall_mem_cons]
    exact ⟨moderate_bare, moderate_bare, moderate_bare, moderate_bare, List.forall_mem_nil _⟩
  have hsession : ((session? (entrances.filter (·.isAuth))).all fun n =>
      (sessionSeconds {} n).toData.display.isSome) = true := by
    decide +kernel
  have htimed : Timed {} entrances := by
    refine ⟨fun _ _ => rfl, fun n hn => ?_⟩
    rw [hn] at hsession
    exact hsession
  obtain ⟨c, hc⟩ := (hwritten hmoderate).mpr htimed
  have hnodes : entrances.countP (fun n => Text.startsWith n.componentType "auth.") = 4 := by
    decide +kernel
  exact ⟨c, hc, hnodes ▸ hrouted c hc⟩

end Service.Auth

end Wirework
