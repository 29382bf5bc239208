import Wirework.Proofs.Check.Reports
import Wirework.Proofs.Migration.Versions
import Wirework.Proofs.Rust.Initializer
import Wirework.Proofs.Template.Shape
import Wirework.Service.Generate

/-!
# When a service can be generated

Every template of a service passes the check against the shapes of what it is filled in with, so
none of them can fail over a missing value or one of the wrong kind. What is left are integers that
are too large for a literal or have too many digits to be written, as a default or as a duration,
versions of migrations beyond the end of the calendar, and a duration of sessions that is no number.
No rule finds an error over any of these (`generate_isOk_iff`).
-/

namespace Wirework.Service

open Template (Shape Value Scope Trouble)

variable {E : Trouble → Prop} {F : Failure → Prop}

/-! ## Filling in -/

abbrev Never (_ : Failure) : Prop := False

theorem failsOnly_fill {name : String} {t : Template} {scope : Scope}
    (shapes : List (String × Shape)) (hcheck : Template.checkAll shapes t = true)
    (hscope : Scope.Fits E shapes scope)
    (hE : ∀ e, E e → F (Templates.failure name e)) : FailsOnly F (Templates.fill name t scope) := by
  have hrender : FailsOnly E (t.render scope) := Template.failsOnly_renderAll t hscope hcheck
  unfold Templates.fill
  cases h : t.render scope with
  | ok s => exact failsOnly_ok s
  | error e => exact failsOnly_error (hE e (hrender e h))

theorem fill_succeeds {name : String} {t : Template} {scope : Scope}
    (shapes : List (String × Shape)) (hcheck : Template.checkAll shapes t = true)
    (hscope : Scope.Fits (fun _ => False) shapes scope) :
    FailsOnly F (Templates.fill name t scope) :=
  failsOnly_fill shapes hcheck hscope fun _ h => h.elim

theorem renderAll_of_fill_ok {name text : String} {t : Template} {scope : Scope}
    (h : Templates.fill name t scope = .ok text) : ∃ s, Template.renderAll scope t = .ok s := by
  unfold Templates.fill at h
  split at h
  · exact ⟨_, by assumption⟩
  · cases h

theorem fits_map {α : Type} {s : Shape} {xs : List α} {f : α → Value}
    (h : ∀ a ∈ xs, (f a).Fits E s) : Value.Fits E (.list s) (.list (xs.map f)) := by
  refine .list (fun v hv => ?_) nofun
  obtain ⟨a, ha, rfl⟩ := List.mem_map.mp hv
  exact h a ha

theorem fits_texts {xs : List String} : Value.Fits E (.list .text) (.ofTexts xs) :=
  fits_map fun s _ => .text s

/-! ## Durations -/

/-- A number has not too many digits to be written. -/
def Shows (z : Ordinal) : Prop := z.toData.display.isSome = true

theorem failsOnly_display (d : Data) : FailsOnly (· = .tooLong) (Value.plain d).display := by
  rw [Value.display]
  cases d.display with
  | some text => exact failsOnly_ok text
  | none => exact failsOnly_error rfl

theorem display_of_shows {z : Ordinal} (h : Shows z) :
    FailsOnly E (Value.plain z.toData).display := by
  obtain ⟨text, htext⟩ := Option.isSome_iff_exists.mp h
  rw [Value.display, htext]
  exact failsOnly_ok text

theorem shows_of_display {z : Ordinal} {text : String}
    (h : (Value.plain z.toData).display = .ok text) : Shows z := by
  rw [Shows]
  rw [Value.display] at h
  cases hd : z.toData.display with
  | some text => rfl
  | none =>
    rw [hd] at h
    cases h

/-- A number that a rendered line puts is shown. -/
theorem shows_of_line {z : Ordinal} {scope : Scope} {bs : List Template.Block}
    {pieces : List Template.Piece} {e : Template.Expr} {text : String}
    (h : Template.renderAll scope bs = .ok text) (hline : .line pieces ∈ bs)
    (he : .put e ∈ pieces) (heval : e.eval scope = .ok (some (.plain z.toData))) : Shows z := by
  obtain ⟨line, hrun⟩ := Template.render_of_renderAll_ok h _ hline
  obtain ⟨v, shown, hv, hshown⟩ := Template.eval_of_line_ok hrun he
  cases heval.symm.trans hv
  exact shows_of_display hshown

/-! ## Shapes of a service's values -/

def entityShape (s : Shape) (counted : Bool := false) : Shape :=
  .record [("name", .text), ("description", .shown), ("fields", .list s counted)]

theorem fits_entity {n : Node} {s : Shape} {counted : Bool}
    (h : ∀ f ∈ n.fields, Value.Fits E s (.field f))
    (hcount : counted = true → FailsOnly E (Value.ofInt n.fields.length).display) :
    (entityValue n).Fits E (entityShape s counted) := by
  have hfields : Value.Fits E (.list s counted) (.list (n.fields.map .field)) := by
    refine .list (List.forall_mem_map.mpr h) fun hcounted => ?_
    rw [List.length_map]
    exact hcount hcounted
  exact .record (.cons (.text _) (.cons (.shown (Template.failsOnly_display_ofOption _))
    (.cons hfields .nil)))

def endpointShape : Shape := .record [
  ("name", .text), ("module", .text), ("handler", .text), ("method", .text), ("path", .text),
  ("method_fn", .text), ("has_body", .any)]

theorem fits_endpoint (e : Endpoint) : e.value.Fits E endpointShape :=
  .record (.cons (.text _) (.cons (.text _) (.cons (.text _) (.cons (.text _) (.cons (.text _)
    (.cons (.text _) (.cons (.any _) .nil)))))))

def routeShape : Shape := .record [("method", .text), ("path", .text), ("handler", .text)]

theorem fits_route (r : Auth.Route) : r.value.Fits E routeShape :=
  .record (.cons (.text _) (.cons (.text _) (.cons (.text _) .nil)))

def requestShape : Shape := .record [("name", .text), ("ident", .text), ("rust_type", .text)]

theorem fits_requests (fields : List Auth.RequestField) :
    (Auth.fieldsValue fields).Fits E (.list requestShape) :=
  fits_map fun _ _ => .record (.cons (.text _) (.cons (.text _) (.cons (.text _) .nil)))

namespace Plan

variable {p : Plan}

/-- The numbers of fields of the entities have not too many digits to be written. -/
def Countable (p : Plan) : Prop := ∀ e ∈ p.entities, Number.isShort e.fields.length = true

theorem fits_entities : p.entitiesValue.Fits E (.list (entityShape .any)) :=
  fits_map fun _ _ => fits_entity (fun _ _ => .any _) nofun

theorem fits_counted (h : ∀ e ∈ p.entities, FailsOnly E (Value.ofInt e.fields.length).display) :
    p.entitiesValue.Fits E (.list (entityShape .any true)) :=
  fits_map fun e he => fits_entity (fun _ _ => .any _) fun _ => h e he

theorem fits_endpoints : p.endpointsValue.Fits E (.list endpointShape) :=
  fits_map fun e _ => fits_endpoint e

end Plan

/-! ## Authentication -/

namespace Auth

variable {o : AuthOptions} {n : Node} {nodes : List Node}

/-- The shapes that all parts share, with those of the use of tokens and of the duration. -/
def sharedShapes (tokens duration : Shape) : List (String × Shape) := [
  ("framework", .text),
  ("config", .record [("use_jwt", tokens), ("jwt_secret_env", .text),
    ("session_duration_secs", duration), ("use_argon2", .any), ("use_refresh_tokens", .any)])]

theorem fits_shared {tokens duration : Shape} {shapes : List (String × Shape)} {scope : Scope}
    (ht : Value.Fits E tokens (.ofBool o.tokens))
    (hd : Value.Fits E duration (.plain o.duration.toData)) (h : Scope.Fits E shapes scope) :
    Scope.Fits E (sharedShapes tokens duration ++ shapes) (sharedScope o ++ scope) :=
  .cons (.text _) (.cons (.record (.cons ht (.cons (.text _) (.cons hd (.cons (.any _)
    (.cons (.any _) .nil)))))) h)

def handlerShapes : List (String × Shape) :=
  [("node", .record [("name", .text)]), ("handler", .text), ("prefix", .text)]

theorem fits_handler {shapes : List (String × Shape)} {scope : Scope}
    (h : Scope.Fits E shapes scope) :
    Scope.Fits E (sharedShapes .any .any ++ handlerShapes ++ shapes) (handlerScope o n ++ scope) :=
  fits_shared (.any _) (.any _)
    (.cons (.record (.cons (.text _) .nil)) (.cons (.text _) (.cons (.text _) h)))

/-- The templates pass the check against the shapes of what they are filled in with. -/
structure Checked : Prop where
  imports : Template.checkAll (sharedShapes .any .any) Templates.Auth.imports = true
  types : Template.checkAll
    (sharedShapes .any .any ++ [("create_user_fields", .list requestShape)])
    Templates.Auth.types = true
  /-- With tokens the duration is written. -/
  support : Template.checkAll (sharedShapes .any .shown) Templates.Auth.support = true
  tokenless : Template.checkAll (sharedShapes .no .any) Templates.Auth.support = true
  middleware : Template.checkAll (sharedShapes .any .any) Templates.Auth.middleware = true
  login : Template.checkAll (sharedShapes .any .any ++ handlerShapes ++
    [("request_fields", .list requestShape), ("identity", .text)]) Templates.Auth.login = true
  register : Template.checkAll (sharedShapes .any .any ++ handlerShapes ++
    [("request_fields", .list requestShape), ("has_confirm", .any),
      ("create_user_fields", .list requestShape), ("provided", .list .text)])
    Templates.Auth.register = true
  logout : Template.checkAll (sharedShapes .any .any ++ handlerShapes) Templates.Auth.logout = true
  session : Template.checkAll [("duration_secs", .shown), ("cookie_name", .text)]
    Templates.Auth.session = true
  routes : Template.checkAll [("framework", .text), ("routes", .list routeShape)]
    Templates.Auth.routeTable = true

theorem checked : Checked := by
  constructor <;> decide +kernel

theorem handlerText_succeeds {flow : Flow} : FailsOnly F (handlerText o nodes flow n) := by
  cases flow with
  | login =>
    exact fill_succeeds _ checked.login (fits_handler (.cons (fits_requests _) (.cons (.text _) .nil)))
  | register =>
    exact fill_succeeds _ checked.register (fits_handler (.cons (fits_requests _)
      (.cons (.any _) (.cons (fits_requests _) (.cons fits_texts .nil)))))
  | logout =>
    have hscope := fits_handler (E := fun _ => False) (o := o) (n := n) .nil
    rw [List.append_nil, List.append_nil] at hscope
    exact fill_succeeds _ checked.logout hscope

theorem routesText_succeeds {f : Framework} : FailsOnly F (routesText f nodes) := by
  unfold routesText
  split
  · exact fill_succeeds _ checked.routes
      (.cons (.text _) (.cons (fits_map fun r _ => fits_route r) .nil))
  · exact failsOnly_ok _

section Durations

variable (hE : ∀ name e, E e → F (Templates.failure name e))

include hE

theorem failsOnly_support
    (h : o.tokens = true → FailsOnly E (Value.plain o.duration.toData).display) :
    FailsOnly F (Templates.fill "auth/utils" Templates.Auth.support (sharedScope o)) := by
  cases ht : o.tokens with
  | true =>
    exact failsOnly_fill _ checked.support (fits_shared (.any _) (.shown (h ht)) .nil) (hE _)
  | false => exact failsOnly_fill _ checked.tokenless (fits_shared (.no ht) (.any _) .nil) (hE _)

theorem failsOnly_session
    (h : FailsOnly E (Value.plain (sessionSeconds o n).toData).display) :
    FailsOnly F (sessionText o n) :=
  failsOnly_fill _ checked.session (.cons (.shown h) (.cons (.text _) .nil)) (hE _)

theorem failsOnly_codeFor
    (htokens : o.tokens = true → FailsOnly E (Value.plain o.duration.toData).display)
    (hsession : ∀ n, session? nodes = some n →
      FailsOnly E (Value.plain (sessionSeconds o n).toData).display) :
    FailsOnly F (codeFor o nodes) := by
  have hshared : Scope.Fits (fun _ => False) (sharedShapes .any .any) (sharedScope o) :=
    fits_shared (.any _) (.any _) .nil
  have htypes : Scope.Fits (fun _ => False)
      (sharedShapes .any .any ++ [("create_user_fields", .list requestShape)])
      (sharedScope o ++ [("create_user_fields", fieldsValue (userFields nodes))]) :=
    fits_shared (.any _) (.any _) (.cons (fits_requests _) .nil)
  unfold codeFor
  refine (fill_succeeds _ checked.imports hshared).bind fun _ _ => ?_
  refine (fill_succeeds _ checked.types htypes).bind fun _ _ => ?_
  refine (failsOnly_support hE htokens).bind fun _ _ => ?_
  refine (fill_succeeds _ checked.middleware hshared).bind fun _ _ => ?_
  refine (FailsOnly.mapM fun entry _ => handlerText_succeeds).bind fun _ _ => ?_
  dsimp only
  split
  · rename_i n hn
    refine (failsOnly_session hE (hsession n hn)).bind fun _ _ => ?_
    exact routesText_succeeds.bind fun _ _ => failsOnly_ok _
  · refine (failsOnly_ok _).bind fun _ _ => ?_
    exact routesText_succeeds.bind fun _ _ => failsOnly_ok _

end Durations

/-- The durations that the code for authentication states can be written: that of tokens, if there
are any, and that of the session. -/
structure Timed (o : AuthOptions) (nodes : List Node) : Prop where
  tokens : nodes.filter (·.isAuth) ≠ [] → o.tokens = true → Shows o.duration
  session : ∀ n, session? (nodes.filter (·.isAuth)) = some n → Shows (sessionSeconds o n)

theorem shows_of_support {text : String} (ht : o.tokens = true)
    (h : Templates.fill "auth/utils" Templates.Auth.support (sharedScope o) = .ok text) :
    Shows o.duration := by
  obtain ⟨s, hrender⟩ := renderAll_of_fill_ok h
  have htest : (Templates.config.get "use_jwt").test (sharedScope o) = .ok true :=
    congrArg Except.ok ht
  obtain ⟨t, hwhen⟩ := Template.render_of_renderAll_ok hrender _
    (List.mem_of_getElem? (i := 1) rfl)
  obtain ⟨body, hbody⟩ := Template.renderAll_of_choose_ok htest hwhen
  exact shows_of_line hbody (List.mem_of_getElem? (i := 1) rfl)
    (List.mem_of_getElem? (i := 1) rfl) rfl

theorem shows_of_session {text : String} (h : sessionText o n = .ok text) :
    Shows (sessionSeconds o n) := by
  obtain ⟨s, hrender⟩ := renderAll_of_fill_ok h
  exact shows_of_line hrender (List.mem_of_getElem? (i := 1) rfl)
    (List.mem_of_getElem? (i := 1) rfl) rfl

/-- Each part of some code is what its template is filled in to. -/
structure Filled (o : AuthOptions) (nodes : List Node) (c : Code) : Prop where
  imports : Templates.fill "auth/imports" Templates.Auth.imports (sharedScope o) = .ok c.imports
  types : Templates.fill "auth/types" Templates.Auth.types
    (sharedScope o ++ [("create_user_fields", fieldsValue (userFields nodes))]) = .ok c.types
  support : Templates.fill "auth/utils" Templates.Auth.support (sharedScope o) = .ok c.support
  middleware : Templates.fill "auth/middleware" Templates.Auth.middleware (sharedScope o) =
    .ok c.middleware
  handlers : (handlers nodes).mapM (fun h => handlerText o nodes h.1 h.2) = .ok c.handlers
  session : ∀ n, session? nodes = some n → sessionText o n = .ok c.session
  sessionless : session? nodes = none → c.session = ""
  routes : routesText o.framework nodes = .ok c.routes
  warnings : c.warnings = warnings nodes

theorem filled_of_codeFor {c : Code} (h : codeFor o nodes = .ok c) : Filled o nodes c := by
  obtain ⟨imports, himports, h⟩ := bind_eq_ok_iff.mp h
  obtain ⟨types, htypes, h⟩ := bind_eq_ok_iff.mp h
  obtain ⟨support, hsupport, h⟩ := bind_eq_ok_iff.mp h
  obtain ⟨middleware, hmiddleware, h⟩ := bind_eq_ok_iff.mp h
  obtain ⟨texts, htexts, h⟩ := bind_eq_ok_iff.mp h
  dsimp only at h
  split at h
  next n hn =>
    obtain ⟨session, hsession, h⟩ := bind_eq_ok_iff.mp h
    obtain ⟨routes, hroutes, h⟩ := bind_eq_ok_iff.mp h
    cases h
    refine ⟨himports, htypes, hsupport, hmiddleware, htexts, fun n' hn' => ?_, fun hnone => ?_,
      hroutes, rfl⟩
    · cases hn.symm.trans hn'
      exact hsession
    · cases hn.symm.trans hnone
  next hn =>
    obtain ⟨session, hsession, h⟩ := bind_eq_ok_iff.mp h
    obtain ⟨routes, hroutes, h⟩ := bind_eq_ok_iff.mp h
    cases hsession
    cases h
    refine ⟨himports, htypes, hsupport, hmiddleware, htexts, fun n' hn' => ?_, fun _ => rfl,
      hroutes, rfl⟩
    cases hn.symm.trans hn'

/-- The code for authentication can be written exactly if its durations can. -/
theorem code_isOk_iff : (∃ c, code o nodes = .ok c) ↔ Timed o nodes := by
  unfold code
  cases hnodes : nodes.filter (·.isAuth) with
  | nil =>
    refine iff_of_true ⟨_, rfl⟩ ⟨fun hne => absurd hnodes hne, fun n hn => ?_⟩
    rw [hnodes] at hn
    cases hn
  | cons first rest =>
    constructor
    · rintro ⟨c, hc⟩
      have hfilled := filled_of_codeFor hc
      refine ⟨fun _ ht => shows_of_support ht hfilled.support, fun n hn => ?_⟩
      exact shows_of_session (hfilled.session n (hnodes ▸ hn))
    · intro h
      have hne : nodes.filter (·.isAuth) ≠ [] := by simp [hnodes]
      refine failsOnly_false_iff.mp (failsOnly_codeFor (E := fun _ => False) (fun _ _ => id) ?_ ?_)
      · exact fun ht => display_of_shows (h.tokens hne ht)
      · exact fun n hn => display_of_shows (h.session n (hnodes.symm ▸ hn))

theorem failsOnly_code : FailsOnly (· = .integerTooLong) (code o nodes) := by
  unfold code
  split
  · exact failsOnly_ok _
  · refine failsOnly_codeFor (E := (· = .tooLong)) ?_ (fun _ => failsOnly_display _)
      fun _ _ => failsOnly_display _
    rintro name e rfl
    rfl

end Auth

/-! ## Models -/

/-- The troubles with the default of a field. -/
def IsTooLarge (e : Trouble) : Prop := e = .overflow ∨ e = .tooLong

theorem fits_field {f : Field} : Value.Fits IsTooLarge .field (.field f) := by
  refine .field ?_
  simp only [Template.Filter.apply]
  cases Rust.Initializer.ofField f with
  | ok i => exact failsOnly_ok _
  | error e =>
    cases e with
    | integerTooLong => exact failsOnly_error (Or.inr rfl)
    | _ => exact failsOnly_error (Or.inl rfl)

/-- The three ways in which a project without errors can fail to become a service. -/
def Unwritable (f : Failure) : Prop := f = .overflow ∨ f = .wrongKind ∨ f = .integerTooLong

theorem unwritable_of_isTooLarge (name : String) (e : Trouble) (h : IsTooLarge e) :
    Unwritable (Templates.failure name e) := by
  rcases h with rfl | rfl
  · exact Or.inl rfl
  · exact Or.inr (Or.inr rfl)

def modelScope (n : Node) : Scope := [("entity", entityValue n)]

theorem check_model :
    Template.checkAll [("entity", entityShape .field)] Templates.model = true := by
  decide +kernel

theorem failsOnly_model {n : Node} :
    FailsOnly Unwritable (Templates.fill "model_rs" Templates.model (modelScope n)) :=
  failsOnly_fill [("entity", entityShape .field)] check_model
    (.cons (fits_entity (fun _ _ => fits_field) nofun) .nil) (unwritable_of_isTooLarge _)

/-- The template of models writes the initializer of every field. -/
theorem ofField_of_model_ok {n : Node} {text : String}
    (h : Templates.fill "model_rs" Templates.model (modelScope n) = .ok text) :
    ∀ f ∈ n.fields, ∃ i, Rust.Initializer.ofField f = .ok i := by
  obtain ⟨s, hrender⟩ := renderAll_of_fill_ok h
  intro f hf
  have hitems : (Templates.entity.get "fields").items (modelScope n) =
      .ok (n.fields.map .field) := rfl
  -- The second loop over the fields is the one with their initializers.
  have hloop : Template.Block.each "field" (Templates.entity.get "fields")
      [.line ["            ", (Templates.field.get "name").ident, ": ",
        Templates.field.fieldDefault, ","]] ∈ Templates.model :=
    List.mem_of_getElem? (i := 11) rfl
  obtain ⟨t, hloop⟩ := Template.render_of_renderAll_ok hrender _ hloop
  obtain ⟨t, hbody⟩ := Template.renderAll_of_each_ok hitems hloop _ (List.mem_map_of_mem hf)
  obtain ⟨t, hline⟩ := Template.render_of_renderAll_ok hbody _ (List.mem_cons_self ..)
  obtain ⟨v, -, hv, -⟩ := Template.eval_of_line_ok hline (e := Templates.field.fieldDefault)
    (by simp)
  have heval : some <$> Template.Filter.apply .fieldDefault (.field f) = .ok (some v) := hv
  rw [Template.Filter.apply] at heval
  cases hi : Rust.Initializer.ofField f with
  | ok i => exact ⟨i, rfl⟩
  | error e =>
    rw [hi] at heval
    cases e <;> cases heval

theorem model_isOk_iff {n : Node} :
    (∃ text, Templates.fill "model_rs" Templates.model (modelScope n) = .ok text) ↔
      ∀ f ∈ n.fields, ¬ f.Overflows := by
  simp only [← Rust.ofField_isOk_iff]
  constructor
  · rintro ⟨text, h⟩
    exact ofField_of_model_ok h
  · intro h
    refine failsOnly_false_iff.mp (fill_succeeds [("entity", entityShape .field)] check_model
      (.cons (fits_entity (fun f hf => .field ?_) nofun) .nil))
    obtain ⟨i, hi⟩ := h f hf
    rw [Template.Filter.apply, hi]
    exact failsOnly_ok _

/-! ## Files -/

def IsNumber : Ordinal → Prop
  | .int _ | .other (.bool _) | .other (.float _) => True
  | .other _ => False

theorem expiryHours_cases (a : AuthOptions) : (IsNumber a.duration ∧ ∃ h, a.expiryHours = .ok h) ∨
    (¬ IsNumber a.duration ∧ a.expiryHours = .error .wrongKind) := by
  unfold AuthOptions.expiryHours
  rcases a.duration with n | d
  · exact Or.inl ⟨trivial, _, rfl⟩
  · cases d with
    | bool b => exact Or.inl ⟨trivial, _, rfl⟩
    | float x => exact Or.inl ⟨trivial, _, rfl⟩
    | _ => exact Or.inr ⟨id, rfl⟩

namespace Plan

variable {p : Plan} {code : Auth.Code}

/-- What the text of a file depends on. -/
def Expressible (p : Plan) : File → Prop
  | .model e => ∀ f ∈ e.fields, ¬ f.Overflows
  | .migration m => m.text.isSome = true
  | .envExample => IsNumber p.auth.duration ∧
    (p.hasAuth = true → ∀ hours, p.auth.expiryHours = .ok hours → Shows hours)
  | _ => True

theorem failsOnly_port (p : Plan) : FailsOnly E (Value.ofInt p.defaultPort).display := by
  unfold defaultPort
  split <;> exact failsOnly_ok _

/-- The shapes of the example of an environment, with those of authentication and of the hours. -/
def envShapes (auth hours : Shape) : List (String × Shape) := [
  ("name", .text), ("default_port", .shown), ("database_name", .text), ("database_url", .text),
  ("has_auth", auth), ("jwt_secret_env", .text), ("jwt_expiry_hours", hours)]

theorem fits_env {hours : Ordinal} {auth shape : Shape}
    (ha : Value.Fits E auth (.ofBool p.hasAuth))
    (hh : Value.Fits E shape (.plain hours.toData)) :
    Scope.Fits E (envShapes auth shape) (p.envScope hours) :=
  .cons (.text _) (.cons (.shown p.failsOnly_port) (.cons (.text _) (.cons (.text _) (.cons ha
    (.cons (.text _) (.cons hh .nil))))))

theorem failsOnly_env {hours : Ordinal} (hE : ∀ name e, E e → F (Templates.failure name e))
    (h : p.hasAuth = true → FailsOnly E (Value.plain hours.toData).display) :
    FailsOnly F (Templates.fill "env_example" Templates.envExample (p.envScope hours)) := by
  cases ha : p.hasAuth with
  | true =>
    exact failsOnly_fill (envShapes .any .shown) (by decide +kernel)
      (fits_env (.any _) (.shown (h ha))) (hE _)
  | false =>
    exact failsOnly_fill (envShapes .no .any) (by decide +kernel) (fits_env (.no ha) (.any _)) (hE _)

theorem shows_of_env {hours : Ordinal} {text : String} (ha : p.hasAuth = true)
    (h : Templates.fill "env_example" Templates.envExample (p.envScope hours) = .ok text) :
    Shows hours := by
  obtain ⟨s, hrender⟩ := renderAll_of_fill_ok h
  have htest : Templates.hasAuth.test (p.envScope hours) = .ok true := congrArg Except.ok ha
  obtain ⟨t, hwhen⟩ := Template.render_of_renderAll_ok hrender _
    (List.mem_of_getElem? (i := 6) rfl)
  obtain ⟨body, hbody⟩ := Template.renderAll_of_choose_ok htest hwhen
  exact shows_of_line hbody (List.mem_of_getElem? (i := 2) rfl)
    (List.mem_of_getElem? (i := 1) rfl) rfl

theorem failsOnly_readme (hE : ∀ name e, E e → F (Templates.failure name e))
    (h : ∀ e ∈ p.entities, FailsOnly E (Value.ofInt e.fields.length).display) :
    FailsOnly F (p.text code .readme) :=
  failsOnly_fill [("name", .text), ("description", .text), ("framework_name", .text),
    ("database_name", .text), ("has_migrations", .any),
    ("entities", .list (entityShape .any true)), ("endpoints", .list endpointShape),
    ("has_auth", .any), ("auth_routes", .list routeShape), ("reference", .any)] (by decide +kernel)
    (.cons (.text _) (.cons (.text _) (.cons (.text _) (.cons (.text _) (.cons (.any _)
      (.cons (fits_counted h) (.cons fits_endpoints (.cons (.any _)
      (.cons (fits_map fun r _ => fits_route r) (.cons (.any _) .nil)))))))))) (hE _)

/-- Apart from models, migrations and the file of variables, every file can be written if the one
that counts the fields can. -/
theorem text_succeeds (hreadme : FailsOnly F (p.text code .readme)) : (f : File) →
    (∀ e, f ≠ .model e) → (∀ m, f ≠ .migration m) → f ≠ .envExample → FailsOnly F (p.text code f)
  | .cargoManifest, _, _, _ =>
    fill_succeeds [("crate_name", .text), ("version", .text), ("description", .text),
      ("dependencies", .list (.pair .text .text))] (by decide +kernel)
      (.cons (.text _) (.cons (.text _) (.cons (.text _)
        (.cons (fits_map fun _ _ => .pair (.text _) (.text _)) .nil))))
  | .mainProgram, _, _, _ =>
    fill_succeeds [("name", .text), ("description", .text), ("framework", .text),
      ("crate_name", .text)] (by decide +kernel)
      (.cons (.text _) (.cons (.text _) (.cons (.text _) (.cons (.text _) .nil))))
  | .libraryRoot, _, _, _ =>
    fill_succeeds [("name", .text), ("modules", .list .text), ("framework", .text),
      ("use_jwt", .any), ("has_api", .any), ("has_auth_routes", .any)] (by decide +kernel)
      (.cons (.text _) (.cons fits_texts (.cons (.text _) (.cons (.any _) (.cons (.any _)
        (.cons (.any _) .nil))))))
  | .configuration, _, _, _ =>
    fill_succeeds [("default_port", .shown), ("database_name", .text), ("pool_type", .text),
      ("has_migrations", .any), ("jwt_secret_env", .text), ("generate_tests", .any)]
      (by decide +kernel)
      (.cons (.shown p.failsOnly_port) (.cons (.text _) (.cons (.text _) (.cons (.any _)
        (.cons (.text _) (.cons (.any _) .nil))))))
  | .errors, _, _, _ =>
    fill_succeeds [("framework", .text)] (by decide +kernel) (.cons (.text _) .nil)
  | .modelIndex, _, _, _ =>
    fill_succeeds [("entities", .list (entityShape .any))] (by decide +kernel)
      (.cons fits_entities .nil)
  | .auth, _, _, _ | .authRoutes, _, _, _ => failsOnly_ok _
  | .handlerIndex, _, _, _ =>
    fill_succeeds [("endpoints", .list endpointShape)] (by decide +kernel)
      (.cons fits_endpoints .nil)
  | .handler e, _, _, _ =>
    fill_succeeds [("framework", .text), ("endpoint", endpointShape)] (by decide +kernel)
      (.cons (.text _) (.cons (fits_endpoint e) .nil))
  | .routes, _, _, _ =>
    fill_succeeds [("framework", .text), ("endpoints", .list endpointShape)] (by decide +kernel)
      (.cons (.text _) (.cons fits_endpoints .nil))
  | .readme, _, _, _ => hreadme
  | .model e, h, _, _ => absurd rfl (h e)
  | .migration m, _, h, _ => absurd rfl (h m)
  | .envExample, _, _, h => absurd rfl h

theorem envExample_isOk_iff :
    (∃ s, p.text code .envExample = .ok s) ↔ p.Expressible .envExample := by
  rw [text, Expressible]
  rcases expiryHours_cases p.auth with ⟨hnumber, hours, hhours⟩ | ⟨hnumber, herror⟩
  · rw [hhours]
    simp only [hnumber, true_and, Except.ok.injEq, forall_eq']
    constructor
    · rintro ⟨s, hs⟩ ha
      exact shows_of_env ha hs
    · intro h
      exact failsOnly_false_iff.mp (failsOnly_env (E := fun _ => False) (fun _ _ => id)
        fun ha => display_of_shows (h ha))
  · rw [herror]
    refine iff_of_false ?_ fun h => hnumber h.1
    rintro ⟨s, ⟨⟩⟩

/-- A file can be written if what its text depends on can be expressed. -/
theorem text_isOk_iff (hcount : p.Countable) (code : Auth.Code) (f : File) :
    (∃ s, p.text code f = .ok s) ↔ p.Expressible f := by
  cases f with
  | model e => exact model_isOk_iff
  | migration m =>
    rw [text, Expressible]
    cases m.text <;> simp
  | envExample => exact envExample_isOk_iff
  | _ =>
    have hreadme : FailsOnly Never (p.text code .readme) :=
      failsOnly_readme (E := fun _ => False) (fun _ _ => id)
        fun e he => Template.failsOnly_display_ofInt (hcount e he)
    exact iff_of_true
      (failsOnly_false_iff.mp (text_succeeds hreadme _ (by simp) (by simp) (by simp))) trivial

theorem failsOnly_text (f : File) : FailsOnly Unwritable (p.text code f) := by
  cases f with
  | model e => exact failsOnly_model
  | migration m =>
    rw [text]
    cases m.text with
    | some s => exact failsOnly_ok s
    | none => exact failsOnly_error (Or.inr (Or.inr rfl))
  | envExample =>
    rw [text]
    rcases expiryHours_cases p.auth with ⟨-, hours, hhours⟩ | ⟨-, herror⟩
    · rw [hhours]
      exact failsOnly_env unwritable_of_isTooLarge fun _ => (failsOnly_display _).mono fun _ => Or.inr
    · rw [herror]
      exact failsOnly_error (Or.inr (Or.inl rfl))
  | _ =>
    have hreadme : FailsOnly Unwritable (p.text code .readme) :=
      failsOnly_readme unwritable_of_isTooLarge fun _ _ => (failsOnly_display _).mono fun _ => Or.inr
    exact text_succeeds hreadme _ (by simp) (by simp) (by simp)

/-! ## Migrations -/

/-- The migrations of a plan can be made: their defaults can be written, and the calendar has room
for their versions. -/
def Migrates (p : Plan) : Prop :=
  p.hasMigrations = true → Migration.ShortDefaults { backend := p.database } p.entities ∧
    p.migrationBase.Admits (Migration.draftCount { backend := p.database } p.entities - 1)

theorem migrations_cases (hentities : ∀ n ∈ p.entities, n.isEntity = true) :
    (p.Migrates ∧ ∃ ms, p.migrations = .ok ms) ∨
      (¬ p.Migrates ∧ ∃ f, Unwritable f ∧ p.migrations = .error f) := by
  unfold Migrates migrations
  by_cases hm : p.hasMigrations = true
  · have hall : p.entities.filter (·.isEntity) = p.entities := List.filter_eq_self.mpr hentities
    have hne : p.entities.filter (·.isEntity) ≠ [] := by
      rw [hall]
      simp only [hasMigrations, hasEntities, Bool.and_eq_true, Bool.not_eq_true'] at hm
      simpa using hm.1
    simp only [hm, if_true, forall_const]
    by_cases hshort : Migration.ShortDefaults { backend := p.database } p.entities
    · have hplan := Migration.plan_cases p.migrationBase p.migrationBase hne hshort
      rw [hall] at hplan
      by_cases hroom : p.migrationBase.Admits
          (Migration.draftCount { backend := p.database } p.entities - 1)
      · exact Or.inl ⟨⟨hshort, hroom⟩, hplan.1 hroom⟩
      · exact Or.inr ⟨fun h => hroom h.2, _, Or.inl rfl, hplan.2 hroom⟩
    · exact Or.inr ⟨fun h => hshort h.1, _, Or.inr (Or.inr rfl), Migration.plan_of_long hshort⟩
  · rw [if_neg hm]
    exact Or.inl ⟨fun h => absurd h hm, [], rfl⟩

theorem isSome_text_of_migrations {ms : List Migration} (h : p.migrations = .ok ms) :
    ∀ m ∈ ms, m.text.isSome = true := by
  unfold migrations at h
  split at h
  · exact Migration.isSome_text_of_plan h
  · cases h
    exact List.forall_mem_nil _

/-! ## All files -/

theorem text_map_isOk_iff (hcount : p.Countable) (code : Auth.Code) (f : File) :
    (∃ w, (p.text code f).map (f.path, ·) = .ok w) ↔ p.Expressible f := by
  rw [map_isOk_iff, text_isOk_iff hcount]

/-- The files of a plan can be written if each of them can, with the code for authentication and the
migrations that they are made of. -/
theorem writes_isOk_iff (hcount : p.Countable) (hentities : ∀ n ∈ p.entities, n.isEntity = true) :
    (∃ ws, p.writes = .ok ws) ↔ Auth.Timed p.auth p.authNodes ∧
      (∀ f ∈ p.sources, p.Expressible f) ∧ p.Migrates ∧ p.Expressible .envExample := by
  rw [← Auth.code_isOk_iff]
  constructor
  · rintro ⟨ws, h⟩
    obtain ⟨code, hcode, h⟩ := bind_eq_ok_iff.mp h
    obtain ⟨sources, hsources, h⟩ := bind_eq_ok_iff.mp h
    obtain ⟨ms, hms, h⟩ := bind_eq_ok_iff.mp h
    obtain ⟨others, hothers, -⟩ := bind_eq_ok_iff.mp h
    refine ⟨⟨code, hcode⟩, fun f hf => ?_, ?_, ?_⟩
    · obtain ⟨w, -, hw⟩ := forall_of_mapM_ok hsources f hf
      exact (text_map_isOk_iff hcount code f).mp ⟨w, hw⟩
    · rcases migrations_cases hentities with ⟨hmigrates, -⟩ | ⟨-, f, -, herror⟩
      · exact hmigrates
      · cases herror.symm.trans hms
    -- The duration is written into the example of an environment, which every plan has.
    · have henv : File.envExample ∈ companions ms := by simp [companions]
      obtain ⟨w, -, hw⟩ := forall_of_mapM_ok hothers _ henv
      exact (text_map_isOk_iff hcount code .envExample).mp ⟨w, hw⟩
  · rintro ⟨hcode, hsources, hmigrates, henv⟩
    refine failsOnly_false_iff.mp ((failsOnly_false_iff.mpr hcode).bind fun code _ => ?_)
    refine FailsOnly.bind (FailsOnly.mapM fun f hf => ?_) fun _ _ => ?_
    · exact failsOnly_false_iff.mpr ((text_map_isOk_iff hcount code f).mpr (hsources f hf))
    · have hms : FailsOnly Never p.migrations := by
        rcases migrations_cases hentities with ⟨-, hms⟩ | ⟨hno, -⟩
        · exact failsOnly_false_iff.mpr hms
        · exact absurd hmigrates hno
      refine hms.bind fun ms hms => FailsOnly.bind (FailsOnly.mapM fun f hf => ?_) fun _ _ =>
        failsOnly_ok _
      have hexpressible : p.Expressible f := by
        rcases List.mem_append.mp hf with hm | hlast
        · obtain ⟨m, hmade, rfl⟩ := List.mem_map.mp hm
          exact isSome_text_of_migrations hms m hmade
        · simp only [List.mem_cons, List.not_mem_nil, or_false] at hlast
          rcases hlast with rfl | rfl
          · exact henv
          · trivial
      exact failsOnly_false_iff.mpr ((text_map_isOk_iff hcount code f).mpr hexpressible)

theorem failsOnly_writes (hentities : ∀ n ∈ p.entities, n.isEntity = true) :
    FailsOnly Unwritable p.writes := by
  have hwrite : ∀ code f, FailsOnly Unwritable ((p.text code f).map (f.path, ·)) :=
    fun code f => (failsOnly_text f).map _
  refine (Auth.failsOnly_code.mono fun _ h => Or.inr (Or.inr h)).bind fun code _ => ?_
  refine (FailsOnly.mapM fun f _ => hwrite code f).bind fun _ _ => ?_
  refine FailsOnly.bind ?_ fun ms _ => ?_
  · rcases migrations_cases hentities with ⟨-, ms, hms⟩ | ⟨-, f, hf, herror⟩
    · rw [hms]
      exact failsOnly_ok ms
    · rw [herror]
      exact failsOnly_error hf
  · exact (FailsOnly.mapM fun f _ => hwrite code f).bind fun _ _ => failsOnly_ok _

/-- The sources of a plan can be written if its models can. -/
theorem expressible_sources_iff : (∀ f ∈ p.sources, p.Expressible f) ↔
    ∀ e ∈ p.entities, ∀ f ∈ e.fields, ¬ f.Overflows := by
  constructor
  · intro h e he
    have hentities : p.hasEntities = true := by
      simpa [hasEntities] using List.ne_nil_of_mem he
    exact h (.model e) (by simp [sources, hentities, he])
  · intro h f hf
    cases f with
    | model e =>
      obtain ⟨-, he⟩ : p.hasEntities = true ∧ e ∈ p.entities := by simpa [sources] using hf
      exact h e he
    | envExample =>
      exfalso
      simp [sources] at hf
    | migration m =>
      exfalso
      simp [sources] at hf
    | _ => trivial

end Plan

/-! ## Projects -/

variable {o : Options} {a : AuthOptions} {v : Validator} {g : Graph}

theorem keepFrom_sublist {seen : List String} {nodes : List Node} :
    (keepFrom seen nodes).Sublist nodes := by
  induction nodes generalizing seen with
  | nil => exact .slnil
  | cons n rest ih =>
    rw [keepFrom]
    split
    · exact ih.cons n
    · exact ih.cons_cons n

theorem isEntity_make : ∀ n ∈ (Plan.make o a g).entities, n.isEntity = true := by
  intro n hn
  have hmem : n ∈ g.entities := keepFrom_sublist.subset hn
  exact (List.mem_filter.mp hmem).2

/-- A project holds nothing that a service could not be written with: its defaults are not too large
for their types, its migrations can be written and are over before the calendar ends, its sessions
last for a number of seconds, and the durations that are stated have not too many digits. -/
structure Writable (o : Options) (a : AuthOptions) (g : Graph) : Prop where
  defaults : ∀ e ∈ kept g.entities, ∀ f ∈ e.fields, ¬ f.Overflows
  migrations : kept g.entities ≠ [] → o.migrationsFor g.about = true →
    Migration.ShortDefaults { backend := o.databaseFor g.about } (kept g.entities) ∧
      (o.migrationBase.getD g.about.createdAt).Admits
        (Migration.draftCount { backend := o.databaseFor g.about } (kept g.entities) - 1)
  duration : IsNumber a.duration
  timed : Auth.Timed a (g.nodesOfFamily Component.authFamily)
  expiry : g.nodesOfFamily Component.authFamily ≠ [] → ∀ hours, a.expiryHours = .ok hours →
    Shows hours

theorem migrates_make_iff : (Plan.make o a g).Migrates ↔
    (kept g.entities ≠ [] → o.migrationsFor g.about = true →
      Migration.ShortDefaults { backend := o.databaseFor g.about } (kept g.entities) ∧
        (o.migrationBase.getD g.about.createdAt).Admits
          (Migration.draftCount { backend := o.databaseFor g.about } (kept g.entities) - 1)) := by
  have hmigrations : (Plan.make o a g).hasMigrations = true ↔
      kept g.entities ≠ [] ∧ o.migrationsFor g.about = true := by
    simp [Plan.hasMigrations, Plan.hasEntities, Plan.make]
  rw [Plan.Migrates, hmigrations]
  exact and_imp

theorem hasAuth_make_iff : (Plan.make o a g).hasAuth = true ↔
    g.nodesOfFamily Component.authFamily ≠ [] := by
  simp [Plan.hasAuth, Plan.make]

/-- The output of a project's plan is made exactly if the project is writable. -/
theorem output_isOk_iff (hcount : (Plan.make o a g).Countable) :
    (∃ out, (Plan.make o a g).output = .ok out) ↔ Writable o a g := by
  have hwrites : (∃ ws, (Plan.make o a g).writes = .ok ws) ↔ Writable o a g := by
    rw [Plan.writes_isOk_iff hcount isEntity_make, Plan.expressible_sources_iff, migrates_make_iff,
      Plan.Expressible, hasAuth_make_iff]
    constructor
    · rintro ⟨⟨htokens, hsession⟩, hdefaults, hmigrations, hduration, hexpiry⟩
      exact ⟨hdefaults, hmigrations, hduration, ⟨htokens, hsession⟩, hexpiry⟩
    · rintro ⟨hdefaults, hmigrations, hduration, ⟨htokens, hsession⟩, hexpiry⟩
      exact ⟨⟨htokens, hsession⟩, hdefaults, hmigrations, hduration, hexpiry⟩
  rw [← hwrites]
  constructor
  · rintro ⟨out, h⟩
    obtain ⟨ws, hws, -⟩ := bind_eq_ok_iff.mp h
    exact ⟨ws, hws⟩
  · rintro ⟨ws, hws⟩
    exact ⟨_, bind_eq_ok_iff.mpr ⟨ws, hws, rfl⟩⟩

theorem failsOnly_output : FailsOnly Unwritable (Plan.make o a g).output :=
  (Plan.failsOnly_writes isEntity_make).bind fun _ _ => failsOnly_ok _

theorem generate_of_isValid (hvalid : v.isValid g = true) :
    generate o a v g = (Plan.make o a g).output := by
  rw [generate, Validator.requireNoErrors_validateAll, if_pos hvalid]
  rfl

theorem generate_of_not_isValid (hvalid : v.isValid g = false) :
    generate o a v g = .error (.validationFailed (errorsAmong (v.findings g))) := by
  rw [generate, Validator.requireNoErrors_validateAll, if_neg (by simp [hvalid])]
  rfl

/-- The types of a node are nested no deeper than a document allows, and the number of its fields has
not too many digits to be written. -/
structure Moderate (n : Node) : Prop where
  fields : ∀ f ∈ n.fields, f.dataType.nesting ≤ nestingLimit
  ports : ∀ p ∈ n.ports.inputs ++ n.ports.outputs, p.dataType.nesting ≤ nestingLimit
  count : Number.isShort n.fields.length = true

theorem countable_make (h : ∀ n ∈ g.nodes.values, Moderate n) : (Plan.make o a g).Countable := by
  intro e he
  have hmem : e ∈ g.entities := keepFrom_sublist.subset he
  exact (h e (List.mem_filter.mp hmem).1).count

/-- **What keeps a service from being generated.** From a project of moderate nodes in which no rule
finds an error a service is generated exactly if the project is writable. Otherwise the generation
fails by an overflow, by a duration of the wrong kind or by an integer of too many digits. -/
theorem generate_isOk_iff (hvalid : v.isValid g = true) (hnodes : ∀ n ∈ g.nodes.values, Moderate n) :
    ((∃ out, generate o a v g = .ok out) ↔ Writable o a g) ∧
      ∀ f, generate o a v g = .error f → f = .overflow ∨ f = .wrongKind ∨ f = .integerTooLong := by
  rw [generate_of_isValid hvalid]
  exact ⟨output_isOk_iff (countable_make hnodes), failsOnly_output⟩

/-- An entity with one field, a number with a default. -/
def counter (n : Nat) : Node where
  id := "counter"
  componentType := Component.entity
  name := "Counter"
  fields := [{ id := "count", name := "count", dataType := .ofScalar .int64,
               defaultValue := some (.int n) }]
  createdAt := default
  modifiedAt := default

def counting (n : Nat) : Graph where
  about := .create "Counting" default
  nodes := .ofList [("counter", counter n)]

theorem kept_counting (n : Nat) : kept (counting n).entities = [counter n] := by
  have hentities : (counting n).entities = [counter n] := rfl
  rw [hentities]
  simp [kept, keepFrom]

theorem moderate_counting (n : Nat) : ∀ e ∈ (counting n).nodes.values, Moderate e := by
  intro e he
  obtain rfl : e = counter n := List.mem_singleton.mp he
  have hports : ∀ p ∈ (counter n).ports.inputs ++ (counter n).ports.outputs,
      p.dataType.nesting ≤ nestingLimit := List.forall_mem_nil _
  have htype : (DataType.ofScalar .int64).nesting ≤ nestingLimit := by decide
  have hcount : Number.isShort (1 : Nat) = true := by decide
  exact ⟨List.forall_mem_singleton.mpr htype, hports, hcount⟩

theorem overflows_counter_iff {n : Nat} :
    (∃ f ∈ (counter n).fields, f.Overflows) ↔ Double.limit ≤ n := by
  constructor
  · rintro ⟨f, hf, m, hm, hexceeds⟩
    cases List.mem_singleton.mp hf
    cases hm
    rcases hexceeds with ⟨-, hlimit⟩ | ⟨htext, -⟩
    · exact hlimit
    · cases htext
  · intro hlimit
    exact ⟨_, List.mem_singleton_self _, n, rfl, Or.inl ⟨rfl, hlimit⟩⟩

theorem no_auth_counting (n : Nat) : (counting n).nodesOfFamily Component.authFamily = [] := by
  have hfamily : Text.startsWith Component.entity Component.authFamily = false := by decide
  exact List.filter_eq_nil_iff.mpr (List.forall_mem_singleton.mpr (Bool.eq_false_iff.mp hfamily))

theorem writable_counting {n : Nat} (hn : n < Double.limit) (hshort : Number.isShort n = true) :
    Writable {} {} (counting n) where
  defaults := by
    intro e he f hf hoverflows
    rw [kept_counting] at he
    cases List.mem_singleton.mp he
    exact absurd (overflows_counter_iff.mp ⟨f, hf, hoverflows⟩) (Nat.not_le.mpr hn)
  migrations := by
    intro _ _
    have hdate : (default : Moment).date ≠ Date.last := by decide
    refine ⟨fun e he _ f hf k hk => ?_, fun hlast => absurd hlast hdate⟩
    rw [kept_counting] at he
    cases List.mem_singleton.mp he
    cases List.mem_singleton.mp hf
    cases Migration.defaultValue_of_mem hk
    exact hshort
  duration := trivial
  timed := by
    rw [no_auth_counting]
    exact ⟨fun hne => absurd rfl hne, by rintro _ ⟨⟩⟩
  expiry := fun hne => absurd (no_auth_counting n) hne

/-- Neither of the two projects has an error. The one with the largest default is written, and the
one with the default after it is not. -/
theorem generate_counting :
    (defaultValidator.isValid (counting (Double.limit - 1)) = true ∧
      ∃ out, generate {} {} defaultValidator (counting (Double.limit - 1)) = .ok out) ∧
    (defaultValidator.isValid (counting Double.limit) = true ∧
      ∃ f, generate {} {} defaultValidator (counting Double.limit) = .error f ∧
        (f = .overflow ∨ f = .wrongKind ∨ f = .integerTooLong)) := by
  have hsmall : defaultValidator.isValid (counting (Double.limit - 1)) = true := by decide +kernel
  have hlarge : defaultValidator.isValid (counting Double.limit) = true := by decide +kernel
  have hshort : Number.isShort ((Double.limit - 1 : Nat) : Int) = true := by decide +kernel
  refine ⟨⟨hsmall, (generate_isOk_iff hsmall (moderate_counting _)).1.mpr ?_⟩, hlarge, ?_⟩
  · exact writable_counting (Nat.sub_lt Double.limit_pos Nat.one_pos) hshort
  · obtain ⟨hiff, hfails⟩ := generate_isOk_iff (o := {}) (a := {}) hlarge (moderate_counting _)
    cases hrun : generate {} {} defaultValidator (counting Double.limit) with
    | error f => exact ⟨f, rfl, hfails f hrun⟩
    | ok out =>
      obtain ⟨f, hf, hoverflows⟩ := overflows_counter_iff.mpr (Nat.le_refl Double.limit)
      have hmem : counter Double.limit ∈ kept (counting Double.limit).entities := by
        rw [kept_counting]
        exact List.mem_singleton_self _
      exact absurd hoverflows ((hiff.mp ⟨out, hrun⟩).defaults _ hmem f hf)

/-! ## Projects with little in them -/

def bare (id componentType name : String) : Node where
  id := id
  componentType := componentType
  name := name
  createdAt := default
  modifiedAt := default

theorem moderate_bare {id componentType name : String} : Moderate (bare id componentType name) :=
  have hcount : Number.isShort (0 : Nat) = true := by decide
  ⟨List.forall_mem_nil _, List.forall_mem_nil _, hcount⟩

/-- Whether a node is no session and has few fields, none of them with a default. -/
def isSimple (n : Node) : Bool :=
  n.componentType ≠ Component.session && n.fields.length < 10
    && n.fields.all (·.defaultValue.isNone)

theorem Auth.session?_partsFrom {nodes : List Node}
    (h : ∀ n ∈ nodes, n.componentType ≠ Component.session) (hasSession : Bool)
    (handlers : List String) :
    (partsFrom hasSession handlers nodes).findSome? Part.session? = none := by
  induction nodes generalizing handlers with
  | nil => rfl
  | cons n rest ih =>
    obtain ⟨hn, hrest⟩ := List.forall_mem_cons.mp h
    rw [partsFrom, if_neg hn]
    split
    · exact ih hrest _
    · split
      · exact ih hrest _
      · exact ih hrest _

/-- A project of simple nodes can be written with the options that are used where none are given. -/
theorem generate_of_isSimple (hvalid : v.isValid g = true)
    (hdate : g.about.createdAt.date ≠ Date.last)
    (hnodes : ∀ n ∈ g.nodes.values, isSimple n = true) : ∃ out, generate {} {} v g = .ok out := by
  simp only [isSimple, Bool.and_eq_true, decide_eq_true_eq, List.all_eq_true,
    Option.isNone_iff_eq_none] at hnodes
  have hplain : ∀ e ∈ kept g.entities,
      e.fields.length < 10 ∧ ∀ f ∈ e.fields, f.defaultValue = none := by
    intro e he
    have hmem : e ∈ g.entities := keepFrom_sublist.subset he
    obtain ⟨⟨-, hfew⟩, hnone⟩ := hnodes e (List.mem_filter.mp hmem).1
    exact ⟨hfew, hnone⟩
  have hsession : Auth.session? ((g.nodesOfFamily Component.authFamily).filter (·.isAuth)) = none :=
    Auth.session?_partsFrom (fun n hn =>
      (hnodes n (List.mem_filter.mp (List.mem_filter.mp hn).1).1).1.1) _ _
  have hfew : ∀ k < 10, Number.isShort (k : Nat) = true := by decide
  have hcount : (Plan.make {} {} g).Countable := fun e he => hfew _ (hplain e he).1
  rw [generate_of_isValid hvalid, output_isOk_iff hcount]
  refine ⟨?_, fun _ _ => ⟨?_, fun hlast => absurd hlast hdate⟩, trivial, ⟨fun _ _ => rfl, ?_⟩, ?_⟩
  · rintro e he f hf ⟨n, hn, -⟩
    cases ((hplain e he).2 f hf).symm.trans hn
  · intro e he _ f hf k hk
    cases ((hplain e he).2 f hf).symm.trans (Migration.defaultValue_of_mem hk)
  · intro n hn
    cases hsession.symm.trans hn
  · rintro _ hours ⟨⟩
    rfl

end Wirework.Service
