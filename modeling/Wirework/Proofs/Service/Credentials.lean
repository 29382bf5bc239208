import Mathlib.Data.List.Nodup
import Wirework.Proofs.Naming
import Wirework.Proofs.Rust.Defaults
import Wirework.Proofs.Service.Totality
import Wirework.Proofs.Template.Items

/-!
# Credentials of sign-in requests

The handlers of logins and registrations read credentials from the body of a request and hand them
on as strings. The body has the fields of the node, by their names in snake case and with their own
types but for one optional layer, and a credential that the node lacks is added; only the repeated
password is made a string whatever the node declares. So a field of another type stays what it is,
and a field that is called otherwise may become a second entry of the same name.
`credentials_plain_iff` says for which nodes neither happens.
-/

namespace Wirework

/-! ## Types that are written as strings -/

/-- Whether a data type is written as a string: a text, or a type that the project calls so. -/
def DataType.isString : DataType → Bool
  | .scalar .string _ | .scalar .text _ => true
  | .named .entity name _ | .custom _ name _ => Naming.pascal name = "String"
  | _ => false

namespace Rust

theorem text_ofName_eq_string_iff (name : String) :
    (Ty.ofName name).text = "String" ↔ Naming.pascal name = "String" := by
  unfold Ty.ofName
  dsimp only
  split
  · rename_i hempty
    rw [String.isEmpty_iff.mp hempty]
    exact iff_of_false (by decide) (by decide)
  · exact Iff.rfl

theorem ne_string_of_head {s : String} {c : Char} (h : s.toList.head? = some c) (hc : c ≠ 'S') :
    s ≠ "String" := by
  rintro rfl
  exact hc (Option.some.inj h).symm

theorem text_ofDataType_eq_string_iff (t : DataType) :
    (Ty.ofDataType t).text = "String" ↔ t.isString = true := by
  cases t with
  | scalar k s =>
    have hscalar : ∀ k : Scalar,
        (Ty.ofScalar k).text = "String" ↔ (DataType.ofScalar k).isString = true := by
      intro k
      cases k <;> decide
    cases k <;> exact hscalar _
  | wrap k inner s =>
    have hoption : ("Option<" ++ (Ty.ofDataType inner).text ++ ">").toList.head? = some 'O' :=
      head_append (head_append (by decide) _) _
    have hvec : ("Vec<" ++ (Ty.ofDataType inner).text ++ ">").toList.head? = some 'V' :=
      head_append (head_append (by decide) _) _
    cases k with
    | optional => exact iff_of_false (ne_string_of_head hoption (by decide)) Bool.false_ne_true
    | array => exact iff_of_false (ne_string_of_head hvec (by decide)) Bool.false_ne_true
  | map key value s =>
    have hhead : ("std::collections::HashMap<" ++ (Ty.ofDataType key).text ++ ", " ++
        (Ty.ofDataType value).text ++ ">").toList.head? = some 's' :=
      head_append (head_append (head_append (head_append (by decide) _) _) _) _
    exact iff_of_false (ne_string_of_head hhead (by decide)) Bool.false_ne_true
  | named k name s =>
    cases k with
    | reference =>
      exact iff_of_false (show "uuid::Uuid" ≠ "String" by decide) Bool.false_ne_true
    | entity => exact (text_ofName_eq_string_iff name).trans decide_eq_true_iff.symm
  | custom domain name s => exact (text_ofName_eq_string_iff name).trans decide_eq_true_iff.symm

end Rust

namespace Service.Auth

open Template

variable {o : AuthOptions} {nodes : List Node} {flow : Flow} {n : Node} {f : Field}
  {required : List String} {e : RequestField} {c text : String}

/-! ## Entries -/

/-- The entries of a request. A logout has none. -/
def requestFields (flow : Flow) (n : Node) : List RequestField :=
  match flow with
  | .login => loginFields n
  | .register => registerFields n
  | .logout => []

/-- The entries of a request that the handler reads. -/
def credentials (flow : Flow) (n : Node) : List String :=
  match flow with
  | .login => [identityField n, "password"]
  | .register => ["email", "password"] ++ if asksTwice n then ["confirm_password"] else []
  | .logout => []

theorem name_entry : (if required.contains f.name then RequestField.credential f
    else .declared f).name = f.name := by
  split <;> rfl

theorem names_withCredentials : (withCredentials n required).map (·.name) =
    (bodyFields n).map (·.name) ++
      required.filter fun c => !(bodyFields n).any fun f => f.name = c := by
  unfold withCredentials
  simp only [List.map_append, List.map_map, List.any_map, Function.comp_def, name_entry,
    RequestField.text, List.map_id']

theorem nodup_withCredentials (hnames : (n.fields.map (·.name)).Nodup)
    (hrequired : required.Nodup) : ((withCredentials n required).map (·.name)).Nodup := by
  rw [names_withCredentials, List.nodup_append']
  refine ⟨hnames.sublist (List.filter_sublist.map _), hrequired.filter _, fun c hbody hadded => ?_⟩
  obtain ⟨f, hf, rfl⟩ := List.mem_map.mp hbody
  have hnone := (List.mem_filter.mp hadded).2
  rw [Bool.not_eq_true', List.any_eq_false] at hnone
  exact hnone f hf (decide_eq_true rfl)

theorem mem_names_withCredentials : c ∈ (withCredentials n required).map (·.name) ↔
    c ∈ (bodyFields n).map (·.name) ∨ c ∈ required := by
  rw [names_withCredentials, List.mem_append, List.mem_filter]
  by_cases h : c ∈ (bodyFields n).map (·.name)
  · simp [h]
  · have hnone : (bodyFields n).any (fun f => f.name = c) = false := by
      simpa [List.any_eq_false] using h
    simp [h, hnone]

/-- A credential that the node declares is an entry of its type, one optional layer aside; one that
the node lacks is a string. -/
theorem type_withCredentials (he : e ∈ withCredentials n required) (hname : e.name ∈ required)
    (hnames : (n.fields.map (·.name)).Nodup) : e.type.text = "String" ↔
      ∀ f ∈ bodyFields n, f.name = e.name → f.dataType.unwrapOptional.isString = true := by
  rcases List.mem_append.mp he with he | he
  · obtain ⟨f, hf, rfl⟩ := List.mem_map.mp he
    rw [name_entry] at hname ⊢
    rw [if_pos (List.contains_iff_mem.mpr hname), RequestField.credential,
      Rust.text_ofDataType_eq_string_iff]
    constructor
    · intro hstring f' hf' hsame
      -- No other field has the name of the one that the entry was made from.
      have hfields := List.inj_on_of_nodup_map hnames (List.mem_of_mem_filter hf')
        (List.mem_of_mem_filter hf) hsame
      rwa [hfields]
    · exact fun hall => hall f hf rfl
  · obtain ⟨c, hc, rfl⟩ := List.mem_map.mp he
    refine iff_of_true rfl fun f hf hsame => ?_
    have hnone := (List.mem_filter.mp hc).2
    rw [Bool.not_eq_true', List.any_map, List.any_eq_false] at hnone
    exact absurd (decide_eq_true (name_entry.trans hsame)) (hnone f hf)

/-! ## Names of credentials -/

def credentialNames : List String := ["email", "username", "password", "confirm_password"]

theorem identityField_cases (n : Node) :
    identityField n = "email" ∨ identityField n = "username" := by
  unfold identityField
  split_ifs <;> simp

theorem mem_credentialNames (h : c ∈ credentials flow n) : c ∈ credentialNames := by
  cases flow with
  | login =>
    rcases List.mem_pair.mp h with rfl | rfl
    · rcases identityField_cases n with hn | hn <;> rw [hn] <;> decide
    · decide
  | register =>
    rcases List.mem_append.mp h with h | h
    · rcases List.mem_pair.mp h with rfl | rfl <;> decide
    · split at h
      · rw [List.mem_singleton.mp h]
        decide
      · cases h
  | logout => cases h

theorem snake_credential : ∀ c ∈ credentialNames, Naming.snake c = c := by decide +kernel

theorem snake_systemField : ∀ name ∈ systemFields, Naming.snake name ∉ credentialNames := by
  decide +kernel

theorem ident_eq_iff (hc : c ∈ credentialNames) : e.ident = c ↔ Naming.snake e.name = c := by
  have hplain : ∀ c ∈ credentialNames, Rust.unraw c = c ∧ Rust.escapeKeyword c = c := by
    decide +kernel
  constructor
  · intro h
    rw [← Rust.unraw_ident, show Rust.ident e.name = c from h, (hplain c hc).1]
  · intro h
    rw [RequestField.ident, Rust.ident, h, (hplain c hc).2]

/-- A field that becomes a credential is never left to the storage. -/
theorem mem_bodyFields (hf : f ∈ n.fields) (hc : Naming.snake f.name ∈ credentialNames) :
    f ∈ bodyFields n := by
  refine List.mem_filter.mpr ⟨hf, ?_⟩
  rw [Bool.not_eq_true']
  by_contra hsystem
  exact snake_systemField f.name (by simpa using hsystem) hc

/-! ## Requests -/

theorem names_registerFields : (registerFields n).map (·.name) =
    (withCredentials n ["email", "password"]).map (·.name) := by
  unfold registerFields
  rw [List.map_map]
  refine List.map_congr_left fun e _ => ?_
  dsimp only [Function.comp_apply]
  split <;> rfl

theorem nodup_requestFields (flow : Flow) (hnames : (n.fields.map (·.name)).Nodup) :
    ((requestFields flow n).map (·.name)).Nodup := by
  cases flow with
  | login =>
    refine nodup_withCredentials hnames ?_
    rcases identityField_cases n with hn | hn <;> rw [hn] <;> decide
  | register =>
    rw [requestFields, names_registerFields]
    exact nodup_withCredentials hnames (by decide)
  | logout => exact List.nodup_nil

theorem mem_names_requestFields (hflow : flow ≠ .logout) :
    c ∈ (requestFields flow n).map (·.name) ↔
      c ∈ (bodyFields n).map (·.name) ∨ c ∈ credentials flow n := by
  cases flow with
  | login => exact mem_names_withCredentials
  | register =>
    rw [requestFields, names_registerFields, mem_names_withCredentials, credentials,
      List.mem_append, ← or_assoc]
    refine (or_iff_left_of_imp fun hc => ?_).symm
    -- The repeated password is asked for only if the node has a field for it.
    split at hc
    · rename_i hasks
      rw [List.mem_singleton.mp hc]
      obtain ⟨f, hf, hname⟩ : ∃ f ∈ n.fields, f.name = "confirm_password" := by
        simpa [asksTwice, Node.hasField, Node.field?] using hasks
      refine .inl (List.mem_map.mpr ⟨f, mem_bodyFields hf ?_, hname⟩)
      rw [hname, snake_credential _ (by decide)]
      decide
    · cases hc
  | logout => exact absurd rfl hflow

theorem type_required (he : e ∈ withCredentials n required) (hname : e.name ∈ required)
    (hrequired : ∀ c ∈ required, c ∈ credentialNames ∧ c ≠ "confirm_password")
    (hnames : (n.fields.map (·.name)).Nodup) : e.type.text = "String" ↔
      ∀ f ∈ n.fields, f.name = e.name → f.name ≠ "confirm_password" →
        f.dataType.unwrapOptional.isString = true := by
  obtain ⟨hc, hconfirm⟩ := hrequired _ hname
  rw [type_withCredentials he hname hnames]
  constructor
  · intro h f hf hsame _
    refine h f (mem_bodyFields hf ?_) hsame
    rwa [hsame, snake_credential _ hc]
  · intro h f hf hsame
    exact h f (List.mem_of_mem_filter hf) hsame (hsame ▸ hconfirm)

theorem type_requestFields (he : e ∈ requestFields flow n) (hname : e.name ∈ credentials flow n)
    (hnames : (n.fields.map (·.name)).Nodup) : e.type.text = "String" ↔
      ∀ f ∈ n.fields, f.name = e.name → f.name ≠ "confirm_password" →
        f.dataType.unwrapOptional.isString = true := by
  cases flow with
  | login =>
    refine type_required he hname (fun c hc => ?_) hnames
    rcases List.mem_pair.mp hc with rfl | rfl
    · rcases identityField_cases n with hn | hn <;> rw [hn] <;> decide
    · decide
  | register =>
    obtain ⟨e, hentry, rfl⟩ := List.mem_map.mp he
    by_cases hconfirm : asksTwice n = true ∧ e.name = "confirm_password"
    · rw [if_pos (by simpa using hconfirm)]
      exact iff_of_true rfl fun f _ hsame hne => absurd (hsame.trans hconfirm.2) hne
    · rw [if_neg (by simpa using hconfirm)] at hname ⊢
      refine type_required hentry ?_ (by decide) hnames
      rcases List.mem_append.mp hname with hname | hname
      · exact hname
      · split at hname
        · rename_i hasks
          exact absurd ⟨hasks, List.mem_singleton.mp hname⟩ hconfirm
        · cases hname
  | logout => cases he

/-! ## Credentials among the entries -/

theorem map_filter_eq_singleton_iff {α β : Type} {xs : List α} {p : α → Prop} [DecidablePred p]
    {g : α → β} {a : α} {y : β} (hxs : xs.Nodup) (ha : a ∈ xs) (hp : p a) :
    (xs.filter (fun x => p x)).map g = [y] ↔ (∀ b ∈ xs, p b → b = a) ∧ g a = y := by
  constructor
  · intro h
    obtain ⟨b, hfilter, hb⟩ := List.map_eq_singleton_iff.mp h
    have honly : ∀ x ∈ xs, p x → x = b := fun x hx hpx =>
      List.mem_singleton.mp (hfilter ▸ List.mem_filter.mpr ⟨hx, decide_eq_true hpx⟩)
    obtain rfl := honly a ha hp
    exact ⟨honly, hb⟩
  · rintro ⟨honly, rfl⟩
    have hfilter : xs.filter (fun x => p x) = [a] := by
      refine List.perm_singleton.mp ((List.perm_ext_iff_of_nodup (hxs.filter _)
        (List.nodup_singleton a)).mpr fun b => ?_)
      rw [List.mem_filter, List.mem_singleton, decide_eq_true_iff]
      constructor
      · exact fun hb => honly b hb.1 hb.2
      · rintro rfl
        exact ⟨ha, hp⟩
    rw [hfilter, List.map_singleton]

/-- A credential is the only entry of its name if every field that becomes it is called so. -/
theorem only_entry_iff (hflow : flow ≠ .logout) (hnames : (n.fields.map (·.name)).Nodup)
    (he : e ∈ requestFields flow n) (hc : e.name ∈ credentials flow n) :
    (∀ e' ∈ requestFields flow n, e'.ident = e.name → e' = e) ↔
      ∀ f ∈ n.fields, Naming.snake f.name = e.name → f.name = e.name := by
  have hword := mem_credentialNames hc
  constructor
  · intro h f hf hsnake
    have hbody := mem_bodyFields hf (hsnake ▸ hword)
    obtain ⟨e', he', hname⟩ := List.mem_map.mp
      ((mem_names_requestFields hflow).mpr (.inl (List.mem_map_of_mem hbody)))
    have hident : e'.ident = e.name := (ident_eq_iff hword).mpr (by rw [hname, hsnake])
    rw [← hname, h e' he' hident]
  · intro h e' he' hident
    have hsnake := (ident_eq_iff hword).mp hident
    refine List.inj_on_of_nodup_map (nodup_requestFields flow hnames) he' he ?_
    -- An entry has the name of a field, or it was added and then is called as a credential is.
    rcases (mem_names_requestFields hflow).mp (List.mem_map_of_mem he') with hbody | hcredential
    · obtain ⟨f, hf, hname⟩ := List.mem_map.mp hbody
      rw [← hname] at hsnake ⊢
      exact h f (List.mem_of_mem_filter hf) hsnake
    · rw [← hsnake, snake_credential _ (mem_credentialNames hcredential)]

/-- A credential is declared once and as a string if every field that becomes it is called so and,
unless it repeats the password, is written as a string. -/
theorem declared_once_iff (hflow : flow ≠ .logout) (hnames : (n.fields.map (·.name)).Nodup)
    (hc : c ∈ credentials flow n) :
    ((requestFields flow n).filter (·.ident = c)).map (·.type.text) = ["String"] ↔
      ∀ f ∈ n.fields, Naming.snake f.name = c → f.name = c ∧
        (f.name ≠ "confirm_password" → f.dataType.unwrapOptional.isString = true) := by
  have hword := mem_credentialNames hc
  have hdistinct : (requestFields flow n).Nodup := (nodup_requestFields flow hnames).of_map
  obtain ⟨e, he, rfl⟩ := List.mem_map.mp ((mem_names_requestFields hflow).mpr (.inr hc))
  have hself : e.ident = e.name := (ident_eq_iff hword).mpr (snake_credential _ hword)
  rw [map_filter_eq_singleton_iff hdistinct he hself, only_entry_iff hflow hnames he hc,
    type_requestFields he hc hnames]
  constructor
  · rintro ⟨hcalled, htypes⟩ f hf hsnake
    exact ⟨hcalled f hf hsnake, htypes f hf (hcalled f hf hsnake)⟩
  · intro h
    refine ⟨fun f hf hsnake => (h f hf hsnake).1, fun f hf hsame => (h f hf ?_).2⟩
    rw [hsame, snake_credential _ hword]

/-! ## Texts -/

def memberLine (e : RequestField) : String := "    pub " ++ e.ident ++ ": " ++ e.type.text ++ ","

def requestLines (start : String) (entries : List RequestField) : List String :=
  ["#[derive(Debug, Deserialize)]", "pub struct " ++ start ++ "Request \x7b"] ++
    entries.map memberLine ++ ["\x7d"]

theorem render_member {scope : Scope} (e : RequestField) :
    renderAll (("field", e.value) :: scope) [.line ["    pub ", Templates.field.get "ident", ": ",
      Templates.field.get "rust_type", ","]] = .ok (unlines [memberLine e]) := by
  have hpieces : List.mapM (Piece.render (("field", e.value) :: scope))
      ["    pub ", Templates.field.get "ident", ": ", Templates.field.get "rust_type", ","] =
        .ok ["    pub ", e.ident, ": ", e.type.text, ","] := rfl
  have hline : String.join ["    pub ", e.ident, ": ", e.type.text, ","] = memberLine e := by
    simp only [String.join_cons, String.join_nil, String.append_empty, memberLine,
      String.append_assoc]
  rw [renderAll, render_line hpieces hline]
  simp [renderAll, bind, Except.bind, pure, Except.pure]

theorem render_request {scope : Scope} {start : String} {entries : List RequestField}
    (hstart : Templates.typePrefix.eval scope = .ok (some (.ofText start)))
    (hentries : Templates.requestFields.items scope = .ok (entries.map RequestField.value)) :
    renderAll scope Templates.Auth.request = .ok (unlines (requestLines start entries)) := by
  have hpieces : List.mapM (Piece.render scope) ["pub struct ", Templates.typePrefix,
      "Request \x7b"] = .ok ["pub struct ", start, "Request \x7b"] := by
    simp only [List.mapM_cons, List.mapM_nil, Piece.render, hstart]
    rfl
  have hline : String.join ["pub struct ", start, "Request \x7b"] =
      "pub struct " ++ start ++ "Request \x7b" := by
    simp only [String.join_cons, String.join_nil, String.append_empty, String.append_assoc]
  have hloop : (Block.each "field" Templates.requestFields [.line ["    pub ",
      Templates.field.get "ident", ": ", Templates.field.get "rust_type", ","]]).render scope =
        .ok (unlines (entries.map memberLine)) := by
    rw [render_each hentries render_member]
    simp [unlines, Function.comp_def]
  rw [Templates.Auth.request, renderAll, renderAll, renderAll, renderAll, renderAll,
    render_line hpieces hline, hloop]
  -- The four parts stand one after the other, and nothing behind them.
  change Except.ok (unlines [_] ++ (unlines [_] ++ (unlines _ ++ (unlines [_] ++ "")))) = _
  simp only [requestLines, unlines_append, unlines_cons, unlines_nil, String.append_empty,
    String.append_assoc]

theorem handlerText_request (hflow : flow ≠ .logout) (h : handlerText o nodes flow n = .ok text) :
    ∃ behind, text = unlines (requestLines (typePrefix n) (requestFields flow n)) ++ behind := by
  have hfill : ∀ {template : String} {rest : List Block} {scope : Scope},
      Templates.typePrefix.eval scope = .ok (some (.ofText (typePrefix n))) →
      Templates.requestFields.items scope =
        .ok ((requestFields flow n).map RequestField.value) →
      Templates.fill template (Templates.Auth.request ++ rest) scope = .ok text →
      ∃ behind, text = unlines (requestLines (typePrefix n) (requestFields flow n)) ++ behind := by
    intro template rest scope hstart hentries h
    unfold Templates.fill Template.render at h
    split at h
    next s hs =>
      cases h
      rw [renderAll_append, render_request hstart hentries] at hs
      obtain ⟨first, hfirst, hs⟩ := bind_eq_ok_iff.mp hs
      cases hfirst
      obtain ⟨behind, -, hs⟩ := bind_eq_ok_iff.mp hs
      exact ⟨behind, (Except.ok.inj hs).symm⟩
    next => cases h
  cases flow with
  | login => exact hfill rfl rfl h
  | register => exact hfill rfl rfl h
  | logout => exact absurd rfl hflow

/-- **When credentials are plain strings.** The handler of a login or a registration whose fields
have different names is written, and begins with the type of its request. Each credential is
declared there once and as a string exactly if every field that becomes a credential is called by
its name and, unless it repeats the password, is written as a string, one optional layer aside. -/
theorem credentials_plain_iff (o : AuthOptions) (nodes : List Node) (flow : Flow) (n : Node)
    (hflow : flow ≠ .logout) (hnames : (n.fields.map (·.name)).Nodup) :
    ∃ text behind, handlerText o nodes flow n = .ok text ∧
      text = unlines (requestLines (typePrefix n) (requestFields flow n)) ++ behind ∧
      ((∀ c ∈ credentials flow n,
          ((requestFields flow n).filter (·.ident = c)).map (·.type.text) = ["String"]) ↔
        ∀ f ∈ n.fields, Naming.snake f.name ∈ credentials flow n → f.name = Naming.snake f.name ∧
          (f.name ≠ "confirm_password" → f.dataType.unwrapOptional.isString = true)) := by
  obtain ⟨text, htext⟩ := failsOnly_false_iff.mp
    (handlerText_succeeds : FailsOnly Never (handlerText o nodes flow n))
  obtain ⟨behind, hbehind⟩ := handlerText_request hflow htext
  refine ⟨text, behind, htext, hbehind, ?_⟩
  constructor
  · intro h f hf hc
    exact (declared_once_iff hflow hnames hc).mp (h _ hc) f hf rfl
  · intro h c hc
    refine (declared_once_iff hflow hnames hc).mpr fun f hf hsnake => ?_
    subst hsnake
    exact h f hf hc

def signIn (componentType name : String) (fields : List Field) : Node where
  id := "n"
  componentType := componentType
  name := name
  fields := fields
  createdAt := default
  modifiedAt := default

def numbered : Node :=
  signIn Component.login "Login" [{ id := "f", name := "email", dataType := .ofScalar .int32 }]

/-- A registration with two addresses. -/
def addressed : Node :=
  signIn Component.register "Register"
    [{ id := "f", name := "email" }, { id := "g", name := "Email" }]

/-- The first request has a credential that is no string, the second one has a credential twice. -/
theorem credentials_not_plain :
    (∃ text behind, handlerText {} [numbered] .login numbered = .ok text ∧
      text = unlines ["#[derive(Debug, Deserialize)]", "pub struct LoginRequest \x7b",
        "    pub email: i32,", "    pub password: String,", "\x7d"] ++ behind ∧
      ¬ ∀ c ∈ credentials .login numbered,
        ((requestFields .login numbered).filter (·.ident = c)).map (·.type.text) = ["String"]) ∧
    ∃ text behind, handlerText {} [addressed] .register addressed = .ok text ∧
      text = unlines ["#[derive(Debug, Deserialize)]", "pub struct RegisterRequest \x7b",
        "    pub email: String,", "    pub email: Option<String>,", "    pub password: String,",
        "\x7d"] ++ behind ∧
      ¬ ∀ c ∈ credentials .register addressed, ((requestFields .register addressed).filter
        (·.ident = c)).map (·.type.text) = ["String"] := by
  have hnumbered : requestLines (typePrefix numbered) (requestFields .login numbered) =
      ["#[derive(Debug, Deserialize)]", "pub struct LoginRequest \x7b", "    pub email: i32,",
        "    pub password: String,", "\x7d"] := by decide +kernel
  have haddressed : requestLines (typePrefix addressed) (requestFields .register addressed) =
      ["#[derive(Debug, Deserialize)]", "pub struct RegisterRequest \x7b", "    pub email: String,",
        "    pub email: Option<String>,", "    pub password: String,", "\x7d"] := by decide +kernel
  have hemail : Naming.snake "email" = "email" := snake_credential _ (by decide)
  have hother : Naming.snake "Email" = "email" := by decide +kernel
  constructor
  · obtain ⟨text, behind, htext, hbehind, hiff⟩ :=
      credentials_plain_iff {} [numbered] .login numbered (by decide) (by decide)
    refine ⟨text, behind, htext, hnumbered ▸ hbehind, fun hplain => ?_⟩
    have hstring := (hiff.mp hplain _ List.mem_cons_self (hemail ▸ by decide)).2 (by decide)
    exact Bool.false_ne_true hstring
  · obtain ⟨text, behind, htext, hbehind, hiff⟩ :=
      credentials_plain_iff {} [addressed] .register addressed (by decide) (by decide)
    refine ⟨text, behind, htext, haddressed ▸ hbehind, fun hplain => ?_⟩
    have hname := (hiff.mp hplain _ (List.mem_cons_of_mem _ List.mem_cons_self)
      (hother ▸ by decide)).1
    exact absurd (hname.trans hother) (by decide)

end Service.Auth

end Wirework
