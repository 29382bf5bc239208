import Mathlib.Data.List.DropRight
import Wirework.Proofs.Service.Modules
import Wirework.Proofs.Service.Routing
import Wirework.Proofs.Template.Items

/-!
# Items of the module of authentication

The module of authentication consists of sections, each filled in from templates of its own. The
items that a template declares are read off its lines; a section, with its title and without the
line ends at its end, declares what its body does, and so the module declares the items of all
templates one after the other (`items_moduleText`).
-/

namespace Wirework.Service

open Template

/-! ## Lines of a text -/

/-- The lines of parts that stand below each other declare the items `names`. -/
def Spelled (parts names : List String) : Prop :=
  ∃ lines, "\n".intercalate lines = "\n".intercalate parts ∧ (lines = [] ↔ parts = []) ∧
    lines.filterMap item? = names

variable {parts parts' lines names names' : List String} {text title body : String}

theorem spelled_lines (lines : List String) : Spelled lines (lines.filterMap item?) :=
  ⟨lines, rfl, Iff.rfl, rfl⟩

theorem spelled_nil : Spelled [] [] := spelled_lines []

theorem spelled_line {line : String} {found : Option String} (h : item? line = found) :
    Spelled [line] found.toList := by
  refine ⟨[line], rfl, Iff.rfl, ?_⟩
  rw [List.filterMap_cons, h]
  cases found <;> rfl

theorem spelled_blank : Spelled [""] [] := spelled_line (show item? "" = none from rfl)

theorem Spelled.append (h : Spelled parts names) (h' : Spelled parts' names') :
    Spelled (parts ++ parts') (names ++ names') := by
  obtain ⟨lines, htext, hnil, rfl⟩ := h
  obtain ⟨lines', htext', hnil', rfl⟩ := h'
  refine ⟨lines ++ lines', ?_, by simp [hnil, hnil'], List.filterMap_append⟩
  by_cases hparts : parts = []
  · rw [hnil.mpr hparts, hparts, List.nil_append, List.nil_append, htext']
  by_cases hparts' : parts' = []
  · rw [hnil'.mpr hparts', hparts', List.append_nil, List.append_nil, htext]
  rw [String.intercalate_append_of_ne_nil (mt hnil.mp hparts) (mt hnil'.mp hparts'),
    String.intercalate_append_of_ne_nil hparts hparts', htext, htext']

/-- Parts below each other are one part. -/
theorem Spelled.joined (h : Spelled parts names) (hne : parts ≠ []) :
    Spelled ["\n".intercalate parts] names := by
  obtain ⟨lines, htext, hnil, hnames⟩ := h
  exact ⟨lines, by rw [String.intercalate_singleton, htext], by simp [hnil, hne], hnames⟩

theorem unlines_eq (hne : lines ≠ []) : unlines lines = "\n".intercalate lines ++ "\n" := by
  induction lines with
  | nil => exact absurd rfl hne
  | cons line rest ih =>
    by_cases hrest : rest = []
    · simp [hrest]
    · rw [unlines_cons, ih hrest, String.intercalate_cons_of_ne_nil hrest]
      simp [String.append_assoc]

theorem spelled_unlines (lines : List String) :
    Spelled [unlines lines] (lines.filterMap item?) := by
  refine ⟨lines ++ [""], ?_, by simp, by simp [item?, itemName?]⟩
  by_cases hne : lines = []
  · rw [hne]
    rfl
  · rw [String.intercalate_append_of_ne_nil hne (by simp), String.intercalate_singleton,
      String.intercalate_singleton, unlines_eq hne, String.append_empty]

/-! ## Line ends that are dropped -/

theorem dropTrailing_append_of_all {c : Char} (h : ∀ x ∈ body.toList, x = c) :
    Text.dropTrailing c (text ++ body) = Text.dropTrailing c text := by
  rw [Text.dropTrailing, String.toList_append, List.reverse_append,
    List.dropWhile_append_of_pos (by simpa using h)]
  rfl

theorem dropTrailing_append_of_exists {c : Char} (h : ∃ x ∈ body.toList, x ≠ c) :
    Text.dropTrailing c (text ++ body) = text ++ Text.dropTrailing c body := by
  have hne : body.toList.reverse.dropWhile (· = c) ≠ [] := by
    simpa using h
  rw [Text.dropTrailing, String.toList_append, List.reverse_append, List.dropWhile_append,
    if_neg (by simpa using hne), List.reverse_append, List.reverse_reverse, String.ofList_append,
    String.ofList_toList]
  rfl

/-- A line that declares an item is not blank. -/
theorem p_mem_of_item? {line name : String} (h : item? line = some name) : 'p' ∈ line.toList := by
  obtain ⟨cs, hcs, -⟩ := Option.map_eq_some_iff.mp h
  unfold itemName? at hcs
  split at hcs
  · rename_i heq
    exact (List.takeWhile_subset _) (heq ▸ List.mem_cons_self)
  · cases hcs

theorem item?_dropTrailing (line : String) : item? (Text.dropTrailing '\n' line) = item? line := by
  have hsplit : line.toList = (Text.dropTrailing '\n' line).toList ++
      (line.toList.reverse.takeWhile (· = '\n')).reverse := by
    rw [Text.dropTrailing, String.toList_ofList, ← List.reverse_append,
      List.takeWhile_append_dropWhile, List.reverse_reverse]
  have hends : ((line.toList.reverse.takeWhile (· = '\n')).reverse).takeWhile (· ≠ '\n') = [] := by
    rw [List.takeWhile_eq_nil_iff]
    intro hlength
    have hmem := List.mem_reverse.mp (List.getElem_mem hlength)
    simpa using List.mem_takeWhile_imp hmem
  have hsame : line.toList.takeWhile (· ≠ '\n') =
      (Text.dropTrailing '\n' line).toList.takeWhile (· ≠ '\n') := by
    rw [hsplit, List.takeWhile_append, hends, List.append_nil]
    split
    · rename_i hlength
      exact ((List.takeWhile_prefix _).eq_of_length hlength).symm
    · rfl
  rw [item?, item?, hsame]

theorem Spelled.dropTrailing (h : Spelled [text] names) :
    Spelled [Text.dropTrailing '\n' text] names := by
  obtain ⟨lines, htext, hnil, rfl⟩ := h
  rw [String.intercalate_singleton] at htext
  subst htext
  have hne : lines ≠ [] := by simpa using hnil
  clear hnil
  induction lines using List.reverseRecOn with
  | nil => exact absurd rfl hne
  | append_singleton init line ih =>
    have hlast := spelled_line (item?_dropTrailing line)
    have hfound : [line].filterMap item? = (item? line).toList := by
      rw [List.filterMap_cons]
      cases item? line <;> rfl
    by_cases hinit : init = []
    · rw [hinit, List.nil_append, hfound, String.intercalate_singleton]
      exact hlast
    have htext : "\n".intercalate (init ++ [line]) = "\n".intercalate init ++ ("\n" ++ line) := by
      rw [String.intercalate_append_of_ne_nil hinit (by simp), String.intercalate_singleton,
        String.append_assoc]
    rw [htext, List.filterMap_append, hfound]
    by_cases hall : ∀ x ∈ line.toList, x = '\n'
    · have hnone : item? line = none := by
        by_contra hsome
        obtain ⟨name, hname⟩ := Option.ne_none_iff_exists'.mp hsome
        exact absurd (hall _ (p_mem_of_item? hname)) (by decide)
      rw [dropTrailing_append_of_all (by simpa using hall)]
      simpa [hnone] using ih hinit
    · push Not at hall
      have hjoined := ((spelled_lines init).append hlast).joined (by simp)
      rw [String.intercalate_append_of_ne_nil hinit (by simp), String.intercalate_singleton]
        at hjoined
      rw [dropTrailing_append_of_exists (by simpa using hall), dropTrailing_append_of_exists hall,
        ← String.append_assoc]
      exact hjoined

/-! ## Sections -/

theorem filterMap_item?_of_blank (h : 'p' ∉ ("\n".intercalate lines).toList) :
    lines.filterMap item? = [] := by
  induction lines with
  | nil => rfl
  | cons line rest ih =>
    have hline : item? line = none := by
      by_contra hsome
      obtain ⟨name, hname⟩ := Option.ne_none_iff_exists'.mp hsome
      refine h ?_
      have hp := p_mem_of_item? hname
      cases rest <;> simp_all
    rw [List.filterMap_cons_none hline]
    refine ih fun hp => h ?_
    cases rest <;> simp_all

theorem blank_of_trim_isEmpty {cs : List Char} (h : (Text.trim cs).isEmpty = true) :
    ∀ c ∈ cs, Text.isBlank c = true := by
  have hrest : ∀ c ∈ cs.dropWhile Text.isBlank, Text.isBlank c = true := by
    simpa [Text.trim] using h
  intro c hc
  rw [← List.takeWhile_append_dropWhile (p := Text.isBlank) (l := cs), List.mem_append] at hc
  rcases hc with hc | hc
  · exact List.mem_takeWhile_imp hc
  · exact hrest c hc

theorem spelled_titled (title : String) (h : Spelled [body] names) :
    Spelled (Auth.Code.titled title body) names := by
  rw [Auth.Code.titled]
  split
  · rename_i hblank
    obtain ⟨lines, htext, -, rfl⟩ := h
    rw [String.intercalate_singleton] at htext
    rw [filterMap_item?_of_blank]
    · exact spelled_nil
    · intro hp
      exact absurd (blank_of_trim_isEmpty hblank 'p' (htext ▸ hp)) (by decide)
  · have htitle : item? ("// ========== " ++ title ++ " ==========") = none := by
      rw [String.append_assoc]
      exact item?_of_ne (by decide)
    exact (spelled_blank.append ((spelled_line htitle).append spelled_blank)).append h.dropTrailing

theorem spelled_paragraphs {texts : List String} {names : List (List String)}
    (h : List.Forall₂ (fun text names => Spelled [text] names) texts names) :
    Spelled ["\n\n".intercalate (texts.map (Text.dropTrailing '\n'))] names.flatten := by
  induction h with
  | nil => exact spelled_blank
  | @cons text names texts rest hfirst hrest ih =>
    cases texts with
    | nil =>
      cases hrest
      simpa using hfirst.dropTrailing
    | cons next others =>
      have hgap : ∀ s : String, "\n\n" ++ s = "\n" ++ ("\n" ++ s) := fun s => by
        rw [← String.append_assoc]
        rfl
      have hjoined := (hfirst.dropTrailing.append (spelled_blank.append ih)).joined (by simp)
      simpa [String.intercalate_cons_cons, String.append_assoc, hgap] using hjoined

namespace Auth

variable {o : AuthOptions} {scope : Scope} {n : Node} {nodes : List Node} {c : Code}

/-! ## What the templates declare -/

def typeItems : List String :=
  ["AuthError", "AuthUser", "UserRecord", "CreateUser", "UserStore", "UserResponse"]

def tokenItems (o : AuthOptions) : List String :=
  ["TOKEN_TTL_SECS", "Claims", "generate_jwt_token"]
    ++ (if o.refreshTokens then ["REFRESH_TTL_SECS", "generate_refresh_token"] else [])
    ++ ["decode_jwt_token", "get_jwt_secret"]

def supportItems (o : AuthOptions) : List String :=
  ["hash_password", "verify_password"] ++ (if o.tokens then tokenItems o else [])
    ++ ["is_valid_email", "validate_password_strength"]

def middlewareItems (o : AuthOptions) : List String :=
  match o.framework with
  | .axum => ["OptionalAuthUser"]
  | .actix => if o.tokens then ["jwt_validator"] else ["current_user"]
  | .custom => "AuthMiddleware" :: if o.tokens then ["JwtAuthMiddleware"] else []

def sessionItems : List String := ["SameSite", "SessionConfig", "SessionData"]

theorem test_framework (o : AuthOptions) (f : Framework) :
    (Templates.framework.is (Labelled.label f)).test (sharedScope o) =
      .ok (decide (o.framework = f)) := by
  have hsame : (Templates.framework.is (Labelled.label f)).test (sharedScope o) =
      .ok ((Data.text (Labelled.label o.framework)).same (.text (Labelled.label f))) := rfl
  rw [hsame, Data.same]
  cases o.framework <;> cases f <;> rfl

theorem writes_types : Writes (renderAll scope Templates.Auth.types) typeItems := by
  unfold Templates.Auth.types
  dsimp only
  refine writes_text ["AuthError"] ?_ <| writes_choose [] (fun _ => ?_) (fun _ => ?_) <|
    writes_text ["AuthUser", "UserRecord", "CreateUser"] ?_ <| writes_each (fun _ => ?_) <|
    writes_text ["UserStore", "UserResponse"] ?_ writes_nil
  all_goals repeat' first
    | refine names_skip rfl ?_ | refine names_item rfl ?_
    | refine writes_text [] ?_ ?_ | refine writes_line_skip (by decide) ?_
    | refine writes_choose [] (fun _ => ?_) (fun _ => ?_) ?_ | with_reducible exact writes_nil | rfl

theorem writes_support :
    Writes (renderAll (sharedScope o) Templates.Auth.support) (supportItems o) := by
  have htokens : (Templates.config.get "use_jwt").test (sharedScope o) = .ok o.tokens := rfl
  have hrefresh : (Templates.config.get "use_refresh_tokens").test (sharedScope o) =
      .ok o.refreshTokens := rfl
  unfold Templates.Auth.support supportItems tokenItems
  simp only [List.append_assoc]
  refine writes_choose ["hash_password", "verify_password"]
      (fun _ => writes_text ["hash_password", "verify_password"] ?_ writes_nil)
      (fun _ => writes_text ["hash_password", "verify_password"] ?_ writes_nil) <|
    writes_choose_of htokens
      (writes_text [] ?_ <|
        writes_line_fixed "const " "TOKEN_TTL_SECS" ": i64 = " (by simp [itemKinds]) rfl rfl rfl
          rfl <|
        writes_text ["Claims", "generate_jwt_token"] ?_ <|
        writes_choose_of hrefresh
          (writes_text ["REFRESH_TTL_SECS", "generate_refresh_token"] ?_ writes_nil) writes_nil <|
        writes_text ["decode_jwt_token", "get_jwt_secret"] ?_ <| writes_line_skip (by decide) <|
        writes_text [] ?_ writes_nil)
      writes_nil <|
    writes_text ["is_valid_email", "validate_password_strength"] ?_ writes_nil
  all_goals
    repeat first | refine names_skip rfl ?_ | refine names_item rfl ?_
    rfl

theorem writes_session : Writes (renderAll scope Templates.Auth.session) sessionItems := by
  unfold Templates.Auth.session
  refine writes_text ["SameSite", "SessionConfig"] ?_ <| writes_line_skip (by decide) <|
    writes_line_skip (by decide) <| writes_text ["SessionData"] ?_ <|
    writes_line_skip (by decide) <| writes_text [] ?_ <| writes_line_skip (by decide) <|
    writes_text [] ?_ writes_nil
  all_goals
    repeat first | refine names_skip rfl ?_ | refine names_item rfl ?_
    rfl

theorem writes_middleware :
    Writes (renderAll (sharedScope o) Templates.Auth.middleware) (middlewareItems o) := by
  have haxum := test_framework o .axum
  have hactix := test_framework o .actix
  have htokens : (Templates.config.get "use_jwt").test (sharedScope o) = .ok o.tokens := rfl
  -- The template asks for the frameworks one after the other.
  have hitems : middlewareItems o =
      if decide (o.framework = .axum) then ["OptionalAuthUser"]
      else if decide (o.framework = .actix) then
        if o.tokens then ["jwt_validator"] else ["current_user"]
      else ["AuthMiddleware"] ++ if o.tokens then ["JwtAuthMiddleware"] else [] := by
    unfold middlewareItems
    cases o.framework <;> rfl
  rw [hitems]
  unfold Templates.Auth.middleware
  refine writes_choose_last haxum
    (writes_text [] ?_ <|
      writes_choose [] (fun _ => writes_text [] ?_ writes_nil)
        (fun _ => writes_text [] ?_ writes_nil) <|
      writes_text ["OptionalAuthUser"] ?_ writes_nil)
    (writes_choose_last hactix
      (writes_choose_last htokens (writes_text ["jwt_validator"] ?_ writes_nil)
        (writes_text ["current_user"] ?_ writes_nil))
      (writes_text ["AuthMiddleware"] ?_ <|
        writes_choose_last htokens (writes_text ["JwtAuthMiddleware"] ?_ writes_nil) writes_nil))
  all_goals
    repeat first | refine names_skip rfl ?_ | refine names_item rfl ?_
    rfl

theorem writes_imports : Writes (renderAll scope Templates.Auth.imports) [] := by
  unfold Templates.Auth.imports
  repeat' first
    | refine names_skip rfl ?_ | refine writes_text [] ?_ ?_
    | refine writes_choose [] (fun _ => ?_) (fun _ => ?_) ?_ | with_reducible exact writes_nil | rfl

/-! ## What handlers declare -/

/-- The items of a handler: the types of its request and its response, and its function. -/
def handlerItems (flow : Flow) (n : Node) : List String :=
  (if flow = .logout then [] else [typePrefix n ++ "Request"])
    ++ [typePrefix n ++ "Response", handlerName n]

theorem endsName_ascii : ((List.range 128).map Char.ofNat).all (fun c =>
    !c.isAlphanum || !endsName c && !endsName c.toUpper) = true := by
  decide +kernel

theorem endsName_of_mem_capitalize {start : Bool} {cs : List Char} {x : Char}
    (h : x ∈ Naming.capitalize start cs) : endsName x = false := by
  induction cs generalizing start with
  | nil => cases h
  | cons c rest ih =>
    rw [Naming.capitalize] at h
    split at h
    · rename_i hc
      have hlow : c.toNat < 128 := by
        unfold Char.isAlphanum Char.isAlpha Char.isUpper Char.isLower Char.isDigit at hc
        simp only [Bool.or_eq_true, Bool.and_eq_true, decide_eq_true_eq, ge_iff_le,
          UInt32.le_iff_toNat_le] at hc
        have hval : c.val.toNat = c.toNat := rfl
        rw [hval] at hc
        rcases hc with (hc | hc) | hc <;> exact lt_of_le_of_lt hc.2 (by decide)
      have hends := Text.of_ascii endsName_ascii hlow
      rw [hc] at hends
      simp only [Bool.not_true, Bool.false_or, Bool.and_eq_true, Bool.not_eq_true'] at hends
      rcases List.mem_cons.mp h with rfl | h
      · split
        · exact hends.2
        · exact hends.1
      · exact ih h
    · exact ih h

theorem isName_typePrefix : isName (typePrefix n) = true := by
  rw [typePrefix, nonEmpty?]
  split
  · rfl
  · rw [Option.getD_some, Naming.pascal, isName, String.toList_ofList, List.all_eq_true]
    exact fun x hx => by simp [endsName_of_mem_capitalize hx]

theorem mem_handlerName {x : Char} (h : x ∈ (handlerName n).toList) :
    x ∈ Rust.rawMark.toList ∨ x ∈ (Naming.snake n.name).toList := by
  rw [handlerName, Rust.ident, Rust.escapeKeyword] at h
  split at h
  · rwa [String.toList_append, List.mem_append] at h
  · exact Or.inr h

theorem isName_handlerName : isName (handlerName n) = true := by
  have hraw : isName Rust.rawMark = true := rfl
  refine List.all_eq_true.mpr fun x hx => ?_
  rcases mem_handlerName hx with hx | hx
  · exact List.all_eq_true.mp hraw x hx
  · by_contra hends
    simp only [endsName, Bool.not_eq_true, Bool.not_eq_false', Bool.or_eq_true,
      decide_eq_true_eq] at hends
    rcases hends with ((rfl | rfl) | rfl) | rfl <;> exact Naming.not_mem_snake (by decide) hx

section

variable {names : List String} {rest : List Block} {pieces : List Piece} {cs : List Char}
  {closing : String}
  (hstart : Templates.typePrefix.eval scope = .ok (some (.ofText (typePrefix n))))
  (hhandler : Templates.handler.eval scope = .ok (some (.ofText (handlerName n))))

include hstart in
theorem writes_struct (suffix : String) (hsuffix : isName suffix = true)
    (hclosing : closing = suffix ++ " \x7b") (hrest : Writes (renderAll scope rest) names) :
    Writes (renderAll scope (.line ["pub struct ", Templates.typePrefix, closing] :: rest))
      ((typePrefix n ++ suffix) :: names) := by
  have hname : isName (typePrefix n ++ suffix) = true := by
    rw [isName_append, isName_typePrefix, hsuffix, Bool.and_true]
  exact writes_line_item "struct " suffix (by simp [itemKinds]) hstart hname rfl rfl hclosing hrest

include hhandler in
theorem writes_function (hrest : Writes (renderAll scope rest) names) :
    Writes (renderAll scope (.line ("pub async fn " :: Templates.handler ::
      .text (String.ofList ('(' :: cs)) :: pieces) :: rest)) (handlerName n :: names) := by
  have hclosing : String.ofList ('(' :: cs) = "" ++ String.ofList ('(' :: cs) :=
    String.empty_append.symm
  have hname := isName_handlerName (n := n)
  rw [← String.append_empty (s := handlerName n)] at hname ⊢
  exact writes_line_item "async fn " "" (by simp [itemKinds]) hhandler hname rfl rfl hclosing hrest

include hstart in
theorem writes_request (hrest : Writes (renderAll scope rest) names) :
    Writes (renderAll scope (Templates.Auth.request ++ rest))
      ((typePrefix n ++ "Request") :: names) := by
  refine writes_text [] ?_ <| writes_struct hstart "Request" rfl rfl <|
    writes_each (fun _ => writes_line_skip (by decide) writes_nil) <| writes_text [] ?_ hrest
  all_goals
    repeat refine names_skip rfl ?_
    rfl

include hstart hhandler

theorem writes_login : Writes (renderAll scope Templates.Auth.login) (handlerItems .login n) := by
  refine writes_request hstart <| writes_text [] ?_ <|
    writes_struct hstart "Response" rfl rfl <|
    writes_choose [] (fun _ => ?_) (fun _ => ?_) <| writes_text [] ?_ <|
    writes_choose [handlerName n]
      (fun _ => writes_line_skip (by decide) <| writes_function hhandler ?_)
      (fun _ => writes_choose [handlerName n]
        (fun _ => writes_line_skip (by decide) <| writes_function hhandler ?_)
        (fun _ => writes_line_skip (by decide) <| writes_function hhandler ?_) writes_nil) ?_
  -- Whichever way the other choices go, their lines declare nothing.
  all_goals repeat' first
    | refine names_skip rfl ?_ | refine writes_text [] ?_ ?_
    | refine writes_line_skip (by decide) ?_
    | refine writes_choose [] (fun _ => ?_) (fun _ => ?_) ?_ | with_reducible exact writes_nil | rfl

theorem writes_register :
    Writes (renderAll scope Templates.Auth.register) (handlerItems .register n) := by
  refine writes_request hstart <| writes_text [] ?_ <|
    writes_struct hstart "Response" rfl rfl <|
    writes_choose [] (fun _ => ?_) (fun _ => ?_) <| writes_text [] ?_ <|
    writes_choose [handlerName n]
      (fun _ => writes_line_skip (by decide) <| writes_function hhandler ?_)
      (fun _ => writes_choose [handlerName n]
        (fun _ => writes_line_skip (by decide) <| writes_function hhandler ?_)
        (fun _ => writes_line_skip (by decide) <| writes_function hhandler ?_) writes_nil) ?_
  all_goals repeat' first
    | refine names_skip rfl ?_ | refine writes_text [] ?_ ?_
    | refine writes_line_skip (by decide) ?_
    | refine writes_choose [] (fun _ => ?_) (fun _ => ?_) ?_ | refine writes_each (fun _ => ?_) ?_
    | with_reducible exact writes_nil | rfl

theorem writes_logout :
    Writes (renderAll scope Templates.Auth.logout) (handlerItems .logout n) := by
  unfold Templates.Auth.logout
  refine writes_text [] ?_ <| writes_struct hstart "Response" rfl rfl <|
    writes_text [] ?_ <| writes_choose [handlerName n]
      (fun _ => writes_choose [handlerName n]
        (fun _ => writes_line_skip (by decide) <| writes_function hhandler ?_)
        (fun _ => writes_line_skip (by decide) <| writes_function hhandler ?_) ?_)
      (fun _ => writes_choose [handlerName n]
        (fun _ => writes_choose [handlerName n]
          (fun _ => writes_line_skip (by decide) <| writes_function hhandler ?_)
          (fun _ => writes_line_skip (by decide) <| writes_function hhandler ?_) ?_)
        (fun _ => writes_line_skip (by decide) <| writes_function hhandler ?_) writes_nil)
      writes_nil
  all_goals repeat' first
    | refine names_skip rfl ?_ | refine writes_text [] ?_ ?_
    | refine writes_line_skip (by decide) ?_
    | with_reducible exact writes_nil | rfl

end

/-! ## The module -/

theorem spelled_of_writes {t : Template} {template : String} {names : List String}
    (hwrites : Writes (renderAll scope t) names) (h : Templates.fill template t scope = .ok text) :
    Spelled [text] names := by
  unfold Templates.fill at h
  split at h
  next s hs =>
    cases h
    obtain ⟨lines, rfl, rfl⟩ := hwrites _ hs
    exact spelled_unlines lines
  next => cases h

theorem spelled_handlerText {flow : Flow} (h : handlerText o nodes flow n = .ok text) :
    Spelled [text] (handlerItems flow n) := by
  cases flow with
  | login => exact spelled_of_writes (writes_login rfl rfl) h
  | register => exact spelled_of_writes (writes_register rfl rfl) h
  | logout => exact spelled_of_writes (writes_logout rfl rfl) h

def allHandlerItems (nodes : List Node) : List String :=
  (handlers nodes).flatMap fun h => handlerItems h.1 h.2

def sharedItems (o : AuthOptions) : List String := typeItems ++ supportItems o ++ middlewareItems o

/-- The items that the module of authentication declares, in the order of its lines. -/
def items (o : AuthOptions) (nodes : List Node) : List String :=
  sharedItems o ++ (allHandlerItems nodes ++ if (session? nodes).isSome then sessionItems else [])

theorem spelled_opening (c : Code) (h : Spelled [c.imports] []) : Spelled c.opening [] := by
  have hlines : ["//! Authentication module - Generated by Immortal Engine", "",
      "use serde::\x7bDeserialize, Serialize\x7d;"].filterMap item? = [] := by
    repeat refine names_skip rfl ?_
    rfl
  rw [Code.opening, ← List.nil_append []]
  refine (hlines ▸ spelled_lines _ : Spelled _ []).append ?_
  split
  · exact spelled_nil
  · exact h.dropTrailing

theorem spelled_declaration : Spelled Code.declaration [] := by
  have hlines : Code.declaration.filterMap item? = [] := by
    unfold Code.declaration
    repeat refine names_skip rfl ?_
    rfl
  exact hlines ▸ spelled_lines _

theorem spelled_pieces (h : codeFor o nodes = .ok c) : Spelled c.pieces (items o nodes) := by
  have hfilled := filled_of_codeFor h
  have himports := spelled_of_writes writes_imports hfilled.imports
  have htypes := spelled_titled "Auth Types" (spelled_of_writes writes_types hfilled.types)
  have hsupport :=
    spelled_titled "Auth Utilities" (spelled_of_writes writes_support hfilled.support)
  have hmiddleware :=
    spelled_titled "Auth Middleware" (spelled_of_writes writes_middleware hfilled.middleware)
  have hhandlers : Spelled ["\n\n".intercalate (c.handlers.map (Text.dropTrailing '\n'))]
      (allHandlerItems nodes) := by
    refine spelled_paragraphs (List.forall₂_map_right_iff.mpr ?_)
    exact (forall₂_of_mapM_ok hfilled.handlers).flip.imp fun _ _ htext => spelled_handlerText htext
  have hsession : Spelled [c.session] (if (session? nodes).isSome then sessionItems else []) := by
    cases hn : session? nodes with
    | some n => exact spelled_of_writes writes_session (hfilled.session n hn)
    | none =>
      rw [hfilled.sessionless hn]
      exact spelled_blank
  have hhandlers := spelled_titled "Auth Handlers" hhandlers
  have hsession := spelled_titled "Session Management" hsession
  have hroutes : Spelled (if c.routes.isEmpty then [] else Code.declaration) [] := by
    split
    · exact spelled_nil
    · exact spelled_declaration
  have hsections := htypes.append (hsupport.append (hmiddleware.append (hhandlers.append hsession)))
  simpa [Code.pieces, Code.sections, items, sharedItems, List.append_assoc] using
    ((spelled_opening _ himports).append hroutes).append hsections

theorem items_moduleText (h : codeFor o nodes = .ok c) :
    ∃ lines, c.moduleText = unlines lines ∧ lines.filterMap item? = items o nodes := by
  obtain ⟨lines, htext, hnil, hnames⟩ := spelled_pieces h
  have hne : c.pieces ≠ [] := by simp [Code.pieces, Code.opening]
  exact ⟨lines, by rw [Code.moduleText_eq, unlines_eq (mt hnil.mp hne), htext], hnames⟩

end Auth

end Wirework.Service
