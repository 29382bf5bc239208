import Wirework.Service.Auth.Basic
import Wirework.Service.Templates
import Wirework.Text.Blank

/-!
# Code for authentication

The texts that the nodes of the sign-in family become, and the module that they make up together.
-/

namespace Wirework.Service.Auth

open Template (Value Scope)

/-! ## Values for templates -/

def optionsValue (o : AuthOptions) : Value := .record [
  ("use_jwt", .ofBool o.tokens),
  ("jwt_secret_env", .ofText o.secretVariable),
  ("session_duration_secs", .plain o.duration.toData),
  ("use_argon2", .ofBool o.argon2),
  ("use_refresh_tokens", .ofBool o.refreshTokens)]

def frameworkValue (f : Framework) : Value := .ofText (Labelled.label f)

def RequestField.value (f : RequestField) : Value := .record [
  ("name", .ofText f.name), ("ident", .ofText f.ident), ("rust_type", .ofText f.type.text)]

def fieldsValue (fields : List RequestField) : Value := .list (fields.map RequestField.value)

def Route.value (r : Route) : Value := .record [
  ("method", .ofText Route.method), ("path", .ofText r.path), ("handler", .ofText r.handler)]

/-- What the templates of all parts are filled in with. -/
def sharedScope (o : AuthOptions) : Scope := [
  ("framework", frameworkValue o.framework), ("config", optionsValue o)]

def handlerScope (o : AuthOptions) (n : Node) : Scope := sharedScope o ++ [
  ("node", .record [("name", .ofText n.name)]),
  ("handler", .ofText (handlerName n)),
  ("prefix", .ofText (typePrefix n))]

/-! ## Texts -/

def handlerText (o : AuthOptions) (nodes : List Node) (flow : Flow) (n : Node) :
    Except Failure String :=
  match flow with
  | .login =>
    Templates.fill "auth/login" Templates.Auth.login (handlerScope o n ++ [
      ("request_fields", fieldsValue (loginFields n)),
      ("identity", .ofText (Rust.ident (identityField n)))])
  | .register =>
    Templates.fill "auth/register" Templates.Auth.register (handlerScope o n ++ [
      ("request_fields", fieldsValue (registerFields n)),
      ("has_confirm", .ofBool (asksTwice n)),
      ("create_user_fields", fieldsValue (userFields nodes)),
      ("provided", .ofTexts (provided nodes n))])
  | .logout => Templates.fill "auth/logout" Templates.Auth.logout (handlerScope o n)

def sessionText (o : AuthOptions) (n : Node) : Except Failure String :=
  Templates.fill "auth/session" Templates.Auth.session [
    ("duration_secs", .plain (sessionSeconds o n).toData), ("cookie_name", .ofText (cookieName n))]

/-- Whether there is a file of routes: a custom framework has none. -/
def hasRouteFile (f : Framework) (nodes : List Node) : Bool :=
  f ≠ .custom && !(routes nodes).isEmpty

/-- The file of routes, or nothing. -/
def routesText (f : Framework) (nodes : List Node) : Except Failure String :=
  if hasRouteFile f nodes then
    Templates.fill "auth/routes" Templates.Auth.routeTable [
      ("framework", frameworkValue f), ("routes", .list ((routes nodes).map Route.value))]
  else .ok ""

/-! ## The module -/

structure Code where
  imports : String := ""
  types : String := ""
  support : String := ""
  middleware : String := ""
  /-- The handlers, in the order of their nodes. -/
  handlers : List String := []
  session : String := ""
  /-- The file of routes; empty if nothing is routed. -/
  routes : String := ""
  warnings : List String := []
  deriving DecidableEq, Inhabited

namespace Code

def isUsed (c : Code) : Bool := !c.handlers.isEmpty || !c.session.isEmpty

/-- A titled section of the module; nothing for a blank one. -/
def titled (title body : String) : List String :=
  if (Text.trim body.toList).isEmpty then []
  else ["", "// ========== " ++ title ++ " ==========", "", Text.dropTrailing '\n' body]

def moduleText (c : Code) : String :=
  let imports :=
    if (Text.trim c.imports.toList).isEmpty then [] else [Text.dropTrailing '\n' c.imports]
  let routes := if c.routes.isEmpty then [] else ["", "pub mod routes;"]
  let lines :=
    ["//! Authentication module - Generated by Immortal Engine", "",
      "use serde::\x7bDeserialize, Serialize\x7d;"]
      ++ imports ++ routes
      ++ titled "Auth Types" c.types
      ++ titled "Auth Utilities" c.support
      ++ titled "Auth Middleware" c.middleware
      ++ titled "Auth Handlers" ("\n\n".intercalate (c.handlers.map (Text.dropTrailing '\n')))
      ++ titled "Session Management" c.session
  "\n".intercalate lines ++ "\n"

end Code

def codeFor (o : AuthOptions) (nodes : List Node) : Except Failure Code := do
  let scope := sharedScope o
  let imports ← Templates.fill "auth/imports" Templates.Auth.imports scope
  let types ← Templates.fill "auth/types" Templates.Auth.types
    (scope ++ [("create_user_fields", fieldsValue (userFields nodes))])
  let support ← Templates.fill "auth/utils" Templates.Auth.support scope
  let middleware ← Templates.fill "auth/middleware" Templates.Auth.middleware scope
  let handlerTexts ← (handlers nodes).mapM fun (flow, n) => handlerText o nodes flow n
  let session ←
    match session? nodes with
    | some n => sessionText o n
    | none => .ok ""
  let routes ← routesText o.framework nodes
  return {
    imports, types, support, middleware, handlers := handlerTexts, session, routes
    warnings := warnings nodes }

/-- The code for the nodes of the sign-in family among some nodes. -/
def code (o : AuthOptions) (nodes : List Node) : Except Failure Code :=
  match nodes.filter (·.isAuth) with
  | [] => .ok {}
  | nodes => codeFor o nodes

end Wirework.Service.Auth
