import Wirework.Project.Node
import Wirework.Text.Case

/-!
# Ready-made nodes

The nodes that a project usually starts from, with their fields, ports and settings.
-/

namespace Wirework

namespace Rule

def required : Rule := { kind := .required }

def email : Rule := { kind := .email }

def minLength (n : Nat) : Rule := { kind := .minLength, value := some (.int n) }

end Rule

namespace Node

def withSetting (n : Node) (key : String) (value : Setting) : Node :=
  { n with config := n.config.insert key value }

def textField (name label hint : String) : StateM Mint Field := do
  let f ← Field.create name (.ofScalar .string)
  return (f.markRequired.withLabel label).withPlaceholder hint

/-- An entity with a generated key and a port for the entity itself on each side. Its name is not
empty. -/
def entity (name : String) : ExceptT Failure (StateM Mint) Node := do
  let n ← create Component.entity name .data (some "entity")
  let id ← Field.create "id" (.ofScalar .uuid)
  if name.isEmpty then throw (.inconsistent "entity type requires an entity name")
  return ((n.appendField (id.primaryKey.withLabel "ID")).addInput
    (.dataIn "entity" (.entity name) (some name))).addOutput
    (.dataOut "entity" (.entity name) (some name))

def withFormPorts (n : Node) : Node :=
  (((n.addInput (.triggerIn "submit" (some "Submit"))).addOutput
    (.dataOut "user" (.entity "User") (some "User"))).addOutput
    (.triggerOut "success" (some "On Success"))).addOutput
    (.triggerOut "failure" (some "On Failure"))

def login (name : String := "Login") : StateM Mint Node := do
  let n ← create Component.login name .auth (some "lock")
  let email ← textField "email" "Email" "Enter email"
  let password ← textField "password" "Password" "Enter password"
  return ((n.appendField (email.withRule .email)).appendField
    (password.secret.withRule (.minLength 8))).withFormPorts

def register (name : String := "Register") : StateM Mint Node := do
  let n ← create Component.register name .auth (some "user-plus")
  let username ← textField "username" "Username" "Choose a username"
  let email ← textField "email" "Email" "Enter email"
  let password ← textField "password" "Password" "Create password"
  let confirmation ← textField "confirm_password" "Confirm Password" "Confirm password"
  return ((((n.appendField (username.withRule (.minLength 3))).appendField
    (email.withRule .email)).appendField
    (password.secret.withRule (.minLength 8))).appendField confirmation.secret).withFormPorts

def logout (name : String := "Logout") : StateM Mint Node := do
  let n ← create Component.logout name .auth (some "log-out")
  return (n.addInput (.triggerIn "submit" (some "Submit"))).addOutput
    (.triggerOut "success" (some "On Success"))

def session (name : String := "Session") : StateM Mint Node := do
  let n ← create Component.session name .auth (some "clock")
  return ((((n.withSetting "duration_secs" (.int 86400)).withSetting
    "cookie_name" (.string "session_id")).addInput
    (.dataIn "user" (.entity "User") (some "User"))).addOutput
    (.dataOut "session" (.ofScalar .any) (some "Session"))).addOutput
    (.triggerOut "expired" (some "On Expired"))

def restEndpoint (name : String) : StateM Mint Node := do
  let n ← create Component.rest name .api (some "globe")
  return (((((n.withSetting "method" (.string "GET")).withSetting
    "path" (.string ("/" ++ Text.lower name))).withSetting
    "auth_required" (.bool false)).addInput
    (.dataIn "request" (.ofScalar .any) (some "Request"))).addOutput
    (.dataOut "response" (.ofScalar .any) (some "Response"))).addOutput
    (.triggerOut "on_request" (some "On Request"))

def database (name : String) : StateM Mint Node := do
  let n ← create Component.database name .storage (some "database")
  return (((n.withSetting "backend" (.string "postgres")).withSetting
    "connection_string" (.string "")).addInput
    (.dataIn "query" (.ofScalar .any) (some "Query"))).addOutput
    (.dataOut "result" (.ofScalar .any) (some "Result"))

end Node

end Wirework
