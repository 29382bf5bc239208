import Wirework.Project.Node
import Wirework.Rust.Basic
import Wirework.Service.Options

/-!
# Authentication

What the nodes of the sign-in family become in a service: at most one handler of each name, at most
one kind of session, and a note for every node that becomes neither.
-/

namespace Wirework.Service.Auth

/-- What a handler does. -/
inductive Flow where
  | login | register | logout
  deriving DecidableEq

def Flow.ofComponent? (componentType : String) : Option Flow :=
  if componentType = Component.login then some .login
  else if componentType = Component.register then some .register
  else if componentType = Component.logout then some .logout
  else none

def handlerName (n : Node) : String := Rust.ident n.name

/-- The start of the names of the types of a node's handler. -/
def typePrefix (n : Node) : String := (nonEmpty? (some (Naming.pascal n.name))).getD "Auth"

/-! ## Parts -/

/-- Why a node is left out. -/
inductive Omission where
  | secondSession (node : Node)
  | unknownComponent (node : Node)
  | repeatedHandler (node : Node)

def Omission.message : Omission → String
  | .secondSession n =>
    "Session node '" ++ n.name ++ "' ignored: only the first session node is generated"
  | .unknownComponent n =>
    "No auth generator for component type '" ++ n.componentType ++ "' (node '" ++ n.name ++ "')"
  | .repeatedHandler n =>
    "Auth node '" ++ n.name ++ "' skipped: handler '" ++ handlerName n ++ "' already generated"

inductive Part where
  | handler (flow : Flow) (node : Node)
  | session (node : Node)
  | omitted (why : Omission)

/-- What becomes of nodes, given whether there is a session and which handlers there are. -/
def partsFrom (hasSession : Bool) (handlers : List String) : List Node → List Part
  | [] => []
  | n :: rest =>
    if n.componentType = Component.session then
      if hasSession then .omitted (.secondSession n) :: partsFrom hasSession handlers rest
      else .session n :: partsFrom true handlers rest
    else
      match Flow.ofComponent? n.componentType with
      | none => .omitted (.unknownComponent n) :: partsFrom hasSession handlers rest
      | some flow =>
        if handlers.contains (handlerName n) then
          .omitted (.repeatedHandler n) :: partsFrom hasSession handlers rest
        else .handler flow n :: partsFrom hasSession (handlerName n :: handlers) rest

def parts (nodes : List Node) : List Part := partsFrom false [] nodes

def Part.handler? : Part → Option (Flow × Node)
  | .handler flow n => some (flow, n)
  | _ => none

def Part.session? : Part → Option Node
  | .session n => some n
  | _ => none

def Part.warning? : Part → Option String
  | .omitted why => some why.message
  | _ => none

def handlers (nodes : List Node) : List (Flow × Node) := (parts nodes).filterMap Part.handler?

def session? (nodes : List Node) : Option Node := (parts nodes).findSome? Part.session?

def warnings (nodes : List Node) : List String := (parts nodes).filterMap Part.warning?

/-! ## Routes -/

/-- A route to a handler, below the common path of authentication. -/
structure Route where
  path : String
  handler : String
  deriving DecidableEq

def Route.method : String := "POST"

/-- The routes of nodes that have a flow, the first for each handler. -/
def routesFrom (seen : List String) : List Node → List Route
  | [] => []
  | n :: rest =>
    if (Flow.ofComponent? n.componentType).isNone || seen.contains (handlerName n) then
      routesFrom seen rest
    else
      ⟨"/" ++ Naming.snake n.name, handlerName n⟩ :: routesFrom (handlerName n :: seen) rest

def routes (nodes : List Node) : List Route := routesFrom [] nodes

/-! ## Requests -/

structure RequestField where
  name : String
  type : Rust.Ty
  deriving DecidableEq

def RequestField.ident (f : RequestField) : String := Rust.ident f.name

def RequestField.declared (f : Field) : RequestField := ⟨f.name, .ofField f⟩

/-- The entry of a credential, which is never optional. -/
def RequestField.credential (f : Field) : RequestField :=
  ⟨f.name, .ofDataType f.dataType.unwrapOptional⟩

def RequestField.text (name : String) : RequestField :=
  ⟨name, .ofDataType (.ofScalar .string)⟩

/-- Fields that the storage owns. -/
def systemFields : List String := ["id", "created_at", "updated_at"]

/-- Fields that a registration uses up itself. -/
def credentialFields : List String := ["email", "password", "confirm_password"]

def bodyFields (n : Node) : List Field := n.fields.filter fun f => !systemFields.contains f.name

/-- The fields of a request, with required ones added where the node lacks them. -/
def withCredentials (n : Node) (required : List String) : List RequestField :=
  let fields := (bodyFields n).map fun f =>
    if required.contains f.name then RequestField.credential f else .declared f
  fields ++ (required.filter fun name => !fields.any (·.name = name)).map RequestField.text

/-- The field by which a login finds users. -/
def identityField (n : Node) : String :=
  if n.hasField "email" then "email" else if n.hasField "username" then "username" else "email"

def loginFields (n : Node) : List RequestField := withCredentials n [identityField n, "password"]

def asksTwice (n : Node) : Bool := n.hasField "confirm_password"

/-- The fields of a registration. The repeated password is a text, whatever the node declares. -/
def registerFields (n : Node) : List RequestField :=
  (withCredentials n ["email", "password"]).map fun f =>
    if asksTwice n && f.name = "confirm_password" then .text f.name else f

/-- Fields with the first of each name only, and none of given names. -/
def firstOfName (seen : List String) : List Field → List Field
  | [] => []
  | f :: rest =>
    if seen.contains f.name then firstOfName seen rest
    else f :: firstOfName (f.name :: seen) rest

/-- What is stored about a new user besides the credentials: all other fields of registrations. -/
def userFields (nodes : List Node) : List RequestField :=
  let registrations := nodes.filter (·.componentType = Component.register)
  (firstOfName credentialFields (registrations.flatMap bodyFields)).map .declared

/-- The user fields that a registration provides, with the type that is stored. -/
def provided (nodes : List Node) (n : Node) : List String :=
  ((registerFields n).filter fun f =>
    (userFields nodes).any fun c => f.ident = c.ident && f.type.text = c.type.text).map (·.ident)

/-! ## Sessions -/

def sessionSeconds (o : AuthOptions) (n : Node) : Ordinal :=
  ((n.configInt? "duration_secs").map .int).getD o.duration

def cookieName (n : Node) : String := (n.configString? "cookie_name").getD "session_id"

end Wirework.Service.Auth
