import Wirework.Project.Node
import Wirework.Rust.Basic
import Wirework.Text.Case

/-!
# Endpoints

An endpoint is what a node of the interface family becomes in a service: a handler in a file of its
own, and a route to it.
-/

namespace Wirework.Service

inductive Method where
  | get | post | put | delete | patch
  deriving DecidableEq, Inhabited

namespace Method

instance : Labelled Method where
  all := [.get, .post, .put, .delete, .patch]
  label
    | .get => "GET"
    | .post => "POST"
    | .put => "PUT"
    | .delete => "DELETE"
    | .patch => "PATCH"

def routing : Method → String
  | .get => "get"
  | .post => "post"
  | .put => "put"
  | .delete => "delete"
  | .patch => "patch"

def hasBody : Method → Bool
  | .post | .put | .patch => true
  | .get | .delete => false

/-- The method that a node is set to; without one that is known, the reading one. -/
def ofNode (n : Node) : Method :=
  ((n.configString? "method").bind fun s => Labelled.ofLabel? (Text.upper s)).getD .get

end Method

structure Endpoint where
  name : String
  /-- The name of its file, without extension. -/
  stem : String
  method : Method
  path : String
  deriving DecidableEq

namespace Endpoint

/-- The path that a node is set to: its setting, the default of its path field, or the root. -/
def pathOf (n : Node) : String :=
  (nonEmpty? (n.configString? "path")).getD <|
    (nonEmpty? (((n.field? "path").bind (·.defaultValue)).bind (·.asString?))).getD "/"

/-- The name of the file of a node's handler, without extension. -/
def stemOf (n : Node) : String := (nonEmpty? (some (Naming.snake n.name))).getD "endpoint"

def ofNode (n : Node) : Endpoint where
  name := n.name
  stem := stemOf n
  method := Method.ofNode n
  path := pathOf n

/-- The name of the handler, which is also that of its module. -/
def handler (e : Endpoint) : String := Rust.ident e.stem

def file (e : Endpoint) : String := "src/handlers/" ++ e.stem ++ ".rs"

end Endpoint

end Wirework.Service
