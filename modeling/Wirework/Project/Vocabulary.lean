import Wirework.Labelled

/-!
# Categories and connections

The small enumerations that nodes, ports and edges share.
-/

namespace Wirework

inductive Category where
  | auth | data | api | storage | ui | logic | embedded | custom
  deriving DecidableEq, Inhabited

namespace Category

instance : Labelled Category where
  all := [.auth, .data, .api, .storage, .ui, .logic, .embedded, .custom]
  label
    | .auth => "auth"
    | .data => "data"
    | .api => "api"
    | .storage => "storage"
    | .ui => "ui"
    | .logic => "logic"
    | .embedded => "embedded"
    | .custom => "custom"

def displayName : Category → String
  | .auth => "Authentication"
  | .data => "Data"
  | .api => "API"
  | .storage => "Storage"
  | .ui => "UI"
  | .logic => "Logic"
  | .embedded => "Embedded"
  | .custom => "Custom"

end Category

/-- How many rows of one entity a relationship joins with how many of another. -/
inductive Relation where
  | oneToOne | oneToMany | manyToOne | manyToMany
  deriving DecidableEq, Inhabited

namespace Relation

instance : Labelled Relation where
  all := [.oneToOne, .oneToMany, .manyToOne, .manyToMany]
  label
    | .oneToOne => "one_to_one"
    | .oneToMany => "one_to_many"
    | .manyToOne => "many_to_one"
    | .manyToMany => "many_to_many"

def displayName : Relation → String
  | .oneToOne => "One To One"
  | .oneToMany => "One To Many"
  | .manyToOne => "Many To One"
  | .manyToMany => "Many To Many"

/-- The label that a relationship edge is drawn with. -/
def arrow : Relation → String
  | .oneToOne => "1 --- 1"
  | .oneToMany => "1 ---< *"
  | .manyToOne => "* >--- 1"
  | .manyToMany => "* >-< *"

/-- The relation seen from the other end. -/
def flip : Relation → Relation
  | .oneToMany => .manyToOne
  | .manyToOne => .oneToMany
  | r => r

end Relation

/-- What an edge stands for. -/
inductive Connection where
  | dataFlow | trigger | navigation | relationship | dependency
  deriving DecidableEq, Inhabited

namespace Connection

instance : Labelled Connection where
  all := [.dataFlow, .trigger, .navigation, .relationship, .dependency]
  label
    | .dataFlow => "data_flow"
    | .trigger => "trigger"
    | .navigation => "navigation"
    | .relationship => "relationship"
    | .dependency => "dependency"

/-- Whether edges of this kind run between ports; the others join whole nodes. -/
def connectsPorts : Connection → Bool
  | .relationship | .dependency => false
  | _ => true

end Connection

/-- The side of a node that a port is on. -/
inductive Direction where
  | input | output
  deriving DecidableEq, Inhabited

namespace Direction

instance : Labelled Direction where
  all := [.input, .output]
  label
    | .input => "input"
    | .output => "output"

def opposite : Direction → Direction
  | .input => .output
  | .output => .input

end Direction

/-- Data ports carry values; trigger and flow ports carry control. -/
inductive PortKind where
  | data | trigger | flow
  deriving DecidableEq, Inhabited

instance : Labelled PortKind where
  all := [.data, .trigger, .flow]
  label
    | .data => "data"
    | .trigger => "trigger"
    | .flow => "flow"

end Wirework
