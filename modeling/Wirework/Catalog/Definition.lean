import Wirework.Project.Starter

/-!
# Component definitions

A definition describes a component of the palette: the fields, ports and settings that a new node of
it starts with. Components that services are generated for are built ready-made.
-/

namespace Wirework

/-- How a definition makes nodes. -/
inductive Recipe where
  /-- From the parts that the definition lists. -/
  | parts
  | login | register | logout | session | entity | restEndpoint | database
  deriving DecidableEq, Inhabited

/-- A component of the palette. -/
structure Definition where
  id : String
  name : String
  category : Category
  description : String := ""
  icon : Option String := none
  fields : List Field := []
  inputs : List Port := []
  outputs : List Port := []
  config : Dict Setting := .empty
  tags : List String := []
  recipe : Recipe := .parts
  deriving Inhabited

namespace Definition

/-! ## Changes -/

def withField (d : Definition) (f : Field) : Definition := { d with fields := d.fields ++ [f] }

def withInput (d : Definition) (p : Port) : Definition := { d with inputs := d.inputs ++ [p] }

def withOutput (d : Definition) (p : Port) : Definition := { d with outputs := d.outputs ++ [p] }

def withConfig (d : Definition) (key : String) (value : Setting) : Definition :=
  { d with config := d.config.insert key value }

/-- The definition with more tags, each kept once. -/
def withTags (d : Definition) (tags : List String) : Definition :=
  { d with tags := tags.foldl (fun ts t => if ts.contains t then ts else ts ++ [t]) d.tags }

/-! ## Queries -/

def hasTag (d : Definition) (tag : String) : Bool :=
  d.tags.any fun t => Text.lower t = Text.lower tag

/-- Whether a text occurs in id, name, description or a tag, case aside. -/
def matchesQuery (d : Definition) (query : String) : Bool :=
  Text.containsFolded d.id query || Text.containsFolded d.name query
    || Text.containsFolded d.description query || d.tags.any fun t => Text.containsFolded t query

/-! ## New nodes -/

def fromParts (d : Definition) (name : String) : StateM Mint Node := do
  let n ← Node.create d.id name d.category d.icon
  let fields ← d.fields.mapM fun f => do
    let id ← modifyGet fun m : Mint => m.draw .field
    return { f with id }
  return { n with fields, ports := ⟨d.inputs, d.outputs⟩, config := d.config }

def base (d : Definition) (name : String) : ExceptT Failure (StateM Mint) Node :=
  match d.recipe with
  | .parts => d.fromParts name
  | .login => Node.login name
  | .register => Node.register name
  | .logout => Node.logout name
  | .session => Node.session name
  | .entity => Node.entity name
  | .restEndpoint => Node.restEndpoint name
  | .database => Node.database name

/-- A node of the component; its name is the definition's unless another one is given. -/
def instantiate (d : Definition) (name : Option String) : ExceptT Failure (StateM Mint) Node := do
  let n ← d.base ((nonEmpty? name).getD d.name)
  let description := n.description.or (nonEmpty? (some d.description))
  return d.tags.foldl Node.withTag { n with description }

end Definition

end Wirework
