import Wirework.Json.Reader
import Wirework.Json.Writer
import Wirework.Record.Graph
import Wirework.Record.Nesting

/-!
# Project files

A project file is a document around a project, with the name and the version of the format. A
project can be read if the format is this one and the version has the same first number.
-/

namespace Wirework

def ProjectFile.formatName : String := "immortal"

/-- A project with the format it is written in. -/
structure ProjectFile where
  version : String := formatVersion
  format : String := ProjectFile.formatName
  project : Graph
  deriving Inhabited

namespace ProjectFile

def extension : String := ".imm.json"

instance : Record ProjectFile where
  read := Record.readRecord fun s => do
    return {
      version := ← s.fieldOr "ir_version" formatVersion
      format := ← s.fieldOr "format" formatName
      project := ← s.field "project" }
  toData f := .object [
    ("ir_version", Record.toData f.version),
    ("format", Record.toData f.format),
    ("project", Record.toData f.project)]

def major (version : String) : List Char := version.toList.takeWhile (· ≠ '.')

def isCompatible (f : ProjectFile) : Bool :=
  f.format = formatName && major f.version = major formatVersion

/-! ## Writing -/

def countedField (f : Field) : Field :=
  { f with hints := { f.hints with order := f.hints.order.counted } }

def countedPort (p : Port) : Port := { p with order := p.order.counted }

def countedNode (n : Node) : Node :=
  { n with
    fields := n.fields.map countedField
    ports := ⟨n.ports.inputs.map countedPort, n.ports.outputs.map countedPort⟩
    zIndex := n.zIndex.counted }

def countedAbout (a : About) : About :=
  { a with domains := a.domains.mapValues fun d => { d with priority := d.priority.counted } }

/-- The project with every ordinal as it stands in a file. -/
def counted (g : Graph) : Graph :=
  { g with
    about := countedAbout g.about
    nodes := g.nodes.mapValues countedNode
    edges := g.edges.mapValues fun e => { e with zIndex := e.zIndex.counted }
    groups := g.groups.mapValues fun x => { x with zIndex := x.zIndex.counted } }

/-- The text of a project's file, unless the project holds something that cannot be written. -/
def write (g : Graph) (compact : Bool) : Except Failure String :=
  match Json.document? (.file compact) (Record.toData ({ project := counted g } : ProjectFile)) with
  | some text => if g.isShallow then .ok text else .error (.unserializable g.about.name)
  | none => .error (.unserializable g.about.name)

/-! ## Reading -/

/-- The project of a file's text, without unsaved changes. -/
def read (text : String) (mint : Mint) : Except Failure (Graph × Mint) :=
  match Json.parse? text with
  | none => .error (.unreadableProject [⟨[], .notDocument⟩])
  | some d =>
    match (Record.read [] d : Reading ProjectFile).run mint true with
    | .error (.complaints list) => .error (.unreadableProject list)
    | .error refusal => .error (.ofRefusal refusal)
    | .ok (f, mint) =>
      if f.isCompatible then .ok ({ f.project with dirty := false }, mint)
      else .error (.incompatibleFile f.format f.version formatVersion)

end ProjectFile

end Wirework
