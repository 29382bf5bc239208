import Wirework.Check.Issue
import Wirework.Fault
import Wirework.Storage.Obstacle
import Wirework.Text.Cluster

/-!
# Failures

Why an operation on a project fails. Each cause has a message, and some have a context: the node,
edge, port or file concerned, which is written in front of the message.
-/

namespace Wirework

/-- The place that a failure concerns. -/
structure Context where
  nodeId : Option String := none
  edgeId : Option String := none
  portId : Option String := none
  path : Option String := none
  deriving DecidableEq, Inhabited

/-- The place in words; parts that are missing or empty are left out. -/
def Context.text (c : Context) : String :=
  let part := fun (value : Option String) (left right : String) =>
    ((nonEmpty? value).map fun s => left ++ s ++ right).toList
  " ".intercalate
    (part c.nodeId "node " "" ++ part c.edgeId "edge " "" ++ part c.portId "port '" "'"
      ++ part c.path "file " "")

/-- The part of the system that a free-form failure comes from. -/
inductive Subject where
  | engine | graph | component | validation | generation | serialization | deserialization
  | configuration
  deriving DecidableEq

/-- Why an operation fails. -/
inductive Failure where
  | nodeNotFound (id : String)
  | edgeNotFound (id : String)
  | portNotFound (nodeId portId : String)
  | groupNotFound (id : String)
  | componentNotFound (id : String)
  | nodeExists (id : String)
  | edgeExists (id : String)
  | groupExists (id : String)
  /-- An edge is stored under a key that is not its id. -/
  | strayEdge (id : String)
  | fieldExists (node field : String)
  | notAnEntity (node : String)
  | validationFailed (issues : List Issue)
  | templateFailed (template detail : String)
  | unwritable (path detail : String)
  /-- A project holds a value that no document can hold. -/
  | unserializable (project : String)
  /-- A record is not well formed. -/
  | refused (complaints : List Complaint)
  /-- The text of a project file is no project. -/
  | unreadableProject (complaints : List Complaint)
  | incompatibleFile (format version supported : String)
  | fileNotFound (path : String)
  /-- A storage refuses a step that nothing else depends on. -/
  | blocked (obstacle : Obstacle)
  | unsaved (path detail : String)
  /-- The text of a manifest is no TOML. -/
  | brokenManifest (path : String)
  | unreadableManifest (complaints : List Complaint)
  | unknownChoice (noun value choices : String)
  | unknownPreset (noun value : String)
  /-- A number is too large for the floating-point format, or a moment is beyond the calendar. -/
  | overflow
  /-- A value has no order with the number that it is compared with. -/
  | wrongKind
  /-- A collection of settings holds something else. -/
  | notSetting
  /-- The text of an integer has too many digits. -/
  | integerTooLong
  /-- Values are nested too deeply. -/
  | nestedTooDeep
  /-- Values are nested too deeply to be taken apart. -/
  | overnested
  /-- A text for the console closes a tag that is not open, or has a tag that means nothing. -/
  | brokenMarkup
  /-- A text for the console has a color of which a component is no number. -/
  | brokenColor
  /-- A line for the console cannot be cropped to its width. -/
  | unfit (why : Text.Misfit)
  | reported (subject : Subject) (message : String) (context : Option Context)
  deriving DecidableEq

namespace Failure

def ofRefusal : Refusal → Failure
  | .complaints list => .refused list
  | .halted .overflow => .overflow
  | .halted .notSetting => .notSetting
  | .halted .tooLong => .integerTooLong

/-- A record whose entries do not fit together. -/
def inconsistent (message : String) : Failure := .refused [⟨[], .inconsistent message⟩]

/-- A short name of the cause, for tools. -/
def code : Failure → String
  | .nodeNotFound _ => "NodeNotFound"
  | .edgeNotFound _ => "EdgeNotFound"
  | .portNotFound .. => "PortNotFound"
  | .groupNotFound _ => "GroupNotFound"
  | .componentNotFound _ => "ComponentNotFound"
  | .nodeExists _ | .edgeExists _ | .groupExists _ | .reported .graph .. => "Graph"
  | .strayEdge _ => "Key"
  | .fieldExists .. | .notAnEntity _ | .reported .component .. => "InvalidComponentConfig"
  | .validationFailed _ | .reported .validation .. => "ValidationFailed"
  | .templateFailed .. => "TemplateRender"
  | .unwritable .. => "GenerationIO"
  | .unserializable _ | .unsaved .. | .reported .serialization .. => "Serialization"
  | .refused _ => "Validation"
  | .unreadableProject _ | .incompatibleFile .. | .reported .deserialization .. => "Deserialization"
  | .fileNotFound _ => "ProjectFileNotFound"
  | .blocked obstacle => obstacle.code
  | .unknownChoice .. | .brokenManifest _ | .unreadableManifest _ | .reported .configuration .. =>
    "Config"
  | .unknownPreset .. | .integerTooLong | .overnested | .brokenColor => "Value"
  | .overflow => "Overflow"
  | .wrongKind => "Type"
  | .notSetting => "Attribute"
  | .nestedTooDeep => "Recursion"
  | .brokenMarkup => "Markup"
  | .unfit .noColumns => "ZeroDivision"
  | .unfit .tooNarrow => "Index"
  | .reported .engine .. => "Engine"
  | .reported .generation .. => "CodeGeneration"

/-- The names of the wider causes that a cause belongs to, the nearest first. -/
def widerCodes : Failure → List String
  | .reported .engine .. => []
  | .groupNotFound _ => ["Graph", "Engine"]
  | .templateFailed .. => ["CodeGeneration", "Engine"]
  | _ => ["Engine"]

def message : Failure → String
  | .nodeNotFound id => "Node not found: " ++ id
  | .edgeNotFound id => "Edge not found: " ++ id
  | .portNotFound nodeId portId => "Port '" ++ portId ++ "' not found on node " ++ nodeId
  | .groupNotFound id => "Group not found: " ++ id
  | .componentNotFound id => "Component not found: " ++ id
  | .nodeExists id => "Node " ++ id ++ " already exists"
  | .edgeExists id => "Edge " ++ id ++ " already exists"
  | .groupExists id => "Group " ++ id ++ " already exists"
  | .strayEdge id => "'" ++ id ++ "'"
  | .fieldExists node field =>
    "Node '" ++ node ++ "' already has a field named '" ++ field ++ "'"
  | .notAnEntity node => "Node '" ++ node ++ "' is not an entity"
  | .validationFailed issues => "; ".intercalate (issues.map Issue.text)
  | .templateFailed template detail =>
    "Failed to render template '" ++ template ++ "': " ++ detail
  | .unwritable _ detail => "Failed to write file: " ++ detail
  | .unserializable project => "Failed to serialize project '" ++ project ++ "'"
  | .refused _ => "Invalid record"
  | .unreadableProject _ => "Invalid project file"
  | .incompatibleFile format version supported =>
    "Incompatible project file: format '" ++ format ++ "', IR version " ++ version
      ++ " (engine supports " ++ supported ++ ")"
  | .fileNotFound path => "Project file not found: " ++ path
  | .blocked obstacle => obstacle.report
  | .unsaved path detail => "Failed to write " ++ path ++ ": " ++ detail
  | .brokenManifest path => "Invalid TOML in " ++ path
  | .unreadableManifest _ => "Invalid immortal.toml"
  | .unknownChoice noun value choices =>
    "Unknown " ++ noun ++ " '" ++ value ++ "' (expected one of: " ++ choices ++ ")"
  | .unknownPreset noun value => "Unknown " ++ noun ++ " preset: " ++ value
  | .overflow => "number out of range"
  | .wrongKind => "value of the wrong kind"
  | .notSetting => "value that is no setting"
  | .integerTooLong => "integer of too many digits"
  | .nestedTooDeep | .overnested => "values nested too deeply"
  | .brokenMarkup => "text with broken markup"
  | .brokenColor => "color without a number"
  | .unfit .noColumns => "line without columns"
  | .unfit .tooNarrow => "line that is too narrow"
  | .reported _ message _ => message

def context? : Failure → Option Context
  | .nodeNotFound id => some { nodeId := some id }
  | .edgeNotFound id => some { edgeId := some id }
  | .portNotFound nodeId portId => some { nodeId := some nodeId, portId := some portId }
  | .unwritable path _ => some { path := some path }
  | .fileNotFound path => some { path := some path }
  | .reported _ _ context => context
  | _ => none

/-- Whether the failure is one of the user's making, which a command reports in words. -/
def isReportable : Failure → Bool
  | .strayEdge _ | .refused _ | .blocked _ | .unknownPreset .. | .overflow | .wrongKind
  | .notSetting | .integerTooLong | .nestedTooDeep | .overnested | .brokenMarkup | .brokenColor
  | .unfit _ => false
  | _ => true

/-- The message with its context in front. -/
def text (f : Failure) : String :=
  match nonEmpty? (f.context?.map Context.text) with
  | some place => place ++ ": " ++ f.message
  | none => f.message

end Failure

end Wirework
