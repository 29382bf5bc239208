import Wirework.Data.Basic
import Wirework.Mint
import Wirework.Project.Domain
import Wirework.Sorting

/-!
# Project metadata

What a project says about itself, and its domains by name.
-/

namespace Wirework

/-- The version of the project format that this library reads and writes. -/
def formatVersion : String := "1.0.0"

/-- What a project says about itself. -/
structure About where
  name : String
  version : String := "0.1.0"
  description : Option String := none
  authors : List String := []
  license : Option String := none
  repository : Option String := none
  homepage : Option String := none
  documentation : Option String := none
  keywords : List String := []
  categories : List String := []
  domains : Dict Domain := .empty
  targetLanguage : String := "rust"
  targetFramework : Option String := none
  outputDir : String := "generated"
  generateTests : Bool := true
  generateDocs : Bool := true
  metadata : Dict Data := .empty
  irVersion : String := formatVersion
  createdAt : Moment
  modifiedAt : Moment
  deriving Inhabited

namespace About

def databaseDomain : String := "database"

def apiDomain : String := "api"

def create (name : String) (now : Moment) : About := { name, createdAt := now, modifiedAt := now }

def touch (m : About) (now : Moment) : About := { m with modifiedAt := now }

def withDomain (m : About) (name : String) (d : Domain) : About :=
  { m with domains := m.domains.insert name d }

def domain? (m : About) (name : String) : Option Domain := m.domains.get? name

def enabledDomain? (m : About) (name : String) : Option Domain := (m.domain? name).filter (·.enabled)

def hasDomain (m : About) (name : String) : Bool := (m.enabledDomain? name).isSome

/-- The enabled domains, the highest priority first; domains of equal priority keep their order. A
priority that is no number is refused. -/
def enabledDomains (m : About) : Except Failure (List String) :=
  let enabled := m.domains.entries.filter fun e => e.2.enabled
  match enabled.mapM fun e => e.2.priority.opposite?.map (e.1, ·) with
  | some ranked => .ok ((Sorting.sort (fun a b => a.2.before? b.2) ranked).items.map Prod.fst)
  | none => .error .wrongKind

/-- The project with a domain enabled, which is made if there is none. -/
def enableDomain (m : About) (now : Moment) (name : String) : About :=
  let d := (m.domain? name).getD {}
  (m.withDomain name { d with enabled := true }).touch now

def disableDomain (m : About) (now : Moment) (name : String) : About :=
  match m.domain? name with
  | some d => (m.withDomain name { d with enabled := false }).touch now
  | none => m

end About

end Wirework
