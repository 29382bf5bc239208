import Wirework.Data.Basic
import Wirework.Failure

/-!
# Reports

Failures as data, for tools: the kind of a failure, with its message where the message is its own,
or with the list of complaints.
-/

namespace Wirework

/-- A complaint as its place and its code, with the message of entries that do not fit together. -/
def Complaint.toData (c : Complaint) : Data :=
  let message :=
    match c.fault with
    | .inconsistent m => ["Value error, " ++ m]
    | _ => []
  .ofStrings (".".intercalate c.path :: c.fault.code :: message)

namespace Failure

def kind (f : Failure) : String := f.code ++ "Error"

def details : Failure → List (String × Data)
  | .refused list | .unreadableProject list | .unreadableManifest list =>
    [("details", .list (list.map Complaint.toData))]
  | .strayEdge _ | .templateFailed .. | .unwritable .. | .unserializable _ | .blocked _ | .unsaved ..
  | .brokenManifest _ | .overflow | .wrongKind | .notSetting | .integerTooLong | .nestedTooDeep
  | .overnested | .brokenMarkup | .brokenColor | .unfit _ => []
  | f => [("message", .text f.text)]

def toData (f : Failure) : Data := .object (("error", .text f.kind) :: f.details)

end Failure

end Wirework
