/-!
# Obstacles

Why a storage refuses a step on a path.
-/

namespace Wirework

/-- Why a storage refuses a step. -/
inductive Obstacle where
  | missing
  | occupied
  | notFolder
  | isFolder
  | nameTooLong
  | invalidPath
  /-- Any other cause, in words. -/
  | other (words : String)
  deriving DecidableEq

namespace Obstacle

def report : Obstacle → String
  | .missing => "[Errno 2] No such file or directory"
  | .occupied => "[Errno 17] File exists"
  | .notFolder => "[Errno 20] Not a directory"
  | .isFolder => "[Errno 21] Is a directory"
  | .nameTooLong => "[Errno 36] File name too long"
  | .invalidPath => "embedded null byte"
  | .other words => words

/-- A short name of an obstacle, for tools. -/
def code : Obstacle → String
  | .missing => "FileNotFound"
  | .occupied => "FileExists"
  | .notFolder => "NotADirectory"
  | .isFolder => "IsADirectory"
  | .invalidPath => "Value"
  | .nameTooLong | .other _ => "OS"

end Obstacle

end Wirework
