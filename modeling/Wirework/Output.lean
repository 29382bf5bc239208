import Wirework.Dict
import Wirework.Text.Basic

/-!
# Output

The files that a run produces, by path. Listings are sorted by path.
-/

namespace Wirework

/-- Texts in the order of their characters' code points. -/
def sortedTexts (xs : List String) : List String := xs.mergeSort fun a b => !decide (b < a)

/-- Files by path, and notes for the reader. -/
structure Output where
  name : String
  files : Dict String := .empty
  warnings : List String := []

namespace Output

def addFile (o : Output) (path content : String) : Output :=
  { o with files := o.files.insert path content }

def addWarning (o : Output) (warning : String) : Output :=
  { o with warnings := o.warnings ++ [warning] }

def fileCount (o : Output) : Nat := o.files.size

def hasWarnings (o : Output) : Bool := !o.warnings.isEmpty

def file? (o : Output) (path : String) : Option String := o.files.get? path

def paths (o : Output) : List String := sortedTexts o.files.keys

def sortedFiles (o : Output) : List (String × String) :=
  o.paths.filterMap fun p => (o.file? p).map fun content => (p, content)

def withExtension (o : Output) (ending : String) : List (String × String) :=
  o.sortedFiles.filter fun f => Text.endsWith f.1 ending

/-- Both outputs; where paths collide, the files of the second one count. -/
def merge (o other : Output) : Output :=
  { o with files := o.files.union other.files, warnings := o.warnings ++ other.warnings }

end Output

end Wirework
