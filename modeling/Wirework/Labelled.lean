/-!
# Labelled enumerations

Enumerations whose members have a name in project files. `Labelled.ofLabel?` reads the name back.
-/

namespace Wirework

/-- An enumeration with a name for each member. -/
class Labelled (α : Type) where
  /-- Every member, in the order in which choices are listed. -/
  all : List α
  label : α → String

namespace Labelled

def ofLabel? {α : Type} [Labelled α] (s : String) : Option α := all.find? (label · = s)

/-- The names of all members, for messages that list the choices. -/
def choices (α : Type) [Labelled α] : String := ", ".intercalate ((all : List α).map label)

end Labelled

/-- The text, unless it is missing or empty. -/
def nonEmpty? : Option String → Option String
  | some s => if s.isEmpty then none else some s
  | none => none

end Wirework
