import Wirework.Text.Basic

/-!
# Arguments

Splits the arguments of a command into switches and plain words. A long switch takes its value after
an equals sign or from the next argument; short switches may be written together, and the last of
them takes the rest of the argument or the next one. After `--` every argument is a plain word.
-/

namespace Wirework

structure Switch where
  /-- With two dashes. -/
  long : String
  short : Option Char := none
  takesValue : Bool := false
  deriving DecidableEq

/-- A switch that was given, by its long name. -/
structure Given where
  name : String
  value : Option String := none
  deriving DecidableEq

/-- The arguments of a command: switches, and plain words in order. -/
structure Arguments where
  given : List Given := []
  words : List String := []
  deriving DecidableEq

namespace Arguments

def has (a : Arguments) (name : String) : Bool := a.given.any (·.name = name)

def values (a : Arguments) (name : String) : List String :=
  a.given.filterMap fun g => if g.name = name then g.value else none

def value? (a : Arguments) (name : String) : Option String := (a.values name).getLast?

/-! ## Reading -/

/-- The switches in one argument, and one that takes the next argument as its value. -/
structure Reading where
  given : List Given := []
  open? : Option String := none

def take (s : Switch) (attached : Option String) : Option Reading :=
  match s.takesValue, attached with
  | true, some v => some { given := [⟨s.long, some v⟩] }
  | true, none => some { open? := some s.long }
  | false, some _ => none
  | false, none => some { given := [⟨s.long, none⟩] }

def shorts (switches : List Switch) : List Char → Option Reading
  | [] => some {}
  | c :: rest =>
    match switches.find? (·.short = some c) with
    | none => none
    | some s =>
      if s.takesValue then take s (if rest.isEmpty then none else some (String.ofList rest))
      else
        (shorts switches rest).map fun r => { r with given := ⟨s.long, none⟩ :: r.given }

def readSwitch (switches : List Switch) (arg : String) : Option Reading :=
  let (name, value) := arg.toList.span (· ≠ '=')
  match switches.find? (·.long.toList = name) with
  | some s => take s (if value.isEmpty then none else some (String.ofList value.tail))
  | none => if Text.startsWith arg "--" then none else shorts switches arg.toList.tail

def isSwitch (arg : String) : Bool := Text.startsWith arg "-" && arg ≠ "-"

/-- Splits arguments. Where `mixed` is false, everything from the first plain word on is one. -/
def split (switches : List Switch) (mixed : Bool) (done : Arguments) :
    List String → Option Arguments
  | [] => some done
  | [arg] =>
    if arg = "--" then some done
    else if isSwitch arg then
      match readSwitch switches arg with
      | some ⟨given, none⟩ => some { done with given := done.given ++ given }
      | _ => none
    else some { done with words := done.words ++ [arg] }
  | arg :: next :: rest =>
    if arg = "--" then some { done with words := done.words ++ next :: rest }
    else if isSwitch arg then
      match readSwitch switches arg with
      | some ⟨given, none⟩ =>
        split switches mixed { done with given := done.given ++ given } (next :: rest)
      | some ⟨given, some name⟩ =>
        split switches mixed { done with given := done.given ++ given ++ [⟨name, some next⟩] } rest
      | none => none
    else if mixed then
      split switches mixed { done with words := done.words ++ [arg] } (next :: rest)
    else some { done with words := done.words ++ arg :: next :: rest }

def parse? (switches : List Switch) (args : List String) : Option Arguments :=
  split switches true {} args

end Arguments

end Wirework
