import Wirework.Check.Rules

/-!
# Validators

A validator runs rules in order and reports their findings from a given severity on. One that fails
fast stops after the first rule that reports an error. Only errors make a project invalid.
-/

namespace Wirework

/-- Rules, and what of their findings is reported. -/
structure Validator where
  rules : List ProjectRule := ProjectRule.builtin
  failFast : Bool := false
  /-- The least severe finding that is reported. -/
  minSeverity : Severity := .warning

namespace Validator

def reported (v : Validator) (g : Graph) (r : ProjectRule) : List Issue :=
  (r.findings g).filter (·.severity.atLeast v.minSeverity)

/-- The reported findings of rules up to the first rule with an error. -/
def untilError (v : Validator) (g : Graph) : List ProjectRule → List Issue
  | [] => []
  | r :: rest =>
    let found := v.reported g r
    if found.any (·.isError) then found else found ++ untilError v g rest

def validateAll (v : Validator) (g : Graph) : List Issue := v.rules.flatMap (v.reported g)

def validate (v : Validator) (g : Graph) : List Issue :=
  if v.failFast then v.untilError g v.rules else v.validateAll g

def isValid (v : Validator) (g : Graph) : Bool := !(v.validate g).any (·.isError)

end Validator

def errorsAmong (issues : List Issue) : List Issue := issues.filter (·.isError)

/-- Fails with the errors among findings, if there are any. -/
def requireNoErrors (issues : List Issue) : Except Failure Unit :=
  match errorsAmong issues with
  | [] => .ok ()
  | errors => .error (.validationFailed errors)

/-- Every finding of the built-in rules. -/
def Graph.issues (g : Graph) : List Issue := ({ minSeverity := .info } : Validator).validateAll g

/-- Whether the built-in rules find no error. -/
def Graph.isValid (g : Graph) : Bool := ({} : Validator).isValid g

end Wirework
