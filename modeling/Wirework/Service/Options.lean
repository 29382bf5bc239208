import Wirework.Failure
import Wirework.Project.About
import Wirework.Target
import Wirework.Text.Case

/-!
# Options

What a generated service depends on besides its project. Where an option is left open, the project
decides, and where it does not, a default does.
-/

namespace Wirework.Service

structure Options where
  targetLanguage : String := "rust"
  framework : Option Framework := none
  database : Option Backend := none
  outputDir : String := "generated"
  tests : Bool := true
  /-- Whether the read-me lists models and endpoints. -/
  reference : Bool := true
  migrations : Bool := true
  /-- The time stamp of the first migration, in place of the time when the project was created. -/
  migrationBase : Option Moment := none
  extras : Dict Setting := .empty
  deriving Inhabited

namespace Options

def setExtra (o : Options) (key : String) (value : Setting) : Options :=
  { o with extras := o.extras.insert key value }

/-- The text of a setting of an enabled domain, in lower case. -/
def domainChoice? (a : About) (domain key : String) : Option String :=
  ((a.enabledDomain? domain).bind (·.string? key)).map Text.lower

/-- The framework of a service: that of the options, of the interface domain, of the project, or
Axum. -/
def frameworkFor (o : Options) (a : About) : Framework :=
  o.framework.getD <|
    ((domainChoice? a About.apiDomain "framework").bind Framework.ofAlias?).getD <|
      ((a.targetFramework.map Text.lower).bind Framework.ofAlias?).getD .axum

/-- The database of a service: that of the options, of the database domain, or PostgreSQL. -/
def databaseFor (o : Options) (a : About) : Backend :=
  o.database.getD <|
    ((domainChoice? a About.databaseDomain "backend").bind Backend.ofAlias?).getD .postgres

/-- Whether a service comes with migrations, which options and database domain may both forbid. -/
def migrationsFor (o : Options) (a : About) : Bool :=
  o.migrations &&
    match a.domain? About.databaseDomain with
    | none => true
    | some d => d.enabled && d.bool? "generate_migrations" ≠ some false

end Options

structure AuthOptions where
  framework : Framework := .axum
  /-- Whether tokens are issued; without them, sessions are kept. -/
  tokens : Bool := true
  /-- The environment variable that holds the secret of the tokens. -/
  secretVariable : String := "JWT_SECRET"
  /-- How many seconds a session lasts. -/
  duration : Ordinal := 86400
  /-- Whether passwords are hashed by Argon2, otherwise by bcrypt. -/
  argon2 : Bool := true
  refreshTokens : Bool := false
  deriving Inhabited

/-- After how many hours a token expires: whole hours, and at least one. A duration that is no number
is refused. -/
def AuthOptions.expiryHours (o : AuthOptions) : Except Failure Ordinal :=
  match o.duration.counted with
  | .int n => .ok (.int (max 1 (n.fdiv 3600)))
  | .other (.float x) =>
    let hours := x.floorQuotient 3600
    .ok (if (Double.ofRatio false 1 1).lt hours then .other (.float hours) else 1)
  | .other _ => .error .wrongKind

end Wirework.Service
