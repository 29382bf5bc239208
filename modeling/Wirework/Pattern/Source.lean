import Wirework.Pattern.Basic

/-!
# Sources of search patterns

A pattern is read from its text token by token: a backslash and the character after it are one token.
`Parser` keeps what is left of the text, together with the options and the groups that have been read.
-/

namespace Wirework.Pattern

/-- Why a text is no pattern. -/
inductive Malformed where
  | invalid
  /-- A repetition count is too large for any machine. -/
  | countTooLarge
  /-- A repetition count has too many digits, or the options ask for two alphabets. -/
  | unreadable
  /-- Groups are nested too deeply. -/
  | tooDeep
  deriving DecidableEq

/-- The first repetition count that is refused. -/
def countLimit : Nat := 4294967295

/-- The depth up to which groups may be nested: a group counts two, and a condition on one counts one. -/
def depthLimit : Nat := 980

/-! ## Sources -/

/-- A character of a pattern, which a backslash may stand before. -/
inductive Token where
  | plain (c : Char)
  | escaped (c : Char)
  /-- A backslash at the end. -/
  | stray
  deriving DecidableEq

def tokens : List Char → List Token
  | [] => []
  | ['\\'] => [.stray]
  | '\\' :: c :: rest => .escaped c :: tokens rest
  | c :: rest => .plain c :: tokens rest

structure Options where
  ignoreCase : Bool := false
  /-- Whether anchors look at single lines. -/
  multiline : Bool := false
  /-- Whether a point stands for line breaks, too. -/
  dotAll : Bool := false
  /-- Whether blanks and comments are left out. -/
  verbose : Bool := false
  ascii : Bool := false
  deriving DecidableEq

def Options.casing (o : Options) : Casing :=
  if !o.ignoreCase then .exact else if o.ascii then .ascii else .unicode

/-- What is left of a text, and what has been read from it. -/
structure Source where
  rest : List Token
  /-- The options of the whole pattern. -/
  options : Options := {}
  /-- Whether the whole alphabet has been asked for. -/
  isUnicode : Bool := false
  /-- Whether repetitions are forbidden. -/
  isTemplate : Bool := false
  /-- The lengths of the groups that are closed, by their numbers; the others are open. -/
  widths : List (Option Width) := []
  names : List (String × Nat) := []
  /-- The number of groups in front of the look behind that is being read. -/
  behind : Option Nat := none
  /-- The numbers of the groups that conditions ask for. -/
  asked : List Nat := []
  /-- Whether the pattern is well formed and yet cannot be used. -/
  isFlawed : Bool := false

abbrev Parser := StateT Source (Except Malformed)

namespace Parser

def fail : Parser α := throw .invalid

def peek : Parser (Option Token) := do
  match (← get).rest with
  | [] => return none
  | .stray :: _ => fail
  | t :: _ => return some t

def drop : Parser Unit := modify fun s => { s with rest := s.rest.tail }

def next : Parser (Option Token) := do
  let t ← peek
  drop
  return t

def accept (c : Char) : Parser Bool := do
  if (← peek) = some (.plain c) then drop; return true else return false

def expect (c : Char) : Parser Unit := do
  if !(← accept c) then fail

/-- Takes at most `limit` characters that pass a test. -/
def takeWhile (test : Char → Bool) : Nat → Parser (List Char)
  | 0 => return []
  | limit + 1 => do
    match ← peek with
    | some (.plain c) =>
      if test c then
        drop
        return c :: (← takeWhile test limit)
      else return []
    | _ => return []

def size : Parser Nat := return (← get).rest.length

/-- Takes a name up to a character that closes it; `fuel` bounds its length. -/
def nameUntil (closing : Char) : Nat → Parser (List Char)
  | 0 => fail
  | fuel + 1 => do
    match ← next with
    | none => fail
    | some (.plain c) => if c = closing then return [] else return c :: (← nameUntil closing fuel)
    | some (.escaped c) => return '\\' :: c :: (← nameUntil closing fuel)
    | some .stray => fail

/-- Takes tokens up to a character; `fuel` bounds their number. -/
def skipUntil (closing : Char) : Nat → Parser Bool
  | 0 => return false
  | fuel + 1 => do
    match ← next with
    | none => return false
    | some t => if t = .plain closing then return true else skipUntil closing fuel

end Parser

end Wirework.Pattern
