import Wirework.Pattern.Set

/-!
# Reading search patterns

The written form of patterns: characters, `.`, sets in brackets, classes such as `\d`, anchors,
groups with their many openings, alternatives, references and repetitions. A brace that opens no
repetition stands for itself. Letters in parentheses at the start set options for the whole pattern, and
in front of a colon for one group.
-/

namespace Wirework.Pattern

open Wirework.Pattern.Parser

/-! ## Repetitions -/

/-- The bounds of a repetition. -/
structure Count where
  low : Nat
  high : Option Nat

def rounds? (ds : List Char) : Parser (Option Nat) :=
  if ds.isEmpty then return none
  else if Number.digitLimit < ds.length then throw .unreadable
  else if countLimit ≤ value 10 ds then throw .countTooLarge
  else return some (value 10 ds)

/-- The bounds between braces, after the opening one; nothing if the brace stands for itself. -/
def braceCount : Parser (Option Count) := do
  let start ← get
  if (← peek) = some (.plain '\x7d') then return none
  let low ← takeWhile Char.isDigit (← size)
  let high ← if ← accept ',' then takeWhile Char.isDigit (← size) else pure low
  if !(← accept '\x7d') then set start; return none
  let _ ← peek
  let least := (← rounds? low).getD 0
  let most ← rounds? high
  if most.any (· < least) then fail else return some ⟨least, most⟩

/-- The bounds of a repetition mark that has been read; nothing if it is none. -/
def count? : Char → Parser (Option Count)
  | '?' => return some ⟨0, some 1⟩
  | '*' => return some ⟨0, none⟩
  | '+' => return some ⟨1, none⟩
  | '\x7b' => braceCount
  | _ => return none

/-- How a repetition goes about it, by the mark behind its bounds. -/
def manner : Parser Manner := do
  if ← accept '?' then return .lazy
  if ← accept '+' then return .possessive
  return .greedy

/-- A repetition of the last part; there is none of an anchor or of another repetition. -/
def repeatLast (count : Count) (last : Pattern) : Parser Pattern := do
  let body ←
    match last with
    | .anchor _ | .repeated .. => fail
    | .group none body => pure body
    | last => pure last
  let manner ← manner
  modify fun s => { s with isFlawed := s.isFlawed || s.isTemplate }
  return .repeated count.low count.high manner body

/-! ## Groups -/

def isClosed (number : Nat) : Parser Bool :=
  return ((← get).widths[number - 1]?).any Option.isSome

/-- Checks that a group may be referred to inside of a look behind: it is closed, and stands in front
of it. -/
def checkBehind (number : Nat) : Parser Unit := do
  match (← get).behind with
  | some groups => if !(← isClosed number) || groups < number then fail
  | none => return

def reference (o : Options) (number : Nat) : Parser Pattern := do
  if number = 0 || !(← isClosed number) then fail
  checkBehind number
  return .again o.casing number

/-- A reference that starts with a digit, or a character in three octal digits. -/
def numberEscape (o : Options) (c : Char) : Parser Pattern := do
  let second ← takeWhile Char.isDigit 1
  if second.all isOctal && !second.isEmpty && isOctal c then
    let third ← takeWhile isOctal 1
    if !third.isEmpty then return .char (.ofCode o.casing (← octalEscape (c :: second ++ third)))
  reference o (value 10 (c :: second))

def escapePart (o : Options) (c : Char) : Parser Pattern :=
  match classEscape? o.ascii c, anchorEscape? o.ascii c with
  | some item, _ => return .char (.ofSet o.casing false [item])
  | none, some a => return .anchor a
  | none, none => do
    if c = '0' then
      return .char (.ofCode o.casing (← octalEscape (c :: (← takeWhile isOctal 2))))
    else if c.isDigit then numberEscape o c
    else return .char (.ofCode o.casing (← plainEscape c))

def isName (cs : List Char) : Bool :=
  cs.all (CharClass.word.has false ·) && cs.head?.any fun c => !Text.isDecimalDigit c

def groupName (closing : Char) : Parser String := do
  let cs ← nameUntil closing (← size)
  if isName cs then return String.ofList cs else fail

def numberOf (name : String) : Parser Nat := do
  match (← get).names.lookup name with
  | some n => return n
  | none => fail

/-- The group that a condition asks for, up to the closing parenthesis. -/
def condition : Parser Nat := do
  let cs ← nameUntil ')' (← size)
  let number ←
    if isName cs then numberOf (String.ofList cs)
    else
      match Number.int? (String.ofList cs) with
      | some n =>
        if n ≤ 0 || 1073741823 ≤ n then fail
        modify fun s => { s with asked := n.toNat :: s.asked }
        pure n.toNat
      | none => fail
  checkBehind number
  return number

/-- Opens a group that notes its matches, and gives its number. -/
def openGroup (name : Option String) : Parser Nat := do
  let s ← get
  let number := s.widths.length + 1
  let names ←
    match name with
    | some name => if (s.names.lookup name).isSome then fail else pure ((name, number) :: s.names)
    | none => pure s.names
  set { s with widths := s.widths ++ [none], names }
  return number

def measure (p : Pattern) : Parser Width := do
  let widths := (← get).widths
  return p.width fun number => ((widths[number - 1]?).bind id).getD ⟨0, 0⟩

def closeGroup (number : Nat) (body : Pattern) : Parser Unit := do
  let width ← measure body
  modify fun s => { s with widths := s.widths.set (number - 1) (some width) }

/-! ## Options -/

structure Letters where
  options : Options := {}
  unicode : Bool := false
  template : Bool := false

def Letters.add (l : Letters) : Char → Option Letters
  | 'i' => some { l with options.ignoreCase := true }
  | 'm' => some { l with options.multiline := true }
  | 's' => some { l with options.dotAll := true }
  | 'x' => some { l with options.verbose := true }
  | 'a' => if l.unicode then none else some { l with options.ascii := true }
  | 'u' => if l.options.ascii then none else some { l with unicode := true }
  | 't' => some { l with template := true }
  | _ => none

/-- Letters up to a character that is none, which is given too; `fuel` bounds their number. -/
def letters (l : Letters) (c : Char) : Nat → Parser (Letters × Char)
  | 0 => fail
  | fuel + 1 => do
    match l.add c, ← next with
    | some l, some (.plain d) =>
      if d = ')' || d = '-' || d = ':' then return (l, d) else letters l d fuel
    | _, _ => fail

/-- What letters in front of a group change. -/
inductive OptionScope where
  /-- They are for the whole pattern. -/
  | whole
  | group (options : Options)

/-- The options of a group inside of others, from the letters that are set and those that are unset. -/
def combine (outer : Options) (on : Letters) (off : Options) : Options where
  ignoreCase := (outer.ignoreCase || on.options.ignoreCase) && !off.ignoreCase
  multiline := (outer.multiline || on.options.multiline) && !off.multiline
  dotAll := (outer.dotAll || on.options.dotAll) && !off.dotAll
  verbose := (outer.verbose || on.options.verbose) && !off.verbose
  ascii := (outer.ascii && !on.unicode) || on.options.ascii

def clash (on off : Options) : Bool :=
  (on.ignoreCase && off.ignoreCase) || (on.multiline && off.multiline)
    || (on.dotAll && off.dotAll) || (on.verbose && off.verbose)

/-- The options that a group sets, from their first letter on. -/
def setOptions (outer : Options) (c : Char) : Parser OptionScope := do
  let (on, c) ← if c = '-' then pure ({}, c) else letters {} c (← size)
  if c = ')' then
    modify fun s => { s with
      options := combine s.options { on with unicode := false } {}
      isUnicode := s.isUnicode || on.unicode
      isTemplate := s.isTemplate || on.template }
    return .whole
  if on.template then fail
  let off ←
    if c = '-' then do
      match ← next with
      | some (.plain c) =>
        let (off, c) ← letters {} c (← size)
        if c ≠ ':' || off.options.ascii || off.unicode || off.template then fail else pure off.options
      | _ => fail
    else pure {}
  if clash on.options off then fail else return .group (combine outer on off)

inductive Opening where
  /-- A group that notes its matches. -/
  | noted (name : Option String)
  | plain (options : Options)
  | atomic
  | look (behind negated : Bool)
  /-- The text of a group again. -/
  | again (number : Nat)
  | condition (number : Nat)
  | comment
  | options

def lookBehind : Parser Opening := do
  match ← next with
  | some (.plain '=') => return .look true false
  | some (.plain '!') => return .look true true
  | _ => fail

/-- What opens a group, after its parenthesis. -/
def opening (o : Options) : Parser Opening := do
  if !(← accept '?') then return .noted none
  match ← next with
  | some (.plain ':') => return .plain o
  | some (.plain '>') => return .atomic
  | some (.plain '=') => return .look false false
  | some (.plain '!') => return .look false true
  | some (.plain '<') => lookBehind
  | some (.plain '(') => return .condition (← condition)
  | some (.plain '#') => if ← skipUntil ')' (← size) then return .comment else fail
  | some (.plain 'P') =>
    if ← accept '<' then return .noted (some (← groupName '>'))
    else if ← accept '=' then return .again (← numberOf (← groupName ')'))
    else fail
  | some (.plain c) =>
    match ← setOptions o c with
    | .whole => return .options
    | .group options => return .plain options
  | _ => fail

/-! ## Patterns -/

def sequence (parts : List Pattern) : Pattern :=
  parts.foldl (fun tail p => match tail with
    | .empty => p
    | _ => .seq p tail) .empty

def alternative : List Pattern → Pattern
  | [] => .empty
  | [p] => p
  | p :: others => .alt p (alternative others)

/-- A look ahead or behind; behind, all matches have one length. -/
def lookPart (behind negated : Bool) (body : Pattern) : Parser Pattern := do
  if !behind then return .look 0 negated body
  let width ← measure body
  if width.low ≠ width.high || countLimit < width.low then
    modify fun s => { s with isFlawed := true }
  return .look width.low negated body

/-- Reads a part of a look behind, in which references are limited. -/
def insideBehind (behind : Bool) (part : Parser α) : Parser α := do
  let outer := (← get).behind
  if behind && outer.isNone then modify fun s => { s with behind := some s.widths.length }
  let a ← part
  modify fun s => { s with behind := outer }
  return a

/-- Whether a character is left out between parts. -/
def isGap (c : Char) : Bool := c = ' ' || (9 ≤ c.toNat && c.toNat ≤ 13)

mutual

/-- Alternatives up to the end of the text or a closing parenthesis, inside of `depth` groups. Only the
first one of the whole text may set options of the whole pattern. -/
def alternatives (o : Options) (depth : Nat) (isFirst : Bool) : Nat → Parser (List Pattern)
  | 0 => fail
  | fuel + 1 => do
    if depthLimit ≤ depth then throw .tooDeep
    let whole := (← get).options
    let options := if depth = 0 then whole else o
    let first ← branch options depth (depth = 0 && isFirst) [] fuel
    if ← accept '|' then return first :: (← alternatives o depth false fuel) else return [first]

/-- A sequence of parts, of which `acc` holds those read so far in reverse. -/
def branch (o : Options) (depth : Nat) (isFirst : Bool) (acc : List Pattern) : Nat → Parser Pattern
  | 0 => fail
  | fuel + 1 => do
    match ← peek with
    | none | some .stray | some (.plain '|') | some (.plain ')') => return sequence acc
    | some (.escaped c) =>
      drop
      branch o depth isFirst ((← escapePart o c) :: acc) fuel
    | some (.plain c) =>
      drop
      if o.verbose && isGap c then branch o depth isFirst acc fuel
      else if o.verbose && c = '#' then
        let _ ← skipUntil '\n' (← size)
        branch o depth isFirst acc fuel
      else
        match ← count? c with
        | some count =>
          match acc with
          | [] => fail
          | last :: before => branch o depth isFirst ((← repeatLast count last) :: before) fuel
        | none =>
          match c with
          | '.' => branch o depth isFirst (.char (.any o.dotAll) :: acc) fuel
          | '^' =>
            let start := if o.multiline then Anchor.lineStart else .textStart
            branch o depth isFirst (.anchor start :: acc) fuel
          | '$' =>
            let stop := if o.multiline then Anchor.lineEnd else .finalEnd
            branch o depth isFirst (.anchor stop :: acc) fuel
          | '[' => branch o depth isFirst ((← charSet o) :: acc) fuel
          | '(' =>
            match ← opening o with
            | .comment => branch o depth isFirst acc fuel
            | .options =>
              let whole := (← get).options
              if isFirst && acc.isEmpty then branch whole depth isFirst acc fuel else fail
            | .again number => branch o depth isFirst ((← reference o number) :: acc) fuel
            | start => branch o depth isFirst ((← groupPart o depth start fuel) :: acc) fuel
          | c => branch o depth isFirst (.char (.ofCode o.casing c.toNat) :: acc) fuel

/-- A group after its opening, up to its closing parenthesis. -/
def groupPart (o : Options) (depth : Nat) (start : Opening) : Nat → Parser Pattern
  | 0 => fail
  | fuel + 1 => do
    match start with
    | .noted name =>
      let number ← openGroup name
      let body := alternative (← alternatives o (depth + 2) false fuel)
      expect ')'
      closeGroup number body
      return .group (some number) body
    | .plain options =>
      let body := alternative (← alternatives options (depth + 2) false fuel)
      expect ')'
      return .group none body
    | .look behind negated =>
      let body := alternative (← insideBehind behind (alternatives o (depth + 2) false fuel))
      expect ')'
      lookPart behind negated body
    | .condition number =>
      if depthLimit ≤ depth then throw .tooDeep
      let yes ← branch o (depth + 1) false [] fuel
      let no ← if ← accept '|' then branch o (depth + 1) false [] fuel else pure .empty
      expect ')'
      return .given number yes no
    | _ =>
      let body := alternative (← alternatives o (depth + 2) false fuel)
      expect ')'
      return .atomic body

end

/-- Checks what is known only at the end of a pattern. -/
def checkEnd : Parser Unit := do
  let s ← get
  if s.isUnicode && s.options.ascii then throw .unreadable
  if !s.rest.isEmpty || s.asked.any (s.widths.length < ·) || s.isFlawed then fail

def read (text : String) : Except Malformed Pattern := do
  let cs := text.toList
  let (branches, s) ← (alternatives {} 0 true (3 * cs.length + 3)).run { rest := tokens cs }
  let ((), _) ← checkEnd.run s
  return alternative branches

end Wirework.Pattern
