import Wirework.Toml.Token

/-!
# TOML documents

A document is read statement by statement into an object. What may not be opened again is kept
beside it: tables that were declared, and inline tables and arrays, which are closed for good.
Main statement: `parse` gives the object of a document, and an error where any statement is refused.
-/

namespace Wirework.Toml

abbrev Entries := List (String × Data)

/-! ## Tables within tables -/

def setEntry (key : String) (d : Data) (entries : Entries) : Entries :=
  entries.map fun e => if e.1 = key then (key, d) else e

/-- Changes the table at a key, which is made up where it is missing. Where an array of tables stands
in the way and `lists` allows it, its last table is meant. -/
def within (lists : Bool) (change : Entries → Option Entries) : Key → Entries → Option Entries
  | [], entries => change entries
  | k :: rest, entries =>
    match entries.lookup k with
    | none => (within lists change rest []).map fun inner => entries ++ [(k, .object inner)]
    | some (.object inner) =>
      (within lists change rest inner).map fun inner => setEntry k (.object inner) entries
    | some (.list items) =>
      match lists, items.getLast? with
      | true, some (.object inner) =>
        (within lists change rest inner).map fun inner =>
          setEntry k (.list (items.dropLast ++ [.object inner])) entries
      | _, _ => none
    | some _ => none

/-- A new entry at the end; the name must be free. -/
def addEntry (name : String) (d : Data) (entries : Entries) : Option Entries :=
  if (entries.lookup name).isSome then none else some (entries ++ [(name, d)])

/-- A new table at the end of an array of tables, which is made up where it is missing. -/
def addTable (name : String) (entries : Entries) : Option Entries :=
  match entries.lookup name with
  | none => some (entries ++ [(name, .list [.object []])])
  | some (.list items) => some (setEntry name (.list (items ++ [.object []])) entries)
  | some _ => none

def parent (key : Key) : Key := key.dropLast

def stem (key : Key) : String := key.getLast?.getD ""

/-- Whether a value is closed once it was written: inline tables and arrays. -/
def isClosed : Data → Bool
  | .object _ => true
  | .list _ => true
  | _ => false

def isUnder (closed : List Key) (key : Key) : Bool := closed.any (·.isPrefixOf key)

/-! ## Values -/

/-- The deepest nesting of arrays and inline tables. -/
def depthLimit : Nat := 490

mutual

/-- A value and what follows it. The fuel bounds the steps and `depth` the nesting. -/
def value (depth : Nat) (cs : List Char) : Nat → Except Error (Data × List Char)
  | 0 => .error .malformed
  | fuel + 1 =>
    match cs with
    | '"' :: _ => (need (string? cs)).map fun (s, rest) => (.text s, rest)
    | '\x27' :: _ => (need (string? cs)).map fun (s, rest) => (.text s, rest)
    | 't' :: 'r' :: 'u' :: 'e' :: rest => .ok (.bool true, rest)
    | 'f' :: 'a' :: 'l' :: 's' :: 'e' :: rest => .ok (.bool false, rest)
    | '[' :: rest =>
      match depth with
      | 0 => .error .tooDeep
      | depth + 1 => (items depth [] rest fuel).map fun (items, rest) => (.list items, rest)
    | '\x7b' :: rest =>
      match depth with
      | 0 => .error .tooDeep
      | depth + 1 =>
        match skipBlanks rest with
        | '\x7d' :: rest => .ok (.object [], rest)
        | rest => (inline depth [] [] rest fuel).map fun (entries, rest) => (.object entries, rest)
    | _ =>
      match moment? cs with
      | some found => need found
      | none => number cs

/-- The items of an array up to its closing bracket, which a comma may precede. -/
def items (depth : Nat) (acc : List Data) (cs : List Char) :
    Nat → Except Error (List Data × List Char)
  | 0 => .error .malformed
  | fuel + 1 =>
    match skipFiller? false cs with
    | none => .error .malformed
    | some (']' :: rest) => .ok (acc.reverse, rest)
    | some rest =>
      match value depth rest fuel with
      | .error e => .error e
      | .ok (d, rest) =>
        match skipFiller? false rest with
        | some (']' :: rest) => .ok ((d :: acc).reverse, rest)
        | some (',' :: rest) => items depth (d :: acc) rest fuel
        | _ => .error .malformed

def inline (depth : Nat) (closed : List Key) (acc : Entries) (cs : List Char) :
    Nat → Except Error (Entries × List Char)
  | 0 => .error .malformed
  | fuel + 1 =>
    match key? cs with
    | some (key, '=' :: rest) =>
      match value depth (skipBlanks rest) fuel with
      | .error e => .error e
      | .ok (d, rest) =>
        if isUnder closed key then .error .malformed
        else
          match within false (addEntry (stem key) d) (parent key) acc with
          | none => .error .malformed
          | some acc =>
            match skipBlanks rest with
            | '\x7d' :: rest => .ok (acc, rest)
            | ',' :: rest =>
              inline depth (if isClosed d then key :: closed else closed) acc (skipBlanks rest) fuel
            | _ => .error .malformed
    | _ => .error .malformed

end

/-! ## Statements -/

/-- What was read of a document. -/
structure Draft where
  entries : Entries := []
  /-- The table that the next entries go into. -/
  header : Key := []
  declared : List Key := []
  /-- Tables that dotted keys opened since the last header, and that count as declared after it. -/
  opened : List Key := []
  /-- Inline tables and arrays, closed with all that is in them. -/
  closed : List Key := []

namespace Draft

/-- The tables opened by dotted keys become declared ones. -/
def settleOpened (d : Draft) : Draft := { d with declared := d.opened ++ d.declared, opened := [] }

def enterTable (d : Draft) (key : Key) : Option Draft :=
  if d.declared.contains key || isUnder d.closed key then none
  else do
    let entries ← within true some key d.entries
    return { d with entries, header := key, declared := key :: d.declared }

/-- Enters a new table of an array of tables. What was said about the table before it is forgotten. -/
def enterItem (d : Draft) (key : Key) : Option Draft :=
  if isUnder d.closed key then none
  else do
    let entries ← within true (addTable (stem key)) (parent key) d.entries
    let other := fun k : Key => !key.isPrefixOf k
    return { d with
      entries, header := key
      declared := key :: d.declared.filter other
      closed := d.closed.filter other }

def passedTables (header key : Key) : List Key :=
  (List.range (key.length - 1)).map fun i => header ++ key.take (i + 1)

def add (d : Draft) (key : Key) (value : Data) : Option Draft :=
  let place := d.header ++ key
  let tables := passedTables d.header key
  if tables.any d.declared.contains || isUnder d.closed (parent place) then none
  else do
    let entries ← within true (addEntry (stem key) value) (parent place) d.entries
    return { d with
      entries
      opened := tables ++ d.opened
      closed := if isClosed value then place :: d.closed else d.closed }

end Draft

/-- A header of a table or of an item of an array of tables, after its first bracket. -/
def header? (d : Draft) (cs : List Char) : Option (Draft × List Char) :=
  match cs with
  | '[' :: rest =>
    match key? (skipBlanks rest) with
    | some (key, ']' :: ']' :: rest) => (d.settleOpened.enterItem key).map (·, rest)
    | _ => none
  | _ =>
    match key? (skipBlanks cs) with
    | some (key, ']' :: rest) => (d.settleOpened.enterTable key).map (·, rest)
    | _ => none

def entry (d : Draft) (cs : List Char) : Except Error (Draft × List Char) :=
  match key? cs with
  | some (key, '=' :: rest) => do
    let (value, rest) ← value depthLimit (skipBlanks rest) (2 * rest.length + 2)
    return (← need (d.add key value), rest)
  | _ => .error .malformed

/-- A line, which may hold a header, an entry or neither. -/
def line (d : Draft) (cs : List Char) : Except Error (Draft × List Char) := do
  let cs := skipBlanks cs
  let (d, rest) ←
    match cs with
    | '[' :: rest => need (header? d rest)
    | c :: _ => if startsKey c then entry d cs else .ok (d, cs)
    | [] => .ok (d, [])
  return (d, ← need (lineEnd? (skipBlanks rest)))

def lines (d : Draft) (cs : List Char) : Nat → Except Error Draft
  | 0 => .error .malformed
  | fuel + 1 =>
    match cs with
    | [] => .ok d
    | _ =>
      match line d cs with
      | .error e => .error e
      | .ok (d, rest) => lines d rest fuel

/-- A text in which every line ends in `\n` alone. -/
def plainLines : List Char → List Char
  | '\r' :: '\n' :: rest => '\n' :: plainLines rest
  | c :: rest => c :: plainLines rest
  | [] => []

def parse (text : String) : Except Error Data :=
  let cs := plainLines text.toList
  (lines {} cs (cs.length + 1)).map fun d => .object d.entries

end Wirework.Toml
