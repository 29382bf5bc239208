import Wirework.Data.Basic

/-!
# Equal data, and the order of data
-/

namespace Wirework.Data

/-!
## Equal data

Numbers are equal if they have the same value, whatever their kind; a truth value counts as zero or
one. Maps are equal if they have equal values under equal keys, in any order. Maps with keys of any
kind keep one entry for equal keys.
-/

/-- The number that a value stands for: an integer wherever it is one. -/
def number? : Data → Option (Int ⊕ Double)
  | .int n => some (.inl n)
  | .bool b => some (.inl b.toNat)
  | .float x => some (match x.toInt? with | some n => .inl n | none => .inr x)
  | _ => none

def sameNumber : Option (Int ⊕ Double) → Option (Int ⊕ Double) → Bool
  | some (.inl m), some (.inl n) => m = n
  | some (.inr x), some (.inr y) => x.same y
  | _, _ => false

mutual

def sameSetting : Setting → Setting → Bool
  | .array a, .array b => sameSettings a b
  | .object a, .object b => a.length = b.length && sameFields a b
  | .null, .null => true
  | .bool a, .bool b => a = b
  | .int m, .int n => m = n
  | .float x, .float y => x.same y
  | .string a, .string b => a = b
  | _, _ => false

def sameSettings : List Setting → List Setting → Bool
  | [], [] => true
  | a :: as, b :: bs => sameSetting a b && sameSettings as bs
  | _, _ => false

/-- Whether every entry has an equal one among others. -/
def sameFields : List (String × Setting) → List (String × Setting) → Bool
  | [], _ => true
  | (k, v) :: rest, others =>
    (match others.lookup k with
      | some w => sameSetting v w
      | none => false) && sameFields rest others

end

/-- The entries of a map under keys of any kind. -/
def pairs? : Data → Option (List (Data × Data))
  | .object entries => some (entries.map fun e => (.text e.1, e.2))
  | .mapping entries => some entries
  | _ => none

mutual

def same : Data → Data → Bool
  | .text a, .text b => a = b
  | .null, .null => true
  | .kind j, .kind k => j = k
  | .kind k, .text s => k.label = s
  | .text s, .kind k => s = k.label
  | .list a, .list b => sameItems a b
  | .tuple a, .tuple b => sameItems a b
  | .setting a, .setting b => sameSetting a b
  | .object a, b =>
    match b.pairs? with
    | some pairs => a.length = pairs.length && sameEntries a pairs
    | none => false
  | .mapping a, b =>
    match b.pairs? with
    | some pairs => a.length = pairs.length && samePairs a pairs
    | none => false
  | a, b => sameNumber a.number? b.number?

def sameItems : List Data → List Data → Bool
  | [], [] => true
  | a :: as, b :: bs => same a b && sameItems as bs
  | _, _ => false

/-- Whether every entry has an equal one among others. -/
def sameEntries : List (String × Data) → List (Data × Data) → Bool
  | [], _ => true
  | (k, v) :: rest, others => others.any (fun e => same (.text k) e.1 && same v e.2) && sameEntries rest others

def samePairs : List (Data × Data) → List (Data × Data) → Bool
  | [], _ => true
  | (k, v) :: rest, others => others.any (fun e => same k e.1 && same v e.2) && samePairs rest others

end

/-- Whether a value can be looked up: no list and no map, and nothing that holds one. -/
def isKey : Data → Bool
  | .list _ | .object _ | .mapping _ => false
  | .setting (.array _) | .setting (.object _) => false
  | .tuple items => areKeys items
  | _ => true
where
  areKeys : List Data → Bool
    | [] => true
    | d :: rest => d.isKey && areKeys rest

/-- Entries with one more; of equal keys the first one stays, with the last value. -/
def putPair (key value : Data) : List (Data × Data) → List (Data × Data)
  | [] => [(key, value)]
  | (k, v) :: rest => if k.same key then (k, value) :: rest else (k, v) :: putPair key value rest

/-- The texts among keys, if there is nothing else. -/
def textKeys? : List (Data × Data) → Option (List (String × Data))
  | [] => some []
  | (.text k, v) :: rest => (textKeys? rest).map ((k, v) :: ·)
  | _ :: _ => none

/-- The map of entries under keys of any kind, unless one of them cannot be looked up. -/
def ofPairs? (pairs : List (Data × Data)) : Option Data :=
  let entries := pairs.foldl (fun done e => putPair e.1 e.2 done) []
  if pairs.all (·.1.isKey) then
    match textKeys? entries with
    | some es => some (.object es)
    | none => some (.mapping entries)
  else none

/-!
## The order of data

Numbers are ordered by their exact values, texts by their characters, and lists and tuples by the
first items that differ. Between other values there is no order.
-/

/-- Whether an exact number is less than another one; not-a-number is less than nothing. -/
def lessNumber : Int ⊕ Double → Int ⊕ Double → Bool
  | .inl m, .inl n => m < n
  | .inl m, .inr x => x.floor?.elim ((Double.zero false).lt x) (m ≤ ·)
  | .inr x, .inl n => x.floor?.elim (x.lt (.zero false)) (· < n)
  | .inr x, .inr y => x.lt y

mutual

/-- Whether a value is less than another one; nothing where there is no order between them. -/
def less? : Data → Data → Option Bool
  | .text a, .text b => some (a < b)
  | .list a, .list b => lessItems? a b
  | .tuple a, .tuple b => lessItems? a b
  | a, b =>
    match a.number?, b.number? with
    | some x, some y => some (lessNumber x y)
    | _, _ => none

def lessItems? : List Data → List Data → Option Bool
  | _, [] => some false
  | [], _ :: _ => some true
  | a :: as, b :: bs => if a.same b then lessItems? as bs else less? a b

end

end Wirework.Data
