/-!
# Sorting by a comparison that may fail

`Sorting.sort` finds the longest ordered start of a list, turns it round if it is a descending one,
and puts the items behind it into their places one by one, each by a binary search. Equal items keep
their order. Where the comparison has no answer, the sort stops, and the items stay in the order that
was reached. Where it is no order at all, the result is still the list that these steps lead to.
-/

namespace Wirework.Sorting

/-- The items of a list in the order that a sort has reached. -/
structure Sorted (α : Type) where
  items : List α
  /-- Whether every comparison had an answer. -/
  isComplete : Bool

/-- The items that continue a run: each of them is less than the one before it if the run descends,
and is not less if it ascends. -/
def extend (less? : α → α → Option Bool) (descends : Bool) (last : α) :
    List α → Option (List α × List α)
  | [] => some ([], [])
  | x :: rest =>
    match less? x last with
    | none => none
    | some isLess =>
      if isLess = descends then
        (extend less? descends x rest).map fun (run, others) => (x :: run, others)
      else some ([], x :: rest)

/-- The run at the start of a list, in ascending order, and the rest. -/
def firstRun (less? : α → α → Option Bool) : List α → Option (List α × List α)
  | x :: y :: rest =>
    match less? y x with
    | none => none
    | some descends =>
      (extend less? descends y rest).map fun (run, others) =>
        (if descends then (x :: y :: run).reverse else x :: y :: run, others)
  | xs => some (xs, [])

/-- How many of the items from `low` to `high` stand before a new one, by a binary search. -/
def place (less? : α → α → Option Bool) (x : α) (items : List α) (low high : Nat) : Option Nat :=
  if low < high then
    let middle := low + (high - low) / 2
    match items[middle]? with
    | none => some low
    | some y =>
      match less? x y with
      | none => none
      | some true => place less? x items low middle
      | some false => place less? x items (middle + 1) high
  else some low
termination_by high - low

/-- Puts items into their places among those that are in order. -/
def insertAll (less? : α → α → Option Bool) (done : List α) : List α → Sorted α
  | [] => ⟨done, true⟩
  | x :: rest =>
    match place less? x done 0 done.length with
    | none => ⟨done ++ x :: rest, false⟩
    | some n => insertAll less? (done.take n ++ x :: done.drop n) rest

def sort (less? : α → α → Option Bool) (xs : List α) : Sorted α :=
  match firstRun less? xs with
  | none => ⟨xs, false⟩
  | some (run, rest) => insertAll less? run rest

end Wirework.Sorting
