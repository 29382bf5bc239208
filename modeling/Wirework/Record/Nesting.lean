import Wirework.Project.Graph

/-!
# Nesting

How deep values lie inside each other when they are written. A plain value is one level deep, and
each list, map, setting or type adds one around its parts. Main definition: `Graph.isShallow`, which
holds if a whole project can be written.
-/

namespace Wirework

/-- The deepest nesting that can be written. -/
def nestingLimit : Nat := 255

/-! ## Settings and types -/

namespace Setting

mutual

def contentNesting : Setting → Nat
  | .array items => itemsNesting items + 1
  | .object entries => entriesNesting entries + 1
  | _ => 1

def itemsNesting : List Setting → Nat
  | [] => 0
  | v :: rest => max (v.contentNesting + 1) (itemsNesting rest)

def entriesNesting : List (String × Setting) → Nat
  | [] => 0
  | (_, v) :: rest => max (v.contentNesting + 1) (entriesNesting rest)

end

def nesting (v : Setting) : Nat := v.contentNesting + 1

end Setting

namespace DataType

mutual

def nesting : DataType → Nat
  | .scalar _ extra => surplusNesting extra + 1
  | .wrap _ t extra => max t.nesting (surplusNesting extra) + 1
  | .map k v extra => max (max k.nesting v.nesting) (surplusNesting extra) + 1
  | .named _ _ extra => surplusNesting extra + 1
  | .custom _ _ extra => surplusNesting extra + 1

def surplusNesting : Surplus → Nat
  | .none => 0
  | .type _ t rest => max t.nesting (surplusNesting rest)
  | .text _ _ rest => surplusNesting rest

end

end DataType

/-! ## Free-form data -/

namespace Data

mutual

def nesting : Data → Nat
  | .list items => itemsNesting items + 1
  | .tuple items => itemsNesting items + 1
  | .object entries => entriesNesting entries + 1
  | .mapping pairs => pairsNesting pairs + 1
  | .member _ _ value => value.nesting + 1
  | .setting v => v.nesting + 1
  | _ => 1

def itemsNesting : List Data → Nat
  | [] => 0
  | d :: rest => max d.nesting (itemsNesting rest)

def entriesNesting : List (String × Data) → Nat
  | [] => 0
  | (_, d) :: rest => max d.nesting (entriesNesting rest)

def pairsNesting : List (Data × Data) → Nat
  | [] => 0
  | (_, d) :: rest => max d.nesting (pairsNesting rest)

end

end Data

/-! ## Projects -/

/-- Whether every value of a dictionary is within the limit. -/
def Dict.isShallow (nesting : α → Nat) (d : Dict α) : Bool :=
  d.values.all fun a => nesting a ≤ nestingLimit

def Setting.entryNesting (v : Setting) : Nat := v.nesting + 1

/-- Whether a type and a setting that are entries of a record are within the limit. -/
def isShallowPair (t : DataType) (v : Option Setting) : Bool :=
  t.nesting < nestingLimit && v.all fun v => v.entryNesting ≤ nestingLimit

def Field.isShallow (f : Field) : Bool :=
  isShallowPair f.dataType f.defaultValue && f.metadata.isShallow Data.nesting

def Port.isShallow (p : Port) : Bool := isShallowPair p.dataType p.defaultValue

def Node.isShallow (n : Node) : Bool :=
  n.fields.all Field.isShallow && n.ports.all.all Port.isShallow
    && n.config.isShallow Setting.entryNesting && n.metadata.isShallow Data.nesting

def About.isShallow (a : About) : Bool :=
  a.metadata.isShallow Data.nesting
    && a.domains.values.all fun d => d.settings.isShallow Setting.entryNesting

/-- Whether everything in a project is within the limit. -/
def Graph.isShallow (g : Graph) : Bool :=
  g.about.isShallow && g.nodes.values.all Node.isShallow
    && g.edges.values.all (fun e => e.metadata.isShallow Data.nesting)
    && g.groups.values.all (fun x => x.metadata.isShallow Data.nesting)

end Wirework
