import RouteAudit.Yaml.Node

/-!
# Merge keys

A mapping can take over the entries of others by the merge key.  What it takes over comes first, and
its own entries win.  The merge key's value is a mapping, or a sequence of mappings of which the
first wins.

`Nodes.flattenIn` brings a mapping into a form without merge keys, and the mappings that it takes
from before it.  A mapping may be on the way to take over from itself; a merge key is gone as soon
as it has been looked at, so that this comes to an end.  The value key becomes an ordinary text key
by it.
-/

set_option autoImplicit false

namespace RouteAudit
namespace Yaml

/-- Nodes by their numbers. -/
abbrev Nodes := Array Node

namespace Nodes

/-- The tag of a node. -/
def tag (ns : Nodes) (i : Nat) : Tag := (ns[i]?.map Node.tag).getD .null

/-- What a node holds. -/
def content (ns : Nodes) (i : Nat) : Content := (ns[i]?.map Node.content).getD (.scalar [])

/-- The entries of a mapping. -/
def entries (ns : Nodes) (i : Nat) : List (Nat × Nat) :=
  match ns.content i with
  | .map es => es
  | _ => []

/-- The nodes with other entries for a mapping. -/
def setEntries (ns : Nodes) (i : Nat) (es : List (Nat × Nat)) : Nodes :=
  ns.setIfInBounds i ⟨ns.tag i, .map es⟩

/-- The nodes with another tag for one of them. -/
def setTag (ns : Nodes) (i : Nat) (t : Tag) : Nodes := ns.setIfInBounds i ⟨t, ns.content i⟩

/-- How many entries have the merge key.  No more mappings than that can take over from one another
in a row. -/
def mergeCount (ns : Nodes) : Nat :=
  ns.foldl (fun n node =>
    match node.content with
    | .map es => n + (es.filter fun e => ns.tag e.1 = .merge).length
    | _ => n) 0

/-- Applies `flatten` to mappings: the entries that are taken over from them, those of the last one
first. -/
def takeAll (flatten : Nat → Nodes → Except Fault Nodes) :
    List Nat → Nodes → Except Fault (List (Nat × Nat) × Nodes)
  | [], ns => .ok ([], ns)
  | i :: is, ns =>
    match ns.content i with
    | .map _ => do
      let ns ← flatten i ns
      let mine := ns.entries i
      let (later, ns) ← takeAll flatten is ns
      return (later ++ mine, ns)
    | _ => .error (.malformed "nothing to merge")

/-- What a mapping takes over from the value of a merge key. -/
def takeFrom (flatten : Nat → Nodes → Except Fault Nodes) (v : Nat) (ns : Nodes) :
    Except Fault (List (Nat × Nat) × Nodes) :=
  match ns.content v with
  | .map _ => do
    let ns ← flatten v ns
    return (ns.entries v, ns)
  | .seq items => takeAll flatten items ns
  | .scalar _ => .error (.malformed "nothing to merge")

/-- Goes through the entries of the mapping `i` from the one with number `j` on, and removes the
merge keys: what is taken over for them. -/
def removeMerges (flatten : Nat → Nodes → Except Fault Nodes) (i : Nat) :
    Nat → Nat → List (Nat × Nat) → Nodes → Except Fault (List (Nat × Nat) × Nodes)
  | 0, _, taken, ns => .ok (taken, ns)
  | rounds + 1, j, taken, ns =>
    match (ns.entries i)[j]? with
    | none => .ok (taken, ns)
    | some (k, v) =>
      if ns.tag k = .merge then do
        let (more, ns) ← takeFrom flatten v (ns.setEntries i ((ns.entries i).eraseIdx j))
        removeMerges flatten i rounds j (taken ++ more) ns
      else
        removeMerges flatten i rounds (j + 1) taken
          (if ns.tag k = .value then ns.setTag k .str else ns)

/-- Brings a mapping into a form without merge keys, through at most `depth` mappings in one
another. -/
def flattenIn : Nat → Nat → Nodes → Except Fault Nodes
  | 0, _, _ => .error (.malformed "endless merging")
  | depth + 1, i, ns => do
    let (taken, ns) ← removeMerges (flattenIn depth) i ((ns.entries i).length + 1) 0 [] ns
    return if taken.isEmpty then ns else ns.setEntries i (taken ++ ns.entries i)

end Nodes
end Yaml
end RouteAudit
