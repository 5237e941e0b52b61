import RouteAudit.Yaml.Meaning
import RouteAudit.Yaml.Merge
import RouteAudit.Yaml.Places

/-!
# What the nodes of a document are made into

The nodes of a document are made into parts of a value, the outermost first.  A scalar is made at
once.  A collection is made empty and waits for its turn to be filled, in the order in which
collections come up.  So of several faults the one that lies the least deep is reported, and of
those the first; and whether a key can be compared is known before its own parts are looked at.

`Parts.ofGraph` makes everything that the outermost node needs.
-/

set_option autoImplicit false

namespace RouteAudit
namespace Yaml

/-- What a node was made into; collections hold the numbers of other nodes. -/
inductive Part where
  | scalar (v : Value)
  | list (items : List Nat)
  | pairs (items : List (Nat × Nat))
  | set (items : List Value)
  | map (entries : List (Value × Nat))

/-- The state of making parts. -/
structure Parts where
  nodes : Nodes
  /-- A bound on how many mappings take over from one another. -/
  mergeDepth : Nat
  /-- What the nodes were made into so far. -/
  made : Array (Option Part)
  /-- The collections in the order in which they came up. -/
  waiting : Array Nat := #[]

namespace Parts

/-- The text of a node that stands for a scalar: its own, or for a mapping that of its value key. -/
def scalarText? (ns : Nodes) : Nat → Nat → Option (List CodePoint)
  | 0, _ => none
  | fuel + 1, i =>
    match ns.content i with
    | .scalar text => some text
    | .seq _ => none
    | .map es =>
      match es.find? fun e => ns.tag e.1 = .value with
      | some (_, v) => scalarText? ns fuel v
      | none => none

/-- Whether a node is a scalar itself. -/
def isScalar (ns : Nodes) (i : Nat) : Bool :=
  match ns.content i with
  | .scalar _ => true
  | _ => false

/-- The empty collection of a tag. -/
def empty? : Tag → Option Part
  | .seq => some (.list [])
  | .omap => some (.pairs [])
  | .pairs => some (.pairs [])
  | .set => some (.set [])
  | .map => some (.map [])
  | _ => none

/-- The value of a node whose tag is not one of a collection. -/
def scalarValue (ns : Nodes) (i : Nat) : Except Fault Value :=
  match scalarMeaning? i (ns.tag i) [] with
  | none => .error (.malformed "no value for the tag")
  | some _ =>
    match scalarText? ns (ns.size + 1) i with
    | none => .error (.malformed "collection for a scalar")
    | some text =>
      if ns.tag i = .timestamp && !isScalar ns i then .error .momentOfMapping
      else (scalarMeaning? i (ns.tag i) text).getD (.error (.malformed "no value for the tag"))

/-- Sets what a node was made into. -/
def put (p : Parts) (i : Nat) (part : Part) : Parts :=
  { p with made := p.made.setIfInBounds i (some part) }

/-- Makes a node, unless it was made before. -/
def make (p : Parts) (i : Nat) : Except Fault Parts :=
  match p.made[i]? with
  | some none =>
    match empty? (p.nodes.tag i) with
    | some part => .ok { p.put i part with waiting := p.waiting.push i }
    | none => (scalarValue p.nodes i).map fun v => p.put i (.scalar v)
  | _ => .ok p

/-- Makes nodes in order. -/
def makeAll (p : Parts) (is : List Nat) : Except Fault Parts := is.foldlM make p

/-- Makes a node that is a key: its value. -/
def makeKey (p : Parts) (i : Nat) : Except Fault (Value × Parts) := do
  let p ← p.make i
  match p.made[i]? with
  | some (some (.scalar v)) => return (v, p)
  | _ => throw (.malformed "key of a mapping")

/-- Makes the entries of a mapping in order.  A key that comes up again keeps its place. -/
def makeEntries : List (Nat × Nat) → List (Value × Nat) → Parts →
    Except Fault (List (Value × Nat) × Parts)
  | [], acc, p => .ok (acc, p)
  | (k, v) :: es, acc, p => do
    let (key, p) ← p.makeKey k
    let p ← p.make v
    makeEntries es (Value.put acc key v) p

/-- Makes the entries of a mapping and those that it takes over. -/
def makeMapping (p : Parts) (i : Nat) : Except Fault (List (Value × Nat) × Parts) :=
  match p.nodes.content i with
  | .map _ => do
    let nodes ← Nodes.flattenIn p.mergeDepth i p.nodes
    makeEntries (nodes.entries i) [] { p with nodes }
  | _ => .error (.malformed "no mapping")

/-- Makes the pairs of a list of mappings with one entry each. -/
def makePairs : List Nat → Parts → Except Fault (List (Nat × Nat) × Parts)
  | [], p => .ok ([], p)
  | i :: is, p =>
    match p.nodes.content i with
    | .map [(k, v)] => do
      let p ← p.make k
      let p ← p.make v
      let (rest, p) ← makePairs is p
      return ((k, v) :: rest, p)
    | _ => .error (.malformed "not a mapping with one entry")

/-- Fills a collection that was made empty. -/
def fill (p : Parts) (i : Nat) : Except Fault Parts :=
  match p.nodes.tag i, p.nodes.content i with
  | .seq, .seq items => do
    let p ← p.makeAll items
    return p.put i (.list items)
  | .omap, .seq items => do
    let (pairs, p) ← makePairs items p
    return p.put i (.pairs pairs)
  | .pairs, .seq items => do
    let (pairs, p) ← makePairs items p
    return p.put i (.pairs pairs)
  | .set, _ => do
    let (entries, p) ← p.makeMapping i
    return p.put i (.set (Places.ordered (entries.map Prod.fst)))
  | .map, _ => do
    let (entries, p) ← p.makeMapping i
    return p.put i (.map entries)
  | _, _ => .error (.malformed "no sequence")

/-- Fills the waiting collections from the one with number `k` on. -/
def fillAll : Nat → Nat → Parts → Except Fault Parts
  | 0, _, p => .ok p
  | fuel + 1, k, p =>
    match p.waiting[k]? with
    | none => .ok p
    | some i =>
      match p.fill i with
      | .error e => .error e
      | .ok p => fillAll fuel (k + 1) p

/-- Everything that the outermost node of a document needs. -/
def ofGraph (g : Graph) : Except Fault Parts := do
  let start : Parts :=
    { nodes := g.nodes
      mergeDepth := Nodes.mergeCount g.nodes + 1
      made := Array.replicate g.nodes.size none }
  let p ← start.make g.root
  fillAll (g.nodes.size + 1) 0 p

end Parts
end Yaml
end RouteAudit
