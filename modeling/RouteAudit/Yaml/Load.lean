import RouteAudit.Yaml.Build

/-!
# The value of a text

`load` reads a text as one value.  Its parts are given a meaning only after the whole text was found
to be well formed.

The parts form a graph, and a value is a tree, so a part is written out wherever it is used.  A
collection that is met again on the way into itself ends there and becomes a knot.  A part that does
not depend on where it stands is written out once and kept.
-/

set_option autoImplicit false

namespace RouteAudit
namespace Yaml

/-- The values that were written out for good, by the number of their nodes. -/
abbrev Kept := Array (Option Value)

/-- A part that was written out: its value, and the marks of the collections around it that come up
in it. -/
structure Written where
  value : Value
  loose : List Nat

namespace Written

/-- A value that stands for itself. -/
def closed (v : Value) : Written := ⟨v, []⟩

/-- Closes a collection: it is a knot if it comes up in itself. -/
def close (mark : Nat) (w : Written) : Written :=
  if w.loose.contains mark then ⟨.knot mark w.value, w.loose.filter (· != mark)⟩ else w

end Written

namespace Parts

/-- Writes out parts in order with `write`. -/
def writeAll (write : Nat → Kept → Written × Kept) (is : List Nat) (kept : Kept) :
    List Value × List Nat × Kept :=
  let (vs, marks, kept) := is.foldl
    (fun (acc : List Value × List Nat × Kept) i =>
      let (w, kept) := write i acc.2.2
      (w.value :: acc.1, w.loose ++ acc.2.1, kept))
    ([], [], kept)
  (vs.reverse, marks, kept)

/-- The pairs of a list of values, two by two. -/
def pairsOf : List Value → List (Value × Value)
  | a :: b :: rest => (a, b) :: pairsOf rest
  | _ => []

/-- Writes out what a node was made into with `write` for the parts of a collection. -/
def writePart (write : Nat → Kept → Written × Kept) (part : Part) (kept : Kept) :
    Written × Kept :=
  match part with
  | .scalar v => (.closed v, kept)
  | .set items => (.closed (.set items), kept)
  | .list items =>
    let (vs, marks, kept) := writeAll write items kept
    (⟨.list vs, marks⟩, kept)
  | .pairs items =>
    let (vs, marks, kept) := writeAll write (items.flatMap fun e => [e.1, e.2]) kept
    (⟨.list ((pairsOf vs).map fun e => .pair e.1 e.2), marks⟩, kept)
  | .map entries =>
    let (vs, marks, kept) := writeAll write (entries.map Prod.snd) kept
    (⟨.map ((entries.map Prod.fst).zip vs), marks⟩, kept)

/-- Whether a node was made into a map. -/
def isMap (p : Parts) (i : Nat) : Bool :=
  match p.made[i]? with
  | some (some (.map _)) => true
  | _ => false

/-- Writes out the part of a node, inside the collections with the given marks. -/
def write (p : Parts) : Nat → List Nat → Nat → Kept → Written × Kept
  | 0, _, _, kept => (.closed .null, kept)
  | depth + 1, marks, i, kept =>
    if marks.contains i then (⟨.within i (p.isMap i), [i]⟩, kept)
    else
      match kept[i]?, p.made[i]? with
      | some (some v), _ => (.closed v, kept)
      | _, some (some part) =>
        let (w, kept) := writePart (write p depth (i :: marks)) part kept
        let w := w.close i
        (w, if w.loose.isEmpty then kept.setIfInBounds i (some w.value) else kept)
      | _, _ => (.closed .null, kept)

/-- The value of a node. -/
def value (p : Parts) (i : Nat) : Value :=
  (p.write (p.nodes.size + 1) [] i (Array.replicate p.nodes.size none)).1.value

end Parts

/-- The value of a text.  A text without a document is null. -/
def load (text : List Char) : Except Fault Value := do
  match ← Reader.document (tokenize text) with
  | none => return .null
  | some g => return (← Parts.ofGraph g).value g.root

end Yaml
end RouteAudit
