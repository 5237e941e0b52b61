import RouteAudit.Yaml.Value

/-!
# The order of a set of numbers

The members of a set have no order of their own.  Where a set of numbers is shown, they stand in the
order of a table of places, whose size is a power of two and more than enough for them: a number
goes to the place that its residue modulo `2 ^ 61 - 1` names, and when that is taken, to one of the
places behind it or to another one that follows from the residue.

Members of another kind have no residue, and a set with such a member is shown in the order in which
its members were given.
-/

set_option autoImplicit false

namespace RouteAudit
namespace Yaml
namespace Places

/-- Residues are taken modulo this prime. -/
def modulus : Nat := Nat.pow 2 61 - 1

/-- The residue of a number with its sign, in a word of 64 bits.  Minus one is kept free. -/
def word (negative : Bool) (residue : Nat) : Nat :=
  if !negative || residue = 0 then residue
  else Nat.pow 2 64 - (if residue = 1 then 2 else residue)

/-- The residue of `m * 2 ^ e`. -/
def scaledResidue (m : Nat) (e : Int) : Nat :=
  m % modulus * Nat.pow 2 (Int.emod e 61).toNat % modulus

/-- The residue of a number. -/
def residue? : Value → Option Nat
  | .bool b => some (if b then 1 else 0)
  | .int n => some (word (n < 0) (n.natAbs % modulus))
  | .float (.inf negative) => some (word negative 314159)
  | .float (.finite negative m e) => some (word negative (scaledResidue m e))
  | _ => none

/-- The size of a table for `n` members. -/
def sizeFor (n : Nat) : Nat :=
  if 5 * n < 21 then 8 else Nat.pow 2 ((2 * n).log2 + 1)

/-- The first free place among `count` places from `i` on. -/
def free? {α : Type} (table : Array (Option α)) (i count : Nat) : Option Nat :=
  (List.range count).findSome? fun k =>
    match table[i + k]? with
    | some none => some (i + k)
    | _ => none

/-- The place for a member that looks at place `i` next; `rest` is what is left of its residue. -/
def placeFrom {α : Type} (table : Array (Option α)) : Nat → Nat → Nat → Option Nat
  | 0, _, _ => none
  | fuel + 1, i, rest =>
    match free? table i (if i + 9 < table.size then 10 else 1) with
    | some k => some k
    | none =>
      let rest := rest / 32
      placeFrom table fuel ((i * 5 + 1 + rest) % table.size) rest

/-- Puts a member with its residue into the table. -/
def insert {α : Type} (table : Array (Option α)) (residue : Nat) (a : α) : Array (Option α) :=
  match placeFrom table (table.size + 64) (residue % table.size) residue with
  | some k => table.setIfInBounds k (some a)
  | none => table

/-- The members of a set in the order in which they are shown. -/
def ordered (members : List Value) : List Value :=
  match members.mapM fun v => (residue? v).map fun r => (r, v) with
  | none => members
  | some placed =>
    let empty : Array (Option Value) := Array.replicate (sizeFor members.length) none
    (placed.foldl (fun table e => insert table e.1 e.2) empty).toList.filterMap id

end Places
end Yaml
end RouteAudit
