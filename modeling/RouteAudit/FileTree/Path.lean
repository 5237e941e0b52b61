import RouteAudit.Text.Blank

/-!
# Paths

A path is kept in a normal form: its parts, without the empty ones and those that are a single
point, and where it starts.  Two points are a part like any other, since what they lead to depends
on links.  A path that starts with exactly two slashes keeps both.
-/

set_option autoImplicit false

namespace RouteAudit

/-- Where a path starts. -/
inductive Anchor where
  /-- At the working directory. -/
  | here
  /-- At the root. -/
  | root
  /-- At the root, written with two slashes. -/
  | doubleRoot
  deriving DecidableEq, Repr

/-- A path. -/
structure Path where
  anchor : Anchor
  parts : List String
  deriving DecidableEq, Repr

namespace Path

/-- The parts of a text between slashes, the empty ones included. -/
def rawParts (s : String) : List String :=
  (Text.splitAt (· == '/') s.toList).map String.ofList

/-- Whether a part leads anywhere. -/
def isProper (part : String) : Bool := part != "" && part != "."

/-- Where a text starts, read as a path. -/
def anchorOf : List Char → Anchor
  | ['/', '/'] => .doubleRoot
  | '/' :: '/' :: c :: _ => if c = '/' then .root else .doubleRoot
  | '/' :: _ => .root
  | _ => .here

/-- The path that a text stands for. -/
def ofString (s : String) : Path := ⟨anchorOf s.toList, (rawParts s).filter isProper⟩

/-- The text of a path. -/
def text (p : Path) : String :=
  let body := "/".intercalate p.parts
  match p.anchor with
  | .here => if p.parts.isEmpty then "." else body
  | .root => "/" ++ body
  | .doubleRoot => "//" ++ body

/-- The path without its last part. -/
def parent (p : Path) : Path := { p with parts := p.parts.dropLast }

/-- The path with one part more. -/
def child (p : Path) (name : String) : Path := { p with parts := p.parts ++ [name] }

/-- The path of `q` seen from `p`, or `q` itself where it starts at the root. -/
def join (p q : Path) : Path :=
  match q.anchor with
  | .here => { p with parts := p.parts ++ q.parts }
  | _ => q

/-- The parts behind those of `base`. -/
def dropParts : (base parts : List String) → Option (List String)
  | [], ps => some ps
  | b :: bs, p :: ps => if b = p then dropParts bs ps else none
  | _ :: _, [] => none

/-- Whether the path holds the null character, which no path of a system can. -/
def hasNull (p : Path) : Bool := p.parts.any fun part => part.toList.contains '\x00'

/-- The way from `base` to the path, if the path begins with `base`. -/
def relativeTo? (p base : Path) : Option Path :=
  if p.anchor = base.anchor then (dropParts base.parts p.parts).map (Path.mk .here) else none

/-- A path below a directory leads there by its name. -/
theorem dropParts_append (bs ps : List String) : dropParts bs (bs ++ ps) = some ps := by
  induction bs with
  | nil => cases ps <;> rfl
  | cons b bs ih => simpa [dropParts] using ih

/-- The way from a directory to what lies below it. -/
theorem relativeTo?_append (a : Anchor) (bs ps : List String) :
    relativeTo? ⟨a, bs ++ ps⟩ ⟨a, bs⟩ = some ⟨.here, ps⟩ := by
  simp [relativeTo?, dropParts_append]

end Path
end RouteAudit
