import RouteAudit.FileTree.Basic
import RouteAudit.Log
import RouteAudit.RouteFile

/-!
# Walking a file tree

`FileTree.walk` goes through the directories below a start, directories and files together in the
order of their names, and says what it comes upon: route files, and directories that cannot be
listed.  Every directory is listed by its path, so one that lies too deep to be named is left out
like any other that cannot be listed, and the walk goes on behind it.  Directories whose files are
not the project's own are left out, and so is whatever lies behind a link to a directory; a link
with the name of a route file counts as one.

* `FileTree.walk`, `FileTree.routeFiles` — all that a walk comes upon, and the route files of it;
* `FileTree.filesBelow` — all files below a directory.
-/

set_option autoImplicit false

namespace RouteAudit

/-- Entries in the order of their names. -/
def inNameOrder {α : Type} (es : List (String × α)) : List (String × α) :=
  es.mergeSort fun a b => decide (a.1 ≤ b.1)

/-- Putting entries in order keeps them. -/
theorem inNameOrder_perm {α : Type} (es : List (String × α)) : (inNameOrder es).Perm es :=
  List.mergeSort_perm es _

/-- What a walk comes upon. -/
inductive Sighting where
  /-- A route file. -/
  | routeFile (p : Path)
  /-- A directory that cannot be listed. -/
  | unlisted (f : FileFault)
  deriving DecidableEq, Repr

namespace Sighting

/-- The path of a route file. -/
def routeFile? : Sighting → Option Path
  | .routeFile p => some p
  | .unlisted _ => none

/-- What there is to say about a directory that cannot be listed. -/
def warning? : Sighting → Option LogLine
  | .routeFile _ => none
  | .unlisted f =>
    some ⟨.warning, LogLine.engine, "Error reading directory " ++ f.path.text ++ ": " ++ f.message⟩

end Sighting

namespace Node

mutual

/-- What a walk comes upon at an entry of the directory `here`, and below it. -/
def visit (t : FileTree) (here : Path) (name : String) : Node → List Sighting
  | .dir entries =>
    if isSkipped name then []
    else
      match t.list (here.child name) with
      | .ok _ => (inNameOrder (visits t (here.child name) entries)).flatMap Prod.snd
      | .error f => [.unlisted f]
  | _ => if isRouteFile name then [.routeFile (here.child name)] else []

/-- What a walk comes upon at each entry of the directory `here`. -/
def visits (t : FileTree) (here : Path) : List (String × Node) → List (String × List Sighting)
  | [] => []
  | (name, n) :: rest => (name, visit t here name n) :: visits t here rest

end

mutual

/-- The places of all nodes below a node that are not directories. -/
def leaves (place : List String) : Node → List (List String)
  | .dir entries => entryLeaves place entries
  | _ => [place]

/-- The places of all nodes below entries that are not directories. -/
def entryLeaves (place : List String) : List (String × Node) → List (List String)
  | [] => []
  | (name, n) :: rest => n.leaves (place ++ [name]) ++ entryLeaves place rest

end

end Node

namespace FileTree

/-- What a walk comes upon below a directory. -/
def walk (t : FileTree) (start : Path) : List Sighting :=
  match t.list start with
  | .ok entries => (inNameOrder (Node.visits t start entries)).flatMap Prod.snd
  | .error f => [.unlisted f]

/-- The route files below a directory. -/
def routeFiles (t : FileTree) (start : Path) : List Path :=
  (t.walk start).filterMap Sighting.routeFile?

/-- The route files below a directory that is named from outside, whose path may be none at all,
and what there is to say on the way. -/
def routeFiles? (t : FileTree) (start : Path) : Except FileFault (List Path × List LogLine) :=
  if start.hasNull then .error ⟨.nullCharacter, start, none⟩
  else .ok (t.routeFiles start, (t.walk start).filterMap Sighting.warning?)

/-- The files below a place and the links to them, in the order of their paths.  Links to
directories do not count. -/
def filesBelow (t : FileTree) (place : List String) : List String :=
  match t.root.at? place with
  | some n =>
    let files := (n.leaves []).filter fun ps => !t.isDir ⟨.root, place ++ ps⟩
    (files.map fun ps => "/".intercalate ps).mergeSort fun a b => decide (a ≤ b)
  | none => []

end FileTree
end RouteAudit
