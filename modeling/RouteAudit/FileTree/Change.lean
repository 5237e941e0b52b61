import RouteAudit.FileTree.Basic

/-!
# Changing a file tree

Making directories, files and links.  An operation that fails leaves the tree as it was, except that
making a directory with its parents may have made some of the parents.
-/

set_option autoImplicit false

namespace RouteAudit
namespace FileTree

/-- Puts a node at a place. -/
def putAt (t : FileTree) (place : List String) (n : Node) : FileTree :=
  { t with root := Node.put n t.root place }

/-- Makes a directory or a link where nothing is yet. -/
def make (t : FileTree) (p : Path) (n : Node) : Except FileFault FileTree :=
  match t.find .lookAtLink p with
  | .ok (.vacant place) => .ok (t.putAt place n)
  | .ok (.node _ _) => .error ⟨.occupied, p, none⟩
  | .error e => .error ⟨e, p, none⟩

/-- Makes a directory that may be there already, without its parents. -/
def makeDir (t : FileTree) (p : Path) : FileTree × Option FileFault :=
  match t.make p (.dir []) with
  | .ok t' => (t', none)
  | .error e => if t.isDir p then (t, none) else (t, some e)

/-- Makes the directory of some parts, which may be there already, and its parents.  The parts are
given last one first. -/
def makeDirsOf (anchor : Anchor) : List String → FileTree → FileTree × Option FileFault
  | [], t => t.makeDir ⟨anchor, []⟩
  | part :: outer, t =>
    let p : Path := ⟨anchor, (part :: outer).reverse⟩
    match t.make p (.dir []) with
    | .ok t' => (t', none)
    | .error e =>
      if e.fault = .missing then
        match makeDirsOf anchor outer t with
        | (t, none) => t.makeDir p
        | (t, some f) => (t, some f)
      else if t.isDir p then (t, none)
      else (t, some e)

/-- Makes a directory, which may be there already, and its parents. -/
def makeDirs (t : FileTree) (p : Path) : FileTree × Option FileFault :=
  makeDirsOf p.anchor p.parts.reverse t

/-- Writes a file, in place of the one that may be there.  A link is followed, also to where nothing
is yet.  Opening the file, which empties it, and writing are one step: there is room for the bytes,
and nothing fails in between. -/
def write (t : FileTree) (p : Path) (bytes : List UInt8) : Except FileFault FileTree :=
  match t.find .write p with
  | .ok (.node _ (.dir _)) => .error ⟨.isDirectory, p, none⟩
  | .ok (.node place _) => .ok (t.putAt place (.file bytes))
  | .ok (.vacant place) => .ok (t.putAt place (.file bytes))
  | .error e => .error ⟨e, p, none⟩

/-- Makes a link where nothing is yet.  It has to lead somewhere, if only by its text. -/
def makeLink (t : FileTree) (p : Path) (target : String) : Except FileFault FileTree :=
  if target.toList.contains '\x00' then .error ⟨.nullCharacter, p, some target⟩
  else if target = "" then .error ⟨.missing, p, some target⟩
  else if maxPath < target.utf8ByteSize then .error ⟨.nameTooLong, p, some target⟩
  else
    match t.make p (.link target) with
    | .ok t => .ok t
    | .error f => .error { f with target := some target }

/-- Makes the directory of some parts, which may be there already, and before it the one around it,
if that leads nowhere.  The parts are given last one first. -/
def ensureDirsOf (anchor : Anchor) : List String → FileTree → FileTree × Option FileFault
  | [], t => t.makeDir ⟨anchor, []⟩
  | part :: outer, t =>
    let (t, fault) :=
      if t.isThere ⟨anchor, outer.reverse⟩ then (t, none) else ensureDirsOf anchor outer t
    let p : Path := ⟨anchor, (part :: outer).reverse⟩
    match fault with
    | some f => if f.fault = .occupied then t.makeDir p else (t, some f)
    | none => t.makeDir p

/-- Puts a file, a directory or a link into the tree, with the directories around it. -/
def plant (t : FileTree) (p : Path) (n : Node) : FileTree × Option FileFault :=
  match n with
  | .dir _ => ensureDirsOf p.anchor p.parts.reverse t
  | _ =>
    match ensureDirsOf p.anchor p.parent.parts.reverse t with
    | (t, some f) => (t, some f)
    | (t, none) =>
      let changed :=
        match n with
        | .file bytes => t.write p bytes
        | .link target => t.makeLink p target
        | .dir _ => .ok t
      match changed with
      | .ok t => (t, none)
      | .error f => (t, some f)

end FileTree
end RouteAudit
