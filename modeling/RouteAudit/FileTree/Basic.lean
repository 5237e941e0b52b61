import RouteAudit.FileTree.Path
import RouteAudit.Text.Quoted

/-!
# File trees

A file tree is files, directories and symbolic links below a root.  A *place* is the list of names
from the root to a node, with no link on the way.

* `FileTree.find` — what a path leads to, links followed, or why it leads nowhere.  Links are
  followed forty times at most, and neither a name nor a path may be too long;
* `FileTree.read`, `FileTree.list` — the bytes of a file, the entries of a directory;
* `FileTree.realPath` — a path without links, which need not lead anywhere;
* `FileTree.here`, `FileTree.resolve` — the working directory, and a path from the root without
  links.

Everything may be read and changed by everyone, and the devices behind the files do not fail.  The
place of the working directory may hold no directory any more.  Nothing is in a directory that was
removed, not even the entries that lead to itself and back, so no path leads anywhere from there.
-/

set_option autoImplicit false

namespace RouteAudit

/-- A file, a directory or a link. -/
inductive Node where
  | file (bytes : List UInt8)
  | dir (entries : List (String × Node))
  | link (target : String)

namespace Node

/-- The entry of a name. -/
def entry? : List (String × Node) → String → Option Node
  | [], _ => none
  | (k, n) :: rest, name => if k = name then some n else entry? rest name

/-- Puts a node under a name. -/
def putEntry (name : String) (n : Node) : List (String × Node) → List (String × Node)
  | [] => [(name, n)]
  | (k, m) :: rest => if k = name then (k, n) :: rest else (k, m) :: putEntry name n rest

/-- The node under a name after it was put there. -/
theorem entry?_putEntry (name : String) (n : Node) (es : List (String × Node)) :
    entry? (putEntry name n es) name = some n := by
  induction es with
  | nil => simp [putEntry, entry?]
  | cons e es ih =>
    obtain ⟨k, m⟩ := e
    by_cases h : k = name <;> simp [putEntry, entry?, h, ih]

/-- The other entries stay. -/
theorem entry?_putEntry_of_ne {name other : String} (h : other ≠ name) (n : Node)
    (es : List (String × Node)) : entry? (putEntry name n es) other = entry? es other := by
  induction es with
  | nil => simp [putEntry, entry?, Ne.symm h]
  | cons e es ih =>
    obtain ⟨k, m⟩ := e
    by_cases hk : k = name
    · subst hk
      simp [putEntry, entry?, Ne.symm h]
    · simp only [putEntry, if_neg hk, entry?, ih]

/-- The node at a place. -/
def at? : Node → List String → Option Node
  | n, [] => some n
  | .dir entries, name :: rest =>
    match entry? entries name with
    | some n => n.at? rest
    | none => none
  | _, _ :: _ => none

/-- Puts a node at a place below a directory that is there. -/
def put (n : Node) : Node → List String → Node
  | _, [] => n
  | .dir entries, [name] => .dir (putEntry name n entries)
  | .dir entries, name :: rest =>
    match entry? entries name with
    | some m => .dir (putEntry name (put n m rest) entries)
    | none => .dir entries
  | m, _ :: _ => m

mutual

/-- How many links there are. -/
def linkCount : Node → Nat
  | .file _ => 0
  | .link _ => 1
  | .dir entries => linkCounts entries

/-- How many links there are among entries. -/
def linkCounts : List (String × Node) → Nat
  | [] => 0
  | (_, n) :: rest => n.linkCount + linkCounts rest

end

end Node

/-- Why a path does not lead to what was asked for. -/
inductive PathFault where
  | missing
  | occupied
  | notDirectory
  | isDirectory
  | nameTooLong
  | tooManyLinks
  /-- The path holds the null character. -/
  | nullCharacter
  deriving DecidableEq, Repr

/-- The number and the words by which systems know a fault.  The null character is found before a
system is asked. -/
def PathFault.words : PathFault → String
  | .missing => "[Errno 2] No such file or directory"
  | .occupied => "[Errno 17] File exists"
  | .notDirectory => "[Errno 20] Not a directory"
  | .isDirectory => "[Errno 21] Is a directory"
  | .nameTooLong => "[Errno 36] File name too long"
  | .tooManyLinks => "[Errno 40] Too many levels of symbolic links"
  | .nullCharacter => "embedded null byte"

/-- A fault of a path. -/
structure FileFault where
  fault : PathFault
  path : Path
  /-- What a link at the path was to lead to. -/
  target : Option String := none
  deriving DecidableEq, Repr

/-- A sentence about the fault. -/
def FileFault.message (f : FileFault) : String :=
  if f.fault = .nullCharacter then f.fault.words
  else
    f.fault.words ++ ": "
      ++ (match f.target with
        | some t => Text.quoted t ++ " -> "
        | none => "")
      ++ Text.quoted f.path.text

/-- What a path leads to. -/
inductive Target where
  /-- A node at a place. -/
  | node (place : List String) (n : Node)
  /-- Nothing, but a directory in which it could be. -/
  | vacant (place : List String)

/-- Files below a root, and the place of the working directory, which may be gone. -/
structure FileTree where
  root : Node
  cwd : List String := []

namespace FileTree

/-- An empty tree. -/
def empty : FileTree := { root := .dir [] }

/-- Where a path starts. -/
def start (t : FileTree) : Anchor → List String
  | .here => t.cwd
  | _ => []

/-- What a path is followed for. -/
inductive Purpose where
  /-- To look at what it leads to. -/
  | look
  /-- To look at what is there itself, also when it is a link. -/
  | lookAtLink
  /-- To write a file.  A link to a path with a slash at its end leads to a directory at best. -/
  | write
  deriving DecidableEq, Repr

/-- The most bytes that a name may have. -/
def maxName : Nat := 255

/-- The most bytes that a path may have. -/
def maxPath : Nat := 4095

/-- Follows the parts of a path from a place.  `jump` follows the parts of a link from where the
link is or from the root, and what comes behind them. -/
def follow (root : Node) (purpose : Purpose)
    (jump : List String → List String → Except PathFault Target) :
    List String → List String → Except PathFault Target
  | place, [] =>
    match root.at? place with
    | some n => .ok (.node place n)
    | none => .error .missing
  | place, part :: rest =>
    match root.at? place with
    | some (.dir entries) =>
      if !Path.isProper part then follow root purpose jump place rest
      else if part = ".." then follow root purpose jump place.dropLast rest
      else if purpose = .write && !rest.isEmpty && rest.all (· == "") then .error .isDirectory
      else if maxName < part.utf8ByteSize then .error .nameTooLong
      else
        match Node.entry? entries part with
        | none => if rest.isEmpty then .ok (.vacant (place ++ [part])) else .error .missing
        | some (.link target) =>
          if rest.isEmpty && purpose = .lookAtLink then .ok (.node (place ++ [part]) (.link target))
          else
            jump (if (Path.ofString target).anchor = .here then place else [])
              (Path.rawParts target ++ rest)
        | some _ => follow root purpose jump (place ++ [part]) rest
    | some _ => .error .notDirectory
    | none => .error .missing

/-- Follows the parts of a path from a place, with a bound on the links. -/
def followWithin (root : Node) (purpose : Purpose) :
    Nat → List String → List String → Except PathFault Target
  | 0 => follow root purpose fun _ _ => .error .tooManyLinks
  | links + 1 => follow root purpose (followWithin root purpose links)

/-- How many links are followed. -/
def maxLinks : Nat := 40

/-- What a path leads to. -/
def find (t : FileTree) (purpose : Purpose) (p : Path) : Except PathFault Target :=
  if p.hasNull then .error .nullCharacter
  else if maxPath < p.text.utf8ByteSize then .error .nameTooLong
  else followWithin t.root purpose maxLinks (t.start p.anchor) p.parts

/-- The node that a path leads to. -/
def stat (t : FileTree) (p : Path) : Except PathFault Node :=
  match t.find .look p with
  | .ok (.node _ n) => .ok n
  | .ok (.vacant _) => .error .missing
  | .error e => .error e

/-- Whether a path leads anywhere. -/
def isThere (t : FileTree) (p : Path) : Bool :=
  match t.stat p with
  | .ok _ => true
  | .error _ => false

/-- Whether a path leads anywhere, which cannot be asked of a path that is too long. -/
def isThere? (t : FileTree) (p : Path) : Except FileFault Bool :=
  match t.stat p with
  | .error .nameTooLong => .error ⟨.nameTooLong, p, none⟩
  | _ => .ok (t.isThere p)

/-- Whether a path leads to a directory. -/
def isDir (t : FileTree) (p : Path) : Bool :=
  match t.stat p with
  | .ok (.dir _) => true
  | _ => false

/-- Whether a path leads to a file. -/
def isFile (t : FileTree) (p : Path) : Bool :=
  match t.stat p with
  | .ok (.file _) => true
  | _ => false

/-- The bytes of a file. -/
def read (t : FileTree) (p : Path) : Except FileFault (List UInt8) :=
  match t.stat p with
  | .ok (.file bytes) => .ok bytes
  | .ok _ => .error ⟨.isDirectory, p, none⟩
  | .error e => .error ⟨e, p, none⟩

/-- The entries of a directory. -/
def list (t : FileTree) (p : Path) : Except FileFault (List (String × Node)) :=
  match t.stat p with
  | .ok (.dir entries) => .ok entries
  | .ok _ => .error ⟨.notDirectory, p, none⟩
  | .error e => .error ⟨e, p, none⟩

/-! ## Paths without links -/

/-- Where following links ended: a place, and whether a link led back to itself.  In that case the
place may have parts that lead nowhere. -/
structure Real where
  place : List String
  looped : Bool := false

/-- The parts behind a place, unless their text begins with a slash: then they start at the root. -/
def joinRest (place : List String) : List String → List String
  | "" :: part :: rest => "" :: part :: rest
  | rest => place ++ rest

/-- Goes along the parts of a path and replaces links by what they lead to.  A part that leads
nowhere is kept.  `jump` does the same for the parts of the link at a place. -/
def unlink (root : Node) (jump : List String → List String → List String → Real)
    (seen : List (List String)) : List String → List String → Real
  | place, [] => ⟨place, false⟩
  | place, part :: rest =>
    if !Path.isProper part then unlink root jump seen place rest
    else if part = ".." then unlink root jump seen place.dropLast rest
    else
      let next := place ++ [part]
      match root.at? next with
      | some (.link target) =>
        if seen.contains next then ⟨joinRest next rest, true⟩
        else
          let real := jump next (if (Path.ofString target).anchor = .here then place else [])
            (Path.rawParts target)
          if real.looped then ⟨joinRest real.place rest, true⟩
          else unlink root jump seen real.place rest
      | _ => unlink root jump seen next rest

/-- Replaces links inside links, down to a depth. -/
def unlinkWithin (root : Node) : Nat → List (List String) → List String → List String → Real
  | 0, _ => unlink root (fun _ place parts => ⟨place ++ parts, true⟩) []
  | depth + 1, seen =>
    unlink root (fun link place parts => unlinkWithin root depth (link :: seen) place parts) seen

/-- Takes parts that lead back or nowhere out of a place, without looking at the tree. -/
def collapse (parts : List String) : List String :=
  parts.foldl
    (fun acc p =>
      if !Path.isProper p then acc else if p = ".." then acc.dropLast else acc ++ [p]) []

/-- A path from the root without links.  A link that leads back to itself is kept. -/
def realPath (t : FileTree) (p : Path) : Path :=
  let real := unlinkWithin t.root (t.root.linkCount + 1) [] (t.start p.anchor) p.parts
  ⟨.root, collapse real.place⟩

/-- Whether the working directory is still there. -/
def hasCwd (t : FileTree) : Bool :=
  match t.root.at? t.cwd with
  | some (.dir _) => true
  | _ => false

/-- Why a path has no form without links. -/
inductive ResolveFault where
  /-- A link leads back to itself. -/
  | loop (path : Path)
  /-- The path holds the null character. -/
  | nullCharacter
  /-- The path starts at the working directory, which is gone. -/
  | noWorkingDirectory
  deriving DecidableEq, Repr

/-- A sentence about the fault. -/
def ResolveFault.message : ResolveFault → String
  | .loop p => "Symlink loop from " ++ Text.quoted p.text
  | .nullCharacter => PathFault.nullCharacter.words
  | .noWorkingDirectory => PathFault.missing.words

/-- The path of the working directory. -/
def here (t : FileTree) : Except ResolveFault Path :=
  if t.hasCwd then .ok ⟨.root, t.cwd⟩ else .error .noWorkingDirectory

/-- The path without links, unless a link leads back to itself.  A path that starts at the working
directory needs the path of that. -/
def resolve (t : FileTree) (p : Path) : Except ResolveFault Path :=
  if p.hasNull then .error .nullCharacter
  else if p.anchor = .here ∧ t.hasCwd = false then .error .noWorkingDirectory
  else
    let real := t.realPath p
    match t.stat real with
    | .error .tooManyLinks => .error (.loop real)
    | _ => .ok real

end FileTree
end RouteAudit
