import RouteAudit.CommandLine.Run
import Std.Time

/-!
# The program

Reads what a run needs to know of the files of the system into a file tree, runs, prints, and writes
the report.  Only route files are read, and only below the directory that the run is about.
-/

set_option autoImplicit false

namespace RouteAudit
namespace Main

/-- A target that leads nowhere: no file has this name. -/
def nowhere : String := "\x00"

/-- A path of the system. -/
def systemPath (p : Path) := IO.FS.DirEntry.path ⟨".", p.text⟩

/-- The node of a route file.  A link that leads to itself stands for one that is there, but cannot
be read. -/
def routeFileNode (e : IO.FS.DirEntry) : IO Node :=
  tryCatch (return .file (← IO.FS.readBinFile e.path).toList) fun
    | .noFileOrDirectory .. => return .link nowhere
    | _ => return .link e.fileName

/-- The node of a link.  One with the name of a route file is read, since it counts as one, and no
other link is ever followed. -/
def linkNode (e : IO.FS.DirEntry) : IO Node := do
  if !isRouteFile e.fileName then return .link nowhere
  if ← e.path.isDir then return .link "/"
  routeFileNode e

/-- Says that a directory cannot be read, at a time of the day, and goes on without its entries. -/
def unreadable (time name : String) (e : IO.Error) : IO (Array IO.FS.DirEntry) := do
  let reason :=
    match e with
    | .permissionDenied .. => "[Errno 13] Permission denied: " ++ Text.quoted name
    | e => toString e
  let line : LogLine :=
    ⟨.warning, LogLine.engine, "Error reading directory " ++ name ++ ": " ++ reason⟩
  IO.eprint (line.stamped time)
  return #[]

/-- The node of an entry of a directory. -/
partial def entryNode (time : String) (e : IO.FS.DirEntry) : IO (String × Node) := do
  let m ← e.path.symlinkMetadata
  match m.type with
  | .dir =>
    if isSkipped e.fileName then return (e.fileName, .dir [])
    let entries ← tryCatch e.path.readDir (unreadable time e.path.toString)
    return (e.fileName, .dir (← entries.toList.mapM (entryNode time)))
  | .symlink => return (e.fileName, ← linkNode e)
  | _ =>
    if isRouteFile e.fileName then return (e.fileName, ← routeFileNode e)
    else return (e.fileName, .file [])

/-- Adds the directory that a run is about.  Where its path has links, it is put where they lead,
and a link stands for them; links that go around are a link to itself. -/
def addDirectory (time : String) (t : FileTree) (path : Path) : IO FileTree := do
  let there := systemPath path
  if ← there.isDir then
    let real ← IO.FS.realPath there
    let entries ← tryCatch real.readDir (unreadable time real.toString)
    let nodes ← entries.toList.mapM (entryNode time)
    let place := Path.ofString real.toString
    let t := (t.plant place (.dir [])).1.putAt place.parts (.dir nodes)
    if t.isDir path then return t else return (t.plant path (.link real.toString)).1
  else
    tryCatch
      (do
        discard there.metadata
        return (t.plant path (.file [])).1)
      fun
      | .invalidArgument .. => return (t.plant path (.link (path.parts.getLastD ""))).1
      | _ => return t

/-- Adds a path and those that lead to it, without what is in them. -/
def addPlace (t : FileTree) (place : Path) : IO FileTree :=
  (List.range (place.parts.length + 1)).foldlM
    (fun t n => do
      let p : Path := { place with parts := place.parts.take n }
      let there := systemPath p
      if t.isThere p then return t
      else if ← there.isDir then return (t.plant p (.dir [])).1
      else if ← there.pathExists then return (t.plant p (.file [])).1
      else return t)
    t

/-- A tree with nothing but the working directory, if that is still there. -/
def startTree : IO FileTree :=
  tryCatch
    (do
      let cwd := Path.ofString (← IO.currentDir).toString
      return { (FileTree.empty.plant cwd (.dir [])).1 with cwd := cwd.parts })
    fun _ => return { FileTree.empty with cwd := [nowhere] }

/-- The files that a run looks at.  Nothing is where the working directory was. -/
def filesFor (time : String) (output : Option String) (args : List String) : IO FileTree := do
  let t ← startTree
  let add (path : Path) (more : FileTree → IO FileTree) (t : FileTree) :=
    if path.anchor = .here && !t.hasCwd then return t else more t
  match CommandLine.Setup.interest? output args with
  | none => return t
  | some (directory, place) =>
    let path := Path.ofString (directory.getD "")
    let t ← add path (addDirectory time · path) t
    add place (addPlace · place) t

/-- The texts for the present time. -/
def clockNow : IO CommandLine.Clock := do
  let utc := Std.Time.DateTime.ofTimestampWithZone (← Std.Time.Timestamp.now) Std.Time.TimeZone.UTC
  let here ← Std.Time.PlainDateTime.now
  return {
    timestamp := utc.format "uuuu-MM-dd'T'HH:mm:ss.SSS'Z'"
    generated := here.format "uuuu-MM-dd HH:mm:ss"
    time := here.format "HH:mm:ss" }

/-- Writes the report of a run.  One that the system does not take is a failure of the run. -/
def writeReport (o : CommandLine.Outcome) : IO CommandLine.Outcome := do
  match o.written.map fun place => (place, o.tree.read place) with
  | some (place, .ok bytes) =>
    tryCatch
      (do
        IO.FS.createDirAll place.parent.text
        IO.FS.writeBinFile place.text ⟨bytes.toArray⟩
        return o)
      fun e =>
        return { o with out := "", written := none }.complaining
          (CommandLine.Setup.failureText (toString e))
  | _ => return o

end Main
end RouteAudit

open RouteAudit in
/-- Runs the program. -/
def main (args : List String) : IO UInt32 := do
  let output ← IO.getEnv outputVariable
  let clock ← Main.clockNow
  let setup : CommandLine.Setup := { tree := ← Main.filesFor clock.time output args, output, clock }
  let o ← Main.writeReport (setup.run args)
  IO.print o.out
  IO.eprint o.err
  if let some c := o.crash then IO.eprintln c.message
  return o.exit.toUInt32
