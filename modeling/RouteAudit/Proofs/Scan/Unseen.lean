import RouteAudit.CommandLine.Run
import RouteAudit.Proofs.CommandLine.Status
import RouteAudit.Proofs.FileTree.Below
import RouteAudit.Proofs.Scan.Account

/-!
# What an analysis does not see

An analysis is about the route files of a project.  Where there are no links it depends on nothing
else: not on other files, not on directories in which there is no route file, and not on anything in
a directory that is left out.  Two trees may differ in all of that, and the walks through them go
through different directories, but they come upon the same files in the same order.

So an analysis does not see the page that a run of the program left behind, nor the directories that
were made for it.

## What is here

* `FileTree.SameRouteFiles` — the same route files below a directory;
* `FileTree.SameRouteFiles.readFiles_eq` — the walks through both come upon the same;
* `FileTree.Keeps`, `Report.keeps_write` — a change that a project's route files survive, as does
  writing a page;
* `scan_unseen` — both are analysed alike.
-/

set_option autoImplicit false

namespace RouteAudit

namespace FileTree

variable {t u : FileTree} {base : Path}

/-- The same names lead to route files from the directory in both trees, over directories that are
not left out, and the files have the same bytes. -/
def SameRouteFiles (t u : FileTree) (base : Path) : Prop :=
  ∀ ds name, IsRouteWay ds name →
    u.fileBelow? base (ds ++ [name]) = t.fileBelow? base (ds ++ [name])

namespace SameRouteFiles

/-- The walks through both trees come upon the same route files, in the same order. -/
theorem routeFiles_eq (h : SameRouteFiles t u base) (ht : t.Sound) (hu : u.Sound)
    (hfree : t.LinkFreeBelow base) (hfree' : u.LinkFreeBelow base) :
    u.routeFiles base = t.routeFiles base := by
  refine eq_of_ascending (pairwise_routeFiles hu base) (pairwise_routeFiles ht base) fun q => ?_
  rw [mem_routeFiles_iff hu, mem_routeFiles_iff ht]
  exact exists_congr fun ds => exists_congr fun name =>
    and_congr_right fun _ => yields_congr ht hu hfree hfree' (h ds name)

/-- **The same is read** of the route files of both trees. -/
theorem readFiles_eq (h : SameRouteFiles t u base) (ht : t.Sound) (hu : u.Sound)
    (hfree : t.LinkFreeBelow base) (hfree' : u.LinkFreeBelow base) (extended : Bool) :
    u.readFiles extended base = t.readFiles extended base := by
  rw [readFiles, readFiles, h.routeFiles_eq ht hu hfree hfree']
  refine List.filterMap_congr fun q hq => ?_
  obtain ⟨ds, name, rfl, hy⟩ := (mem_routeFiles_iff ht base q).1 hq
  rw [subject?, subject?, read_congr ht hu hfree hfree' (h ds name) hy]

end SameRouteFiles

/-! ## Changes that are not seen -/

/-- The second tree has no links either, and all that is named as a route file is as it was. -/
structure Keeps (t u : FileTree) : Prop where
  sound : u.Sound
  linkFree : u.root.LinkFree
  cwd : u.cwd = t.cwd
  grown : Grown t.root u.root
  files : ∀ place name, isRouteFile name = true →
    u.root.fileAt? (place ++ [name]) = t.root.fileAt? (place ++ [name])

namespace Keeps

theorem refl (ht : t.Sound) (hfree : t.root.LinkFree) : Keeps t t :=
  ⟨ht, hfree, rfl, .refl t.root, fun _ _ _ => rfl⟩

/-- A directory has the same route files after the change. -/
theorem sameRouteFiles (h : Keeps t u) (ht : t.Sound) (hfree : t.root.LinkFree)
    (hbase : IsReal base) : SameRouteFiles t u base := by
  intro ds name hway
  rw [fileBelow?_real ht hfree hbase, fileBelow?_real h.sound h.linkFree hbase,
    ← List.append_assoc, h.files _ name hway.named]

end Keeps

/-- Making directories is not seen. -/
theorem keeps_makeDirs (ht : t.Sound) (hfree : t.root.LinkFree) {p : Path} (hp : p.Normal) :
    Keeps t (t.makeDirs p).1 :=
  have hmore := moreDirs_makeDirs t p
  ⟨ht.makeDirs hp, hmore.linkFree hfree, hmore.cwd_eq, hmore.grown,
    fun _ _ _ => hmore.sameFiles.fileAt? _⟩

/-- Writing a file that is not named as a route file is not seen. -/
theorem Keeps.write {v : FileTree} (h : Keeps t u) {p : Path} (hp : p.Normal) {name : String}
    (hlast : p.parts.getLast? = some name) (hname : isRouteFile name = false) {bytes : List UInt8}
    (hwrite : u.write p bytes = .ok v) : Keeps t v := by
  obtain ⟨init, hinit⟩ := List.getLast?_eq_some_iff.1 hlast
  obtain ⟨hwrites, hup⟩ := writes_of_write h.linkFree (by simp [hinit]) hwrite
  have hproper : Path.isProper name = true := (hp name (by simp [hinit])).1
  have hne : name ≠ ".." := by
    rintro rfl
    exact hup init hinit
  refine ⟨h.sound.write hp hwrite, hwrites.linkFree, hwrites.cwd.trans h.cwd,
    h.grown.trans hwrites.grown, fun place other hother => ?_⟩
  rw [hwrites.others, h.files place other hother]
  -- the file was written under its own name, which is not that of a route file
  rw [hinit, List.foldl_append, List.foldl_cons, List.foldl_nil, stepAlong_of_name hproper hne]
  intro heq
  cases List.append_inj_right' heq rfl
  exact Bool.false_ne_true (hname.symm.trans hother)

end FileTree

/-! ## The page of a run -/

/-- Writing a page is not seen, unless it is named as a route file. -/
theorem Report.keeps_write {t : FileTree} (ht : t.Sound) (hfree : t.root.LinkFree) {p : Path}
    (hp : p.Normal) {name : String} (hlast : p.parts.getLast? = some name)
    (hname : isRouteFile name = false) (a : Analysis) (generated : String) :
    t.Keeps (Report.write a t p generated).tree := by
  have hparent : p.parent.Normal := fun part hpart => hp part (List.dropLast_subset _ hpart)
  have hdirs := FileTree.keeps_makeDirs ht hfree hparent
  rw [Report.write]
  split
  · rename_i u f hmake
    rwa [hmake] at hdirs
  · rename_i u hmake
    rw [hmake] at hdirs
    split
    · exact hdirs
    · split
      · exact hdirs
      · rename_i v hwrite
        exact hdirs.write hp hlast hname hwrite

namespace CommandLine

theorem Setup.normal_reportPlace (output : Option String) (p : Parsed) :
    (Setup.reportPlace output p).Normal := by
  rw [Setup.reportPlace]
  split
  · exact Path.normal_ofString _
  · have hdefault : defaultOutput.Normal := by
      unfold Path.Normal Path.IsPiece
      decide +kernel
    unfold outputPath
    split
    · exact hdefault
    · split
      · exact hdefault
      · exact Path.normal_ofString _

/-- A run of `debug` leaves the files as they were, or as writing a page leaves them. -/
theorem Setup.tree_run_debug {s : Setup} {args : List String} {p : Parsed}
    (h : s.Accepts args .debug p) :
    (s.run args).tree = s.tree ∨ ∃ a, (s.run args).tree =
      (Report.write a s.tree (Setup.reportPlace s.output p) s.clock.generated).tree := by
  obtain ⟨logged, hrun⟩ := Setup.run_eq_of_accepts h
  rw [hrun]
  split
  · exact .inl rfl
  · split
    · exact .inl rfl
    · exact .inl (Outcome.tree_complaining _ _)
    · rename_i target _ _
      dsimp only
      rw [Setup.debug]
      split
      · exact .inl (Setup.tree_fails _ _ _ _)
      · rename_i a log _
        dsimp only
        split
        · refine .inr ⟨a, ?_⟩
          split
          · exact Setup.tree_fails _ _ _ _
          · exact Outcome.tree_printing _ _
        · rw [Setup.printsJson]
          split <;> exact .inl rfl

/-- **What a run of `debug` leaves behind** is not seen, unless the page is named as a route
file. -/
theorem Setup.keeps_run_debug {s : Setup} (hs : s.tree.Sound) (hfree : s.tree.root.LinkFree)
    {args : List String} {p : Parsed} (h : s.Accepts args .debug p) {name : String}
    (hlast : (Setup.reportPlace s.output p).parts.getLast? = some name)
    (hname : isRouteFile name = false) : s.tree.Keeps (s.run args).tree := by
  rcases Setup.tree_run_debug h with htree | ⟨a, htree⟩
  · rw [htree]
    exact .refl hs hfree
  · rw [htree]
    exact Report.keeps_write hs hfree (Setup.normal_reportPlace s.output p) hlast hname a _

end CommandLine

/-! ## Analysing twice -/

theorem Analysis.account_timestamp (o : ScanOptions) (base : String) (found : Nat)
    (read : List Subject) (time : String) :
    account { o with timestamp := time } base found read =
      { account o base found read with timestamp := time } := rfl

/-- Trees with the same route files are analysed alike. -/
theorem scan_of_sameRouteFiles {t u : FileTree} (ht : t.Sound) (hu : u.Sound)
    {start start' base : Path} (hstart : t.resolve start = .ok base)
    (hstart' : u.resolve start' = .ok base) (hfree : t.LinkFreeBelow base)
    (hfree' : u.LinkFreeBelow base) (h : t.SameRouteFiles u base) (o : ScanOptions)
    (time : String) :
    ∃ a log log', scan o t start = .ok (a, log) ∧
      scan { o with timestamp := time } u start' = .ok ({ a with timestamp := time }, log') := by
  obtain ⟨log, hscan⟩ := scan_of_resolve_ok o hstart
  obtain ⟨log', hscan'⟩ := scan_of_resolve_ok { o with timestamp := time } hstart'
  refine ⟨_, log, log', hscan, ?_⟩
  rw [hscan', h.routeFiles_eq ht hu hfree hfree', h.readFiles_eq ht hu hfree hfree',
    Analysis.account_timestamp]

/-- **What an analysis does not see.**  If two trees have the same route files below a directory and
no links there, then the analyses of the directory in one mode are the same up to their times, and
so are those before and after a run of `debug` whose page is not named as a route file. -/
theorem scan_unseen :
    (∀ (o : ScanOptions) (time : String) (t u : FileTree) (start start' base : Path),
      t.Sound → u.Sound → t.resolve start = .ok base → u.resolve start' = .ok base →
      t.LinkFreeBelow base → u.LinkFreeBelow base → t.SameRouteFiles u base →
      ∃ a log log', scan o t start = .ok (a, log) ∧
        scan { o with timestamp := time } u start' =
          .ok ({ a with timestamp := time }, log')) ∧
    ∀ (o : ScanOptions) (time : String) (s : CommandLine.Setup) (args : List String)
      (p : CommandLine.Parsed) (name : String) (start base : Path),
      s.tree.Sound → s.tree.root.LinkFree → s.Accepts args .debug p →
      (CommandLine.Setup.reportPlace s.output p).parts.getLast? = some name →
      isRouteFile name = false → start.Normal → s.tree.resolve start = .ok base →
      ∃ a log log', scan o s.tree start = .ok (a, log) ∧
        scan { o with timestamp := time } (s.run args).tree start =
          .ok ({ a with timestamp := time }, log') := by
  refine ⟨fun o time t u start start' base ht hu hstart hstart' hfree hfree' h => ?_,
    fun o time s args p name start base hs hfree haccepts hlast hname hnormal hstart => ?_⟩
  · exact scan_of_sameRouteFiles ht hu hstart hstart' hfree hfree' h o time
  · have hkeeps := CommandLine.Setup.keeps_run_debug hs hfree haccepts hlast hname
    have hbase := FileTree.real_of_resolve hs hnormal hstart
    have hstart' : (s.run args).tree.resolve start = .ok base :=
      FileTree.resolve_of_grown hfree hkeeps.linkFree hkeeps.cwd hkeeps.grown hstart
    exact scan_of_sameRouteFiles hs hkeeps.sound hstart hstart'
      (FileTree.linkFreeBelow_of_linkFree hfree base)
      (FileTree.linkFreeBelow_of_linkFree hkeeps.linkFree base)
      (hkeeps.sameRouteFiles hs hfree hbase) o time

/-- A project with one route file. -/
def tidyProject : FileTree where
  root := .dir [("routes.ts", .file "debugger".toUTF8.toList)]

/-- The same project with more in it that an analysis does not see. -/
def clutteredProject : FileTree where
  root := .dir [("notes", .dir []), ("routes.ts", .file "debugger".toUTF8.toList),
    ("dist", .dir [("routes.js", .file [])])]

theorem sameRouteFiles_clutteredProject :
    tidyProject.SameRouteFiles clutteredProject ⟨.root, []⟩ := by
  intro ds name hway
  rw [FileTree.fileBelow?_of_stat (t := tidyProject) (p := ⟨.root, []⟩) rfl,
    FileTree.fileBelow?_of_stat (t := clutteredProject) (p := ⟨.root, []⟩) rfl, tidyProject,
    clutteredProject, Node.fileAt?, Node.fileAt?]
  cases ds with
  | nil =>
    rw [List.nil_append, Node.at?_dir_cons, Node.at?_dir_cons]
    by_cases hnotes : "notes" = name
    · simp [← hnotes, Node.at?, Node.bytes?]
    · by_cases hdist : "dist" = name
      · simp [← hdist, Node.at?, Node.bytes?]
      · simp [hnotes, hdist]
  | cons d ds =>
    have hdist : "dist" ≠ d := by
      rintro rfl
      exact absurd (hway.way "dist" List.mem_cons_self) (by decide)
    obtain ⟨next, names, hnames⟩ := List.exists_cons_of_ne_nil (show ds ++ [name] ≠ [] by simp)
    rw [List.cons_append, hnames, Node.at?_dir_cons, Node.at?_dir_cons]
    by_cases hnotes : "notes" = d
    · simp [← hnotes]
    · simp [hnotes, hdist]

theorem scan_unseen_clutteredProject :
    (∃ a log log', scan { timestamp := "before" } tidyProject ⟨.root, []⟩ = .ok (a, log) ∧
      scan { timestamp := "after" } clutteredProject ⟨.root, []⟩ =
        .ok ({ a with timestamp := "after" }, log')) ∧
    ∃ a log log', scan { timestamp := "before" } tidyProject ⟨.root, []⟩ = .ok (a, log) ∧
      scan { timestamp := "after" }
          (CommandLine.Setup.run { tree := tidyProject, clock := ⟨"", "", ""⟩ } ["debug"]).tree
          ⟨.root, []⟩ =
        .ok ({ a with timestamp := "after" }, log') := by
  have ht : tidyProject.Sound := ⟨by decide +kernel, fun _ h => absurd h List.not_mem_nil⟩
  have hu : clutteredProject.Sound := ⟨by decide +kernel, fun _ h => absurd h List.not_mem_nil⟩
  have hfree : tidyProject.root.LinkFree := Node.linkFree_of_linkCount rfl
  have hfree' : clutteredProject.root.LinkFree := Node.linkFree_of_linkCount rfl
  exact ⟨scan_unseen.1 _ _ _ _ _ _ ⟨.root, []⟩ ht hu rfl rfl
      (FileTree.linkFreeBelow_of_linkFree hfree _) (FileTree.linkFreeBelow_of_linkFree hfree' _)
      sameRouteFiles_clutteredProject,
    scan_unseen.2 _ _ { tree := tidyProject, clock := ⟨"", "", ""⟩ } ["debug"] {} "index.html"
      ⟨.root, []⟩ ⟨.root, []⟩ ht hfree ⟨⟨_, _, rfl, rfl, rfl, rfl⟩, rfl, rfl⟩ rfl (by decide)
      (fun _ h => absurd h List.not_mem_nil) rfl⟩

end RouteAudit
