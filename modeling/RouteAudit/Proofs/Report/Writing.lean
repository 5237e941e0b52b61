import RouteAudit.Proofs.FileTree.Written
import RouteAudit.Report.Write

/-!
# What writing a report does to the files

A report is written to a path, and the directories around it are made first.  The path may lead
through files, through links that lead nowhere, up and down again, and the directories are made one
by one; so a failure may leave some of them behind.  It leaves nothing else: a report that could not
be written has changed no file, and one that was written has changed the one file that its path
leads to.

Making directories starts with the innermost one and goes outwards until one can be made, and then
inwards again, and the path may lead elsewhere by then.  That is no difficulty, because a tree only
grows: a path leads to where it led (`FileTree.find_of_grown`), and so an ancestor that leads
nowhere when its directory is made led nowhere at the beginning either, and leads to its directory
at the end.

## What is here

* `FileTree.Changes` — what a change leaves alone, and `Changes.trans`, two changes in a row;
* `FileTree.changes_make`, `FileTree.changes_makeDirs`, `FileTree.changes_write` — the changes that
  writing a report is made of;
* `Report.Session`, `Report.write_allOrNothing` — a caller who has a report written.
-/

set_option autoImplicit false

namespace RouteAudit

/-- The path `q` is for a directory around `p`, going by their parts. -/
def Path.IsAncestor (p q : Path) : Prop := q.anchor = p.anchor ∧ q.parts <+: p.parent.parts

namespace FileTree

/-- **What a change leaves alone.**  All that was there is there still; the files are the same, but
for one that was written; and the directories are the same, but for new ones, each of which a path
of some kind leads to that led nowhere before. -/
structure Changes (kind : Path → Prop) (written : Option (List String)) (t u : FileTree) :
    Prop where
  cwd : u.cwd = t.cwd
  grown : Grown t.root u.root
  files : ∀ x bytes, written ≠ some x →
    (t.root.at? x = some (.file bytes) ↔ u.root.at? x = some (.file bytes))
  newDirs : ∀ x es, u.root.at? x = some (.dir es) → (∃ es', t.root.at? x = some (.dir es')) ∨
    ∃ q, kind q ∧ t.isThere q = false ∧ ∃ es', u.find .look q = .ok (.node x (.dir es'))

variable {t u : FileTree} {p : Path}

theorem isThere_eq_true_iff :
    t.isThere p = true ↔ ∃ place n, t.find .look p = .ok (.node place n) := by
  rw [isThere, stat]
  cases t.find .look p with
  | error e => simp
  | ok target => cases target <;> simp

/-- What a path leads to is there in a tree that has grown. -/
theorem exists_at?_of_grown (h : Grown t.root u.root) {x : List String} {n : Node}
    (hn : t.root.at? x = some n) : ∃ n', u.root.at? x = some n' := by
  cases n with
  | file b =>
    obtain ⟨b', hb'⟩ := h.file x b hn
    exact ⟨_, hb'⟩
  | dir es =>
    obtain ⟨es', hes'⟩ := h.dir x es hn
    exact ⟨_, hes'⟩
  | link target => exact ⟨_, (h.link x target).1 hn⟩

namespace Changes

variable {kind : Path → Prop} {written : Option (List String)}

theorem refl (kind : Path → Prop) (t : FileTree) : Changes kind none t t :=
  ⟨rfl, .refl t.root, fun _ _ _ => Iff.rfl, fun _ es h => .inl ⟨es, h⟩⟩

/-- A path leads to where it led. -/
theorem exists_find (h : Changes kind written t u) {x : List String} {n : Node}
    (hfind : t.find .look p = .ok (.node x n)) : ∃ n', u.find .look p = .ok (.node x n') := by
  obtain ⟨n', hn'⟩ := exists_at?_of_grown h.grown (at?_of_find hfind)
  exact ⟨n', find_of_grown h.cwd h.grown hfind hn'⟩

theorem isThere (h : Changes kind written t u) (hp : u.isThere p = false) :
    t.isThere p = false := by
  refine Bool.eq_false_iff.2 fun ht => Bool.eq_false_iff.1 hp ?_
  obtain ⟨place, n, hfind⟩ := isThere_eq_true_iff.1 ht
  obtain ⟨n', hfind'⟩ := h.exists_find hfind
  exact isThere_eq_true_iff.2 ⟨place, n', hfind'⟩

theorem mono {kind' : Path → Prop} (h : Changes kind written t u)
    (hkind : ∀ q, kind q → kind' q) : Changes kind' written t u where
  cwd := h.cwd
  grown := h.grown
  files := h.files
  newDirs x es hx := (h.newDirs x es hx).imp_right fun ⟨q, hq, hfound⟩ => ⟨q, hkind q hq, hfound⟩

/-- **Two changes in a row**, a file being written in the second one at most. -/
theorem trans {v : FileTree} (h : Changes kind none t u) (h' : Changes kind written u v) :
    Changes kind written t v where
  cwd := h'.cwd.trans h.cwd
  grown := h.grown.trans h'.grown
  files x bytes hx := (h.files x bytes (Option.some_ne_none x).symm).trans (h'.files x bytes hx)
  newDirs x es hx := by
    rcases h'.newDirs x es hx with ⟨es', hes'⟩ | ⟨q, hq, hnew, hfind⟩
    · rcases h.newDirs x es' hes' with hold | ⟨q, hq, hnew, below, hfind⟩
      · exact .inl hold
      · exact .inr ⟨q, hq, hnew, es, find_of_grown h'.cwd h'.grown hfind hx⟩
    · exact .inr ⟨q, hq, h.isThere hnew, hfind⟩

end Changes

/-! ## Making directories -/

/-- A directory is made where its path leads and nothing is. -/
theorem exists_place_of_make (h : t.make p (.dir []) = .ok u) :
    ∃ place, t.find .look p = .ok (.vacant place) ∧ u = t.putAt place (.dir []) ∧
      u.find .look p = .ok (.node place (.dir [])) := by
  rw [make] at h
  split at h <;> cases h
  rename_i place hfound
  have hfind : t.find .look p = .ok (.vacant place) := find_look (fun _ => ⟨place, rfl⟩) hfound
  have hvacant := isVacant_of_find hfind
  have hcwd : (t.putAt place (.dir [])).cwd = t.cwd := rfl
  exact ⟨place, hfind, rfl,
    find_of_grown hcwd (grown_putAt_dir hvacant) hfind (Node.at?_put_self hvacant.2 (.dir []))⟩

/-- **Making a directory** brings one, where its path leads now and led nowhere before. -/
theorem changes_make (h : t.make p (.dir []) = .ok u) : Changes (· = p) none t u := by
  obtain ⟨place, hfind, rfl, hfind'⟩ := exists_place_of_make h
  have hvacant := isVacant_of_find hfind
  refine ⟨rfl, grown_putAt_dir hvacant, fun x bytes _ => sameFiles_putAt_dir hvacant x bytes,
    fun x es hx => ?_⟩
  by_cases hplace : x = place
  · subst hplace
    refine .inr ⟨p, rfl, ?_, [], hfind'⟩
    rw [isThere, stat, hfind]
  · exact .inl (Node.exists_dir_of_bare (bare_putAt_dir_of_ne hvacant hplace) hx)

theorem changes_makeDir (t : FileTree) (p : Path) : Changes (· = p) none t (t.makeDir p).1 := by
  rw [makeDir]
  split
  · rename_i u hmake
    exact changes_make hmake
  · split <;> exact .refl _ t

/-- A directory that was made, or was there already, is a directory. -/
theorem isDir_of_makeDir (h : t.makeDir p = (u, none)) : u.isDir p = true := by
  rw [makeDir] at h
  split at h
  · rename_i v hmake
    cases h
    obtain ⟨place, -, -, hfind⟩ := exists_place_of_make hmake
    rw [isDir, stat, hfind]
  · split at h <;> cases h
    assumption

theorem changes_makeDirsOf (anchor : Anchor) (parts : List String) (t : FileTree) :
    Changes (fun q => q.anchor = anchor ∧ q.parts <+: parts.reverse) none t
      (makeDirsOf anchor parts t).1 := by
  induction parts with
  | nil =>
    refine (changes_makeDir t ⟨anchor, []⟩).mono ?_
    rintro _ rfl
    exact ⟨rfl, List.prefix_refl _⟩
  | cons part outer ih =>
    have hself : ∀ q : Path, q = ⟨anchor, (part :: outer).reverse⟩ →
        q.anchor = anchor ∧ q.parts <+: (part :: outer).reverse := by
      rintro _ rfl
      exact ⟨rfl, List.prefix_refl _⟩
    have houter : ∀ q : Path, q.anchor = anchor ∧ q.parts <+: outer.reverse →
        q.anchor = anchor ∧ q.parts <+: (part :: outer).reverse := by
      rintro q ⟨hq, hparts⟩
      rw [List.reverse_cons]
      exact ⟨hq, hparts.trans (List.prefix_append _ _)⟩
    rw [makeDirsOf]
    split
    · rename_i u hmake
      exact (changes_make hmake).mono hself
    · split
      · split
        · rename_i u hu
          rw [hu] at ih
          exact (ih.mono houter).trans ((changes_makeDir u _).mono hself)
        · rename_i u f hu
          rw [hu] at ih
          exact ih.mono houter
      · split <;> exact .refl _ t

/-- **Making the directories around a path** makes ancestors of the path that were missing, and
nothing else, whether it succeeds or not. -/
theorem changes_makeDirs (t : FileTree) (p : Path) :
    Changes p.IsAncestor none t (t.makeDirs p.parent).1 := by
  have h := changes_makeDirsOf p.parent.anchor p.parent.parts.reverse t
  rw [List.reverse_reverse] at h
  exact h

/-- A failure can leave a directory behind. -/
example :
    let made := (FileTree.mk (.dir [("log", .file [])]) []).makeDirs ⟨.here, ["new", "..", "log"]⟩
    made.2.map FileFault.fault = some .occupied ∧ made.1.isDir ⟨.here, ["new"]⟩ = true := by
  decide +kernel

/-! ## Writing a file -/

/-- **Writing a file** changes the file that the path leads to. -/
theorem changes_write {bytes : List UInt8} (h : t.write p bytes = .ok u) (hparts : p.parts ≠ []) :
    ∃ place, u.find .look p = .ok (.node place (.file bytes)) ∧
      Changes (fun _ => False) (some place) t u := by
  obtain ⟨target, hfind, hdir, rfl⟩ := exists_target_of_write h
  have hoverlay := overlay_putAt hfind hdir hparts bytes
  refine ⟨target.place, find_putAt hfind hdir bytes, rfl, hoverlay.grown, fun x b hx => ?_,
    fun x es hx => .inl ?_⟩
  · have hne : x ≠ target.place := fun heq => hx (congrArg some heq.symm)
    exact ⟨Node.eq_file_of_bare (hoverlay.bare_of_ne hne).symm,
      Node.eq_file_of_bare (hoverlay.bare_of_ne hne)⟩
  · have hne : x ≠ target.place := by
      rintro rfl
      cases hoverlay.self.symm.trans hx
    exact Node.exists_dir_of_bare (hoverlay.bare_of_ne hne) hx

end FileTree

namespace Report

open FileTree (Changes)

/-- What a caller has in hand: an analysis, and the files. -/
structure Session where
  analysis : Analysis
  tree : FileTree

/-- A caller has the report of the analysis written. -/
def Session.write (s : Session) (p : Path) (generated : String) : Session × Option WriteFault :=
  let w := Report.write s.analysis s.tree p generated
  ({ s with tree := w.tree }, w.fault)

/-- A report that is written is not written to where the path starts, which is a directory by
then. -/
theorem parts_ne_nil_of_write {t u v : FileTree} {p : Path} {bytes : List UInt8}
    (hdirs : t.makeDirs p.parent = (u, none)) (hwrite : u.write p bytes = .ok v) :
    p.parts ≠ [] := by
  intro hparts
  have hparent : p.parent = p := by rw [Path.parent, hparts, List.dropLast_nil, ← hparts]
  have hpath : p = ⟨p.anchor, []⟩ := by rw [← hparts]
  have hmake : t.makeDir p = (u, none) := by
    rw [hparent, FileTree.makeDirs, hparts] at hdirs
    rwa [hpath]
  have hisDir := FileTree.isDir_of_makeDir hmake
  obtain ⟨target, hfind, hdir, -⟩ := FileTree.exists_target_of_write hwrite
  rw [FileTree.isDir, FileTree.stat, hfind] at hisDir
  cases target with
  | vacant place => cases hisDir
  | node place n =>
    obtain ⟨es, rfl⟩ : ∃ es, n = .dir es := by
      cases n with
      | dir es => exact ⟨es, rfl⟩
      | file b => cases hisDir
      | link text => cases hisDir
    exact hdir place es rfl

/-- **A report is written, or no file is touched.**  Either there is a fault, and then all files are
as they were, or the file that the path leads to has the bytes of the page, and all other files are
as they were; the new directories are ancestors of the path that were missing; and whoever had the
report written still has the same analysis.  The faults are those that are found until the file is
open: from then on nothing goes wrong, as `FileTree.write` assumes. -/
theorem write_allOrNothing (s : Session) (p : Path) (generated : String) :
    (s.write p generated).1.analysis = s.analysis ∧
      ((∃ f, (s.write p generated).2 = some f ∧
          Changes p.IsAncestor none s.tree (s.write p generated).1.tree) ∨
        (s.write p generated).2 = none ∧ ∃ text place, html s.analysis generated = .ok text ∧
          (s.write p generated).1.tree.find .look p =
            .ok (.node place (.file text.toUTF8.toList)) ∧
          (∀ x n, s.tree.find .look p = .ok (.node x n) → x = place) ∧
          Changes p.IsAncestor (some place) s.tree (s.write p generated).1.tree) := by
  refine ⟨rfl, ?_⟩
  have hdirs := FileTree.changes_makeDirs s.tree p
  rw [Session.write, write]
  cases hmade : s.tree.makeDirs p.parent with
  | mk t fault =>
    rw [hmade] at hdirs
    cases fault with
    | some f => exact .inl ⟨.file f, rfl, hdirs⟩
    | none =>
      cases hpage : html s.analysis generated with
      | error f => exact .inl ⟨.report f, rfl, hdirs⟩
      | ok text =>
        dsimp only
        cases hwrite : t.write p text.toUTF8.toList with
        | error f => exact .inl ⟨.file f, rfl, hdirs⟩
        | ok u =>
          obtain ⟨place, hfind, hfile⟩ :=
            FileTree.changes_write hwrite (parts_ne_nil_of_write hmade hwrite)
          have hchanges : Changes p.IsAncestor (some place) s.tree u :=
            hdirs.trans (hfile.mono fun _ h => h.elim)
          refine .inr ⟨rfl, text, place, rfl, hfind, fun x n hbefore => ?_, hchanges⟩
          obtain ⟨n', hafter⟩ := hchanges.exists_find hbefore
          cases hafter.symm.trans hfind
          rfl

/-- A project that was analysed before: its report is in a directory that a link leads to. -/
def linkedSession : Session where
  analysis :=
    { basePath := "/app"
      timestamp := ""
      issues := [
        { kind := .queryClient
          severity := .high
          file := "routes.ts"
          message := "A client is created." }] }
  tree :=
    { root := .dir [
        ("docs", .link "site"),
        ("log", .file [0x0A]),
        ("site", .dir [("old", .dir []), ("index.html", .file [0x3F])])] }

/-- A way to that report over the link, up and down again. -/
def linkedReport : Path := ⟨.here, ["docs", "old", "..", "index.html"]⟩

/-- A way that leads into a file, over a directory that is not there yet. -/
def buriedReport : Path := ⟨.here, ["new", "..", "log", "index.html"]⟩

/-- The report is replaced where the link leads.  The other one is not written, and of all that was
done a new directory is left. -/
theorem write_allOrNothing_linkedReport :
    (∃ text, html linkedSession.analysis "" = .ok text ∧
      (linkedSession.write linkedReport "").1.tree.find .look linkedReport =
        .ok (.node ["site", "index.html"] (.file text.toUTF8.toList)) ∧
      Changes linkedReport.IsAncestor (some ["site", "index.html"]) linkedSession.tree
        (linkedSession.write linkedReport "").1.tree) ∧
    (∃ f, (linkedSession.write buriedReport "").2 = some f ∧
      Changes buriedReport.IsAncestor none linkedSession.tree
        (linkedSession.write buriedReport "").1.tree) ∧
    linkedSession.tree.isThere ⟨.here, ["new"]⟩ = false ∧
    (linkedSession.write buriedReport "").1.tree.isDir ⟨.here, ["new"]⟩ = true := by
  have hwritten : (linkedSession.write linkedReport "").2.isNone = true := by decide +kernel
  have hbroken : (linkedSession.write buriedReport "").2.isSome = true := by decide +kernel
  have hbefore : linkedSession.tree.find .look linkedReport =
      .ok (.node ["site", "index.html"] (.file [0x3F])) := rfl
  refine ⟨?_, ?_, by decide +kernel, by decide +kernel⟩
  · obtain ⟨-, ⟨f, hf, -⟩ | ⟨-, text, place, htext, hfind, hplace, hchanges⟩⟩ :=
      write_allOrNothing linkedSession linkedReport ""
    · rw [hf] at hwritten
      cases hwritten
    · cases hplace _ _ hbefore
      exact ⟨text, htext, hfind, hchanges⟩
  · obtain ⟨-, ⟨f, hf, hchanges⟩ | ⟨hnone, -⟩⟩ := write_allOrNothing linkedSession buriedReport ""
    · exact ⟨f, hf, hchanges⟩
    · rw [hnone] at hbroken
      cases hbroken

end Report
end RouteAudit
