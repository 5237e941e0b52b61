import Mathlib.Data.List.Perm.Basic
import RouteAudit.Proofs.Report.Tallies
import RouteAudit.Proofs.Scan.Calls
import RouteAudit.Proofs.Scan.Growth

/-!
# The order of files

Files are taken in one after the other, and each adds to the ends of several lists, so an analysis
shows in which order they came.  But it shows no more than that.  Every list is made of blocks, and
a block is what one file brings when it is taken in alone.  In another order the blocks are the same
and stand elsewhere, and what is said about the project as a whole does not change: a count, a
threshold and the question whether some file shows a library all look at members and not at places.

## What is here

* `Analysis.ofFiles`, `Analysis.ofFile` — the analysis of some files, and of one of them alone;
* `Analysis.InBlocks`, `Analysis.inBlocks_ofFiles` — an analysis in blocks, and that every analysis
  of files is one;
* `Analysis.SameTotals`, `Analysis.sameTotals_account` — two analyses that say the same of the
  project, and that the accounts of files in two orders do;
* `Analysis.ofFiles_perm` — the files of an analysis in another order.
-/

set_option autoImplicit false

namespace RouteAudit
namespace Analysis

/-- The analysis that takes in the files at some paths, one after the other, and is completed. -/
def ofFiles (o : ScanOptions) (t : FileTree) (base : String) (ps : List Path) : Analysis :=
  (fresh base o.extended o.timestamp).calls (ps.map (.file t) ++ [.complete o.table])

/-- The analysis that has taken in one file alone. -/
def ofFile (o : ScanOptions) (t : FileTree) (base : String) (p : Path) : Analysis :=
  (fresh base o.extended o.timestamp).call (.file t p)

/-- The lists of an analysis are made of what each file brings alone, in the order of the files. -/
structure InBlocks (o : ScanOptions) (t : FileTree) (base : String) (ps : List Path)
    (a : Analysis) : Prop where
  files : a.files = ps.flatMap fun p => (ofFile o t base p).files
  issues : a.issues = ps.flatMap fun p => (ofFile o t base p).issues
  summaries : a.summaries = ps.flatMap fun p => (ofFile o t base p).summaries
  /-- The recommendations that are about a file. -/
  recommendations : a.recommendations.filter (fun r => r.file.isSome) =
    ps.flatMap fun p => (ofFile o t base p).recommendations
  /-- A file that can be read is named in its block. -/
  named : ∀ p ∈ ps, ∀ bytes, t.read p = .ok bytes →
    (ofFile o t base p).files = [shownPath base p]

/-- Two analyses say the same of the project as a whole. -/
structure SameTotals (a b : Analysis) : Prop where
  stats : a.stats = b.stats
  bySeverity : a.bySeverity = b.bySeverity
  /-- The kinds have the same counts, in whatever order they came up. -/
  byKind : a.byKind.Perm b.byKind
  dependencies : a.dependencies = b.dependencies
  /-- The recommendations about the project. -/
  ofProject : (a.recommendations.filter fun r => r.file.isNone) =
    b.recommendations.filter fun r => r.file.isNone

/-! ## Blocks -/

/-- Files that are taken in one after the other are taken in together. -/
theorem calls_file (a : Analysis) (t : FileTree) (ps : List Path) :
    a.calls (ps.map (.file t)) = a.grow 0 (ps.filterMap (t.subject? a.basePath a.extended)) := by
  induction ps generalizing a with
  | nil => exact (grow_nil a).symm
  | cons p ps ih =>
    have hstep : a.call (.file t p) = a.grow 0 (t.subject? a.basePath a.extended p).toList :=
      takeFile_eq a t p
    have hcons : (p :: ps).filterMap (t.subject? a.basePath a.extended) =
        (t.subject? a.basePath a.extended p).toList ++
          ps.filterMap (t.subject? a.basePath a.extended) := by
      cases h : t.subject? a.basePath a.extended p <;> simp [h]
    calc a.calls ((p :: ps).map (.file t))
        = (a.call (.file t p)).calls (ps.map (.file t)) := rfl
      _ = a.grow 0 ((p :: ps).filterMap (t.subject? a.basePath a.extended)) := by
        rw [ih, hstep, basePath_grow, extended_grow, grow_grow, hcons]

/-- The analysis of some files is the account of those that can be read. -/
theorem ofFiles_eq (o : ScanOptions) (t : FileTree) (base : String) (ps : List Path) :
    ofFiles o t base ps = account o base 0 (ps.filterMap (t.subject? base o.extended)) := by
  rw [ofFiles, calls_concat, calls_file, ← finalize_grow]
  rfl

theorem ofFile_eq (o : ScanOptions) (t : FileTree) (base : String) (p : Path) :
    ofFile o t base p =
      (fresh base o.extended o.timestamp).grow 0 (t.subject? base o.extended p).toList :=
  takeFile_eq _ t p

/-- What the files that can be read bring is what all of them bring. -/
theorem flatMap_filterMap {α β γ : Type} (f : α → Option β) (g : β → List γ) (xs : List α) :
    (xs.filterMap f).flatMap g = xs.flatMap fun x => (f x).toList.flatMap g := by
  rw [List.filterMap_eq_flatMap_toList, List.flatMap_assoc]

/-- **An analysis of files is made of blocks.** -/
theorem inBlocks_ofFiles (o : ScanOptions) (t : FileTree) (base : String) (ps : List Path) :
    InBlocks o t base ps (ofFiles o t base ps) where
  files := by
    simp only [ofFiles_eq, ofFile_eq, account, grow, fresh, List.nil_append, List.map_eq_flatMap,
      flatMap_filterMap]
  issues := by
    simp only [ofFiles_eq, ofFile_eq, account, grow, fresh, List.nil_append, flatMap_filterMap]
  summaries := by
    simp only [ofFiles_eq, ofFile_eq, account, grow, fresh, List.nil_append]
    cases o.extended with
    | true => simp only [if_true, List.map_eq_flatMap, flatMap_filterMap]
    | false => exact (List.flatMap_eq_nil_iff.2 fun _ _ => rfl).symm
  recommendations := by
    rw [ofFiles_eq, filter_isSome_account, flatMap_filterMap]
    simp only [ofFile_eq, grow, fresh, List.nil_append]
  named p _ bytes hread := by
    rw [ofFile_eq, FileTree.subject?, hread]
    rfl

/-! ## Totals -/

section
variable {a b : Analysis}

theorem bySeverity_perm (h : a.issues.Perm b.issues) : a.bySeverity = b.bySeverity := by
  simp only [bySeverity, countOf, issuesOf, (h.filter _).length_eq]

/-- The same kinds are counted, each as often. -/
theorem byKind_perm (h : a.issues.Perm b.issues) : a.byKind.Perm b.byKind := by
  have hkinds : (a.issues.map Issue.kind).eraseDups.Perm (b.issues.map Issue.kind).eraseDups :=
    (List.perm_ext_iff_of_nodup (nodup_eraseDups _) (nodup_eraseDups _)).2 fun k => by
      rw [List.mem_eraseDups, List.mem_eraseDups, (h.map Issue.kind).mem_iff]
  simp only [byKind_eq, (h.filter _).length_eq]
  exact hkinds.map _

/-- **Recommendations about the project** do not depend on the order of what was found. -/
theorem globalRecommendations_perm (hissues : a.issues.Perm b.issues)
    (hsummaries : a.summaries.Perm b.summaries) :
    a.globalRecommendations = b.globalRecommendations := by
  have hcount : ∀ s, a.countOf s = b.countOf s := fun s => (hissues.filter _).length_eq
  have hunmemoized : (a.summaries.filter (·.hasUnmemoizedRoutes)).length =
      (b.summaries.filter (·.hasUnmemoizedRoutes)).length := (hsummaries.filter _).length_eq
  rw [globalRecommendations, globalRecommendations, hcount, hcount, hunmemoized,
    hsummaries.length_eq]

/-- The libraries in use do not depend on the order of the files. -/
theorem detect_perm (table : Table) {summaries summaries' : List RouteSummary}
    (h : summaries.Perm summaries') : table.detect summaries = table.detect summaries' := by
  refine List.map_congr_left fun e _ => ?_
  rw [h.any_eq]

/-- **The account of files in another order** says the same of the project. -/
theorem sameTotals_account (o : ScanOptions) (base : String) (found : Nat)
    {read read' : List Subject} (h : read.Perm read') :
    (account o base found read).SameTotals (account o base found read') := by
  have hissues : (account o base found read).issues.Perm (account o base found read').issues :=
    h.flatMap_right _
  have hsummaries :
      (account o base found read).summaries.Perm (account o base found read').summaries := by
    dsimp only [account]
    split
    · exact h.map _
    · exact .refl _
  refine ⟨?_, bySeverity_perm hissues, byKind_perm hissues, ?_, ?_⟩
  · simp only [account, h.length_eq, (h.filter _).length_eq]
  · rw [dependencies_account, dependencies_account, detect_perm _ hsummaries]
  · rw [filter_isNone_account, filter_isNone_account,
      globalRecommendations_perm hissues hsummaries]

end

/-- **The order of files is all that an analysis shows of it.**  In another order the same blocks
make up the lists, in the order of the files, and the project as a whole is told the same. -/
theorem ofFiles_perm (o : ScanOptions) (t : FileTree) (base : String) {ps qs : List Path}
    (h : ps.Perm qs) :
    InBlocks o t base ps (ofFiles o t base ps) ∧ InBlocks o t base qs (ofFiles o t base qs) ∧
      (ofFiles o t base ps).SameTotals (ofFiles o t base qs) := by
  refine ⟨inBlocks_ofFiles o t base ps, inBlocks_ofFiles o t base qs, ?_⟩
  rw [ofFiles_eq, ofFiles_eq]
  exact sameTotals_account o base 0 (h.filterMap _)

/-- A project with two files that go wrong in different ways. -/
def unevenProject : FileTree where
  root := .dir [("home.routes.ts", .file "<ActivityContext>".toUTF8.toList),
    ("user.routes.ts", .file "<BlockedNavigation>".toUTF8.toList)]

/-- The paths of its files. -/
def homeFile : Path := ⟨.root, ["home.routes.ts"]⟩

@[inherit_doc homeFile]
def userFile : Path := ⟨.root, ["user.routes.ts"]⟩

/-- The files are named in the order in which they were taken in, and counted alike. -/
theorem ofFiles_perm_unevenProject :
    [homeFile, userFile].Perm [userFile, homeFile] ∧
      (ofFiles ⟨true, .bundled, ""⟩ unevenProject "/" [homeFile, userFile]).files =
        ["home.routes.ts", "user.routes.ts"] ∧
      (ofFiles ⟨true, .bundled, ""⟩ unevenProject "/" [userFile, homeFile]).files =
        ["user.routes.ts", "home.routes.ts"] ∧
      (ofFiles ⟨true, .bundled, ""⟩ unevenProject "/" [homeFile, userFile]).stats = ⟨0, 2, 2⟩ ∧
      (ofFiles ⟨true, .bundled, ""⟩ unevenProject "/" [homeFile, userFile]).SameTotals
        (ofFiles ⟨true, .bundled, ""⟩ unevenProject "/" [userFile, homeFile]) := by
  have hperm : [homeFile, userFile].Perm [userFile, homeFile] := .swap userFile homeFile []
  obtain ⟨hforth, hback, hsame⟩ := ofFiles_perm ⟨true, .bundled, ""⟩ unevenProject "/" hperm
  have hhome := hforth.named homeFile (by decide) _ rfl
  have huser := hforth.named userFile (by decide) _ rfl
  have hnames : shownPath "/" homeFile = "home.routes.ts" ∧
      shownPath "/" userFile = "user.routes.ts" := by decide +kernel
  refine ⟨hperm, ?_, ?_, by decide +kernel, hsame⟩
  · rw [hforth.files, List.flatMap_cons, List.flatMap_cons, hhome, huser, hnames.1, hnames.2]
    rfl
  · rw [hback.files, List.flatMap_cons, List.flatMap_cons, hhome, huser, hnames.1, hnames.2]
    rfl

end Analysis
end RouteAudit
