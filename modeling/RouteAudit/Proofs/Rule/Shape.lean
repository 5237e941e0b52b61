import Mathlib.Data.List.Flatten
import RouteAudit.Proofs.Rule.Agreement

/-!
# The shape of a report on one file

Nine rules look at a file, most of them with several ways to end, and their issues and their
recommendations go into two lists.  Whatever the file, the two lists fit together:

* the kinds of the issues are part of one fixed list, in which every kind stands once and the kind
  about performance three times (`reportedKinds`), so they come in a fixed order and none comes too
  often;
* every issue is as bad as its kind is documented to be (`IssueKind.documentedSeverity`), names the
  file and has a remedy;
* every recommendation is the remedy of an issue of its own, and the recommendations come in the
  order of these issues (`Findings.Shaped.paired`).

All of this is shown rule by rule.  A rule contributes at most so many issues of its own kind
(`Rule.length_issues_check`) and recommends at most its own remedy, and only beside an issue
(`Rule.advised`); the whole is then put together along the list of the rules.
-/

set_option autoImplicit false

namespace RouteAudit

open scoped List

/-- How bad the issues of a kind are documented to be. -/
def IssueKind.documentedSeverity : IssueKind → Severity
  | .dynamicRoutes | .contextPlacement => .high
  | .queryClient | .blockedNavigation | .activityContext | .asyncWrappers | .shellHooks => .medium
  | .missingMemo | .performance => .low

/-- The kinds of issue in the order of the rules, each as often as a report on one file may have
it. -/
def reportedKinds : List IssueKind :=
  [.dynamicRoutes, .queryClient, .contextPlacement, .blockedNavigation, .activityContext,
    .missingMemo, .asyncWrappers, .shellHooks, .performance, .performance, .performance]

/-- The findings have the shape of a report on the file. -/
structure Findings.Shaped (s : Subject) (f : Findings) : Prop where
  /-- The kinds come in the order of the rules, and none comes too often. -/
  kinds : f.issues.map (·.kind) <+ reportedKinds
  /-- The issues about performance say what the table of smells says, in its order. -/
  smells : (f.issues.filter fun i => i.kind = .performance).map (·.message) <+
    Catalog.smells.map Prod.snd
  smells_nodup : ((f.issues.filter fun i => i.kind = .performance).map (·.message)).Nodup
  severity : ∀ i ∈ f.issues, i.severity = i.kind.documentedSeverity
  file : ∀ i ∈ f.issues, i.file = s.file
  fix : ∀ i ∈ f.issues, ∃ fix, i.fix = some fix ∧ fix ≠ ""
  recommendation : ∀ r ∈ f.recommendations,
    r.file = some s.file ∧ r.priority = none ∧ r.action = none
  /-- The recommendations are the remedies of some of the issues, one for each and in their
  order. -/
  paired : ∃ advised, advised <+ f.issues ∧
    (f.recommendations.map fun r => some r.message) = advised.map (·.fix)
  /-- Nothing is recommended twice. -/
  once : (f.recommendations.map (·.message)).Nodup

namespace Rule

/-! ## One rule -/

/-- How many issues of a rule there may be. -/
def most (r : Rule) : Nat := if r = .performance then 3 else 1

theorem length_issues_check (r : Rule) (s : Subject) : (r.check s).issues.length ≤ r.most := by
  by_cases hr : r = .performance
  · subst hr
    have hfilter := List.length_filter_le (fun smell => smell.1.occurs s.content) Catalog.smells
    rw [check, checkPerformance, List.length_map]
    exact hfilter
  · rw [most, if_neg hr]
    rcases mayReport_check hr s with he | ⟨i, recommended, -, he⟩ <;> rw [he]
    · exact Nat.zero_le 1
    · exact Nat.le_refl 1

theorem kinds_check (r : Rule) (s : Subject) :
    (r.check s).issues.map (·.kind) <+ List.replicate r.most r.kind := by
  have hsame : (r.check s).issues.map (·.kind) =
      List.replicate (r.check s).issues.length r.kind := by
    rw [List.eq_replicate_iff]
    refine ⟨List.length_map _, fun k hk => ?_⟩
    obtain ⟨i, hi, rfl⟩ := List.mem_map.1 hk
    exact (bears_of_mem_issues hi).kind
  rw [hsame, List.replicate_sublist_replicate]
  exact length_issues_check r s

theorem severity_eq (r : Rule) : r.severity = r.kind.documentedSeverity := by
  cases r <;> rfl

theorem fix_ne_empty (r : Rule) : r.fix ≠ "" := by
  cases r <;> decide

/-- The issues of a rule that come with a recommendation. -/
def advised (r : Rule) (s : Subject) : List Issue :=
  if (r.check s).recommendations = [] then [] else (r.check s).issues

theorem advised_sublist (r : Rule) (s : Subject) : r.advised s <+ (r.check s).issues := by
  rw [advised]
  split
  · exact List.nil_sublist _
  · exact List.Sublist.refl _

/-- A rule recommends the remedy of its issue, and recommends it once. -/
theorem recommendations_check (r : Rule) (s : Subject) :
    ((r.check s).recommendations.map fun x => some x.message) = (r.advised s).map (·.fix) := by
  by_cases hr : r = .performance
  · subst hr
    rfl
  · rw [advised]
    rcases mayReport_check hr s with he | ⟨i, recommended, hi, he⟩ <;> rw [he]
    · rfl
    · cases recommended with
      | false => rfl
      | true => simp [report, recommendation, hi.fix]

theorem messages_recommendations_check (r : Rule) (s : Subject) :
    (r.check s).recommendations.map (·.message) <+ [r.fix] := by
  by_cases hr : r = .performance
  · subst hr
    exact List.nil_sublist _
  · rcases mayReport_check hr s with he | ⟨i, recommended, -, he⟩ <;> rw [he]
    · exact List.nil_sublist _
    · cases recommended with
      | false => exact List.nil_sublist _
      | true => exact List.Sublist.refl _

/-! ## All rules -/

theorem nodup_fixes : (all.map fix).Nodup := by decide

end Rule

/-- **The shape of a report.**  Whatever the file and the mode, the issues and recommendations of
the rules fit together. -/
theorem shaped_runRules (s : Subject) : Findings.Shaped s (runRules s) := by
  have hsmells : ((runRules s).issues.filter fun i => i.kind = .performance).map (·.message) <+
      Catalog.smells.map Prod.snd := by
    have hown := Rule.performance.filter_issues_runRules s
    rw [Rule.kind] at hown
    rw [hown, Rule.check, Rule.checkPerformance, List.map_map]
    exact List.filter_sublist.map Prod.snd
  have hbears : ∀ i ∈ (runRules s).issues, ∃ r : Rule, r.Bears s i := by
    intro i hi
    rw [issues_runRules, List.mem_flatMap] at hi
    obtain ⟨r, -, hi⟩ := hi
    exact ⟨r, Rule.bears_of_mem_issues hi⟩
  refine ⟨?_, hsmells, hsmells.nodup (by decide), ?_, ?_, ?_, ?_, ?_, ?_⟩
  · have hkinds : reportedKinds = Rule.all.flatMap fun r => List.replicate r.most r.kind := by
      decide
    rw [hkinds, issues_runRules, List.map_flatMap]
    exact List.Sublist.flatMap_right _ fun r _ => r.kinds_check s
  · intro i hi
    obtain ⟨r, hr⟩ := hbears i hi
    rw [hr.severity, hr.kind, r.severity_eq]
  · intro i hi
    exact file_of_mem_issues_runRules hi
  · intro i hi
    obtain ⟨r, hr⟩ := hbears i hi
    exact ⟨r.fix, hr.fix, r.fix_ne_empty⟩
  · intro x hx
    rw [recommendations_runRules, List.mem_flatMap] at hx
    obtain ⟨r, -, hx⟩ := hx
    rw [Rule.eq_of_mem_recommendations hx]
    exact ⟨rfl, rfl, rfl⟩
  · refine ⟨Rule.all.flatMap fun r => r.advised s, ?_, ?_⟩
    · rw [issues_runRules]
      exact List.Sublist.flatMap_right _ fun r _ => r.advised_sublist s
    · rw [recommendations_runRules, List.map_flatMap, List.map_flatMap]
      simp only [Rule.recommendations_check]
  · have hfixes : (runRules s).recommendations.map (·.message) <+ Rule.all.map Rule.fix := by
      rw [recommendations_runRules, List.map_flatMap, List.map_eq_flatMap]
      exact List.Sublist.flatMap_right _ fun r _ => r.messages_recommendations_check s
    exact hfixes.nodup Rule.nodup_fixes

end RouteAudit
