import RouteAudit.Rule

/-!
# What the rules put into a report

Whatever a rule finds, its issues carry the kind, the severity and the remedy of the rule and the
file that was looked at (`Rule.bears_of_mem_issues`), they say one of the rule's own sentences
(`Rule.message_of_mem_issues`), and the only recommendation it makes is to apply that remedy in that
file (`Rule.eq_of_mem_recommendations`).

Only one rule asks for the mode of the analysis, and it asks for it only to decide whether to
recommend anything.  So the plain mode reports the issues of the extended one, and its
recommendations are those of the extended one without that rule's
(`recommendations_runRules_plain`).
-/

set_option autoImplicit false

namespace RouteAudit
namespace Rule

/-- The issue is one of the rule in the file. -/
structure Bears (r : Rule) (s : Subject) (i : Issue) : Prop where
  /-- It is of the rule's kind. -/
  kind : i.kind = r.kind
  /-- It is as bad as the rule's issues are. -/
  severity : i.severity = r.severity
  /-- It names the file. -/
  file : i.file = s.file
  /-- It names the rule's remedy. -/
  fix : i.fix = some r.fix

/-- What a rule that looks for one thing may find. -/
def MayReport (r : Rule) (s : Subject) (found : Findings) : Prop :=
  found = {} ∨ ∃ i recommended, r.Bears s i ∧ found = r.report s i recommended

theorem bears_issue (r : Rule) (s : Subject) (message : String) :
    r.Bears s (r.issue s message) := ⟨rfl, rfl, rfl, rfl⟩

theorem bears_issue_with (r : Rule) (s : Subject) (message : String) (pattern : Option String)
    (count : Option Int) : r.Bears s { r.issue s message with pattern, count } :=
  ⟨rfl, rfl, rfl, rfl⟩

/-- All rules but the last look for one thing. -/
theorem mayReport_check {r : Rule} (hr : r ≠ .performance) (s : Subject) :
    r.MayReport s (r.check s) := by
  cases r with
  | dynamicRoutes =>
    rw [check, checkDynamicRoutes]
    split
    · exact .inl rfl
    · exact .inr ⟨_, _, bears_issue_with _ _ _ _ _, rfl⟩
  | queryClient =>
    rw [check, checkQueryClient]
    split
    · exact .inl rfl
    · exact .inr ⟨_, _, bears_issue_with _ _ _ _ _, rfl⟩
  | contextPlacement =>
    rw [check, checkContextPlacement]
    split
    · split
      · exact .inr ⟨_, _, bears_issue _ _ _, rfl⟩
      · exact .inl rfl
    · exact .inl rfl
  | blockedNavigation =>
    rw [check, checkBlockedNavigation]
    split
    · exact .inr ⟨_, _, bears_issue _ _ _, rfl⟩
    · exact .inl rfl
  | activityContext =>
    rw [check, checkActivityContext]
    split
    · exact .inr ⟨_, _, bears_issue _ _ _, rfl⟩
    · exact .inl rfl
  | memoization =>
    rw [check, checkMemoization]
    split
    · exact .inr ⟨_, _, bears_issue _ _ _, rfl⟩
    · exact .inl rfl
  | asyncWrapper =>
    simp only [check, checkAsyncWrapper]
    split
    · exact .inl rfl
    · exact .inr ⟨_, _, bears_issue_with _ _ _ _ _, rfl⟩
  | shellHooks =>
    rw [check, checkShellHooks]
    split
    · exact .inr ⟨_, _, bears_issue _ _ _, rfl⟩
    · exact .inl rfl
  | performance => exact absurd rfl hr

/-- **The issues of a rule are its own**, and about the file that was looked at. -/
theorem bears_of_mem_issues {r : Rule} {s : Subject} {i : Issue} (h : i ∈ (r.check s).issues) :
    r.Bears s i := by
  by_cases hr : r = .performance
  · subst hr
    rw [check, checkPerformance] at h
    obtain ⟨smell, -, rfl⟩ := List.mem_map.1 h
    exact bears_issue _ _ _
  · rcases mayReport_check hr s with he | ⟨j, recommended, hj, he⟩
    · rw [he] at h
      cases h
    · rw [he, report, List.mem_singleton] at h
      rwa [h]

/-- The sentences that a rule may say about an issue. -/
def messages : Rule → List String
  | .dynamicRoutes => ["Dynamic route generation detected - may cause unmounts"]
  | .queryClient => ["QueryClient created in route file - may cause state loss"]
  | .contextPlacement => ["Context may be placed above Routes - could cause unmounts"]
  | .blockedNavigation => ["BlockedNavigation component found - may interfere with routing"]
  | .activityContext => ["ActivityContext found - may track navigation changes"]
  | .memoization => ["Expensive calculations detected without memoization"]
  | .asyncWrapper => ["Multiple AsyncWrapper instances detected"]
  | .shellHooks => ["Shell hooks used without proper memoization"]
  | .performance => Catalog.smells.map Prod.snd

/-- **What an issue says does not depend on the file.** -/
theorem message_of_mem_issues {r : Rule} {s : Subject} {i : Issue} (h : i ∈ (r.check s).issues) :
    i.message ∈ r.messages := by
  cases r with
  | performance =>
    obtain ⟨smell, hsmell, rfl⟩ := List.mem_map.1 h
    exact List.mem_map_of_mem (List.mem_filter.1 hsmell).1
  | contextPlacement =>
    rw [check, checkContextPlacement] at h
    split at h
    · split at h
      · rw [List.mem_singleton.1 h]
        exact List.mem_singleton_self _
      · cases h
    · cases h
  | _ =>
    simp only [check, checkDynamicRoutes, checkQueryClient, checkBlockedNavigation,
      checkActivityContext, checkMemoization, checkAsyncWrapper, checkShellHooks] at h
    split at h
    all_goals
      first
      | exact List.mem_singleton.1 h ▸ List.mem_singleton_self _
      | cases h

/-- **A rule recommends its remedy** and nothing else. -/
theorem eq_of_mem_recommendations {r : Rule} {s : Subject} {rec : Recommendation}
    (h : rec ∈ (r.check s).recommendations) : rec = r.recommendation s := by
  by_cases hr : r = .performance
  · subst hr
    rw [check, checkPerformance] at h
    cases h
  · rcases mayReport_check hr s with he | ⟨j, recommended, -, he⟩
    · rw [he] at h
      cases h
    · rw [he] at h
      cases recommended with
      | false => cases h
      | true => simpa [report] using h

/-! ## The two modes -/

/-- The other rules do not ask for the mode. -/
theorem check_mode_of_ne {r : Rule} (hr : r ≠ .asyncWrapper) (s : Subject) (extended : Bool) :
    r.check { s with extended } = r.check s := by
  cases r with
  | asyncWrapper => exact absurd rfl hr
  | _ => rfl

/-- No rule asks for the mode to find its issues. -/
theorem issues_check_mode (r : Rule) (s : Subject) (extended : Bool) :
    (r.check { s with extended }).issues = (r.check s).issues := by
  by_cases hr : r = .asyncWrapper
  · subst hr
    simp only [check, checkAsyncWrapper]
    split <;> rfl
  · rw [check_mode_of_ne hr]

theorem fix_ne_of_ne {r : Rule} (hr : r ≠ .asyncWrapper) : r.fix ≠ Rule.asyncWrapper.fix := by
  cases r with
  | asyncWrapper => exact absurd rfl hr
  | _ => decide

end Rule

/-- Whether a recommendation is made in the plain mode too: it is about a file, and not about the
wrapper that loads modules. -/
def Recommendation.isPlain (r : Recommendation) : Bool :=
  r.file.isSome && r.message != Rule.asyncWrapper.fix

theorem Rule.recommendations_check_plain (r : Rule) (s : Subject) :
    (r.check { s with extended := false }).recommendations =
      (r.check { s with extended := true }).recommendations.filter Recommendation.isPlain := by
  by_cases hr : r = .asyncWrapper
  · subst hr
    simp only [check, checkAsyncWrapper]
    split
    · rfl
    · simp [report, Rule.recommendation, Recommendation.isPlain]
  · rw [check_mode_of_ne hr s false, check_mode_of_ne hr s true, eq_comm, List.filter_eq_self]
    intro rec hrec
    rw [eq_of_mem_recommendations hrec]
    simpa [Recommendation.isPlain, Rule.recommendation] using fix_ne_of_ne hr

/-! ## All rules -/

theorem file_of_mem_issues_runRules {s : Subject} {i : Issue} (h : i ∈ (runRules s).issues) :
    i.file = s.file := by
  rw [issues_runRules, List.mem_flatMap] at h
  obtain ⟨r, -, hi⟩ := h
  exact (Rule.bears_of_mem_issues hi).file

theorem file_of_mem_recommendations_runRules {s : Subject} {rec : Recommendation}
    (h : rec ∈ (runRules s).recommendations) : rec.file = some s.file := by
  rw [recommendations_runRules, List.mem_flatMap] at h
  obtain ⟨r, -, hrec⟩ := h
  rw [Rule.eq_of_mem_recommendations hrec]
  rfl

/-- The issues of a file are the same in both modes. -/
theorem issues_runRules_mode (s : Subject) (extended : Bool) :
    (runRules { s with extended }).issues = (runRules s).issues := by
  rw [issues_runRules, issues_runRules]
  simp only [Rule.issues_check_mode]

/-- **The plain mode** makes the recommendations of the extended one that are plain. -/
theorem recommendations_runRules_plain (s : Subject) :
    (runRules { s with extended := false }).recommendations =
      (runRules { s with extended := true }).recommendations.filter Recommendation.isPlain := by
  rw [recommendations_runRules, recommendations_runRules, List.filter_flatMap]
  simp only [Rule.recommendations_check_plain]

end RouteAudit
