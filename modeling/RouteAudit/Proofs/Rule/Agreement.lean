import RouteAudit.Proofs.Pattern.Places
import RouteAudit.Proofs.Rule.Findings
import RouteAudit.Proofs.Scan.Account

/-!
# Rules and summaries agree

The rules and the summary of a file look at the same text with patterns of their own: a query client
that is called against one that is only named, routes that are mapped over with the path and the
component taken apart against any routes that are mapped over, a number of wrappers against any sign
of the shell.  They agree all the same, because each pattern of a rule begins only where the pattern
of the summary begins, and because the query clients of a text do not overlap, so that comparing
their places compares their counts.

* `Rule.filter_issues_runRules`, `Rule.mem_recommendations_iff` — the findings of a rule among those
  of all;
* `count_newQueryClientCall_le` — query clients that are created and those that are named;
* `Subject.Agrees` — the rules agree with the summary of a file;
* `rules_agree` — they do for every file, and so the libraries that an analysis detects agree with
  its issues.
-/

set_option autoImplicit false

namespace RouteAudit

/-! ## The findings of one rule -/

namespace Rule

theorem eq_of_kind_eq {r q : Rule} (h : r.kind = q.kind) : r = q := by
  revert h
  cases r <;> cases q <;> decide

theorem eq_of_fix_eq {r q : Rule} (h : r.fix = q.fix) : r = q := by
  revert h
  cases r <;> cases q <;> decide

/-- The issues of a kind are those of its rule, in the order in which the rule has them. -/
theorem filter_issues_runRules (r : Rule) (s : Subject) :
    (runRules s).issues.filter (fun i => i.kind = r.kind) = (r.check s).issues := by
  have hown : ∀ q : Rule, ((q.check s).issues.filter fun i => i.kind = r.kind) =
      if q = r then (q.check s).issues else [] := by
    intro q
    split
    · rename_i hq
      subst hq
      rw [List.filter_eq_self]
      intro i hi
      simpa using (bears_of_mem_issues hi).kind
    · rename_i hq
      rw [List.filter_eq_nil_iff]
      intro i hi hk
      have hkind : q.kind = r.kind := by
        rw [← (bears_of_mem_issues hi).kind]
        simpa using hk
      exact hq (eq_of_kind_eq hkind)
  rw [issues_runRules, List.filter_flatMap]
  simp only [hown]
  cases r <;> simp [Rule.all]

theorem mem_issues_iff (r : Rule) {s : Subject} {i : Issue} :
    i ∈ (runRules s).issues ∧ i.kind = r.kind ↔ i ∈ (r.check s).issues := by
  rw [← r.filter_issues_runRules s, List.mem_filter, decide_eq_true_iff]

/-- The recommendations of a rule are those of its remedy. -/
theorem mem_recommendations_iff (r : Rule) {s : Subject} {rec : Recommendation} :
    rec ∈ (runRules s).recommendations ∧ rec.message = r.fix ↔
      rec ∈ (r.check s).recommendations := by
  rw [recommendations_runRules, List.mem_flatMap]
  constructor
  · rintro ⟨⟨q, -, hrec⟩, hm⟩
    have hq : q = r := by
      rw [eq_of_mem_recommendations hrec] at hm
      exact eq_of_fix_eq hm
    rwa [hq] at hrec
  · intro hrec
    refine ⟨⟨r, mem_all r, hrec⟩, ?_⟩
    rw [eq_of_mem_recommendations hrec]
    rfl

end Rule

/-! ## Patterns of rules and of summaries -/

namespace Pattern

/-- A pattern with more phrases begins wherever one with fewer does. -/
theorem begins_of_subset {p q : Pattern} (h : p ⊆ q) {s : List Char} (hp : p.begins s = true) :
    q.begins s = true := by
  rw [begins, rest?, List.findSome?_isSome_iff] at hp ⊢
  obtain ⟨phrase, hmem, hs⟩ := hp
  exact ⟨phrase, h hmem, hs⟩

end Pattern

namespace Catalog

theorem apart_newQueryClient : newQueryClient.Apart :=
  Pattern.apart_of_word (a := 'n') (w := ['e', 'w']) (by decide) (by decide)

theorem apart_newQueryClientCall : newQueryClientCall.Apart :=
  Pattern.apart_of_word (a := 'n') (w := ['e', 'w']) (by decide) (by decide)

theorem begins_newQueryClient {s : List Char} (h : newQueryClientCall.begins s = true) :
    newQueryClient.begins s = true :=
  Pattern.begins_of_append [.lit "new".toList, .gap, .lit "QueryClient".toList]
    [.blanks, .lit ['(']] h

/-- **No more query clients are created than named.** -/
theorem count_newQueryClientCall_le (s : List Char) :
    newQueryClientCall.count s ≤ newQueryClient.count s := by
  rw [Pattern.count_eq_places apart_newQueryClientCall,
    Pattern.count_eq_places apart_newQueryClient]
  exact Pattern.places_le_of_begins (fun _ => begins_newQueryClient) s

theorem occurs_routesMap {s : List Char} (h : routesDestructured.occurs s = true) :
    routesMap.occurs s = true :=
  Pattern.occurs_of_begins
    (fun _ => Pattern.begins_of_append [.lit "routes.map".toList] _) h

theorem occurs_shellUsage_of_asyncWrapper {s : List Char} (h : asyncWrapper.occurs s = true) :
    shellUsage.occurs s = true :=
  Pattern.occurs_of_begins (fun _ => Pattern.begins_of_subset (by decide)) h

theorem occurs_shellUsage_of_modulePathResolver {s : List Char}
    (h : modulePathResolver.occurs s = true) : shellUsage.occurs s = true :=
  Pattern.occurs_of_begins (fun _ => Pattern.begins_of_subset (by decide)) h

end Catalog

/-! ## One file -/

namespace Issue

/-- The issue is about query clients that are created several times. -/
def IsRepeatedClient (i : Issue) : Prop :=
  i.kind = .queryClient ∧ ∃ n, i.count = some n ∧ 2 ≤ n

/-- The issue is about the shell. -/
def IsOfShell (i : Issue) : Prop := i.kind = .asyncWrappers ∨ i.kind = .shellHooks

end Issue

namespace Subject

/-- The summary of the file. -/
def summary (s : Subject) : RouteSummary := summarize s.content s.file

/-- The rules agree with the summary of the file. -/
structure Agrees (s : Subject) : Prop where
  activityContext : (∃ i ∈ (runRules s).issues, i.kind = .activityContext) ↔
    s.summary.hasActivityContext = true
  blockedNavigation : (∃ i ∈ (runRules s).issues, i.kind = .blockedNavigation) ↔
    s.summary.hasBlockedNavigation = true
  queryClients : (∃ i ∈ (runRules s).issues, i.IsRepeatedClient) →
    s.summary.hasMultipleQueryClients = true
  /-- Routes that are mapped over come with a recommendation if nothing is memoized. -/
  dynamicRoutes : (∃ i ∈ (runRules s).issues, i.kind = .dynamicRoutes) →
    ((∃ r ∈ (runRules s).recommendations, r.message = Rule.dynamicRoutes.fix) ↔
      s.summary.hasUnmemoizedRoutes = true)
  shell : (∃ i ∈ (runRules s).issues, i.IsOfShell) → s.summary.hasShellComponents = true

theorem exists_issue_iff (s : Subject) (r : Rule) :
    (∃ i ∈ (runRules s).issues, i.kind = r.kind) ↔ ∃ i, i ∈ (r.check s).issues :=
  exists_congr fun _ => r.mem_issues_iff

theorem issues_checkActivityContext (s : Subject) :
    (∃ i, i ∈ (Rule.activityContext.check s).issues) ↔ s.summary.hasActivityContext = true := by
  rw [Rule.check, Rule.checkActivityContext, summary, summarize]
  split <;> rename_i h <;> simp [Rule.report, h]

theorem issues_checkBlockedNavigation (s : Subject) :
    (∃ i, i ∈ (Rule.blockedNavigation.check s).issues) ↔ s.summary.hasBlockedNavigation = true := by
  rw [Rule.check, Rule.checkBlockedNavigation, summary, summarize]
  split <;> rename_i h <;> simp [Rule.report, h]

theorem hasMultipleQueryClients_of_mem {s : Subject} {i : Issue} {n : Int}
    (hi : i ∈ (Rule.queryClient.check s).issues) (hn : i.count = some n) (h2 : 2 ≤ n) :
    s.summary.hasMultipleQueryClients = true := by
  have hle := Catalog.count_newQueryClientCall_le s.content
  rw [Rule.check, Rule.checkQueryClient] at hi
  split at hi
  · cases hi
  · rename_i m hm
    obtain rfl : i = _ := List.mem_singleton.1 hi
    have hcount : ((m + 1 : Nat) : Int) = n := Option.some.inj hn
    rw [summary, summarize, decide_eq_true_eq]
    omega

/-- The recommendation of mapped routes, where there are some. -/
theorem recommendations_checkDynamicRoutes {s : Subject}
    (h : ∃ i, i ∈ (Rule.dynamicRoutes.check s).issues) :
    (∃ r, r ∈ (Rule.dynamicRoutes.check s).recommendations) ↔
      s.summary.hasUnmemoizedRoutes = true := by
  obtain ⟨i, hi⟩ := h
  rw [Rule.check, Rule.checkDynamicRoutes] at hi ⊢
  cases hf : Catalog.routesDestructured.find? s.content with
  | none => rw [hf] at hi; cases hi
  | some hit =>
    have hocc : Catalog.routesMap.occurs s.content = true :=
      Catalog.occurs_routesMap (by rw [Pattern.occurs, hf]; rfl)
    rw [summary, summarize]
    cases hm : Catalog.useMemo.occurs s.content <;> simp [Rule.report, hocc]

theorem hasShellComponents_of_asyncWrapper {s : Subject}
    (h : ∃ i, i ∈ (Rule.asyncWrapper.check s).issues) : s.summary.hasShellComponents = true := by
  obtain ⟨i, hi⟩ := h
  simp only [Rule.check, Rule.checkAsyncWrapper] at hi
  split at hi
  · cases hi
  · rename_i hn
    exact Catalog.occurs_shellUsage_of_asyncWrapper
      (Pattern.occurs_of_count_pos (by omega))

theorem hasShellComponents_of_shellHooks {s : Subject}
    (h : ∃ i, i ∈ (Rule.shellHooks.check s).issues) : s.summary.hasShellComponents = true := by
  obtain ⟨i, hi⟩ := h
  rw [Rule.check, Rule.checkShellHooks] at hi
  split at hi
  · rename_i hc
    exact Catalog.occurs_shellUsage_of_modulePathResolver (Bool.and_eq_true_iff.1 hc).1
  · cases hi

/-- **The rules agree with the summary** of every file. -/
theorem agrees (s : Subject) : s.Agrees where
  activityContext :=
    (s.exists_issue_iff .activityContext).trans s.issues_checkActivityContext
  blockedNavigation :=
    (s.exists_issue_iff .blockedNavigation).trans s.issues_checkBlockedNavigation
  queryClients := by
    rintro ⟨i, hi, hk, n, hn, h2⟩
    exact hasMultipleQueryClients_of_mem (Rule.queryClient.mem_issues_iff.1 ⟨hi, hk⟩) hn h2
  dynamicRoutes := by
    intro h
    rw [← recommendations_checkDynamicRoutes ((s.exists_issue_iff .dynamicRoutes).1 h)]
    exact exists_congr fun r => Rule.dynamicRoutes.mem_recommendations_iff
  shell := by
    rintro ⟨i, hi, hk | hk⟩
    · exact hasShellComponents_of_asyncWrapper ((s.exists_issue_iff .asyncWrapper).1 ⟨i, hi, hk⟩)
    · exact hasShellComponents_of_shellHooks ((s.exists_issue_iff .shellHooks).1 ⟨i, hi, hk⟩)

end Subject

/-! ## A whole project -/

/-- A library is detected if a file has the property that shows its use. -/
theorem Table.mem_detect {table : Table} {e : TableEntry} (he : e ∈ table)
    {summaries : List RouteSummary} {s : RouteSummary} (hs : s ∈ summaries)
    (h : e.property.holds s = true) :
    { e.dependency with detected := true } ∈ table.detect summaries := by
  have hany : summaries.any e.property.holds = true := List.any_eq_true.2 ⟨s, hs, h⟩
  refine List.mem_map.2 ⟨e, he, ?_⟩
  rw [hany]

namespace Analysis

/-- The library of a name is in use. -/
def Detects (a : Analysis) (name : String) : Prop :=
  ∃ d ∈ a.dependencies, d.name = .text name ∧ d.detected = true

/-- An issue comes from a file whose summary goes into the libraries. -/
theorem exists_subject {time base : String} {found : Nat} {read : List Subject} {i : Issue}
    (hi : i ∈ (account { extended := true, timestamp := time } base found read).issues) :
    ∃ s ∈ read, i ∈ (runRules s).issues ∧ ∀ e ∈ Table.bundled, e.property.holds s.summary = true →
      { e.dependency with detected := true } ∈
        (account { extended := true, timestamp := time } base found read).dependencies := by
  obtain ⟨s, hs, his⟩ := List.mem_flatMap.1 hi
  exact ⟨s, hs, his, fun e he h => Table.mem_detect he (List.mem_map_of_mem hs) h⟩

end Analysis

/-- **Rules, summaries and libraries agree.**  The rules agree with the summary of every file, and
so in the extended analysis of a project query clients that are created several times in a file show
that their library is in use, and so do issues about the shell. -/
theorem rules_agree :
    (∀ s : Subject, s.Agrees) ∧
    ∀ (t : FileTree) (start : Path) (time : String) (a : Analysis) (log : List LogLine),
      scan { extended := true, timestamp := time } t start = .ok (a, log) →
      ((∃ i ∈ a.issues, i.IsRepeatedClient) → a.Detects "@tanstack/react-query") ∧
      ((∃ i ∈ a.issues, i.IsOfShell) → a.Detects "capitalrx-shell") := by
  refine ⟨Subject.agrees, fun t start time a log h => ?_⟩
  cases hb : t.resolve start with
  | error f => rw [scan_of_resolve_error _ hb] at h; cases h
  | ok base =>
    obtain ⟨log', hscan⟩ := scan_of_resolve_ok { extended := true, timestamp := time } hb
    obtain ⟨rfl, -⟩ := Prod.mk.inj (Except.ok.inj (hscan.symm.trans h))
    refine ⟨?_, ?_⟩
    · rintro ⟨i, hi, hclient⟩
      obtain ⟨s, -, his, hdetect⟩ := Analysis.exists_subject hi
      have hs := s.agrees.queryClients ⟨i, his, hclient⟩
      exact ⟨_, hdetect (Table.bundled.get ⟨2, by decide⟩) (List.get_mem _ _) hs, rfl, rfl⟩
    · rintro ⟨i, hi, hshell⟩
      obtain ⟨s, -, his, hdetect⟩ := Analysis.exists_subject hi
      have hs := s.agrees.shell ⟨i, his, hshell⟩
      exact ⟨_, hdetect (Table.bundled.get ⟨3, by decide⟩) (List.get_mem _ _) hs, rfl, rfl⟩

/-- A project with a file that creates two query clients and uses two wrappers. -/
def shellProject : FileTree where
  root := .dir [("routes.ts",
    .file "new QueryClient() new QueryClient() AsyncWrapper AsyncWrapper".toUTF8.toList)]

/-- Both libraries are in use in the project. -/
theorem rules_agree_shellProject :
    ∃ a log, scan { extended := true, timestamp := "" } shellProject ⟨.root, []⟩ = .ok (a, log) ∧
      (∃ i ∈ a.issues, i.IsRepeatedClient) ∧ a.Detects "@tanstack/react-query" ∧
      (∃ i ∈ a.issues, i.IsOfShell) ∧ a.Detects "capitalrx-shell" := by
  have hresolve : shellProject.resolve ⟨.root, []⟩ = .ok ⟨.root, []⟩ := rfl
  obtain ⟨log, hscan⟩ := scan_of_resolve_ok { extended := true, timestamp := "" } hresolve
  obtain ⟨i, hi, hik, hin⟩ : ∃ i ∈ (shellProject.readFiles true ⟨.root, []⟩).flatMap
      fun s => (runRules s).issues, i.kind = .queryClient ∧ i.count = some 2 := by
    decide +kernel
  obtain ⟨j, hj, hjk⟩ : ∃ j ∈ (shellProject.readFiles true ⟨.root, []⟩).flatMap
      fun s => (runRules s).issues, j.kind = .asyncWrappers := by
    decide +kernel
  have hclient : i.IsRepeatedClient := ⟨hik, 2, hin, by decide⟩
  have hagree := rules_agree.2 _ _ _ _ _ hscan
  exact ⟨_, log, hscan, ⟨i, hi, hclient⟩, hagree.1 ⟨i, hi, hclient⟩, ⟨j, hj, .inl hjk⟩,
    hagree.2 ⟨j, hj, .inl hjk⟩⟩

end RouteAudit
