import Mathlib.Data.Option.Basic
import RouteAudit.Proofs.Rule.FirstPlaces
import RouteAudit.Proofs.Scan.Words

/-!
# Findings stay when text is appended

A file that grows at its end keeps what the rules found in it.  An issue goes on as one that says
the same, shows the same text and counts no less (`Issue.GoesOnAs`).  The only way to get rid of an
issue by writing more is to use the memoization hooks, and only two of the nine rules ask for those.

What has to be shown rule by rule is that the seam between the old text and the new one does no
harm.  A word that is there stays there.  A count is one of places, and a place stays a place.  The
first mapping of routes stays the first, since a mapping that began earlier and ended in the new
text would run across it.  And a context is judged in front of the first tag, which stays the first.

* `Rule.goesOn_check` — what one rule finds stays, if it does not ask for the hooks;
* `Subject.Keeps`, `keeps_append` — what is found in a file stays, whatever is appended to it.
-/

set_option autoImplicit false

namespace RouteAudit

/-- The issue goes on as another one, which says the same and counts no less. -/
structure Issue.GoesOnAs (i j : Issue) : Prop where
  same : j = { i with count := j.count }
  count : Option.Rel (· ≤ ·) i.count j.count

theorem Issue.GoesOnAs.refl (i : Issue) : i.GoesOnAs i := by
  refine ⟨rfl, ?_⟩
  cases i.count with
  | none => exact .none
  | some n => exact .some (Int.le_refl n)

/-- The file with more text at its end. -/
def Subject.append (s : Subject) (t : List Char) : Subject := { s with content := s.content ++ t }

namespace Catalog

theorem apart_routesDestructured : routesDestructured.Apart :=
  Pattern.apart_of_word (a := 'r') (w := "outes.map".toList) (by decide +kernel) (by decide +kernel)

theorem isSettled_newQueryClientCall : newQueryClientCall.isSettled = true := by decide

theorem isSettled_smells : ∀ smell ∈ smells, smell.1.isSettled = true := by decide

end Catalog

namespace Rule

variable {s : Subject} {i : Issue}

/-! ## One rule -/

theorem mem_checkDynamicRoutes_append (h : i ∈ (checkDynamicRoutes s).issues) (t : List Char) :
    i ∈ (checkDynamicRoutes (s.append t)).issues := by
  rw [checkDynamicRoutes] at h ⊢
  cases hf : Catalog.routesDestructured.find? s.content with
  | none =>
    rw [hf] at h
    cases h
  | some hit =>
    have hlong : Catalog.routesDestructured.find? (s.append t).content =
        some { hit with after := hit.after ++ t } :=
      Pattern.find?_append (by decide) Catalog.apart_routesDestructured hf t
    rw [hf] at h
    rw [hlong]
    exact h

theorem goesOn_checkQueryClient (h : i ∈ (checkQueryClient s).issues) (t : List Char) :
    ∃ j ∈ (checkQueryClient (s.append t)).issues, i.GoesOnAs j := by
  have hle : Catalog.newQueryClientCall.count s.content ≤
      Catalog.newQueryClientCall.count (s.append t).content :=
    Pattern.count_le_append Catalog.isSettled_newQueryClientCall Catalog.apart_newQueryClientCall _ _
  rw [checkQueryClient] at h ⊢
  cases hn : Catalog.newQueryClientCall.count s.content with
  | zero =>
    rw [hn] at h
    cases h
  | succ n =>
    rw [hn] at h hle
    obtain ⟨m, hm⟩ := Nat.exists_eq_add_of_le' (Nat.le_trans (Nat.succ_pos n) hle)
    rw [hm] at hle ⊢
    obtain rfl := List.mem_singleton.1 h
    exact ⟨_, List.mem_singleton_self _, rfl, .some (Int.ofNat_le.2 hle)⟩

theorem goesOn_checkAsyncWrapper (h : i ∈ (checkAsyncWrapper s).issues) (t : List Char) :
    ∃ j ∈ (checkAsyncWrapper (s.append t)).issues, i.GoesOnAs j := by
  have hle : Catalog.asyncWrapper.count s.content ≤
      Catalog.asyncWrapper.count (s.append t).content :=
    Pattern.count_le_append (Pattern.isSettled_lit _) Catalog.apart_asyncWrapper _ _
  simp only [checkAsyncWrapper] at h ⊢
  split at h
  · cases h
  · rename_i hn
    rw [if_neg (by omega)]
    obtain rfl := List.mem_singleton.1 h
    exact ⟨_, List.mem_singleton_self _, rfl, .some (Int.ofNat_le.2 hle)⟩

theorem mem_checkContextPlacement_append (h : i ∈ (Rule.contextPlacement.check s).issues)
    (t : List Char) : i ∈ (Rule.contextPlacement.check (s.append t)).issues := by
  by_cases htag : openingTag <:+: s.content
  · obtain ⟨pre, post, hs, hpre⟩ := exists_first_openingTag htag
    have hlong : (s.append t).content = pre ++ (openingTag ++ (post ++ t)) := by
      rw [Subject.append, hs]
      simp
    rw [checkContextPlacement_of_first hs hpre] at h
    rw [checkContextPlacement_of_first hlong hpre]
    split at h
    · rename_i hm
      rw [if_pos hm]
      exact h
    · cases h
  · have hnone : Rule.contextPlacement.check s = {} := checkContextPlacement_of_not_infix htag
    rw [hnone] at h
    cases h

theorem mem_checkPerformance_append (h : i ∈ (checkPerformance s).issues) (t : List Char) :
    i ∈ (checkPerformance (s.append t)).issues := by
  obtain ⟨smell, hsmell, rfl⟩ := List.mem_map.1 h
  obtain ⟨hmem, hocc⟩ := List.mem_filter.1 hsmell
  have hlong : smell.1.occurs (s.append t).content = true :=
    Pattern.occurs_append (Catalog.isSettled_smells smell hmem) hocc t
  exact List.mem_map_of_mem (List.mem_filter.2 ⟨hmem, hlong⟩)

/-- **What a rule finds stays**, if the rule does not ask for the memoization hooks. -/
theorem goesOn_check {r : Rule} (hmemo : r ≠ .memoization) (hhooks : r ≠ .shellHooks)
    (h : i ∈ (r.check s).issues) (t : List Char) :
    ∃ j ∈ (r.check (s.append t)).issues, i.GoesOnAs j := by
  cases r with
  | dynamicRoutes => exact ⟨i, mem_checkDynamicRoutes_append h t, .refl i⟩
  | queryClient => exact goesOn_checkQueryClient h t
  | contextPlacement => exact ⟨i, mem_checkContextPlacement_append h t, .refl i⟩
  | blockedNavigation =>
    refine ⟨i, ?_, .refl i⟩
    rw [check, checkBlockedNavigation] at h ⊢
    split at h
    · rename_i hocc
      have hlong : Catalog.blockedNavigation.occurs (s.append t).content = true :=
        Pattern.occurs_append (Pattern.isSettled_lit _) hocc t
      rw [if_pos hlong]
      exact h
    · cases h
  | activityContext =>
    refine ⟨i, ?_, .refl i⟩
    rw [check, checkActivityContext] at h ⊢
    split at h
    · rename_i hocc
      have hlong : Catalog.activityContext.occurs (s.append t).content = true :=
        Pattern.occurs_append (Pattern.isSettled_lit _) hocc t
      rw [if_pos hlong]
      exact h
    · cases h
  | memoization => exact absurd rfl hmemo
  | asyncWrapper => exact goesOn_checkAsyncWrapper h t
  | shellHooks => exact absurd rfl hhooks
  | performance => exact ⟨i, mem_checkPerformance_append h t, .refl i⟩

/-! ## The rules that ask for the hooks -/

theorem occurs_useMemo_iff {s : List Char} :
    Catalog.useMemo.occurs s = true ↔ "useMemo".toList <:+: s := Pattern.occurs_lit_iff

theorem occurs_useCallback_iff {s : List Char} :
    Catalog.useCallback.occurs s = true ↔ "useCallback".toList <:+: s := Pattern.occurs_lit_iff

/-- Calls over a collection stay an issue just as long as there is none of the hooks. -/
theorem not_mem_checkMemoization_append (h : i ∈ (checkMemoization s).issues) (t : List Char) :
    i ∉ (checkMemoization (s.append t)).issues ↔
      "useMemo".toList <:+: s.content ++ t ∨ "useCallback".toList <:+: s.content ++ t := by
  rw [← occurs_useMemo_iff, ← occurs_useCallback_iff, ← Bool.or_eq_true]
  rw [checkMemoization] at h ⊢
  split at h
  · rename_i hcalls
    have hlong : Catalog.iterationCall.occurs (s.content ++ t) = true :=
      Pattern.occurs_append (Pattern.isSettled_anyOf _) (Bool.and_eq_true_iff.1 hcalls).1 t
    obtain rfl := List.mem_singleton.1 h
    simp only [Subject.append, hlong, Bool.true_and]
    cases Catalog.useMemo.occurs (s.content ++ t) || Catalog.useCallback.occurs (s.content ++ t)
    · simp [report, issue]
    · simp
  · cases h

/-- The shell's hook stays an issue just as long as one of the hooks is missing. -/
theorem not_mem_checkShellHooks_append (h : i ∈ (checkShellHooks s).issues) (t : List Char) :
    i ∉ (checkShellHooks (s.append t)).issues ↔
      "useMemo".toList <:+: s.content ++ t ∧ "useCallback".toList <:+: s.content ++ t := by
  rw [← occurs_useMemo_iff, ← occurs_useCallback_iff, ← Bool.and_eq_true]
  rw [checkShellHooks] at h ⊢
  split at h
  · rename_i hhook
    have hlong : Catalog.modulePathResolver.occurs (s.content ++ t) = true :=
      Pattern.occurs_append (Pattern.isSettled_lit _) (Bool.and_eq_true_iff.1 hhook).1 t
    obtain rfl := List.mem_singleton.1 h
    simp only [Subject.append, hlong, Bool.true_and]
    cases Catalog.useMemo.occurs (s.content ++ t) && Catalog.useCallback.occurs (s.content ++ t)
    · simp [report, issue]
    · simp
  · cases h

end Rule

/-! ## All rules -/

/-- What the rules find in the file stays when a text is appended, but for what the memoization
hooks in the longer text put right. -/
structure Subject.Keeps (s : Subject) (t : List Char) : Prop where
  goesOn : ∀ i ∈ (runRules s).issues, i.kind ≠ .missingMemo → i.kind ≠ .shellHooks →
    ∃ j ∈ (runRules (s.append t)).issues, i.GoesOnAs j
  missingMemo : ∀ i ∈ (runRules s).issues, i.kind = .missingMemo →
    (i ∉ (runRules (s.append t)).issues ↔
      "useMemo".toList <:+: s.content ++ t ∨ "useCallback".toList <:+: s.content ++ t)
  shellHooks : ∀ i ∈ (runRules s).issues, i.kind = .shellHooks →
    (i ∉ (runRules (s.append t)).issues ↔
      "useMemo".toList <:+: s.content ++ t ∧ "useCallback".toList <:+: s.content ++ t)

/-- Whether an issue of a rule is among all issues is for the rule to say. -/
theorem Rule.not_mem_runRules_iff {r : Rule} {s : Subject} {i : Issue} (h : i.kind = r.kind) :
    i ∉ (runRules s).issues ↔ i ∉ (r.check s).issues := by
  rw [← r.mem_issues_iff, and_iff_left h]

/-- **Findings stay when text is appended**, whatever the file and the text are. -/
theorem keeps_append (s : Subject) (t : List Char) : s.Keeps t := by
  refine ⟨fun i hi hmemo hhooks => ?_, fun i hi hk => ?_, fun i hi hk => ?_⟩
  · rw [issues_runRules, List.mem_flatMap] at hi
    obtain ⟨r, hr, hi⟩ := hi
    have hkind : i.kind = r.kind := (Rule.bears_of_mem_issues hi).kind
    have hrmemo : r ≠ .memoization := fun he => hmemo (by rw [hkind, he]; rfl)
    have hrhooks : r ≠ .shellHooks := fun he => hhooks (by rw [hkind, he]; rfl)
    obtain ⟨j, hj, hij⟩ := Rule.goesOn_check hrmemo hrhooks hi t
    rw [issues_runRules]
    exact ⟨j, List.mem_flatMap.2 ⟨r, hr, hj⟩, hij⟩
  · rw [Rule.not_mem_runRules_iff (r := .memoization) hk]
    exact Rule.not_mem_checkMemoization_append (Rule.memoization.mem_issues_iff.1 ⟨hi, hk⟩) t
  · rw [Rule.not_mem_runRules_iff (r := .shellHooks) hk]
    exact Rule.not_mem_checkShellHooks_append (Rule.shellHooks.mem_issues_iff.1 ⟨hi, hk⟩) t

/-- A hook that is written across the seam puts an issue right. -/
example : (Rule.checkMemoization ⟨"a.map(f) useM".toList, "r.ts", false⟩).issues ≠ [] ∧
    (Rule.checkMemoization ⟨"a.map(f) useM".toList ++ "emo".toList, "r.ts", false⟩).issues = [] := by
  decide +kernel

end RouteAudit
