import RouteAudit.Proofs.Pattern.Search
import RouteAudit.Rule

/-!
# Rules that look at the first place

Two rules go by where a pattern is found first.  The rule about mapped routes shows the text that
it found, and the rule about contexts compares the first place of a context with the first place of
the tag that opens the routes.  This file says what they report in terms of the text alone.

The comparison of two places says more than it seems to.  A word that mentions a context has no `<`
in it, so one that begins before the tag also ends before it; and the tag has `<` only in front, so
it cannot begin before the tag and run into it.  That makes the report a matter of the text in front
of the first tag, and nothing behind that tag has a say in it.

* `Source.routesMapping` — routes that are mapped over with the path and the component taken apart;
* `FindsMapping`, `findsMapping_check` — what the rule about mapped routes reports;
* `ContextFirst`, `contextPlacement_exact` — what the rule about contexts reports.
-/

set_option autoImplicit false

namespace RouteAudit

open Source (BeginsAt IsFirst)

/-! ## Mapped routes -/

/-- An array of routes that is mapped over, with the path and the component taken apart in the
argument of the function. -/
def Source.routesMapping : Language Char :=
  text "routes.map" * blanks * sign '(' * blanks * sign '(' * blanks * sign '{' * blanks
    * text "path" * blanks * sign ',' * blanks * text "Component" * blanks * sign '}' * blanks
    * sign ')'

namespace Catalog

theorem isSettled_routesDestructured : routesDestructured.isSettled = true := by decide

theorem language_routesDestructured : routesDestructured.language = Source.routesMapping := by
  simp [routesDestructured, Pattern.language, Phrase.language, Piece.language,
    Source.routesMapping, Source.text, Source.sign, mul_assoc]

end Catalog

/-- The findings are those about mapped routes in the file. -/
structure FindsMapping (s : Subject) (found : Findings) : Prop where
  issue_iff : found.issues ≠ [] ↔ ∃ w ∈ Source.routesMapping, w <:+: s.content
  /-- There is one issue at most, and it shows the first mapping of the text. -/
  first : ∀ i ∈ found.issues, found.issues = [i] ∧
    ∃ hit, IsFirst Source.routesMapping s.content hit ∧ i.pattern = some (String.ofList hit.text)
  recommendation_iff : found.recommendations ≠ [] ↔
    found.issues ≠ [] ∧ ¬"useMemo".toList <:+: s.content

/-- **Mapped routes** are reported just if there are any, by the first of them. -/
theorem findsMapping_check (s : Subject) : FindsMapping s (Rule.dynamicRoutes.check s) := by
  have hsettled := Catalog.isSettled_routesDestructured
  have hocc := Pattern.occurs_iff_language (s := s.content) hsettled
  have hmemo : Catalog.useMemo.occurs s.content = true ↔ "useMemo".toList <:+: s.content :=
    Pattern.occurs_lit_iff
  rw [Catalog.language_routesDestructured, Pattern.occurs] at hocc
  rw [Rule.check, Rule.checkDynamicRoutes]
  cases hf : Catalog.routesDestructured.find? s.content with
  | none =>
    rw [hf] at hocc
    refine ⟨⟨fun h => absurd rfl h, fun h => ?_⟩, fun i hi => ?_, ?_⟩
    · exact absurd (hocc.2 h) Bool.false_ne_true
    · cases hi
    · exact ⟨fun h => absurd rfl h, fun h => absurd rfl h.1⟩
  | some hit =>
    have hfirst := Pattern.isFirst_of_find? hsettled hf
    rw [Catalog.language_routesDestructured] at hfirst
    rw [hf] at hocc
    refine ⟨⟨fun _ => hocc.1 rfl, fun _ => List.cons_ne_nil _ _⟩, fun i hi => ?_, ?_⟩
    · obtain rfl := List.mem_singleton.1 hi
      exact ⟨rfl, hit, hfirst, rfl⟩
    · rw [← hmemo]
      cases Catalog.useMemo.occurs s.content <;> simp [Rule.report]

/-- What comes close to a mapping is passed over. -/
example : (Rule.checkDynamicRoutes ⟨"routes.map(x) routes.map\n( (\x7bpath,Component\x7d) =>".toList,
    "routes.ts", false⟩).issues.map (·.pattern) = [some "routes.map\n( (\x7bpath,Component\x7d)"] := by
  decide

/-! ## Contexts before the routes -/

/-- The words that mention a context. -/
def contextWords : List String := ["createContext", "useContext", ".Provider"]

/-- The opening tag of the routes. -/
def openingTag : List Char := "<Routes>".toList

/-- A context is mentioned in front of the first tag that opens the routes. -/
def ContextFirst (s : List Char) : Prop :=
  ∃ pre post, s = pre ++ (openingTag ++ post) ∧ ¬openingTag <:+: pre ∧
    ∃ m ∈ contextWords, m.toList <:+: pre

/-- What is reported about a context in the file. -/
def contextFindings (s : Subject) : Findings where
  issues := [Rule.contextPlacement.issue s
    "Context may be placed above Routes - could cause unmounts"]
  recommendations := [Rule.contextPlacement.recommendation s]

namespace Catalog

theorem mem_language_contextMarker {w : List Char} :
    w ∈ contextMarker.language ↔ ∃ m ∈ contextWords, w = m.toList :=
  Pattern.mem_language_anyOf

theorem mem_language_routesTag {w : List Char} : w ∈ Catalog.routesTag.language ↔ w = openingTag := by
  rw [Catalog.routesTag, Pattern.language_lit]
  exact Source.mem_text

/-- The first tag in a text is where the text in front of it has none. -/
theorem length_before_routesTag {pre : List Char} (hpre : ¬openingTag <:+: pre)
    (post : List Char) :
    ∃ hit, Catalog.routesTag.find? (pre ++ (openingTag ++ post)) = some hit ∧
      hit.before.length = pre.length := by
  have hhere : BeginsAt Catalog.routesTag.language (pre ++ (openingTag ++ post)) pre.length :=
    ⟨pre, openingTag, post, rfl, rfl, mem_language_routesTag.2 rfl⟩
  obtain ⟨hit, hfind, hfirst⟩ := Pattern.exists_isFirst (Pattern.isSettled_lit _) hhere
  refine ⟨hit, hfind, Nat.le_antisymm (hfirst.length_le hhere) (Nat.not_lt.1 fun hlt => hpre ?_)⟩
  have hnot : ∀ w ∈ Catalog.routesTag.language, '<' ∉ w.tail := by
    intro w hw
    rw [mem_language_routesTag.1 hw]
    decide
  obtain ⟨w, hw, hinfix⟩ := hfirst.beginsAt.infix_of_lt (c := '<') hlt hnot
  rwa [mem_language_routesTag.1 hw] at hinfix

theorem contextWords_short : ∀ m ∈ contextWords, m.toList ≠ [] ∧ '<' ∉ m.toList.tail := by
  decide

/-- A context is found before a tag just if it is mentioned in front of the tag. -/
theorem find?_contextMarker_iff (pre post : List Char) :
    (∃ hit, contextMarker.find? (pre ++ (openingTag ++ post)) = some hit ∧
      hit.before.length < pre.length) ↔ ∃ m ∈ contextWords, m.toList <:+: pre := by
  have hsettled : contextMarker.isSettled = true := Pattern.isSettled_anyOf _
  constructor
  · rintro ⟨hit, hfind, hlt⟩
    have hfirst := Pattern.isFirst_of_find? hsettled hfind
    have hnot : ∀ w ∈ contextMarker.language, '<' ∉ w.tail := by
      intro w hw
      obtain ⟨m, hmem, rfl⟩ := mem_language_contextMarker.1 hw
      exact (contextWords_short m hmem).2
    obtain ⟨w, hw, hinfix⟩ := hfirst.beginsAt.infix_of_lt (c := '<') hlt hnot
    obtain ⟨m, hmem, rfl⟩ := mem_language_contextMarker.1 hw
    exact ⟨m, hmem, hinfix⟩
  · rintro ⟨m, hmem, x, y, rfl⟩
    have hhere : BeginsAt contextMarker.language
        (x ++ m.toList ++ y ++ (openingTag ++ post)) x.length :=
      ⟨x, m.toList, y ++ (openingTag ++ post), by simp, rfl,
        mem_language_contextMarker.2 ⟨m, hmem, rfl⟩⟩
    obtain ⟨hit, hfind, hfirst⟩ := Pattern.exists_isFirst hsettled hhere
    have hle := hfirst.length_le hhere
    have hpos : 0 < m.toList.length := List.length_pos_iff.2 (contextWords_short m hmem).1
    refine ⟨hit, hfind, ?_⟩
    simp only [List.length_append]
    omega

end Catalog

/-- What the rule about contexts reports is decided in front of the first tag. -/
theorem Rule.checkContextPlacement_of_first {s : Subject} {pre post : List Char}
    (hs : s.content = pre ++ (openingTag ++ post)) (hpre : ¬openingTag <:+: pre) :
    Rule.contextPlacement.check s =
      if ∃ m ∈ contextWords, m.toList <:+: pre then contextFindings s else {} := by
  obtain ⟨routes, hroutes, hlength⟩ := Catalog.length_before_routesTag hpre post
  have hiff := Catalog.find?_contextMarker_iff pre post
  rw [← hs] at hroutes hiff
  rw [Rule.check, Rule.checkContextPlacement, hroutes]
  split_ifs with hm
  · obtain ⟨context, hfind, hlt⟩ := hiff.2 hm
    rw [hfind]
    dsimp only
    rw [if_pos (hlength ▸ hlt)]
    rfl
  · cases hfind : Catalog.contextMarker.find? s.content with
    | none => rfl
    | some context =>
      have hge : ¬context.before.length < routes.before.length :=
        fun hlt => hm (hiff.1 ⟨context, hfind, hlength ▸ hlt⟩)
      dsimp only
      rw [if_neg hge]

/-- A text with a tag in it has a first one. -/
theorem exists_first_openingTag {s : List Char} (h : openingTag <:+: s) :
    ∃ pre post, s = pre ++ (openingTag ++ post) ∧ ¬openingTag <:+: pre := by
  have hbegins : ∃ i, BeginsAt Catalog.routesTag.language s i :=
    Source.exists_beginsAt_iff.2 ⟨openingTag, Catalog.mem_language_routesTag.2 rfl, h⟩
  obtain ⟨i, hi⟩ := hbegins
  obtain ⟨hit, -, hfirst⟩ := Pattern.exists_isFirst (Pattern.isSettled_lit _) hi
  have htext := Catalog.mem_language_routesTag.1 hfirst.mem
  refine ⟨hit.before, hit.after, htext ▸ hfirst.split, ?_⟩
  rintro ⟨x, y, hxy⟩
  have hlen : x.length + openingTag.length + y.length = hit.before.length := by
    rw [← hxy]
    simp [Nat.add_assoc]
  have hpos : 0 < openingTag.length := by decide
  refine hfirst.first x.length (by omega) ⟨x, openingTag, y ++ (hit.text ++ hit.after), ?_, rfl,
    Catalog.mem_language_routesTag.2 rfl⟩
  conv_lhs => rw [hfirst.split, ← hxy]
  simp

/-- Nothing is reported where there is no tag. -/
theorem Rule.checkContextPlacement_of_not_infix {s : Subject} (h : ¬openingTag <:+: s.content) :
    Rule.contextPlacement.check s = {} := by
  have hnone : Catalog.routesTag.find? s.content = none := by
    rw [← Option.not_isSome_iff_eq_none, ← Pattern.occurs, Catalog.routesTag,
      Pattern.occurs_lit_iff]
    exact h
  rw [Rule.check, Rule.checkContextPlacement, hnone]
  split <;> simp_all

/-- **Contexts are judged by what is in front of the first tag.**  The issue and its recommendation
are reported just if a context is mentioned there, and texts that are the same up to a tag are
reported alike, whatever comes behind it. -/
theorem contextPlacement_exact :
    (∀ s : Subject,
      (Rule.contextPlacement.check s = contextFindings s ↔ ContextFirst s.content) ∧
      (Rule.contextPlacement.check s = {} ↔ ¬ContextFirst s.content)) ∧
    ∀ (pre post post' : List Char) (file : String) (extended : Bool),
      Rule.contextPlacement.check ⟨pre ++ (openingTag ++ post), file, extended⟩ =
        Rule.contextPlacement.check ⟨pre ++ (openingTag ++ post'), file, extended⟩ := by
  refine ⟨fun s => ?_, fun pre post post' file extended => ?_⟩
  · have hne : contextFindings s ≠ {} := by simp [contextFindings]
    by_cases hfirst : ContextFirst s.content
    · have hcheck : Rule.contextPlacement.check s = contextFindings s := by
        obtain ⟨pre, post, hs, hpre, hm⟩ := hfirst
        rw [Rule.checkContextPlacement_of_first hs hpre, if_pos hm]
      rw [hcheck]
      simp [hfirst, hne]
    · have hcheck : Rule.contextPlacement.check s = {} := by
        by_cases htag : openingTag <:+: s.content
        · obtain ⟨pre, post, hs, hpre⟩ := exists_first_openingTag htag
          rw [Rule.checkContextPlacement_of_first hs hpre]
          exact if_neg fun hm => hfirst ⟨pre, post, hs, hpre, hm⟩
        · exact Rule.checkContextPlacement_of_not_infix htag
      rw [hcheck]
      simp [hfirst, hne.symm]
  · have htag : openingTag <:+: pre ++ openingTag := (List.suffix_append pre openingTag).isInfix
    obtain ⟨x, y, hxy, hx⟩ := exists_first_openingTag htag
    have hsplit : ∀ t, pre ++ (openingTag ++ t) = x ++ (openingTag ++ (y ++ t)) := by
      intro t
      rw [← List.append_assoc, hxy]
      simp
    rw [Rule.checkContextPlacement_of_first (hsplit post) hx,
      Rule.checkContextPlacement_of_first (hsplit post') hx]
    rfl

/-- A context behind the first tag is not reported, whatever else comes behind it. -/
example : Rule.checkContextPlacement ⟨"<Routes> useContext <Routes>".toList, "routes.ts", false⟩ =
    {} := by
  decide

end RouteAudit
