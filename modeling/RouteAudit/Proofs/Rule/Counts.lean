import RouteAudit.Proofs.Pattern.Search
import RouteAudit.Proofs.Scan.Words

/-!
# Counts miss nothing and count nothing twice

Four numbers of a report are counts of a pattern: the query clients that a file creates, those that
it names, the components that it declares and the wrappers that it mentions.  Each occurrence is
looked for behind the one before, so an occurrence that begins inside another one would be passed
over.  There is none, for any of the four patterns, and so every count is the number of places of
the text at which a word of a language begins.

For three of them this is because the pattern begins with a word that cannot come again in it.  The
pattern of declarations is another matter: the name of a constant is any run of word characters, and
that run may itself be, or end in, one of the words that declarations begin with, as in
`const export = (`.  What saves the count is what comes next.  A declaration goes on behind its
first word with blanks and then a word character, but behind the name of a constant and its blanks
there is `=` (`Catalog.silentIn_name`).

* `Source.clientCreation`, `Source.clientName`, `Source.declaration` — the languages;
* `Catalog.apart_componentDeclaration` — declarations do not overlap;
* `Subject.CountsPlaces`, `counts_exact` — every count of a file is a number of places.
-/

set_option autoImplicit false

namespace RouteAudit

open Source (placesOf)

/-! ## The languages -/

namespace Source

/-- A query client that is created. -/
def clientCreation : Language Char := text "new" * gap * text "QueryClient" * blanks * sign '('

/-- A query client that is named behind `new`. -/
def clientName : Language Char := text "new" * gap * text "QueryClient"

/-- A function or class that is exported, as the default or not, or a constant that is bound to
something in parentheses. -/
def declaration : Language Char :=
  text "export" * gap * (1 + text "default" * gap) * (text "function" + text "class")
    + text "const" * gap * word * blanks * sign '=' * blanks * sign '('

end Source

namespace Catalog

theorem isSettled_componentDeclaration : componentDeclaration.isSettled = true := by
  decide

theorem language_newQueryClientCall : newQueryClientCall.language = Source.clientCreation := by
  simp [newQueryClientCall, Pattern.language, Phrase.language, Piece.language,
    Source.clientCreation, Source.text, Source.sign, mul_assoc]

theorem language_newQueryClient : newQueryClient.language = Source.clientName := by
  simp [newQueryClient, Pattern.language, Phrase.language, Piece.language, Source.clientName,
    Source.text, mul_assoc]

theorem language_componentDeclaration : componentDeclaration.language = Source.declaration := by
  simp [componentDeclaration, Pattern.language, Phrase.language, Piece.language,
    Source.declaration, Source.text, Source.sign, mul_assoc, mul_add, add_mul]
  ac_rfl

/-! ## Declarations do not overlap -/

/-- The words that declarations begin with. -/
def declarationWords : List (List Char) := ["export".toList, "const".toList]

theorem opensWith_componentDeclaration : componentDeclaration.OpensWith declarationWords := by
  intro ps hps
  simp only [componentDeclaration, List.mem_cons, List.not_mem_nil, or_false] at hps
  rcases hps with rfl | rfl | rfl | rfl | rfl
  all_goals exact ⟨_, by simp [declarationWords], _, rfl⟩

end Catalog

/-- Whether the phrase is a word, blanks and then something that begins with a word character. -/
def Phrase.isKeyed : Phrase → Bool
  | .lit k :: .gap :: .lit (c :: _) :: _ => k.all Text.isWord && Text.isWord c
  | .lit k :: .gap :: .word :: _ => k.all Text.isWord
  | _ => false

theorem Phrase.exists_of_isKeyed {ps : Phrase} (h : Phrase.isKeyed ps = true) {w : List Char}
    (hw : w ∈ Phrase.language ps) :
    ∃ k g c t, w = k ++ (g ++ c :: t) ∧ (∀ d ∈ k, Text.isWord d = true) ∧ g ∈ Source.gap ∧
      Text.isWord c = true := by
  unfold Phrase.isKeyed at h
  split at h
  · rename_i k c t ps
    rw [Bool.and_eq_true, List.all_eq_true] at h
    obtain ⟨_, rfl, x, hx, rfl⟩ := Phrase.mem_language_cons.1 hw
    obtain ⟨g, hg, y, hy, rfl⟩ := Phrase.mem_language_cons.1 hx
    obtain ⟨_, rfl, z, -, rfl⟩ := Phrase.mem_language_cons.1 hy
    exact ⟨_, g, c, t ++ z, rfl, h.1, hg, h.2⟩
  · rename_i k ps
    obtain ⟨_, rfl, x, hx, rfl⟩ := Phrase.mem_language_cons.1 hw
    obtain ⟨g, hg, y, hy, rfl⟩ := Phrase.mem_language_cons.1 hx
    obtain ⟨u, hu, z, -, rfl⟩ := Phrase.mem_language_cons.1 hy
    obtain ⟨hne, hword⟩ := Source.mem_word.1 hu
    obtain ⟨c, t, rfl⟩ := List.exists_cons_of_ne_nil hne
    exact ⟨_, g, c, t ++ z, rfl, List.all_eq_true.1 h, hg, hword c List.mem_cons_self⟩
  · cases h

namespace Catalog

/-- Blanks and what follows them end a word, unless a word character follows. -/
theorem exists_cons_of_blanks {b : List Char} (hb : ∀ d ∈ b, Text.isBlank d = true) {c : Char}
    (hc : b ≠ [] ∨ Text.isWord c = false) (t : List Char) :
    ∃ d r, b ++ c :: t = d :: r ∧ Text.isWord d = false := by
  cases b with
  | nil => exact ⟨c, t, rfl, hc.resolve_left fun h => h rfl⟩
  | cons d b =>
    exact ⟨d, b ++ c :: t, rfl, Text.isWord_eq_false_of_isBlank (hb d List.mem_cons_self)⟩

/-- **A name in front of `=` hides no declaration.** -/
theorem silentIn_name {u b : List Char} (hu : ∀ c ∈ u, Text.isWord c = true)
    (hb : ∀ c ∈ b, Text.isBlank c = true) (t : List Char) :
    componentDeclaration.SilentIn u (b ++ '=' :: t) := by
  intro x v huv _
  rw [← Bool.not_eq_true]
  intro hbegins
  obtain ⟨w, hw, r, hr⟩ := (Pattern.isSome_rest?_iff isSettled_componentDeclaration).1 hbegins
  obtain ⟨ps, hps, hw⟩ := Pattern.mem_language.1 hw
  have hkeyed : ∀ ps ∈ componentDeclaration, Phrase.isKeyed ps = true := by decide
  obtain ⟨k, g, c, y, rfl, hk, hg, hc⟩ := Phrase.exists_of_isKeyed (hkeyed ps hps) hw
  obtain ⟨hne, hblank⟩ := Source.mem_gap.1 hg
  have hv : ∀ d ∈ v, Text.isWord d = true :=
    fun d hd => hu d (huv ▸ List.mem_append_right x hd)
  have hr : k ++ (g ++ c :: (y ++ r)) = v ++ (b ++ '=' :: t) := by simpa using hr
  -- the declaration would be the rest of the name, blanks and a word character in place of `=`
  obtain ⟨-, hrest⟩ := run_append_inj hk (exists_cons_of_blanks hblank (.inl hne) _) hv
    (exists_cons_of_blanks hb (.inr (by decide)) t) hr
  obtain ⟨-, htail⟩ := run_append_inj hblank ⟨c, y ++ r, rfl, Text.isBlank_eq_false_of_isWord hc⟩
    hb ⟨'=', t, rfl, by decide⟩ hrest
  have heq : c = '=' := (List.cons.inj htail).1
  rw [heq] at hc
  exact absurd hc (by decide)

/-- No declaration begins behind the first character of a constant. -/
theorem exists_silentIn_constant {w : List Char}
    (hw : w ∈ Phrase.language [.lit "const".toList, .gap, .word, .blanks, .lit ['='], .blanks,
      .lit ['(']]) :
    ∃ c m, w = c :: m ∧ ∀ r, componentDeclaration.SilentIn m r := by
  have hopens := opensWith_componentDeclaration
  obtain ⟨_, rfl, x, hx, rfl⟩ := Phrase.mem_language_cons.1 hw
  obtain ⟨g, hg, y, hy, rfl⟩ := Phrase.mem_language_cons.1 hx
  obtain ⟨u, hu, v, hv, rfl⟩ := Phrase.mem_language_cons.1 hy
  obtain ⟨b, hb, t, ht, rfl⟩ := Phrase.mem_language_cons.1 hv
  obtain ⟨_, rfl, z, -, rfl⟩ := Phrase.mem_language_cons.1 ht
  refine ⟨'c', "onst".toList ++ (g ++ (u ++ (b ++ (['='] ++ z)))), rfl, fun r => ?_⟩
  have hfront : ∀ k ∈ declarationWords, isFreeOf k "onst".toList = true := by decide
  have hgap : ∀ k ∈ declarationWords, isFreeOf k g = true := by
    have hpiece : ∀ k ∈ declarationWords, Piece.gap.isFreeOf k = true := by decide
    exact fun k hk => Piece.isFreeOf_of_mem (hpiece k hk) hg
  have hname : componentDeclaration.SilentIn u (b ++ (['='] ++ z) ++ r) := by
    simpa using silentIn_name (Source.mem_word.1 hu).2 hb (z ++ r)
  have hend : ∀ k ∈ declarationWords, isFreeOf k (b ++ (['='] ++ z)) = true := by
    have hpieces : ∀ k ∈ declarationWords,
        List.all [.blanks, .lit ['='], .blanks, .lit ['(']] (Piece.isFreeOf k) = true := by
      decide
    exact fun k hk => Phrase.isFreeOf_of_mem (hpieces k hk) hv
  exact (hopens.silentIn hfront _).append
    ((hopens.silentIn hgap _).append (hname.append (hopens.silentIn hend r)))

/-- **Declarations do not overlap.** -/
theorem apart_componentDeclaration : componentDeclaration.Apart := by
  have hopens := opensWith_componentDeclaration
  have hexport : ∀ k ∈ declarationWords, isFreeOf k "xport".toList = true := by decide
  refine Pattern.apart_of_silent fun w hw => ?_
  obtain ⟨ps, hps, hw⟩ := Pattern.mem_language.1 hw
  simp only [componentDeclaration, List.mem_cons, List.not_mem_nil, or_false] at hps
  rcases hps with rfl | rfl | rfl | rfl | rfl
  · exact hopens.exists_silentIn (a := 'e') hexport (by decide) hw
  · exact hopens.exists_silentIn (a := 'e') hexport (by decide) hw
  · exact hopens.exists_silentIn (a := 'e') hexport (by decide) hw
  · exact hopens.exists_silentIn (a := 'e') hexport (by decide) hw
  · exact exists_silentIn_constant hw

end Catalog

/-! ## The counts of a file -/

/-- The count that the issue of a kind gives; zero, if there is no such issue. -/
def Findings.countOf (f : Findings) (k : IssueKind) : Option Int :=
  match f.issues.find? fun i => i.kind = k with
  | none => some 0
  | some i => i.count

namespace Subject

/-- The count of a kind is that of the first issue of its rule. -/
theorem countOf_kind (s : Subject) (r : Rule) : (runRules s).countOf r.kind =
    match (r.check s).issues.head? with
    | none => some 0
    | some i => i.count := by
  rw [Findings.countOf, ← List.head?_filter, r.filter_issues_runRules]

theorem countOf_queryClient (s : Subject) : (runRules s).countOf .queryClient =
    some (Catalog.newQueryClientCall.count s.content : Int) := by
  rw [show IssueKind.queryClient = Rule.queryClient.kind from rfl, s.countOf_kind, Rule.check,
    Rule.checkQueryClient]
  cases Catalog.newQueryClientCall.count s.content with
  | zero => rfl
  | succ n => rfl

theorem countOf_asyncWrappers (s : Subject) : (runRules s).countOf .asyncWrappers =
    some (if Catalog.asyncWrapper.count s.content ≤ 1 then 0
      else (Catalog.asyncWrapper.count s.content : Int)) := by
  rw [show IssueKind.asyncWrappers = Rule.asyncWrapper.kind from rfl, s.countOf_kind]
  by_cases hn : Catalog.asyncWrapper.count s.content ≤ 1
  · simp only [Rule.check, Rule.checkAsyncWrapper, if_pos hn]
    rfl
  · simp only [Rule.check, Rule.checkAsyncWrapper, if_neg hn]
    rfl

/-- Every count that is made of the file is the number of places at which a word of a language
begins. -/
structure CountsPlaces (s : Subject) : Prop where
  created : (runRules s).countOf .queryClient =
    some (placesOf Source.clientCreation s.content : Int)
  named : s.summary.hasMultipleQueryClients = true ↔ 2 ≤ placesOf Source.clientName s.content
  components : s.summary.componentCount = placesOf Source.declaration s.content
  wrappers : Catalog.asyncWrapper.count s.content =
    placesOf (Source.text "AsyncWrapper") s.content
  /-- The wrappers are reported if there are several of them. -/
  reported : (runRules s).countOf .asyncWrappers =
    some (if placesOf (Source.text "AsyncWrapper") s.content ≤ 1 then 0
      else (placesOf (Source.text "AsyncWrapper") s.content : Int))

end Subject

/-- **Every place is counted once**, in every file. -/
theorem counts_exact (s : Subject) : s.CountsPlaces := by
  have hcreated := Pattern.count_eq_placesOf (p := Catalog.newQueryClientCall) (by decide)
    Catalog.apart_newQueryClientCall s.content
  have hnamed := Pattern.count_eq_placesOf (p := Catalog.newQueryClient) (by decide)
    Catalog.apart_newQueryClient s.content
  have hdeclared := Pattern.count_eq_placesOf Catalog.isSettled_componentDeclaration
    Catalog.apart_componentDeclaration s.content
  have hwrapped := Pattern.count_eq_placesOf (p := Catalog.asyncWrapper) rfl
    Catalog.apart_asyncWrapper s.content
  rw [Catalog.language_newQueryClientCall] at hcreated
  rw [Catalog.language_newQueryClient] at hnamed
  rw [Catalog.language_componentDeclaration] at hdeclared
  rw [Catalog.asyncWrapper, Pattern.language_lit, ← Catalog.asyncWrapper] at hwrapped
  refine ⟨?_, ?_, ?_, hwrapped, ?_⟩
  · rw [s.countOf_queryClient, hcreated]
  · rw [Subject.summary, summarize, decide_eq_true_eq, hnamed]
    exact Nat.lt_iff_add_one_le
  · rw [Subject.summary, summarize, hdeclared]
  · rw [s.countOf_asyncWrappers, hwrapped]

/-- Names that are themselves the first words of declarations. -/
example : (summarize "const export = ( const const=(".toList "routes.ts").componentCount = 2 := by
  decide

end RouteAudit
