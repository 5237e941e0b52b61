import RouteAudit.Proofs.Rule.Agreement
import RouteAudit.Proofs.Text.Ascii

/-!
# Words in broken files

Most rules look for one word, and a word is found wherever its bytes are in the file, whether or not
the file is UTF-8.  So their issues can be told from the bytes alone, without reading them as text:
which of them a file has, and how many wrappers an issue counts, although the rule counts each one
behind the one before.

* `Catalog.smellWords` — the words that issues about performance are made of;
* `FindsWords` — issues that are those of the words in some bytes;
* `findsWords_takeFile` — the issues of a file that can be read are those of its bytes.
-/

set_option autoImplicit false

namespace RouteAudit

open Text

namespace Catalog

/-- The words of the smells, each with what to say about it. -/
def smellWords : List (String × String) :=
  [("console.log", "Console statements found - remove for production"),
    ("debugger", "Debugger statements found - remove for production"),
    ("JSON.parse(JSON.stringify", "Deep cloning with JSON methods - consider alternatives")]

theorem smells_eq : smells = smellWords.map fun smell => (.lit smell.1, smell.2) := rfl

theorem isPlain_smellWords : ∀ smell ∈ smellWords, IsPlain smell.1.toList := by decide +kernel

/-- No two smells are said to be the same. -/
theorem smellWords_injective : ∀ x ∈ smellWords, ∀ y ∈ smellWords, x.2 = y.2 → x = y := by
  decide +kernel

theorem apart_asyncWrapper : asyncWrapper.Apart :=
  Pattern.apart_of_word (a := 'A') (w := "syncWrapper".toList) (by decide +kernel) rfl

end Catalog

/-- The issues are those of the words in some bytes. -/
structure FindsWords (bytes : List UInt8) (issues : List Issue) : Prop where
  blockedNavigation : (∃ i ∈ issues, i.kind = .blockedNavigation) ↔
    ascii "BlockedNavigation" <:+: bytes
  activityContext : (∃ i ∈ issues, i.kind = .activityContext) ↔ ascii "ActivityContext" <:+: bytes
  performance : ∀ smell ∈ Catalog.smellWords,
    (∃ i ∈ issues, i.kind = .performance ∧ i.message = smell.2) ↔ ascii smell.1 <:+: bytes
  /-- Nothing else is said about performance. -/
  smell : ∀ i ∈ issues, i.kind = .performance → ∃ smell ∈ Catalog.smellWords, i.message = smell.2
  asyncWrappers : (∃ i ∈ issues, i.kind = .asyncWrappers) ↔
    2 ≤ bytePlaces (ascii "AsyncWrapper") bytes
  count : ∀ i ∈ issues, i.kind = .asyncWrappers →
    i.count = some (bytePlaces (ascii "AsyncWrapper") bytes : Int)

namespace Subject

theorem issues_checkPerformance_iff {s : Subject} {smell : String × String}
    (hsmell : smell ∈ Catalog.smellWords) :
    (∃ i ∈ (Rule.performance.check s).issues, i.message = smell.2) ↔
      (Pattern.lit smell.1).occurs s.content = true := by
  rw [Rule.check, Rule.checkPerformance, Catalog.smells_eq, List.filter_map]
  constructor
  · rintro ⟨i, hi, hm⟩
    obtain ⟨_, hpair, rfl⟩ := List.mem_map.1 hi
    obtain ⟨x, hfilter, rfl⟩ := List.mem_map.1 hpair
    obtain ⟨hx, hocc⟩ := List.mem_filter.1 hfilter
    obtain rfl : x = smell := Catalog.smellWords_injective x hx smell hsmell hm
    exact hocc
  · intro hocc
    exact ⟨_, List.mem_map_of_mem (List.mem_map_of_mem (List.mem_filter.2 ⟨hsmell, hocc⟩)), rfl⟩

theorem issues_checkAsyncWrapper_iff {s : Subject} {i : Issue} :
    i ∈ (Rule.asyncWrapper.check s).issues ↔
      2 ≤ Catalog.asyncWrapper.places s.content ∧
        i = { Rule.asyncWrapper.issue s "Multiple AsyncWrapper instances detected" with
          count := some (Catalog.asyncWrapper.places s.content : Int) } := by
  simp only [Rule.check, Rule.checkAsyncWrapper,
    Pattern.count_eq_places Catalog.apart_asyncWrapper]
  split
  next h => exact iff_of_false List.not_mem_nil fun h2 => by omega
  next h =>
    rw [Rule.report, List.mem_singleton]
    exact ⟨fun hi => ⟨by omega, hi⟩, And.right⟩

/-- The issues of the rules are those of the words in the bytes that were read. -/
theorem findsWords {s : Subject} {bytes : List UInt8} (hs : s.content = readText bytes) :
    FindsWords bytes (runRules s).issues := by
  have hwrapper : Catalog.asyncWrapper.places s.content = bytePlaces (ascii "AsyncWrapper") bytes :=
    hs ▸ Pattern.places_readText (by decide +kernel) bytes
  refine ⟨?_, ?_, fun smell hsmell => ?_, fun i hi hk => ?_, ?_, fun i hi hk => ?_⟩
  · rw [s.agrees.blockedNavigation, summary, summarize, hs]
    exact Pattern.occurs_readText (by decide +kernel)
  · rw [s.agrees.activityContext, summary, summarize, hs]
    exact Pattern.occurs_readText (by decide +kernel)
  · rw [← Pattern.occurs_readText (Catalog.isPlain_smellWords smell hsmell), ← hs,
      ← issues_checkPerformance_iff hsmell]
    refine exists_congr fun i => ?_
    rw [← and_assoc]
    exact and_congr_left fun _ => Rule.performance.mem_issues_iff
  · obtain ⟨_, hpair, hm⟩ :=
      List.mem_map.1 (Rule.message_of_mem_issues (Rule.performance.mem_issues_iff.1 ⟨hi, hk⟩))
    obtain ⟨smell, hsmell, rfl⟩ := List.mem_map.1 (Catalog.smells_eq ▸ hpair)
    exact ⟨smell, hsmell, hm.symm⟩
  · rw [← hwrapper]
    refine (s.exists_issue_iff .asyncWrapper).trans ⟨?_, fun h => ?_⟩
    · rintro ⟨_, hi⟩
      exact (issues_checkAsyncWrapper_iff.1 hi).1
    · exact ⟨_, issues_checkAsyncWrapper_iff.2 ⟨h, rfl⟩⟩
  · rw [(issues_checkAsyncWrapper_iff.1 (Rule.asyncWrapper.mem_issues_iff.1 ⟨hi, hk⟩)).2,
      ← hwrapper]

end Subject

/-- **Words are found in broken files.**  Whatever bytes a file has, if it can be read then the
issues that it adds to an analysis are those of the words in its bytes. -/
theorem findsWords_takeFile (a : Analysis) {t : FileTree} {p : Path} {bytes : List UInt8}
    (h : t.read p = .ok bytes) :
    ∃ issues, (a.takeFile t p).1.issues = a.issues ++ issues ∧ FindsWords bytes issues := by
  rw [Analysis.takeFile, h]
  exact ⟨_, rfl, Subject.findsWords rfl⟩

/-- A file in which every word stands next to the beginning of a character that does not end. -/
def brokenProject : FileTree where
  root := .dir [("routes.ts",
    .file ([0xF0, 0x9F] ++ ascii "AsyncWrapper" ++ [0xC3] ++ ascii "BlockedNavigation" ++
      [0xED, 0xA0] ++ ascii "AsyncWrapper" ++ [0xE2, 0x82]))]

theorem findsWords_takeFile_brokenProject :
    ∃ bytes issues, brokenProject.read ⟨.root, ["routes.ts"]⟩ = .ok bytes ∧
      ((Analysis.takeFile { basePath := "/", timestamp := "" } brokenProject
        ⟨.root, ["routes.ts"]⟩).1.issues = issues) ∧
      (∃ i ∈ issues, i.kind = .blockedNavigation) ∧ (¬∃ i ∈ issues, i.kind = .activityContext) ∧
      ∃ i ∈ issues, i.kind = .asyncWrappers ∧ i.count = some 2 := by
  obtain ⟨bytes, hbytes, hb⟩ : ∃ bytes, brokenProject.read ⟨.root, ["routes.ts"]⟩ = .ok bytes ∧
      ascii "BlockedNavigation" <:+: bytes ∧ ¬ascii "ActivityContext" <:+: bytes ∧
      bytePlaces (ascii "AsyncWrapper") bytes = 2 :=
    ⟨_, rfl, by decide +kernel⟩
  obtain ⟨issues, hissues, h⟩ :=
    findsWords_takeFile { basePath := "/", timestamp := "" } hbytes
  obtain ⟨i, hi, hk⟩ := h.asyncWrappers.2 (Nat.le_of_eq hb.2.2.symm)
  exact ⟨bytes, issues, hbytes, hissues, h.blockedNavigation.2 hb.1, mt h.activityContext.1 hb.2.1,
    i, hi, hk, by rw [h.count i hi hk, hb.2.2]; rfl⟩

end RouteAudit
