import RouteAudit.Proofs.Report.Console
import RouteAudit.Proofs.Terminal.Verbatim

/-!
# Every issue has its line on the terminal

The results on a terminal list the issues by severity, worst first.  The name of a file may be full
of what looks like markup; it is escaped, and comes out as it is, unless it has controls, or
backslashes where the terminal takes some away or adds one.  So the lines of the issues are the
issues themselves, each once, in a stable regrouping.

On a terminal without cells nothing is printed, and that is the only exception.

## What is here

* `Issue.IsPlain` — an issue that a rule could report, in a file whose name has nothing special;
* `Screen.record` — the line of such an issue, and `Screen.printOpen_issueMarkup`, that it is
  printed as one line;
* `Screen.printedOf` — what has been printed when the results are done or cannot go on;
* `Screen.ListsIssues` — the results list the issues, and `Screen.listsIssues`, that they do on
  every terminal with cells.
-/

set_option autoImplicit false

namespace RouteAudit

open Terminal (MarkupFault Styled Prints Verbatim isBare isBare_append isBare_lit escape styled)

/-! ## Plain issues -/

/-- Whether `c` is a control character. -/
def isControl (c : Char) : Bool := c.toNat < 0x20 || 0x7F ≤ c.toNat && c.toNat < 0xA0

/-- An issue with a message of some rule, in a file whose name has no control, no backslash at its
end and none directly in front of an opening bracket. -/
structure Issue.IsPlain (i : Issue) : Prop where
  message : ∃ r : Rule, i.message ∈ r.messages
  control : ∀ c ∈ i.file.toList, isControl c = false
  last : i.file.toList.getLast? ≠ some '\\'
  bracket : ¬ Terminal.slashedBracket <:+: i.file.toList

/-- Whether a text has no controls. -/
def hasNoControl (s : List Char) : Bool := s.all fun c => !isControl c

theorem hasNoControl_append (s t : List Char) :
    hasNoControl (s ++ t) = (hasNoControl s && hasNoControl t) :=
  List.all_append

theorem hasNoControl_lit {s : String} {cs : List Char} (hs : s = String.ofList cs)
    (h : hasNoControl cs = true) : hasNoControl s.toList = true := by
  rwa [hs, String.toList_ofList]

theorem isControl_of_mem {s : List Char} (h : hasNoControl s = true) {c : Char} (hc : c ∈ s) :
    isControl c = false := by
  simpa using List.all_eq_true.1 h c hc

/-- The controls that are never printed are among the controls. -/
theorem isSilent_of_isControl {c : Char} (h : isControl c = false) :
    Terminal.isSilent c = false := by
  simp only [isControl, Bool.or_eq_false_iff, decide_eq_false_iff_not] at h
  simp only [Terminal.isSilent, Bool.or_eq_false_iff, beq_eq_false_iff_ne]
  omega

theorem Rule.hasNoControl_messages (r : Rule) :
    ∀ m ∈ r.messages, hasNoControl m.toList = true := by
  cases r with
  | performance =>
    refine List.forall_mem_cons.2 ⟨hasNoControl_lit rfl rfl, ?_⟩
    exact List.forall_mem_cons.2 ⟨hasNoControl_lit rfl rfl, List.forall_mem_singleton.2
      (hasNoControl_lit rfl rfl)⟩
  | _ => exact List.forall_mem_singleton.2 (hasNoControl_lit rfl rfl)

/-- A plain issue, which is checked by running the tests. -/
theorem Issue.isPlain_of {i : Issue} (r : Rule) (message : i.message ∈ r.messages)
    (h : hasNoControl i.file.toList = true ∧ i.file.toList.getLast? ≠ some '\\' ∧
      ¬ Terminal.slashedBracket <:+: i.file.toList) : i.IsPlain where
  message := ⟨r, message⟩
  control _ hc := isControl_of_mem h.1 hc
  last := h.2.1
  bracket := h.2.2

namespace Report
namespace Screen

/-! ## The line of an issue -/

/-- What stands in front of the name of a file: two blanks, the sign of the severity and a blank. -/
def recordFront (severity : Severity) : List Char :=
  "  ".toList ++ (sectionOf severity).2.2.toList ++ " ".toList

/-- The line of an issue: its sign, the name of the file, a colon and what is to be said. -/
def record (i : Issue) : List Char :=
  recordFront i.severity ++ (i.file.toList ++ (": ".toList ++ i.message.toList))

theorem recordFront_plain (severity : Severity) : isBare (recordFront severity) = true ∧
    hasNoControl (recordFront severity) = true := by
  cases severity <;> exact ⟨rfl, rfl⟩

theorem recordBack_plain {i : Issue} (h : i.IsPlain) :
    isBare (": ".toList ++ i.message.toList) = true ∧
      hasNoControl (": ".toList ++ i.message.toList) = true := by
  obtain ⟨r, hr⟩ := h.message
  constructor
  · rw [isBare_append, r.isBare_messages _ hr]
    rfl
  · rw [hasNoControl_append, r.hasNoControl_messages _ hr]
    rfl

theorem hasNoControl_record {i : Issue} (h : i.IsPlain) : hasNoControl (record i) = true := by
  have hfile : hasNoControl i.file.toList = true :=
    List.all_eq_true.2 fun c hc => by rw [h.control c hc]; rfl
  rw [record, hasNoControl_append, hasNoControl_append, (recordFront_plain _).2, hfile,
    (recordBack_plain h).2]
  rfl

/-- A record is one line. -/
theorem newline_not_mem_record {i : Issue} (h : i.IsPlain) : '\n' ∉ record i := fun hmem =>
  absurd (isControl_of_mem (hasNoControl_record h) hmem) (by decide)

theorem verbatim_record {i : Issue} (h : i.IsPlain) : Verbatim (record i) := by
  have hsilent : ∀ c ∈ record i, Terminal.isSilent c = false := fun c hc =>
    isSilent_of_isControl (isControl_of_mem (hasNoControl_record h) hc)
  have hfront : Verbatim (recordFront i.severity) :=
    Terminal.verbatim_of_isBare (recordFront_plain _).1 fun c hc =>
      hsilent c (List.mem_append_left _ hc)
  have hback : Verbatim (": ".toList ++ i.message.toList) :=
    Terminal.verbatim_of_isBare (recordBack_plain h).1 fun c hc =>
      hsilent c (List.mem_append_right _ (List.mem_append_right _ hc))
  have hfile : Verbatim i.file.toList :=
    ⟨h.bracket, fun c hc => hsilent c (List.mem_append_right _ (List.mem_append_left _ hc))⟩
  have hlast : (recordFront i.severity).getLast? ≠ some '\\' := fun hlast =>
    (Terminal.not_mem_of_isBare (recordFront_plain i.severity).1).2.2 (List.mem_of_getLast? hlast)
  exact hfront.append (hfile.append hback h.last) hlast

theorem styled_issueMarkup {i : Issue} (h : i.IsPlain) :
    styled (issueMarkup (sectionOf i.severity).2.2 i) = .ok (Styled.plain (record i)) := by
  obtain ⟨r, hr⟩ := h.message
  have hmarkup : issueMarkup (sectionOf i.severity).2.2 i = recordFront i.severity
      ++ (escape i.file.toList ++ (": ".toList ++ i.message.toList)) := by
    rw [issueMarkup, Terminal.escape_of_isBare (r.isBare_messages _ hr), recordFront]
    simp only [List.append_assoc]
  rw [hmarkup]
  exact Terminal.styled_escape (recordFront_plain _).1 (recordBack_plain h).1 h.last
    (verbatim_record h)

variable (s : Screen)

/-- **An issue is printed as one line**, on every terminal with cells. -/
theorem printOpen_issueMarkup (hs : 0 < s.width) {i : Issue} (h : i.IsPlain) :
    s.printOpen (issueMarkup (sectionOf i.severity).2.2 i) = .ok (endLines [record i]) := by
  have htab : '\t' ∉ record i := fun hmem =>
    absurd (isControl_of_mem (hasNoControl_record h) hmem) (by decide)
  have hfault : [Styled.plain (record i)].findSome? Styled.fault? = none := rfl
  rw [printOpen, styled_issueMarkup h]
  dsimp only
  rw [Terminal.openLines_plain (newline_not_mem_record h) htab, showLines,
    if_neg (Nat.ne_of_gt hs), hfault]
  rfl

/-! ## Whole lines -/

theorem endLines_append (lines more : List (List Char)) :
    endLines (lines ++ more) = endLines lines ++ endLines more :=
  List.flatMap_append

/-- A text of whole lines, of which there are none on a terminal without cells. -/
def IsLines (out : List Char) : Prop :=
  ∃ lines, out = endLines lines ∧ (s.width = 0 → lines = [])

theorem isLines_nil : s.IsLines [] := ⟨[], rfl, fun _ => rfl⟩

theorem isLines_of_showLines {lines : List Styled} {view : Styled → List Char}
    {out : List Char} (h : s.showLines lines view = .ok out) : s.IsLines out := by
  rw [showLines] at h
  split at h
  · cases h
    exact s.isLines_nil
  · rename_i hs
    split at h <;> cases h
    exact ⟨_, rfl, fun h => absurd h hs⟩

theorem isLines_of_printOpen {markup out : List Char} (h : s.printOpen markup = .ok out) :
    s.IsLines out := by
  rw [printOpen] at h
  split at h
  · cases h
  · exact s.isLines_of_showLines h

theorem isLines_of_print {markup out : List Char} (h : s.print markup = .ok out) :
    s.IsLines out := by
  rw [print] at h
  split at h
  · exact s.isLines_of_printOpen h
  · split at h
    · cases h
    · exact s.isLines_of_showLines h

theorem isLines_of_fileTable {a : Analysis} {out : List Char} (h : s.fileTable a = .ok out) :
    s.IsLines out := by
  rw [fileTable] at h
  cases hnames : (tableFiles a).mapM fun f => (styled (escape f.toList)).map Styled.text with
  | error f =>
    rw [hnames] at h
    cases h
  | ok names =>
    rw [hnames] at h
    simp only [bind, Except.bind] at h
    split at h
    · cases h
      exact s.isLines_nil
    · rename_i hs
      split at h
      · exact ⟨_, (Except.ok.inj h).symm, fun h => absurd h hs⟩
      · exact ⟨_, (Except.ok.inj h).symm, fun h => absurd h hs⟩

/-- A part that is the print of some markup. -/
def IsMarkup (part : Except MarkupFault (List Char)) : Prop :=
  ∃ markup, part = s.print markup ∨ part = s.printOpen markup

theorem isMarkup_print (markup : List Char) : s.IsMarkup (s.print markup) := ⟨markup, .inl rfl⟩

theorem isMarkup_printOpen (markup : List Char) : s.IsMarkup (s.printOpen markup) :=
  ⟨markup, .inr rfl⟩

theorem isMarkup_section (a : Analysis) (severity : Severity) :
    ∀ part ∈ s.section? a severity, s.IsMarkup part := by
  rw [section?]
  cases a.issuesOf severity with
  | nil => exact fun _ hpart => absurd hpart List.not_mem_nil
  | cons first others =>
    exact List.forall_mem_cons.2 ⟨s.isMarkup_print _,
      List.forall_mem_map.2 fun i _ => s.isMarkup_printOpen _⟩

theorem isMarkup_recommendations (a : Analysis) :
    ∀ part ∈ s.recommendations a, s.IsMarkup part := by
  rw [recommendations]
  cases a.recommendations with
  | nil => exact fun _ hpart => absurd hpart List.not_mem_nil
  | cons first others =>
    exact List.forall_mem_cons.2 ⟨s.isMarkup_print _,
      List.forall_mem_map.2 fun r _ => s.isMarkup_printOpen _⟩

theorem isMarkup_stepLines (n : Nat) (steps : List String) :
    ∀ part ∈ s.stepLines n steps, s.IsMarkup part := by
  induction steps generalizing n with
  | nil => exact fun _ hpart => absurd hpart List.not_mem_nil
  | cons step steps ih => exact List.forall_mem_cons.2 ⟨s.isMarkup_print _, ih (n + 1)⟩

theorem isMarkup_conclusion (a : Analysis) : ∀ part ∈ s.conclusion a, s.IsMarkup part := by
  rw [conclusion]
  split
  · exact List.forall_mem_singleton.2 (s.isMarkup_print _)
  · refine List.forall_mem_cons.2 ⟨s.isMarkup_print _, ?_⟩
    exact List.forall_mem_cons.2 ⟨s.isMarkup_print _, s.isMarkup_stepLines 1 nextSteps⟩

/-- What is not the table of files is a markup. -/
theorem mem_openingParts {a : Analysis} {verbose : Bool} {part : Except MarkupFault (List Char)}
    (h : part ∈ s.openingParts a verbose) : part = s.fileTable a ∨ s.IsMarkup part := by
  rcases List.mem_append.1 h with htable | hnumbers
  · split at htable
    · exact .inl (List.mem_singleton.1 htable)
    · cases htable
  · simp only [List.mem_cons, List.not_mem_nil, or_false] at hnumbers
    rcases hnumbers with rfl | rfl | rfl | rfl <;> exact .inr (s.isMarkup_print _)

theorem mem_resultParts_cases {a : Analysis} {verbose : Bool}
    {part : Except MarkupFault (List Char)} (h : part ∈ s.resultParts a verbose) :
    part = s.fileTable a ∨ s.IsMarkup part := by
  rw [resultParts_eq] at h
  simp only [List.mem_append, List.mem_flatMap] at h
  rcases h with ((hopening | ⟨severity, -, hsection⟩) | hrecommendations) | hend
  · exact s.mem_openingParts hopening
  · exact .inr (s.isMarkup_section a severity part hsection)
  · exact .inr (s.isMarkup_recommendations a part hrecommendations)
  · exact .inr (s.isMarkup_conclusion a part hend)

theorem isLines_of_part {a : Analysis} {out : List Char}
    (h : .ok out = s.fileTable a ∨ s.IsMarkup (.ok out)) : s.IsLines out := by
  rcases h with htable | ⟨markup, hprint | hprintOpen⟩
  · exact s.isLines_of_fileTable htable.symm
  · exact s.isLines_of_print hprint.symm
  · exact s.isLines_of_printOpen hprintOpen.symm

/-- **The results are printed in whole lines.** -/
theorem isLines_of_mem_resultParts {a : Analysis} {verbose : Bool} {out : List Char}
    (h : .ok out ∈ s.resultParts a verbose) : s.IsLines out :=
  s.isLines_of_part (s.mem_resultParts_cases h)

theorem exists_lines_of_printAll {parts : List (Except MarkupFault (List Char))}
    (h : ∀ part ∈ parts, ∃ out, part = .ok out ∧ s.IsLines out) :
    ∃ lines, printAll parts = .ok (endLines lines) := by
  induction parts with
  | nil => exact ⟨[], rfl⟩
  | cons part parts ih =>
    obtain ⟨⟨_, rfl, lines, rfl, -⟩, hparts⟩ := List.forall_mem_cons.1 h
    obtain ⟨more, hmore⟩ := ih hparts
    exact ⟨lines ++ more, by rw [printAll, hmore, endLines_append]; rfl⟩

/-- In front of the issues there are whole lines. -/
theorem exists_lines_openingParts (a : Analysis) (verbose : Bool) :
    ∃ lines, printAll (s.openingParts a verbose) = .ok (endLines lines) := by
  refine s.exists_lines_of_printAll fun part hpart => ?_
  obtain ⟨out, rfl⟩ := s.exists_openingParts a verbose part hpart
  exact ⟨out, rfl, s.isLines_of_part (s.mem_openingParts hpart)⟩

/-! ## The groups -/

/-- The heading of a severity. -/
def headingMarkup (severity : Severity) : List Char :=
  "\n[bold ".toList ++ (sectionOf severity).1.toList ++ "]".toList
    ++ (sectionOf severity).2.1.toList ++ "[/bold ".toList ++ (sectionOf severity).1.toList
    ++ "]".toList

/-- The lines of a group: those of the heading, and one for each issue of the severity, in order.
There is no heading without issues. -/
def groupLines (heading : List (List Char)) (a : Analysis) (severity : Severity) :
    List (List Char) :=
  if a.issuesOf severity = [] then [] else heading ++ (a.issuesOf severity).map record

theorem section?_of_ne_nil {a : Analysis} {severity : Severity}
    (h : a.issuesOf severity ≠ []) : s.section? a severity =
      s.print (headingMarkup severity) ::
        (a.issuesOf severity).map fun i => s.printOpen (issueMarkup (sectionOf severity).2.2 i) := by
  rw [section?]
  cases hissues : a.issuesOf severity with
  | nil => exact absurd hissues h
  | cons first others => rfl

theorem printAll_issues (hs : 0 < s.width) {issues : List Issue} (h : ∀ i ∈ issues, i.IsPlain)
    {severity : Severity} (hseverity : ∀ i ∈ issues, i.severity = severity) :
    printAll (issues.map fun i => s.printOpen (issueMarkup (sectionOf severity).2.2 i)) =
      .ok (endLines (issues.map record)) := by
  induction issues with
  | nil => rfl
  | cons i issues ih =>
    obtain ⟨hi, hissues⟩ := List.forall_mem_cons.1 h
    obtain ⟨rfl, hothers⟩ := List.forall_mem_cons.1 hseverity
    rw [List.map_cons, s.printOpen_issueMarkup hs hi, printAll, ih hissues hothers]
    exact congrArg Except.ok (endLines_append [record i] _).symm

/-- **A group is printed** with a line for each of its issues. -/
theorem printAll_section (hs : 0 < s.width) {a : Analysis} (h : ∀ i ∈ a.issues, i.IsPlain)
    {severity : Severity} {heading : List (List Char)}
    (hheading : s.print (headingMarkup severity) = .ok (endLines heading)) :
    printAll (s.section? a severity) = .ok (endLines (groupLines heading a severity)) := by
  have hplain : ∀ i ∈ a.issuesOf severity, i.IsPlain := fun i hi => h i (List.mem_filter.1 hi).1
  have hseverity : ∀ i ∈ a.issuesOf severity, i.severity = severity := fun i hi =>
    of_decide_eq_true (List.mem_filter.1 hi).2
  have hissues := s.printAll_issues hs hplain hseverity
  rw [groupLines]
  split
  · rename_i hnone
    rw [section?, hnone]
    rfl
  · rename_i hsome
    rw [s.section?_of_ne_nil hsome, hheading, printAll, hissues]
    exact congrArg Except.ok (endLines_append heading _).symm

/-! ## The results -/

/-- What has been printed when all parts are done, or when one of them cannot be printed. -/
def printedOf : List (Except MarkupFault (List Char)) → List Char
  | .ok text :: parts => text ++ printedOf parts
  | _ => []

theorem printedOf_append {parts : List (Except MarkupFault (List Char))} {text : List Char}
    (h : printAll parts = .ok text) (others : List (Except MarkupFault (List Char))) :
    printedOf (parts ++ others) = text ++ printedOf others := by
  induction parts generalizing text with
  | nil =>
    cases h
    rfl
  | cons part parts ih =>
    cases part with
    | error f => cases h
    | ok first =>
      rw [printAll] at h
      cases hrest : printAll parts with
      | error f =>
        rw [hrest] at h
        cases h
      | ok rest =>
        rw [hrest] at h
        cases h
        rw [List.cons_append, printedOf, ih hrest, List.append_assoc]

/-- The results of an analysis list its issues. -/
structure ListsIssues (a : Analysis) (verbose : Bool) : Prop where
  /-- Behind the numbers come the groups, worst first, and behind them what else is to be said. -/
  printed : ∃ (opening : List (List Char)) (heading : Severity → List (List Char)),
    printAll (s.openingParts a verbose) = .ok (endLines opening) ∧
    (∀ severity, s.print (headingMarkup severity) = .ok (endLines (heading severity))) ∧
    printedOf (s.resultParts a verbose) =
      endLines (opening ++ groupLines (heading .high) a .high
        ++ groupLines (heading .medium) a .medium ++ groupLines (heading .low) a .low)
      ++ printedOf (s.recommendations a ++ s.conclusion a)
  /-- If nothing keeps the results from being printed to their end, this is all of them. -/
  whole : ∀ out, s.results a verbose = .ok out → out = printedOf (s.resultParts a verbose)
  /-- No issue has more than one line. -/
  unbroken : ∀ i ∈ a.issues, '\n' ∉ record i
  /-- The groups have every issue, as often as it is in the list. -/
  regrouped : (a.issuesOf .high ++ a.issuesOf .medium ++ a.issuesOf .low).Perm a.issues
  /-- In a group the issues are in the order of the list. -/
  stable : ∀ severity, (a.issuesOf severity).Sublist a.issues

/-- The groups of the three severities are a regrouping of the issues. -/
theorem perm_issuesOf (a : Analysis) :
    (a.issuesOf .high ++ a.issuesOf .medium ++ a.issuesOf .low).Perm a.issues := by
  refine List.perm_iff_count.2 fun i => ?_
  have hcount : ∀ severity, (a.issuesOf severity).count i =
      if i.severity = severity then a.issues.count i else 0 := by
    intro severity
    split
    · rename_i h
      exact List.count_filter (decide_eq_true h)
    · rename_i h
      exact List.count_eq_zero.2 fun hi => h (of_decide_eq_true (List.mem_filter.1 hi).2)
  rw [List.count_append, List.count_append, hcount, hcount, hcount]
  cases i.severity <;> simp

/-- **The results list the issues** on every terminal with cells: each issue once, in one line of
its own, with the name of its file as it is. -/
theorem listsIssues (hs : 0 < s.width) {a : Analysis} (h : ∀ i ∈ a.issues, i.IsPlain)
    (verbose : Bool) : s.ListsIssues a verbose := by
  obtain ⟨opening, hopening⟩ := s.exists_lines_openingParts a verbose
  have hheadings : ∀ severity, ∃ lines, s.print (headingMarkup severity) = .ok (endLines lines) := by
    intro severity
    obtain ⟨out, hout⟩ := s.exists_print (prints_heading severity)
    obtain ⟨lines, rfl, -⟩ := s.isLines_of_print hout
    exact ⟨lines, hout⟩
  choose heading hheading using hheadings
  have hgroup := fun severity => s.printAll_section hs h (hheading severity)
  have hparts : s.resultParts a verbose = s.openingParts a verbose ++
      (s.section? a .high ++ (s.section? a .medium ++ (s.section? a .low ++
        (s.recommendations a ++ s.conclusion a)))) := by
    rw [resultParts_eq, Severity.all]
    simp only [List.flatMap_cons, List.flatMap_nil, List.append_nil, List.append_assoc]
  refine ⟨⟨opening, heading, hopening, hheading, ?_⟩, fun out hout => ?_,
    fun i hi => newline_not_mem_record (h i hi), perm_issuesOf a, fun severity => List.filter_sublist⟩
  · rw [hparts, printedOf_append hopening, printedOf_append (hgroup .high),
      printedOf_append (hgroup .medium), printedOf_append (hgroup .low)]
    simp only [endLines_append, List.append_assoc]
  · have hprinted := printedOf_append hout []
    rw [List.append_nil] at hprinted
    rw [hprinted]
    exact (List.append_nil out).symm

/-- An analysis with files whose names look like markup. -/
def lookalikeAnalysis : Analysis where
  basePath := "/srv"
  timestamp := ""
  issues := [
    { kind := .shellHooks
      severity := .medium
      file := "[/red]routes[.ts"
      message := "Shell hooks used without proper memoization" },
    { kind := .contextPlacement
      severity := .high
      file := "[bold]a\\b\\\\]/[/].ts"
      message := "Context may be placed above Routes - could cause unmounts" }]
  files := ["[@click=f(", "x\n"]

/-- Also on the narrowest terminal every issue has its line. -/
theorem listsIssues_lookalikeAnalysis : 0 < (⟨1, false⟩ : Screen).width ∧
    (∀ i ∈ lookalikeAnalysis.issues, i.IsPlain) ∧
    ListsIssues ⟨1, false⟩ lookalikeAnalysis true := by
  have hplain : ∀ i ∈ lookalikeAnalysis.issues, i.IsPlain := by
    refine List.forall_mem_cons.2 ⟨?_, List.forall_mem_singleton.2 ?_⟩
    · exact Issue.isPlain_of .shellHooks (List.mem_singleton_self _) (by decide +kernel)
    · exact Issue.isPlain_of .contextPlacement (List.mem_singleton_self _) (by decide +kernel)
  exact ⟨Nat.zero_lt_one, hplain, listsIssues ⟨1, false⟩ Nat.zero_lt_one hplain true⟩

/-! ## A terminal without cells -/

/-- On a terminal without cells nothing is printed. -/
theorem printedOf_withoutCells (hs : s.width = 0) {parts : List (Except MarkupFault (List Char))}
    (h : ∀ out, .ok out ∈ parts → s.IsLines out) : printedOf parts = [] := by
  induction parts with
  | nil => rfl
  | cons part parts ih =>
    cases part with
    | error f => rfl
    | ok text =>
      obtain ⟨lines, rfl, hnone⟩ := h text List.mem_cons_self
      rw [printedOf, hnone hs, ih fun out hout => h out (List.mem_cons_of_mem _ hout)]
      rfl

theorem newline_mem_endLines {lines : List (List Char)} {line : List Char} (h : line ∈ lines) :
    '\n' ∈ endLines lines :=
  List.mem_flatMap.2 ⟨line, h, List.mem_append_right _ (List.mem_singleton_self _)⟩

/-- An issue in a file with a plain name. -/
def soleIssue : Issue where
  kind := .shellHooks
  severity := .medium
  file := "a.ts"
  message := "Shell hooks used without proper memoization"

/-- An analysis with one issue. -/
def soleAnalysis : Analysis := { basePath := "/srv", timestamp := "", issues := [soleIssue] }

/-- Without cells there is no line for an issue either. -/
theorem not_listsIssues_withoutCells : ¬ ∀ (s : Screen) (a : Analysis) (verbose : Bool),
    (∀ i ∈ a.issues, i.IsPlain) → s.ListsIssues a verbose := by
  intro h
  have hplain : ∀ i ∈ soleAnalysis.issues, i.IsPlain := by
    refine List.forall_mem_singleton.2 ?_
    exact Issue.isPlain_of .shellHooks (List.mem_singleton_self _) (by decide +kernel)
  obtain ⟨opening, heading, -, -, hprinted⟩ := (h ⟨0, true⟩ soleAnalysis false hplain).printed
  rw [printedOf_withoutCells ⟨0, true⟩ rfl fun out => isLines_of_mem_resultParts _] at hprinted
  have hgroup : groupLines (heading .medium) soleAnalysis .medium =
      heading .medium ++ [record soleIssue] := rfl
  have hrecord : record soleIssue ∈ opening ++ groupLines (heading .high) soleAnalysis .high
      ++ groupLines (heading .medium) soleAnalysis .medium
      ++ groupLines (heading .low) soleAnalysis .low := by
    rw [hgroup]
    simp only [List.mem_append, List.mem_singleton, or_true, true_or]
  exact List.not_mem_nil (hprinted ▸ List.mem_append_left _ (newline_mem_endLines hrecord))

end Screen
end Report
end RouteAudit
