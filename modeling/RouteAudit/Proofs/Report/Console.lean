import RouteAudit.Proofs.Json.RoundTrip
import RouteAudit.Proofs.Scan.Account
import RouteAudit.Proofs.Rule.Findings
import RouteAudit.Proofs.Terminal.Shown
import RouteAudit.Report.Console

/-!
# The report on a terminal is always printed

Every line of the report is bare text, a look around bare text, or an escaped text between bare
ones.  So a report can be printed whatever the files of a project are called, as long as the
sentences in it are bare, and those of the rules are.

## What is here

* `Screen.exists_print`, `Screen.exists_printOpen` — a markup that can be shown is printed, on every
  screen;
* `Screen.exists_header` — the header is printed for every directory;
* `Analysis.IsBare` — an analysis whose sentences are bare, and `Screen.exists_results`, that its
  results are printed;
* `Analysis.isBare_account` — the sentences of a scan are bare;
* `Screen.report_printed` — so the report of every scan is printed, with every issue in it.
-/

set_option autoImplicit false

namespace RouteAudit

open Terminal (MarkupFault Styled Prints IsLook isBare isBare_append isBare_lit escape styled)

namespace Report
namespace Screen

variable (s : Screen)

/-! ## Printing a markup -/

theorem exists_showLines {lines : List Styled} (h : ∀ line ∈ lines, line.Shows)
    (view : Styled → List Char) : ∃ out, s.showLines lines view = .ok out := by
  have hfault : lines.findSome? Styled.fault? = none :=
    List.findSome?_eq_none_iff.2 fun line hline => (h line hline).fault?
  rw [showLines, hfault]
  split <;> exact ⟨_, rfl⟩

theorem exists_printOpen {markup : List Char} (h : Prints markup) :
    ∃ out, s.printOpen markup = .ok out := by
  obtain ⟨t, ht, hshows⟩ := h
  rw [printOpen, ht]
  exact s.exists_showLines hshows.openLines _

/-- The parts of a text that stand out have no look. -/
theorem shows_highlighted {t : Styled} (h : t.Shows) : (highlighted t).Shows := by
  intro span hspan
  rcases List.mem_append.1 hspan with hspan | hspan
  · obtain ⟨place, -, rfl⟩ := List.mem_map.1 hspan
    exact (rfl : Terminal.lookFault? [] = none)
  · exact h span hspan

/-- **A markup that can be shown is printed.** -/
theorem exists_print {markup : List Char} (h : Prints markup) :
    ∃ out, s.print markup = .ok out := by
  rw [print]
  split
  · exact s.exists_printOpen h
  · obtain ⟨t, ht, hshows⟩ := h
    rw [ht]
    exact s.exists_showLines ((shows_highlighted hshows).wrapLines _ _ _) _

theorem exists_printAll {parts : List (Except MarkupFault (List Char))}
    (h : ∀ part ∈ parts, ∃ out, part = .ok out) : ∃ out, printAll parts = .ok out := by
  induction parts with
  | nil => exact ⟨[], rfl⟩
  | cons part parts ih =>
    obtain ⟨⟨text, rfl⟩, hparts⟩ := List.forall_mem_cons.1 h
    obtain ⟨out, hout⟩ := ih hparts
    exact ⟨text ++ out, by rw [printAll, hout]; rfl⟩

/-! ## The looks of a report -/

theorem isLook_bold : IsLook "bold".toList "bold" := Terminal.isLook_of rfl (by decide +kernel)

theorem isLook_cyan : IsLook "cyan".toList "cyan" := Terminal.isLook_of rfl (by decide +kernel)

theorem isLook_green : IsLook "green".toList "green" := Terminal.isLook_of rfl (by decide +kernel)

/-- The heading of a severity is bold, in the colour of the severity. -/
theorem isLook_heading (severity : Severity) :
    IsLook ("bold ".toList ++ (sectionOf severity).1.toList)
      ("bold " ++ (sectionOf severity).1) := by
  cases severity <;> exact Terminal.isLook_of rfl (by decide +kernel)

theorem prints_heading (severity : Severity) :
    Prints ("\n[bold ".toList ++ (sectionOf severity).1.toList ++ "]".toList
      ++ (sectionOf severity).2.1.toList ++ "[/bold ".toList ++ (sectionOf severity).1.toList
      ++ "]".toList) := by
  refine Terminal.prints_of_opensAndCloses (isLook_heading severity) ?_
  cases severity <;> rfl

/-! ## The header -/

/-- **The header is printed for every directory**, whatever its name is. -/
theorem exists_header (directory : String) :
    ∃ out, s.header directory "Route Analyzer" = .ok out := by
  have htitle : Prints ("[bold]🔧 ".toList ++ "Route Analyzer".toList ++ "[/bold]".toList) :=
    Terminal.prints_of_opensAndCloses isLook_bold rfl
  have hline : Prints (List.replicate ("Route Analyzer".length + 3) '=') :=
    Terminal.prints_bare rfl
  have hdirectory : Prints ("🎯 Analyzing: [cyan]".toList ++ escape directory.toList
      ++ "[/cyan]\n".toList) := by
    have h := Terminal.prints_tagged_escape isLook_cyan
      (isBare_lit (rfl : "🎯 Analyzing: " = _) rfl) (isBare_lit (rfl : "\n" = _) rfl)
      directory.toList
    have hfront : "🎯 Analyzing: [cyan]".toList =
        "🎯 Analyzing: ".toList ++ '[' :: ("cyan".toList ++ [']']) := rfl
    have hback : "[/cyan]\n".toList = '[' :: ('/' :: "cyan".toList ++ ']' :: "\n".toList) := rfl
    rw [hfront, hback]
    simpa only [List.append_assoc, List.cons_append, List.nil_append] using h
  refine exists_printAll (List.forall_mem_cons.2 ⟨s.exists_print htitle, ?_⟩)
  refine List.forall_mem_cons.2 ⟨s.exists_print hline, ?_⟩
  exact List.forall_mem_singleton.2 (s.exists_printOpen hdirectory)

end Screen
end Report

/-! ## Results -/

/-- The sentences of an analysis are bare. -/
structure Analysis.IsBare (a : Analysis) : Prop where
  issues : ∀ i ∈ a.issues, isBare i.message.toList = true
  recommendations : ∀ r ∈ a.recommendations, isBare r.message.toList = true

namespace Report
namespace Screen

variable (s : Screen)

theorem prints_issueMarkup (severity : Severity) {i : Issue}
    (h : isBare i.message.toList = true) :
    Prints (issueMarkup (sectionOf severity).2.2 i) := by
  have hfront : isBare ("  ".toList ++ (sectionOf severity).2.2.toList ++ " ".toList) = true := by
    cases severity <;> rfl
  have hback : isBare (": ".toList ++ i.message.toList) = true := by
    rw [isBare_append, h]
    rfl
  have hprints := Terminal.prints_escape hfront hback i.file.toList
  unfold issueMarkup
  simpa only [Terminal.escape_of_isBare h, List.append_assoc] using hprints

theorem prints_recommendationMarkup {r : Recommendation} (h : isBare r.message.toList = true) :
    Prints (recommendationMarkup r) := by
  have hsign : isBare "  💡 ".toList = true := rfl
  have hback : isBare (": ".toList ++ r.message.toList) = true := by
    rw [isBare_append, h]
    rfl
  have halone : Prints ("  💡 ".toList ++ ([] ++ r.message.toList)) := by
    rw [List.nil_append]
    exact Terminal.prints_bare (by rw [isBare_append, hsign, h]; rfl)
  unfold recommendationMarkup
  simp only [Terminal.escape_of_isBare h, List.append_assoc]
  split
  · rename_i file _
    split
    · exact halone
    · have hprints := Terminal.prints_escape hsign hback file.toList
      simpa only [List.append_assoc] using hprints
  · exact halone

/-- The table of files is drawn for all names of files. -/
theorem exists_fileTable (a : Analysis) : ∃ out, s.fileTable a = .ok out := by
  have hname : ∀ f : String, ∃ name, (styled (escape f.toList)).map Styled.text = .ok name := by
    intro f
    have hempty : isBare [] = true := rfl
    obtain ⟨t, ht, -⟩ := Terminal.prints_escape hempty hempty f.toList
    rw [List.nil_append, List.append_nil] at ht
    exact ⟨t.text, by rw [ht]; rfl⟩
  have hnames : ∀ files : List String, ∃ names,
      (files.mapM fun f => (styled (escape f.toList)).map Styled.text) = .ok names := by
    intro files
    induction files with
    | nil => exact ⟨[], rfl⟩
    | cons f files ih =>
      obtain ⟨name, hf⟩ := hname f
      obtain ⟨names, hfiles⟩ := ih
      exact ⟨name :: names, by rw [List.mapM_cons, hf, hfiles]; rfl⟩
  obtain ⟨names, h⟩ := hnames (tableFiles a)
  rw [fileTable, h]
  simp only [bind, Except.bind]
  split
  · exact ⟨_, rfl⟩
  · split <;> exact ⟨_, rfl⟩

theorem isBare_nat (n : Nat) : isBare (toString n).toList = true := by
  rw [Nat.toString_eq_repr, Nat.toList_repr]
  exact Terminal.isBare_digits n

theorem isBare_int (n : Int) : isBare (toString n).toList = true := by
  rw [Json.toList_toString_int]
  split
  · exact Terminal.isBare_digits _
  · exact Terminal.isBare_digits _

/-- A bare text is printed. -/
theorem exists_print_text {text : String} (h : isBare text.toList = true) :
    ∃ out, s.print text.toList = .ok out := s.exists_print (Terminal.prints_bare h)

theorem exists_section {a : Analysis} (h : a.IsBare) (severity : Severity) :
    ∀ part ∈ s.section? a severity, ∃ out, part = .ok out := by
  rw [section?]
  cases hissues : a.issuesOf severity with
  | nil => exact fun _ hpart => absurd hpart List.not_mem_nil
  | cons first others =>
    refine List.forall_mem_cons.2 ⟨s.exists_print (prints_heading severity), fun part hpart => ?_⟩
    obtain ⟨i, hi, rfl⟩ := List.mem_map.1 hpart
    rw [← hissues] at hi
    exact s.exists_printOpen (prints_issueMarkup severity (h.issues i (List.mem_filter.1 hi).1))

theorem exists_recommendations {a : Analysis} (h : a.IsBare) :
    ∀ part ∈ s.recommendations a, ∃ out, part = .ok out := by
  have hheading : Prints "\n[bold]💡 RECOMMENDATIONS:[/bold]".toList :=
    Terminal.prints_of_opensAndCloses isLook_bold rfl
  rw [recommendations]
  cases hrs : a.recommendations with
  | nil => exact fun _ hpart => absurd hpart List.not_mem_nil
  | cons first others =>
    refine List.forall_mem_cons.2 ⟨s.exists_print hheading, fun part hpart => ?_⟩
    obtain ⟨r, hr, rfl⟩ := List.mem_map.1 hpart
    rw [← hrs] at hr
    exact s.exists_printOpen (prints_recommendationMarkup (h.recommendations r hr))

theorem exists_stepLines (steps : List String) (n : Nat) :
    ∀ part ∈ s.stepLines n steps, ∃ out, part = .ok out := by
  induction steps generalizing n with
  | nil => exact fun _ hpart => absurd hpart List.not_mem_nil
  | cons step steps ih =>
    have hfront : isBare (toString n ++ ". ").toList = true := by
      rw [String.toList_append, isBare_append, isBare_nat]
      rfl
    have hback : isBare [] = true := rfl
    have hprints := Terminal.prints_escape hfront hback step.toList
    rw [List.append_nil] at hprints
    exact List.forall_mem_cons.2 ⟨s.exists_print hprints, ih (n + 1)⟩

theorem exists_conclusion (a : Analysis) :
    ∀ part ∈ s.conclusion a, ∃ out, part = .ok out := by
  have hgood : Prints ("\n[green]✅ No route unmounting issues detected! "
      ++ "Your routing looks stable.[/green]").toList :=
    Terminal.prints_of_opensAndCloses isLook_green rfl
  have hsummary : isBare ("\n📈 SUMMARY: Found " ++ toString a.issues.length ++ " issues across "
      ++ toString a.dirtyFiles.length ++ " files").toList = true := by
    simp only [String.toList_append, isBare_append, isBare_nat, Bool.and_true]
    rfl
  have hsteps : Prints "\n[bold]📋 NEXT STEPS:[/bold]".toList :=
    Terminal.prints_of_opensAndCloses isLook_bold rfl
  rw [conclusion]
  split
  · exact List.forall_mem_singleton.2 (s.exists_print hgood)
  · refine List.forall_mem_cons.2 ⟨s.exists_print_text hsummary, ?_⟩
    exact List.forall_mem_cons.2 ⟨s.exists_print hsteps, s.exists_stepLines nextSteps 1⟩

/-- The parts of the results in front of the issues: the table of files, if it is wanted, and the
numbers. -/
def openingParts (a : Analysis) (verbose : Bool) : List (Except MarkupFault (List Char)) :=
  (if verbose then [s.fileTable a] else [])
    ++ [s.print "\n[bold]📊 Analysis Complete[/bold]".toList,
      s.print ("Files analyzed: " ++ toString a.stats.analyzed).toList,
      s.print ("Files with issues: " ++ toString a.stats.withIssues).toList,
      s.print ("Total issues: " ++ toString a.issues.length).toList]

theorem resultParts_eq (a : Analysis) (verbose : Bool) :
    s.resultParts a verbose = s.openingParts a verbose ++ Severity.all.flatMap (s.section? a)
      ++ s.recommendations a ++ s.conclusion a := rfl

theorem exists_openingParts (a : Analysis) (verbose : Bool) :
    ∀ part ∈ s.openingParts a verbose, ∃ out, part = .ok out := by
  have hheading : Prints "\n[bold]📊 Analysis Complete[/bold]".toList :=
    Terminal.prints_of_opensAndCloses isLook_bold rfl
  have hcount : ∀ {label digits : String}, isBare label.toList = true →
      isBare digits.toList = true → ∃ out, s.print (label ++ digits).toList = .ok out := by
    intro label digits hlabel hdigits
    refine s.exists_print_text ?_
    rw [String.toList_append, isBare_append, hlabel, hdigits]
    rfl
  intro part hpart
  rcases List.mem_append.1 hpart with htable | hnumbers
  · split at htable
    · rw [List.mem_singleton.1 htable]
      exact s.exists_fileTable a
    · cases htable
  · simp only [List.mem_cons, List.not_mem_nil, or_false] at hnumbers
    rcases hnumbers with rfl | rfl | rfl | rfl
    · exact s.exists_print hheading
    · exact hcount rfl (isBare_int _)
    · exact hcount rfl (isBare_int _)
    · exact hcount rfl (isBare_nat _)

/-- **The results are printed**, with or without the table of files, whatever the files are
called. -/
theorem exists_results {a : Analysis} (h : a.IsBare) (verbose : Bool) :
    ∃ out, s.results a verbose = .ok out := by
  refine exists_printAll fun part hpart => ?_
  rw [resultParts_eq] at hpart
  simp only [List.mem_append, List.mem_flatMap] at hpart
  rcases hpart with ((hopening | ⟨severity, -, hsection⟩) | hrecommendations) | hend
  · exact s.exists_openingParts a verbose part hopening
  · exact s.exists_section h severity part hsection
  · exact s.exists_recommendations h part hrecommendations
  · exact s.exists_conclusion a part hend

end Screen
end Report

/-! ## The sentences of a scan -/

theorem Rule.isBare_messages (r : Rule) : ∀ m ∈ r.messages, isBare m.toList = true := by
  cases r with
  | performance =>
    refine List.forall_mem_cons.2 ⟨isBare_lit rfl rfl, ?_⟩
    exact List.forall_mem_cons.2 ⟨isBare_lit rfl rfl, List.forall_mem_singleton.2
      (isBare_lit rfl rfl)⟩
  | _ => exact List.forall_mem_singleton.2 (isBare_lit rfl rfl)

theorem Rule.isBare_fix (r : Rule) : isBare r.fix.toList = true := by
  cases r <;> exact isBare_lit rfl rfl

theorem Analysis.isBare_globalRecommendations {a : Analysis} {r : Recommendation}
    (h : r ∈ a.globalRecommendations) : isBare r.message.toList = true := by
  simp only [globalRecommendations, List.mem_append] at h
  rcases h with (h | h) | h <;> split at h
  all_goals
    first
    | exact List.mem_singleton.1 h ▸ isBare_lit rfl rfl
    | cases h

/-- **The sentences of a scan are bare**, since all of them come from the rules and none from a
file. -/
theorem Analysis.isBare_account (o : ScanOptions) (base : String) (found : Nat)
    (read : List Subject) : (Analysis.account o base found read).IsBare where
  issues i hi := by
    obtain ⟨s, -, hi⟩ := List.mem_flatMap.1 hi
    rw [issues_runRules] at hi
    obtain ⟨r, -, hi⟩ := List.mem_flatMap.1 hi
    exact r.isBare_messages _ (Rule.message_of_mem_issues hi)
  recommendations rec hrec := by
    rcases List.mem_append.1 hrec with hrec | hrec
    · obtain ⟨s, -, hrec⟩ := List.mem_flatMap.1 hrec
      rw [recommendations_runRules] at hrec
      obtain ⟨r, -, hrec⟩ := List.mem_flatMap.1 hrec
      rw [Rule.eq_of_mem_recommendations hrec]
      exact r.isBare_fix
    · split at hrec
      · exact isBare_globalRecommendations hrec
      · cases hrec

/-! ## The report of a scan -/

namespace Report
namespace Screen

/-- What is printed as a part is in the whole. -/
theorem infix_of_printAll {parts : List (Except MarkupFault (List Char))} {text out : List Char}
    (h : printAll parts = .ok out) (hmem : .ok text ∈ parts) : text <:+: out := by
  induction parts generalizing out with
  | nil => cases hmem
  | cons part parts ih =>
    cases part with
    | error f => cases h
    | ok first =>
      rw [printAll] at h
      cases hrest : printAll parts with
      | error f =>
        rw [hrest] at h
        cases h
      | ok rest =>
        rw [hrest] at h
        cases h
        rcases List.mem_cons.1 hmem with heq | hmem
        · cases heq
          exact (List.prefix_append text rest).isInfix
        · exact (ih hrest hmem).trans (List.suffix_append first rest).isInfix

/-- Every issue has a line in the results, under its severity. -/
theorem mem_resultParts (s : Screen) {a : Analysis} {i : Issue} (h : i ∈ a.issues)
    (verbose : Bool) :
    s.printOpen (issueMarkup (sectionOf i.severity).2.2 i) ∈ s.resultParts a verbose := by
  have hi : i ∈ a.issuesOf i.severity := List.mem_filter.2 ⟨h, decide_eq_true rfl⟩
  have hsection : s.printOpen (issueMarkup (sectionOf i.severity).2.2 i) ∈
      s.section? a i.severity := by
    rw [section?]
    split
    · rename_i hnone
      rw [hnone] at hi
      cases hi
    · exact List.mem_cons_of_mem _ (List.mem_map_of_mem hi)
  simp only [resultParts, List.mem_append, List.mem_flatMap]
  exact .inl (.inl (.inr ⟨i.severity, Severity.mem_all _, hsection⟩))

/-- **The report of every scan is printed**, on every screen, whatever the project and its files are
called: the header is, the results are, and every issue is among them. -/
theorem report_printed (s : Screen) (directory : String) (o : ScanOptions) {t : FileTree}
    {start : Path} {a : Analysis} {log : List LogLine} (h : scan o t start = .ok (a, log))
    (verbose : Bool) :
    ∃ out, printAll [s.header directory "Route Analyzer", s.results a verbose] = .ok out ∧
      ∀ i ∈ a.issues, ∃ line, s.printOpen (issueMarkup (sectionOf i.severity).2.2 i) = .ok line ∧
        line <:+: out := by
  have hbare : a.IsBare := by
    cases hbase : t.resolve start with
    | error f =>
      rw [scan_of_resolve_error o hbase] at h
      cases h
    | ok base =>
      obtain ⟨_, hscan⟩ := scan_of_resolve_ok o hbase
      rw [hscan] at h
      cases h
      exact Analysis.isBare_account _ _ _ _
  obtain ⟨header, hheader⟩ := s.exists_header directory
  obtain ⟨results, hresults⟩ := s.exists_results hbare verbose
  have hout : printAll [s.header directory "Route Analyzer", s.results a verbose] =
      .ok (header ++ (results ++ [])) := by
    rw [hheader, hresults]
    rfl
  refine ⟨_, hout, fun i hi => ?_⟩
  obtain ⟨line, hline⟩ := s.exists_printOpen (prints_issueMarkup i.severity (hbare.issues i hi))
  refine ⟨line, hline, ?_⟩
  have hresult : line <:+: results :=
    infix_of_printAll hresults (hline ▸ s.mem_resultParts hi verbose)
  exact hresult.trans (infix_of_printAll hout (by simp [hresults]))

/-- A project with a closing tag on the way to a file, and backslashes at the ends of names. -/
def taggedProject : FileTree where
  root := .dir [("[bold\\", .dir [("a[", .dir [("red]\\.routes.ts",
    .file "debugger".toUTF8.toList)])])]

/-- The report of that project is printed, also on a narrow screen. -/
theorem report_printed_taggedProject : ∃ a log,
    scan { timestamp := "" } taggedProject ⟨.root, ["[bold\\"]⟩ = .ok (a, log) ∧
      ∃ out, printAll [header ⟨7, false⟩ "/[bold\\" "Route Analyzer", results ⟨7, false⟩ a true] =
        .ok out := by
  have hresolve : taggedProject.resolve ⟨.root, ["[bold\\"]⟩ = .ok ⟨.root, ["[bold\\"]⟩ := rfl
  obtain ⟨log, hscan⟩ := scan_of_resolve_ok { timestamp := "" } hresolve
  obtain ⟨out, hout, -⟩ := report_printed ⟨7, false⟩ "/[bold\\" _ hscan true
  exact ⟨_, log, hscan, out, hout⟩

-- The path of that file, not escaped, would end the report.
example : printOpen {} "a[/red]\\.routes.ts".toList = .error (.unmatched "/red" 1) := rfl

end Screen
end Report
end RouteAudit
