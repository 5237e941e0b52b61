import RouteAudit.Proofs.CommandLine.Lines
import RouteAudit.Proofs.FileTree.Written
import RouteAudit.Proofs.Report.SameData

/-!
# How a run ends

A run that gets as far as its command ends with 0 or 1, and what it prints and writes says the same.
The status comes from many places: the target may not be there, what was found may not be printable,
the report may not be written, issues may have been found, and a line may not be printable after the
report was written.  Here most of these are shown not to come up: a target that is there can be
analysed, and every result and every line can be printed.

## What is here

* `Setup.Accepts` — the arguments of a run that gets as far as its command;
* `Setup.exists_scan` — a target that is there can be analysed;
* `AnalyzeEnds`, `DebugEnds` — how the commands end on a target that is there;
* `printedTotal?` — the number of issues that a printed report tells;
* `exit_status` — how every run ends that gets as far as its command.
-/

set_option autoImplicit false

namespace RouteAudit

theorem Analysis.jsonText_of_json {a : Analysis} {report : Json} (h : a.json = .ok report) :
    a.jsonText = .ok report.pretty := by
  rw [jsonText, h]
  rfl

namespace CommandLine

/-! ## Getting to the command -/

/-- The arguments name a command, ask for no help, and nothing is wrong with them. -/
structure Setup.Accepts (s : Setup) (args : List String) (c : Command) (p : Parsed) : Prop where
  /-- The command and its own arguments. -/
  call : ∃ q rest, parse programOptions false args = .ok q ∧ q.urgent? = none ∧
    q.positional = c.name :: rest ∧ parse c.options true rest = .ok p
  notUrgent : p.urgent? = none
  noRefusal : s.refusal? (.command c) p = none

namespace Setup

variable {s : Setup} {args : List String} {c : Command} {p : Parsed} {target : Path}

/-- A run whose arguments are accepted comes down to the directory that they name. -/
theorem run_eq_of_accepts (h : s.Accepts args c p) : ∃ logged, s.run args =
      match s.target p.positional.head? with
      | .error f => s.crashes (.path f)
      | .ok target =>
        match s.tree.isThere? target with
        | .error f => s.crashes (.file f)
        | .ok false => Outcome.complaining { tree := s.tree } (missingText target)
        | .ok true =>
          match c with
          | .analyze => s.analyze logged p target
          | .debug => s.debug logged p target := by
  obtain ⟨q, rest, hparse, hurgent, hpositional, hcommand⟩ := h.call
  have hargs : args.isEmpty = false := by
    cases args with
    | nil =>
      cases hparse
      cases hpositional
    | cons arg args => rfl
  refine ⟨q.has .verbose, ?_⟩
  rw [run, hargs, if_neg Bool.false_ne_true, hparse]
  dsimp only
  rw [hurgent, hpositional]
  dsimp only
  rw [Command.ofName?_name]
  dsimp only
  rw [runCommand, hcommand]
  dsimp only
  rw [h.notUrgent, h.noRefusal]
  rfl

/-- A run whose arguments are accepted comes down to its target. -/
theorem run_of_accepts (h : s.Accepts args c p)
    (ht : s.target p.positional.head? = .ok target) : ∃ logged, s.run args =
      match s.tree.isThere? target with
      | .error f => s.crashes (.file f)
      | .ok false => Outcome.complaining { tree := s.tree } (missingText target)
      | .ok true =>
        match c with
        | .analyze => s.analyze logged p target
        | .debug => s.debug logged p target := by
  obtain ⟨logged, hrun⟩ := run_eq_of_accepts h
  rw [ht] at hrun
  exact ⟨logged, hrun⟩

/-- The target of a run is a normal path from the root. -/
theorem normal_target (hs : s.tree.Sound) {directory : Option String}
    (h : s.target directory = .ok target) : target.Normal ∧ target.anchor = .root := by
  have hhere : s.tree.here = .ok target → target.Normal ∧ target.anchor = .root := by
    intro h
    rw [FileTree.here] at h
    split at h <;> cases h
    refine ⟨fun name hname => ?_, rfl⟩
    obtain ⟨hproper, -, hslash, -⟩ := isEntryName_iff.1 (hs.cwd name hname)
    exact ⟨hproper, hslash⟩
  cases directory with
  | none => exact hhere h
  | some d =>
    rw [Setup.target] at h
    split at h
    · exact hhere h
    · have hreal := FileTree.real_of_resolve hs (Path.normal_ofString d) h
      exact ⟨hreal.normal, hreal.anchor⟩

/-! ## Analysing the target -/

/-- **A target that is there can be analysed.** -/
theorem exists_scan (hs : s.tree.Sound) {directory : Option String}
    (h : s.target directory = .ok target) (hthere : s.tree.isThere target = true)
    (o : ScanOptions) :
    ∃ base log, s.tree.resolve target = .ok base ∧
      scan o s.tree target = .ok (Analysis.account o base.text (s.tree.routeFiles base).length
        (s.tree.readFiles o.extended base), log) := by
  obtain ⟨hnormal, hanchor⟩ := normal_target hs h
  obtain ⟨n, hn⟩ : ∃ n, s.tree.stat target = .ok n := by
    rw [FileTree.isThere] at hthere
    split at hthere
    · exact ⟨_, ‹_›⟩
    · cases hthere
  obtain ⟨goal, hresolve, -⟩ := FileTree.exists_resolve hs hnormal (by rw [hanchor]; decide) hn
  obtain ⟨log, hscan⟩ := scan_of_resolve_ok o hresolve
  exact ⟨_, log, hresolve, hscan⟩

end Setup

/-! ## The commands -/

/-- How `analyze` ends on a target with this analysis. -/
structure AnalyzeEnds (s : Setup) (p : Parsed) (a : Analysis) (o : Outcome) : Prop where
  /-- Issues make the status 1, but only where they are printed for people. -/
  exit : o.exit = if p.has .json = false ∧ a.issues ≠ [] then 1 else 0
  /-- Otherwise the report is all that is printed. -/
  out : p.has .json = true → ∃ text, a.jsonText = .ok text ∧ o.out = text ++ "\n"
  crash : o.crash = none
  tree : o.tree = s.tree
  written : o.written = none

/-- How `debug` ends on a target with this analysis. -/
structure DebugEnds (s : Setup) (p : Parsed) (a : Analysis) (o : Outcome) : Prop where
  /-- The report is printed, and nothing else is done. -/
  json : p.has .json = true → p.has .html = false →
    o.exit = 0 ∧ (∃ text, a.jsonText = .ok text ∧ o.out = text ++ "\n") ∧ o.tree = s.tree ∧
      o.written = none
  /-- The page is written, or no file is. -/
  page : p.has .html = true ∨ p.has .json = false →
    (o.exit = 0 ∧ o.written = some (Setup.reportPlace s.output p) ∧
      ∃ text, Report.html a s.clock.generated = .ok text ∧
        o.tree.read (Setup.reportPlace s.output p) = .ok text.toUTF8.toList) ∨
    (o.exit = 1 ∧ o.written = none ∧ s.tree.SameFiles o.tree)
  crash : o.crash = none

/-- An account of a project with the table that is bundled describes libraries by texts. -/
theorem textual_account {o : ScanOptions} (ho : o.table = Table.bundled) (base : String)
    (found : Nat) (read : List Subject) : (Analysis.account o base found read).Textual := by
  intro d hd
  have hdetect : d ∈ if o.extended then o.table.detect
      (if o.extended then read.map fun s => summarize s.content s.file else []) else [] := hd
  split at hdetect
  · exact Table.textual_bundled (ho ▸ hdetect)
  · cases hdetect

/-- A report whose page can be made is written, or no file is. -/
theorem write_ends {a : Analysis} {generated text : String}
    (h : Report.html a generated = .ok text) (t : FileTree) (place : Path) :
    ((Report.write a t place generated).fault = none ∧
      (Report.write a t place generated).tree.read place = .ok text.toUTF8.toList) ∨
    ∃ f, (Report.write a t place generated).fault = some f ∧
      t.SameFiles (Report.write a t place generated).tree := by
  have hdirs := FileTree.sameFiles_makeDirs t place.parent
  rw [Report.write]
  split
  · rename_i u f hmake
    rw [hmake] at hdirs
    exact .inr ⟨_, rfl, hdirs⟩
  · rename_i u hmake
    rw [hmake] at hdirs
    rw [h]
    dsimp only
    split
    · exact .inr ⟨_, rfl, hdirs⟩
    · rename_i v hwrite
      exact .inl ⟨rfl, FileTree.read_of_write hwrite⟩

namespace Setup

theorem printsJson_of_json {s : Setup} {a : Analysis} {report : Json} (h : a.json = .ok report)
    (err : String) :
    s.printsJson a err = { out := report.pretty ++ "\n", err, tree := s.tree } := by
  rw [printsJson, Analysis.jsonText_of_json h]

theorem analyzeEnds {s : Setup} {logged : Bool} {p : Parsed} {target : Path} {a : Analysis}
    {log : List LogLine}
    (hscan : scan { timestamp := s.clock.timestamp } s.tree target = .ok (a, log))
    (hbare : a.IsBare) {report : Json} (hreport : a.json = .ok report) :
    AnalyzeEnds s p a (s.analyze logged p target) := by
  cases hjson : p.has .json with
  | true =>
    have hrun : s.analyze logged p target = s.printsJson a (s.logText logged log) := by
      rw [analyze, hjson, if_pos rfl]
      dsimp only
      rw [hscan]
      rfl
    rw [hrun, printsJson_of_json hreport]
    exact ⟨by simp [hjson], fun _ => ⟨_, Analysis.jsonText_of_json hreport, rfl⟩, rfl, rfl, rfl⟩
  | false =>
    obtain ⟨header, hheader⟩ := screen.exists_header target.text
    obtain ⟨results, hresults⟩ := screen.exists_results hbare (p.has .verbose)
    have hrun : s.analyze logged p target =
        { exit := if a.issues.isEmpty then 0 else 1
          out := String.ofList header ++ String.ofList results
          err := s.logText logged log
          tree := s.tree } := by
      rw [analyze, hjson, if_neg Bool.false_ne_true, hheader]
      dsimp only
      rw [hscan]
      dsimp only
      rw [if_neg Bool.false_ne_true, hresults]
    rw [hrun]
    refine ⟨?_, fun h => absurd (hjson.symm.trans h) Bool.false_ne_true, rfl, rfl, rfl⟩
    cases a.issues <;> simp [hjson]

/-- What keeps the page of an analysis from being written. -/
def writeFault? (s : Setup) (p : Parsed) (a : Analysis) : Option Report.WriteFault :=
  (Report.write a s.tree (reportPlace s.output p) s.clock.generated).fault

/-- `debug` ends with 0 where it can write its page, and where it cannot, the last that it says is
why. -/
theorem debug_of_page {s : Setup} (logged : Bool) {p : Parsed} {target : Path} {a : Analysis}
    {log : List LogLine} (hscan : scan { extended := true, timestamp := s.clock.timestamp } s.tree
      target = .ok (a, log))
    (hpage : p.has .html = true ∨ p.has .json = false) :
    let place := reportPlace s.output p
    let tree := (Report.write a s.tree place s.clock.generated).tree
    (s.writeFault? p a = none → ∃ out err,
      s.debug logged p target = { out, err, written := some place, tree }) ∧
    ∀ f, s.writeFault? p a = some f → ∃ said why, failureText f.message = .ok why ∧ why ≠ "" ∧
      s.debug logged p target = { exit := 1, err := said ++ why, tree } := by
  have hwrites : (p.has .html || !p.has .json) = true := by simpa using hpage
  rw [debug, hscan]
  dsimp only
  rw [if_pos hwrites]
  refine ⟨fun hnone => ?_, fun f hsome => ?_⟩
  · rw [writeFault?] at hnone
    rw [hnone]
    dsimp only
    obtain ⟨printed, hprinted⟩ := Outcome.exists_printing
      (exists_debugText a (p.has .verbose) (reportPlace s.output p)) _
    exact ⟨_, _, hprinted⟩
  · rw [writeFault?] at hsome
    rw [hsome]
    dsimp only
    obtain ⟨said, why, hwhy, hne, hfails⟩ := exists_fails s logged _ (.ofWrite f)
    rw [Crash.message_ofWrite] at hwhy
    exact ⟨_, why, hwhy, hne, hfails⟩

theorem debugEnds {s : Setup} {logged : Bool} {p : Parsed} {target : Path} {a : Analysis}
    {log : List LogLine}
    (hscan : scan { extended := true, timestamp := s.clock.timestamp } s.tree target =
      .ok (a, log))
    (htextual : a.Textual) : DebugEnds s p a (s.debug logged p target) := by
  obtain ⟨report, data, hreport, hdata, -⟩ := Analysis.exists_reports htextual
  by_cases hpage : p.has .html = true ∨ p.has .json = false
  · have hnot : p.has .json = true → p.has .html = false → False := by
      rcases hpage with hpage | hpage <;> simp [hpage]
    have hhtml := Report.html_eq hdata (fun d hd => (htextual d hd).isShowable) s.clock.generated
    obtain ⟨hwhole, hbroken⟩ := debug_of_page logged hscan hpage
    rcases write_ends hhtml s.tree (reportPlace s.output p) with
      ⟨hfault, hread⟩ | ⟨f, hfault, hsame⟩
    · obtain ⟨out, err, hrun⟩ := hwhole hfault
      rw [hrun]
      exact ⟨fun hj hh => (hnot hj hh).elim, fun _ => .inl ⟨rfl, rfl, _, hhtml, hread⟩, rfl⟩
    · obtain ⟨said, why, -, -, hrun⟩ := hbroken f hfault
      rw [hrun]
      exact ⟨fun hj hh => (hnot hj hh).elim, fun _ => .inr ⟨rfl, rfl, hsame⟩, rfl⟩
  · have hwrites : (p.has .html || !p.has .json) = false := by simpa using hpage
    have hrun : s.debug logged p target = s.printsJson a (s.logText logged log) := by
      rw [debug, hscan]
      dsimp only
      rw [if_neg (by rw [hwrites]; exact Bool.false_ne_true)]
    rw [hrun, printsJson_of_json hreport]
    exact ⟨fun _ _ => ⟨rfl, ⟨_, Analysis.jsonText_of_json hreport, rfl⟩, rfl, rfl⟩,
      fun h => absurd h hpage, rfl⟩

end Setup

/-! ## The status of a run -/

/-- The number of issues that a printed report tells. -/
def printedTotal? (out : String) : Option Int :=
  match ((Json.parse out.toList).bind (Json.member? "summary")).bind
    (Json.member? "totalIssues") with
  | some (.int n) => some n
  | _ => none

theorem printedTotal?_eq {a : Analysis} {report : Json} (h : a.json = .ok report)
    (hplain : report.Plain) :
    printedTotal? (report.pretty ++ "\n") = some (a.issues.length : Int) := by
  rw [printedTotal?, Json.parse_pretty_newline hplain, Option.bind_some,
    Analysis.summary_of_json h, Option.bind_some]
  rfl

/-- How a command analyses its target. -/
def Setup.scanOptions (s : Setup) (c : Command) : ScanOptions where
  extended := decide (c = .debug)
  timestamp := s.clock.timestamp

/-- The analysis of a project by a command. -/
def Setup.analysis (s : Setup) (c : Command) (base : Path) : Analysis :=
  Analysis.account (s.scanOptions c) base.text (s.tree.routeFiles base).length
    (s.tree.readFiles (s.scanOptions c).extended base)

section Status

variable {s : Setup} {args : List String} {c : Command} {p : Parsed} {target : Path}

theorem not_isThere_of_stat {t : FileTree} {f : PathFault} (h : t.stat target = .error f) :
    t.isThere target = false := by
  rw [FileTree.isThere, h]

theorem stat_ne_of_isThere {t : FileTree} (h : t.isThere target = true) (f : PathFault) :
    t.stat target ≠ .error f := fun hstat =>
  Bool.false_ne_true ((not_isThere_of_stat hstat).symm.trans h)

theorem isThere?_of_stat_ne {t : FileTree} (h : t.stat target ≠ .error .nameTooLong) :
    t.isThere? target = .ok (t.isThere target) := by
  rw [FileTree.isThere?]
  split
  · exact absurd ‹_› h
  · rfl

/-- A run with a target that is there ends as its command does. -/
theorem run_of_isThere (hs : s.tree.Sound) (h : s.Accepts args c p)
    (ht : s.target p.positional.head? = .ok target) (hthere : s.tree.isThere target = true) :
    ∃ base log report, s.tree.resolve target = .ok base ∧
      scan (s.scanOptions c) s.tree target = .ok (s.analysis c base, log) ∧
      (s.analysis c base).json = .ok report ∧ report.Plain ∧
      (c = .analyze → AnalyzeEnds s p (s.analysis c base) (s.run args)) ∧
      (c = .debug → DebugEnds s p (s.analysis c base) (s.run args)) := by
  obtain ⟨base, log, hbase, hscan⟩ := Setup.exists_scan hs ht hthere (s.scanOptions c)
  have htextual : (s.analysis c base).Textual := textual_account rfl _ _ _
  obtain ⟨report, -, hreport, -, hplain, -⟩ := Analysis.exists_reports htextual
  obtain ⟨logged, hrun⟩ := Setup.run_of_accepts h ht
  rw [isThere?_of_stat_ne (stat_ne_of_isThere hthere _), hthere] at hrun
  refine ⟨base, log, report, hbase, hscan, hreport, hplain, ?_, ?_⟩
  · rintro rfl
    rw [hrun]
    exact Setup.analyzeEnds hscan (Analysis.isBare_account _ _ _ _) hreport
  · rintro rfl
    rw [hrun]
    exact Setup.debugEnds hscan htextual

/-- Issues do not depend on when they are looked for. -/
theorem issues_analysis {s' : Setup} (h : s'.tree = s.tree) (c : Command) (base : Path) :
    (s'.analysis c base).issues = (s.analysis c base).issues := by
  rw [Setup.analysis, Setup.analysis, h]
  rfl

/-- **The status of `analyze` is what its report tells**, run once for people and once for other
programs. -/
theorem exit_eq_one_iff (hs : s.tree.Sound) (h : s.Accepts args .analyze p)
    (ht : s.target p.positional.head? = .ok target) (hthere : s.tree.isThere target = true)
    (hpeople : p.has .json = false) {s' : Setup} {args' : List String} {p' : Parsed}
    (htree : s'.tree = s.tree) (h' : s'.Accepts args' .analyze p')
    (ht' : s'.target p'.positional.head? = .ok target) (hjson : p'.has .json = true) :
    (s.run args).exit = 1 ↔ ∃ n, printedTotal? (s'.run args').out = some n ∧ 0 < n := by
  obtain ⟨base, _, _, hbase, _, _, _, hends, _⟩ := run_of_isThere hs h ht hthere
  obtain ⟨base', _, report, hbase', _, hreport, hplain, hends', _⟩ :=
    run_of_isThere (htree ▸ hs) h' ht' (htree ▸ hthere)
  rw [htree] at hbase'
  cases hbase.symm.trans hbase'
  obtain ⟨text, htext, hout⟩ := (hends' rfl).out hjson
  cases (Analysis.jsonText_of_json hreport).symm.trans htext
  rw [(hends rfl).exit, hout, printedTotal?_eq hreport hplain, issues_analysis htree]
  by_cases hissues : (s.analysis .analyze base).issues = []
  · simp [hissues]
  · simp [hissues, hpeople, List.length_pos_iff]

/-- A run whose target is not there says so, or cannot find that out. -/
theorem run_of_not_isThere (h : s.Accepts args c p) (ht : s.target p.positional.head? = .ok target)
    (hthere : s.tree.isThere target = false) :
    (s.tree.stat target ≠ .error .nameTooLong → ∃ text, Setup.missingText target = .ok text ∧
      text ≠ "" ∧ s.run args = { exit := 1, err := text, tree := s.tree }) ∧
    (s.tree.stat target = .error .nameTooLong →
      s.run args = s.crashes (.file ⟨.nameTooLong, target, none⟩)) := by
  obtain ⟨logged, hrun⟩ := Setup.run_of_accepts h ht
  refine ⟨fun hshort => ?_, fun hlong => ?_⟩
  · obtain ⟨text, htext, hne⟩ := Setup.exists_missingText target
    refine ⟨text, htext, hne, ?_⟩
    rw [hrun, isThere?_of_stat_ne hshort, hthere]
    dsimp only
    rw [htext, Outcome.complaining, String.empty_append]
  · rw [hrun, FileTree.isThere?, hlong]

/-- **How every run ends that gets as far as its command.**  On a target that is there, `analyze`
ends with 1 if it prints issues for people and with 0 otherwise, which is what its report tells to
other programs; `debug` prints its report or ends with 0 just if the page was written.  On a target
that is not there, or cannot be found, both end with 1 before anything is done. -/
theorem exit_status (hs : s.tree.Sound) (h : s.Accepts args c p) :
    (∀ target, s.target p.positional.head? = .ok target →
      (s.tree.isThere target = true →
        (∃ a log, scan (s.scanOptions c) s.tree target = .ok (a, log) ∧
          (c = .analyze → AnalyzeEnds s p a (s.run args)) ∧
          (c = .debug → DebugEnds s p a (s.run args))) ∧
        (c = .analyze → p.has .json = false → ∀ (s' : Setup) (args' : List String) (p' : Parsed),
          s'.tree = s.tree → s'.Accepts args' .analyze p' →
          s'.target p'.positional.head? = .ok target → p'.has .json = true →
          ((s.run args).exit = 1 ↔ ∃ n, printedTotal? (s'.run args').out = some n ∧ 0 < n))) ∧
      (s.tree.isThere target = false →
        (s.tree.stat target ≠ .error .nameTooLong → ∃ text, Setup.missingText target = .ok text ∧
          text ≠ "" ∧ s.run args = { exit := 1, err := text, tree := s.tree }) ∧
        (s.tree.stat target = .error .nameTooLong →
          s.run args = s.crashes (.file ⟨.nameTooLong, target, none⟩)))) ∧
    ∀ f, s.target p.positional.head? = .error f → s.run args = s.crashes (.path f) := by
  refine ⟨fun target ht => ⟨fun hthere => ⟨?_, ?_⟩, run_of_not_isThere h ht⟩, fun f ht => ?_⟩
  · obtain ⟨base, log, _, _, hscan, _, _, hanalyze, hdebug⟩ := run_of_isThere hs h ht hthere
    exact ⟨_, log, hscan, hanalyze, hdebug⟩
  · rintro rfl hpeople s' args' p' htree h' ht' hjson
    exact exit_eq_one_iff hs h ht hthere hpeople htree h' ht' hjson
  · obtain ⟨logged, hrun⟩ := Setup.run_eq_of_accepts h
    rw [hrun, ht]

end Status

/-- A project that is called by a link in the working directory. -/
def linkedSetup : Setup where
  tree :=
    { root := .dir [
        ("app", .dir [("main.routes.ts", .file "debugger".toUTF8.toList)]),
        ("now", .link "app")] }
  clock := ⟨"", "", ""⟩

/-- The status of `analyze` in that project is what its report tells, and what is not there ends a
run at once. -/
theorem exit_status_linkedSetup :
    linkedSetup.tree.Sound ∧
    linkedSetup.Accepts ["analyze", "now"] .analyze { positional := ["now"] } ∧
    linkedSetup.target "now" = .ok ⟨.root, ["app"]⟩ ∧
    ((linkedSetup.run ["analyze", "now"]).exit = 1 ↔
      ∃ n, printedTotal? (linkedSetup.run ["analyze", "--json", "app"]).out = some n ∧ 0 < n) ∧
    (linkedSetup.run ["debug", "gone"]).exit = 1 := by
  have hs : linkedSetup.tree.Sound :=
    ⟨by decide +kernel, fun _ h => absurd h List.not_mem_nil⟩
  have hpeople : linkedSetup.Accepts ["analyze", "now"] .analyze { positional := ["now"] } :=
    ⟨⟨_, _, rfl, rfl, rfl, rfl⟩, rfl, rfl⟩
  have hjson : linkedSetup.Accepts ["analyze", "--json", "app"] .analyze
      { options := [(.json, "")], positional := ["app"] } := ⟨⟨_, _, rfl, rfl, rfl, rfl⟩, rfl, rfl⟩
  have hgone : linkedSetup.Accepts ["debug", "gone"] .debug { positional := ["gone"] } :=
    ⟨⟨_, _, rfl, rfl, rfl, rfl⟩, rfl, rfl⟩
  have htarget : linkedSetup.target "now" = .ok ⟨.root, ["app"]⟩ := rfl
  refine ⟨hs, hpeople, htarget, ?_, ?_⟩
  · exact (((exit_status hs hpeople).1 _ htarget).1 rfl).2 rfl rfl linkedSetup _ _ rfl hjson rfl rfl
  · have hshort : linkedSetup.tree.stat ⟨.root, ["gone"]⟩ ≠ .error .nameTooLong := by
      rw [show linkedSetup.tree.stat ⟨.root, ["gone"]⟩ = .error .missing from rfl]
      exact fun h => by cases h
    obtain ⟨text, -, -, hrun⟩ := (((exit_status hs hgone).1 _ rfl).2 rfl).1 hshort
    rw [hrun]

end CommandLine
end RouteAudit
