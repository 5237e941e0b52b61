import RouteAudit.CommandLine.Run
import RouteAudit.Proofs.Report.Console

/-!
# The lines of a run

Beside its reports a run prints a few lines of its own, and nothing is caught when it does.  So a
line that has no text would break the run off, and one that says that the page was written would do
so when it is too late.  What is quoted in a line is escaped, and the rest of it is bare, so every
line has a text, and one that can be seen.

## What is here

* `Setup.exists_missingText`, `Setup.exists_failureText`, `Setup.exists_debugText` — the lines have
  texts;
* `Outcome.exists_printing` — lines that can be printed are, one behind the other;
* `Setup.exists_fails` — what went wrong is told.
-/

set_option autoImplicit false

namespace RouteAudit

open Terminal (IsLook Prints Styled isBare isBare_append isBare_lit)

namespace Terminal.Styled

theorem cut_ne_nil (t : Styled) (gap : Nat) (parts : List (List Char)) : t.cut gap parts ≠ [] := by
  rw [cut]
  split
  · exact List.cons_ne_nil _ _
  · rename_i hlength
    cases parts with
    | nil => exact absurd (Nat.zero_le 1) hlength
    | cons p ps => exact List.cons_ne_nil _ _

end Terminal.Styled

theorem Report.Screen.isLook_red : IsLook "red".toList "red" :=
  Terminal.isLook_of rfl (by decide +kernel)

/-- A markup that has a text prints a line at least, where there is any room. -/
theorem Report.Screen.exists_printOpen_ne_nil {s : Report.Screen} (hroom : s.width ≠ 0)
    {markup : List Char} (h : Prints markup) : ∃ out, s.printOpen markup = .ok out ∧ out ≠ [] := by
  obtain ⟨t, ht, hshows⟩ := h
  have hfault : t.openLines.findSome? Styled.fault? = none :=
    List.findSome?_eq_none_iff.2 fun line hline => (hshows.openLines line hline).fault?
  have hlines : t.openLines ≠ [] := fun hnil => t.cut_ne_nil 1 _ (List.map_eq_nil_iff.1 hnil)
  refine ⟨endLines (t.openLines.map Styled.text), ?_, ?_⟩
  · rw [printOpen, ht]
    dsimp only
    rw [showLines, if_neg hroom, hfault]
  · obtain ⟨line, lines, hcons⟩ := List.exists_cons_of_ne_nil hlines
    rw [hcons]
    simp [endLines]

namespace CommandLine

namespace Setup

/-! ## The lines -/

theorem exists_shown {markup : String} (h : Prints markup.toList) :
    ∃ text, shown markup = .ok text ∧ text ≠ "" := by
  obtain ⟨out, hout, hne⟩ : ∃ out, screen.print markup.toList = .ok out ∧ out ≠ [] :=
    Report.Screen.exists_printOpen_ne_nil (by decide) h
  refine ⟨String.ofList out, ?_, fun hempty => hne ?_⟩
  · rw [shown, hout]
    rfl
  · simpa using congrArg String.toList hempty

/-- **A coloured line is printed**, whatever it quotes. -/
theorem exists_coloured (opening closing : String) {colour name label : String}
    (hlook : IsLook colour.toList name)
    (hopening : opening.toList = '[' :: (colour.toList ++ [']']))
    (hclosing : closing.toList = '[' :: '/' :: (colour.toList ++ [']']))
    (hlabel : isBare label.toList = true) (quoted : String) :
    ∃ text, shown (opening ++ label ++ escaped quoted ++ closing) = .ok text ∧ text ≠ "" := by
  have hempty : isBare [] = true := rfl
  have hprints := Terminal.prints_labelled_escape hlook hempty hlabel hempty quoted.toList
  refine exists_shown ?_
  simpa [escaped, hopening, hclosing] using hprints

theorem exists_missingText (target : Path) : ∃ text, missingText target = .ok text ∧ text ≠ "" := by
  have hlabel : isBare "❌ Error: Path does not exist: ".toList = true := isBare_lit rfl rfl
  have h := exists_coloured "[red]" "[/red]" Report.Screen.isLook_red rfl rfl hlabel target.text
  exact h

theorem exists_failureText (message : String) :
    ∃ text, failureText message = .ok text ∧ text ≠ "" := by
  have hlabel : isBare "❌ Analysis failed: ".toList = true := isBare_lit rfl rfl
  have h := exists_coloured "[red]" "[/red]" Report.Screen.isLook_red rfl rfl hlabel message
  exact h

theorem exists_writtenText (place : Path) :
    ∃ text, shown (writtenMarkup place) = .ok text ∧ text ≠ "" := by
  have hlabel : isBare "✅ HTML report generated: ".toList = true := isBare_lit rfl rfl
  have h := exists_coloured "[green]" "[/green]" Report.Screen.isLook_green rfl rfl hlabel place.text
  exact h

theorem exists_countsText (a : Analysis) :
    ∃ text, shown (countsMarkup a) = .ok text ∧ text ≠ "" := by
  have hbare : isBare (countsMarkup a).toList = true := by
    simp only [countsMarkup, String.toList_append, isBare_append, Report.Screen.isBare_int,
      Report.Screen.isBare_nat, Bool.and_true]
    rfl
  exact exists_shown (Terminal.prints_bare hbare)

/-- What is printed after a page was written has a text. -/
theorem exists_debugText (a : Analysis) (verbose : Bool) (place : Path) :
    ∀ markup ∈ (if verbose then [countsMarkup a] else []) ++ [writtenMarkup place],
      ∃ text, shown markup = .ok text := by
  intro markup hmarkup
  rcases List.mem_append.1 hmarkup with hcounts | hwritten
  · split at hcounts
    · obtain ⟨text, htext, -⟩ := exists_countsText a
      exact ⟨text, List.mem_singleton.1 hcounts ▸ htext⟩
    · cases hcounts
  · obtain ⟨text, htext, -⟩ := exists_writtenText place
    exact ⟨text, List.mem_singleton.1 hwritten ▸ htext⟩

end Setup

/-! ## Printing them -/

@[simp] theorem Outcome.tree_complaining (o : Outcome)
    (complaint : Except Terminal.MarkupFault String) : (o.complaining complaint).tree = o.tree := by
  cases complaint <;> rfl

@[simp] theorem Outcome.tree_printing (o : Outcome) (markups : List String) :
    (o.printing markups).tree = o.tree := by
  induction markups generalizing o with
  | nil => rfl
  | cons markup markups ih =>
    rw [printing]
    split
    · exact ih _
    · rfl

@[simp] theorem Setup.tree_fails (s : Setup) (logged : Bool) (o : Outcome) (f : Crash) :
    (s.fails logged o f).tree = o.tree := by
  rw [fails, Outcome.tree_complaining]

/-- Lines that have texts are printed one behind the other. -/
theorem Outcome.exists_printing {markups : List String}
    (h : ∀ markup ∈ markups, ∃ text, Setup.shown markup = .ok text) (o : Outcome) :
    ∃ printed, o.printing markups = { o with out := o.out ++ printed } := by
  induction markups generalizing o with
  | nil => exact ⟨"", by rw [printing, String.append_empty]⟩
  | cons markup markups ih =>
    obtain ⟨⟨text, htext⟩, hmarkups⟩ := List.forall_mem_cons.1 h
    obtain ⟨printed, hprinted⟩ := ih hmarkups { o with out := o.out ++ text }
    refine ⟨text ++ printed, ?_⟩
    rw [printing, htext]
    dsimp only
    rw [hprinted, String.append_assoc]

/-- **What went wrong is told**, behind what the log says of it, and the status is 1. -/
theorem Setup.exists_fails (s : Setup) (logged : Bool) (o : Outcome) (f : Crash) :
    ∃ said line, failureText f.message = .ok line ∧ line ≠ "" ∧
      s.fails logged o f = { o with exit := 1, err := o.err ++ said ++ line } := by
  obtain ⟨line, hline, hne⟩ := exists_failureText f.message
  refine ⟨s.logText logged [⟨.debug, LogLine.commands, "Analysis failed\n" ++ s.trace f⟩], line,
    hline, hne, ?_⟩
  rw [fails, hline]
  rfl

end CommandLine
end RouteAudit
