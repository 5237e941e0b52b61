import RouteAudit.Proofs.Json.RoundTrip
import RouteAudit.Proofs.Pattern.Places
import RouteAudit.Report.Html

/-!
# Where the data of a page is

The data of a page stands in its script, behind the name that the script gives to it.  Texts from
the project come in front of it, and any of them may have that name in it.  None of them can have
the tag that opens the script, though, because none has an angle bracket; and the markup of the
page, which is the same in every report, has the tag only once.

## What is here

* `dataText?` — what follows the name of the data in the script of a page;
* `Page.OpensNoScript` — the tag begins nowhere on a page, whatever follows the page;
* `pageFront` — a page up to its script, and `opensNoScript_pageFront`;
* `dataText?_page` — the data of a page is where one looks for it.
-/

set_option autoImplicit false

namespace RouteAudit
namespace Report

/-- The tag that opens a script. -/
def scriptTag : String := "<script>"

/-- What the script of a page calls its data. -/
def dataName : String := "window.routeDebugData = "

/-- What follows the name of the data in the script of a page. -/
def dataText? (page : List Char) : Option (List Char) :=
  match (Pattern.lit scriptTag).find? page with
  | none => none
  | some opened => ((Pattern.lit dataName).find? opened.after).map Pattern.Hit.after

/-! ## Texts in which no script is opened -/

theorem toList_scriptTag : scriptTag.toList = ['<', 's', 'c', 'r', 'i', 'p', 't', '>'] :=
  String.toList_ofList

/-- No script is opened in a text, whatever follows it. -/
def OpensNoScript (s : String) : Prop :=
  isFreeOf ['<', 's', 'c', 'r', 'i', 'p', 't', '>'] s.toList = true

namespace OpensNoScript

/-- A text that is given by its characters is tested by its characters. -/
theorem lit {s : String} {cs : List Char} (hs : s = String.ofList cs)
    (h : isFreeOf ['<', 's', 'c', 'r', 'i', 'p', 't', '>'] cs = true) : OpensNoScript s := by
  rw [OpensNoScript, hs, String.toList_ofList]
  exact h

theorem append {s t : String} (hs : OpensNoScript s) (ht : OpensNoScript t) :
    OpensNoScript (s ++ t) := by
  rw [OpensNoScript, String.toList_append]
  exact isFreeOf_append hs ht

theorem framed {front s back : String} (hfront : OpensNoScript front) (hs : OpensNoScript s)
    (hback : OpensNoScript back) : OpensNoScript (front ++ s ++ back) :=
  (hfront.append hs).append hback

theorem ite {c : Prop} [Decidable c] {s t : String} (hs : OpensNoScript s) (ht : OpensNoScript t) :
    OpensNoScript (if c then s else t) := by
  split
  · exact hs
  · exact ht

theorem of_not_mem {s : String} (h : '<' ∉ s.toList) : OpensNoScript s := isFreeOf_of_not_mem h _

theorem join {ss : List String} (h : ∀ s ∈ ss, OpensNoScript s) :
    OpensNoScript (String.join ss) := by
  rw [OpensNoScript, String.toList_join]
  exact isFreeOf_flatMap h

theorem intercalate {t : String} (ht : OpensNoScript t) {ss : List String}
    (h : ∀ s ∈ ss, OpensNoScript s) : OpensNoScript (t.intercalate ss) := by
  induction ss with
  | nil => exact of_not_mem (by simp)
  | cons s ss ih =>
    obtain ⟨hs, hss⟩ := List.forall_mem_cons.1 h
    cases ss with
    | nil =>
      rw [String.intercalate_singleton]
      exact hs
    | cons r ss =>
      rw [String.intercalate_cons_cons]
      exact (hs.append ht).append (ih hss)

theorem newline : OpensNoScript "\n" := lit rfl rfl

end OpensNoScript

/-- No script is opened on a page, whatever follows the page. -/
def Page.OpensNoScript (p : Page) : Prop :=
  ∀ f ∈ p, isFreeOf ['<', 's', 'c', 'r', 'i', 'p', 't', '>'] f.render = true

namespace Page.OpensNoScript

theorem nil : Page.OpensNoScript [] := fun _ hf => absurd hf List.not_mem_nil

theorem text {p : Page} (s : String) (hp : p.OpensNoScript) :
    Page.OpensNoScript (.text s :: p) :=
  List.forall_mem_cons.2 ⟨isFreeOf_of_not_mem (not_mem_escapeText (.inl rfl) s) _, hp⟩

theorem markup {p : Page} {s : String} (hs : Report.OpensNoScript s) (hp : p.OpensNoScript) :
    Page.OpensNoScript (.markup s :: p) :=
  List.forall_mem_cons.2 ⟨hs, hp⟩

theorem line {p : Page} {s : String} (hs : Report.OpensNoScript s) (hp : p.OpensNoScript) :
    Page.OpensNoScript (line s :: p) :=
  markup (hs.append .newline) hp

theorem append {p q : Page} (hp : p.OpensNoScript) (hq : q.OpensNoScript) :
    Page.OpensNoScript (p ++ q) := by
  intro f hf
  rcases List.mem_append.1 hf with hf | hf
  · exact hp f hf
  · exact hq f hf

theorem whenGiven (s : Option String) {f : String → Page} (h : ∀ t, (f t).OpensNoScript) :
    (whenGiven s f).OpensNoScript := by
  cases s with
  | none => exact nil
  | some t =>
    rw [Report.whenGiven]
    split
    · exact nil
    · exact h t

theorem flatMap {α : Type} {items : List α} {block : α → Page}
    (h : ∀ a, (block a).OpensNoScript) : Page.OpensNoScript (items.flatMap block) := by
  intro f hf
  obtain ⟨a, -, ha⟩ := List.mem_flatMap.1 hf
  exact h a f ha

theorem blocks {α : Type} (items : List α) {block : α → Page} {otherwise : Fragment}
    (h : ∀ a, (block a).OpensNoScript) (ho : Page.OpensNoScript [otherwise]) :
    (blocks items block otherwise).OpensNoScript := by
  rw [Report.blocks]
  split
  · exact ho
  · exact flatMap h

end Page.OpensNoScript

/-! ## The markup of a page -/

theorem opensNoScript_severity (s : Severity) : OpensNoScript s.name := by
  cases s <;> exact .lit rfl rfl

theorem opensNoScript_severitySign (s : Severity) : OpensNoScript (severitySign s) := by
  cases s <;> exact .lit rfl rfl

theorem opensNoScript_kind (k : IssueKind) : OpensNoScript k.name := by
  cases k <;> exact .lit rfl rfl

theorem opensNoScript_priority (s : Severity) : OpensNoScript s.name.toUpper := by
  rw [OpensNoScript]
  cases s <;> decide +kernel

theorem opensNoScript_int (n : Int) : OpensNoScript (toString n) := by
  refine .of_not_mem fun hmem => ?_
  have hmarkup := Json.not_mem_htmlSafe (.inl rfl) (toString n).toList
  rw [Json.htmlSafe_int] at hmarkup
  exact hmarkup hmem

theorem opensNoScript_styleRules : ∀ r ∈ styleRules,
    OpensNoScript r.selector ∧ ∀ d ∈ r.declarations, OpensNoScript d := by
  rw [styleRules]
  simp only [List.forall_mem_cons, List.not_mem_nil, false_implies, implies_true, and_true]
  repeat' apply And.intro
  all_goals exact .lit rfl rfl

theorem opensNoScript_styleSheet : OpensNoScript styleSheet := by
  refine .join fun s hs => ?_
  obtain ⟨r, hr, rfl⟩ := List.mem_map.1 hs
  obtain ⟨hselector, hdeclarations⟩ := opensNoScript_styleRules r hr
  have hall : OpensNoScript (" ".intercalate (r.declarations.map (· ++ ";"))) := by
    refine .intercalate (.lit rfl rfl) fun d hd => ?_
    obtain ⟨e, he, rfl⟩ := List.mem_map.1 hd
    exact (hdeclarations e he).append (.lit rfl rfl)
  exact .framed (.framed (.lit rfl rfl) hselector (.lit rfl rfl)) hall (.lit rfl rfl)

theorem opensNoScript_pageHead : Page.OpensNoScript pageHead := by
  repeat refine .line (.lit rfl rfl) ?_
  refine .markup opensNoScript_styleSheet ?_
  repeat refine .line (.lit rfl rfl) ?_
  exact .nil

theorem opensNoScript_card (n : Int) {caption : String} (h : OpensNoScript caption) :
    (card n caption).OpensNoScript :=
  .markup (.lit rfl rfl) (.text _ (.line (.framed (.lit rfl rfl) h (.lit rfl rfl)) .nil))

theorem opensNoScript_overview (a : Analysis) (generated : String) :
    (overview a generated).OpensNoScript := by
  refine (((((Page.OpensNoScript.append ?_ ?_).append ?_).append ?_).append ?_).append ?_)
  · refine .line (.lit rfl rfl) (.line (.lit rfl rfl) ?_)
    refine .markup (.lit rfl rfl) (.text _ (.line (.lit rfl rfl) ?_))
    refine .markup (.lit rfl rfl) (.text _ (.line (.lit rfl rfl) ?_))
    exact .line (.lit rfl rfl) .nil
  · exact opensNoScript_card _ (.lit rfl rfl)
  · exact opensNoScript_card _ (.lit rfl rfl)
  · exact opensNoScript_card _ (.lit rfl rfl)
  · exact opensNoScript_card _ (.lit rfl rfl)
  · repeat refine .line (.lit rfl rfl) ?_
    exact .nil

theorem opensNoScript_tabs : Page.OpensNoScript tabs := by
  repeat refine .line (.lit rfl rfl) ?_
  exact .nil

theorem opensNoScript_issueBlock (i : Issue) : (issueBlock i).OpensNoScript := by
  refine (((((Page.OpensNoScript.append ?_ ?_).append ?_).append ?_).append ?_).append ?_)
  · refine .line (.framed (.lit rfl rfl) (opensNoScript_severity i.severity) (.lit rfl rfl)) ?_
    refine .line (.lit rfl rfl) ?_
    refine .markup (.framed (.lit rfl rfl) (opensNoScript_severitySign i.severity)
      (.lit rfl rfl)) ?_
    refine .text _ (.line (.lit rfl rfl) ?_)
    refine .line (.framed (.lit rfl rfl) (opensNoScript_kind i.kind) (.lit rfl rfl)) ?_
    refine .line (.lit rfl rfl) ?_
    exact .markup (.lit rfl rfl) (.text _ .nil)
  · cases i.count with
    | none => exact .nil
    | some n =>
      exact .markup (.framed (.lit rfl rfl) (opensNoScript_int n) (.lit rfl rfl)) .nil
  · exact .line (.lit rfl rfl) .nil
  · exact .whenGiven _ fun t =>
      .markup (.lit rfl rfl) (.text t (.line (.lit rfl rfl) .nil))
  · exact .whenGiven _ fun t =>
      .markup (.lit rfl rfl) (.text t (.line (.lit rfl rfl) .nil))
  · exact .line (.lit rfl rfl) .nil

theorem opensNoScript_issuesTab (a : Analysis) : (issuesTab a).OpensNoScript := by
  refine (Page.OpensNoScript.append ?_ (.blocks _ opensNoScript_issueBlock ?_)).append ?_
  · repeat refine .line (.lit rfl rfl) ?_
    exact .nil
  · exact .line (.append (.lit rfl rfl) (.lit rfl rfl)) .nil
  · repeat refine .line (.lit rfl rfl) ?_
    exact .nil

theorem opensNoScript_recommendationBlock (r : Recommendation) :
    (recommendationBlock r).OpensNoScript := by
  refine (((((Page.OpensNoScript.append ?_ ?_).append ?_).append ?_).append ?_).append ?_)
  · refine .line (.lit rfl rfl) ?_
    exact .markup (.lit rfl rfl) .nil
  · cases r.priority with
    | none => exact .nil
    | some s =>
      exact .markup (.framed (.lit rfl rfl) (opensNoScript_priority s) (.lit rfl rfl)) .nil
  · exact .text _ (.line (.lit rfl rfl) .nil)
  · exact .whenGiven _ fun t =>
      .markup (.lit rfl rfl) (.text t (.markup (.lit rfl rfl) .nil))
  · exact .whenGiven _ fun t =>
      .markup (.lit rfl rfl) (.text t (.markup (.lit rfl rfl) .nil))
  · exact .line (.lit rfl rfl) .nil

theorem opensNoScript_recommendationsTab (a : Analysis) :
    (recommendationsTab a).OpensNoScript := by
  refine (Page.OpensNoScript.append ?_ (.blocks _ opensNoScript_recommendationBlock ?_)).append ?_
  · repeat refine .line (.lit rfl rfl) ?_
    exact .nil
  · exact .line (.append (.lit rfl rfl) (.lit rfl rfl)) .nil
  · repeat refine .line (.lit rfl rfl) ?_
    exact .nil

theorem opensNoScript_labelled {label : String} (h : OpensNoScript label) (s : String) :
    (labelled label s).OpensNoScript :=
  .markup (.framed (.lit rfl rfl) h (.lit rfl rfl))
    (.text s (.markup (.lit rfl rfl) .nil))

theorem Page.opensNoScript_ite {c : Prop} [Decidable c] {p q : Page} (hp : p.OpensNoScript)
    (hq : q.OpensNoScript) : Page.OpensNoScript (if c then p else q) := by
  split
  · exact hp
  · exact hq

theorem opensNoScript_dependencyBlock (d : Dependency) : (dependencyBlock d).OpensNoScript := by
  refine (((Page.OpensNoScript.append ?_ ?_).append ?_).append ?_).append ?_
  · refine .line (.framed (.append (.lit rfl rfl) (.ite (.lit rfl rfl) (.lit rfl rfl)))
      (.ite (.lit rfl rfl) (.lit rfl rfl)) (.lit rfl rfl)) ?_
    refine .markup (.lit rfl rfl) (.text _ (.line (.lit rfl rfl) ?_))
    refine .markup (.lit rfl rfl) (.text _ (.line (.lit rfl rfl) ?_))
    refine .line (.framed (.lit rfl rfl) (.ite (.lit rfl rfl) (.lit rfl rfl)) (.lit rfl rfl)) ?_
    exact .line (.framed (.lit rfl rfl) (.ite (.lit rfl rfl) (.lit rfl rfl)) (.lit rfl rfl)) .nil
  · exact Page.opensNoScript_ite (opensNoScript_labelled (.lit rfl rfl) _) .nil
  · exact Page.opensNoScript_ite .nil (opensNoScript_labelled (.lit rfl rfl) _)
  · exact Page.opensNoScript_ite .nil (opensNoScript_labelled (.lit rfl rfl) _)
  · exact .line (.lit rfl rfl) .nil

theorem opensNoScript_dependenciesTab (a : Analysis) : (dependenciesTab a).OpensNoScript := by
  refine (Page.OpensNoScript.append ?_ (.blocks _ opensNoScript_dependencyBlock ?_)).append ?_
  · repeat refine .line (.lit rfl rfl) ?_
    exact .nil
  · exact .line (.lit rfl rfl) .nil
  · repeat refine .line (.lit rfl rfl) ?_
    exact .nil

theorem opensNoScript_diagnosisBlock (d : Diagnosis) : (diagnosisBlock d).OpensNoScript := by
  have hcause : ∀ c, (causeLine c).OpensNoScript := fun c =>
    .markup (.lit rfl rfl) (.text _ (.markup (.lit rfl rfl) (.text _
      (.line (.lit rfl rfl) .nil))))
  refine (Page.OpensNoScript.append ?_ (Page.opensNoScript_ite ?_ ?_)).append ?_
  · refine .line (.framed (.lit rfl rfl) (opensNoScript_severity d.severity) (.lit rfl rfl)) ?_
    exact .markup (.lit rfl rfl) (.text _ (.line (.lit rfl rfl) .nil))
  · exact .line (.lit rfl rfl) .nil
  · exact (Page.OpensNoScript.append (.line (.lit rfl rfl) .nil)
      (.flatMap hcause)).append (.line (.lit rfl rfl) .nil)
  · exact .line (.lit rfl rfl) .nil

theorem opensNoScript_routeFilesTab (a : Analysis) : (routeFilesTab a).OpensNoScript := by
  refine (Page.OpensNoScript.append ?_ (.blocks _ opensNoScript_diagnosisBlock ?_)).append ?_
  · repeat refine .line (.lit rfl rfl) ?_
    exact .nil
  · exact .line (.lit rfl rfl) .nil
  · repeat refine .line (.lit rfl rfl) ?_
    exact .nil

theorem opensNoScript_toolsTab : Page.OpensNoScript toolsTab := by
  repeat first
    | refine .line (.lit rfl rfl) ?_
    | refine .line (.append (.lit rfl rfl) (.lit rfl rfl)) ?_
  exact .nil

/-! ## The script of a page -/

/-- A page up to its script. -/
def pageFront (a : Analysis) (generated : String) : Page :=
  pageHead ++ [line "<body>"] ++ overview a generated ++ tabs ++ issuesTab a
    ++ recommendationsTab a ++ dependenciesTab a ++ routeFilesTab a ++ toolsTab

/-- **No script is opened in front of the script**, whatever the texts of the project are. -/
theorem opensNoScript_pageFront (a : Analysis) (generated : String) :
    (pageFront a generated).OpensNoScript := by
  have hbody : Page.OpensNoScript [line "<body>"] := .line (.lit rfl rfl) .nil
  exact (((((((opensNoScript_pageHead.append hbody).append
    (opensNoScript_overview a generated)).append opensNoScript_tabs).append
    (opensNoScript_issuesTab a)).append (opensNoScript_recommendationsTab a)).append
    (opensNoScript_dependenciesTab a)).append (opensNoScript_routeFilesTab a)).append
    opensNoScript_toolsTab

/-- A page from its script on. -/
def pageRest (data : Json) : Page :=
  [line "    <script>", .markup "        window.routeDebugData = "]
    ++ (.data data :: line ";" :: pageEnd)

/-- **A page** of libraries that can be shown is its front, its script with the data, and its
end. -/
theorem html_eq {a : Analysis} {data : Json} (h : a.debugData = .ok data)
    (hshown : ∀ d ∈ a.dependencies, isShowable d = true) (generated : String) :
    html a generated =
      .ok (String.ofList (Page.render (pageFront a generated ++ pageRest data))) := by
  have hsplit : pageHead ++ pageBody a generated data ++ pageEnd =
      pageFront a generated ++ pageRest data := by
    simp [pageBody, pageFront, pageRest]
  rw [html, page, h, List.all_eq_true.2 hshown, ← hsplit]
  rfl

/-- The characters that open the script of a page. -/
theorem render_opening :
    Page.render [line "    <script>", .markup "        window.routeDebugData = "] =
      "    ".toList ++ (scriptTag.toList ++ ("\n        ".toList ++ dataName.toList)) := by
  decide +kernel

/-- **The data of a page** is what one finds behind its name in the script, up to a semicolon. -/
theorem dataText?_page (a : Analysis) (generated : String) (data : Json) : ∃ tail,
    dataText? (Page.render (pageFront a generated ++ pageRest data)) =
      some (data.embedded ++ ';' :: tail) := by
  have hdata : Page.render (.data data :: line ";" :: pageEnd) =
      data.embedded ++ ';' :: '\n' :: Page.render pageEnd := rfl
  have hfront : isFreeOf scriptTag.toList ((pageFront a generated).render ++ "    ".toList) =
      true := by
    rw [toList_scriptTag]
    exact isFreeOf_append (isFreeOf_flatMap (opensNoScript_pageFront a generated)) rfl
  refine ⟨'\n' :: Page.render pageEnd, ?_⟩
  rw [Page.render_append, pageRest, Page.render_append, render_opening, hdata]
  simp only [List.append_assoc]
  rw [← List.append_assoc, dataText?, Pattern.find?_lit (by decide) hfront]
  dsimp only
  rw [Pattern.find?_lit (by decide) (by decide +kernel), Option.map_some]

end Report
end RouteAudit
