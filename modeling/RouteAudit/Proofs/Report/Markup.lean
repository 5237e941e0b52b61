import RouteAudit.Proofs.Report.SameData

/-!
# The markup of a page does not depend on texts

What a browser makes of a page is decided by its angle brackets and quotes.  Two analyses of the
same shape, which differ only in their texts and numbers, have pages with the same such characters
in the same order.  So whatever a project writes into its files, its own texts cannot add a tag to
the report, nor end one, nor leave an attribute.

## What is here

* `Report.marks` — the angle brackets and single quotes of a text, in order;
* `Analysis.shape` — what is left of an analysis without its texts and numbers;
* `Page.Alike` — two pages with the same marks; each part of a page is alike for analyses of one
  shape;
* `pages_alike` — so are whole pages, and the data that they carry has nothing in it that means
  anything to a page.
-/

set_option autoImplicit false

namespace RouteAudit
namespace Report

/-! ## Marks -/

/-- The angle brackets and single quotes of a text. -/
def marks (s : List Char) : List Char := s.filter fun c => c = '<' || c = '>' || c = '\''

theorem marks_append (s t : List Char) : marks (s ++ t) = marks s ++ marks t :=
  List.filter_append s t

theorem marks_eq_nil {s : List Char} (h : '<' ∉ s ∧ '>' ∉ s ∧ '\'' ∉ s) : marks s = [] := by
  refine List.filter_eq_nil_iff.2 fun c hc hmark => ?_
  simp only [Bool.or_eq_true, decide_eq_true_eq] at hmark
  rcases hmark with (rfl | rfl) | rfl
  · exact h.1 hc
  · exact h.2.1 hc
  · exact h.2.2 hc

theorem marks_escapeText (s : String) : marks (escapeText s) = [] :=
  marks_eq_nil ⟨not_mem_escapeText (.inl rfl) s, not_mem_escapeText (.inr (.inl rfl)) s,
    not_mem_escapeText (.inr (.inr (.inl rfl))) s⟩

theorem marks_embedded (j : Json) : marks j.embedded = [] :=
  marks_eq_nil ⟨Json.not_mem_htmlSafe (.inl rfl) _, Json.not_mem_htmlSafe (.inr (.inl rfl)) _,
    Json.not_mem_htmlSafe (.inr (.inr (.inr rfl))) _⟩

/-- A number has no marks. -/
theorem marks_int (n : Int) : marks (toString n).toList = [] := by
  rw [← Json.htmlSafe_int]
  exact marks_eq_nil ⟨Json.not_mem_htmlSafe (.inl rfl) _,
    Json.not_mem_htmlSafe (.inr (.inl rfl)) _, Json.not_mem_htmlSafe (.inr (.inr (.inr rfl))) _⟩

/-! ## Shapes -/

/-- How much there is of a text that may be left out. -/
inductive Amount where
  | absent
  | empty
  | given
  deriving DecidableEq

/-- How much there is of a text. -/
def amountOf : Option String → Amount
  | none => .absent
  | some s => if s = "" then .empty else .given

/-- How much there is of a text that may be null. -/
def amountOfValue : Yaml.Value → Amount
  | .null => .absent
  | v => if v.truth then .given else .empty

end Report

open Report (Amount amountOf amountOfValue)

/-- An issue without its texts and its count. -/
structure Issue.Shape where
  kind : IssueKind
  severity : Severity
  pattern : Amount
  fix : Amount
  deriving DecidableEq

def Issue.shape (i : Issue) : Issue.Shape :=
  ⟨i.kind, i.severity, amountOf i.pattern, amountOf i.fix⟩

/-- A recommendation without its texts. -/
structure Recommendation.Shape where
  priority : Option Severity
  file : Amount
  action : Amount
  deriving DecidableEq

def Recommendation.shape (r : Recommendation) : Recommendation.Shape :=
  ⟨r.priority, amountOf r.file, amountOf r.action⟩

/-- A library without its texts. -/
structure Dependency.Shape where
  critical : Bool
  detected : Bool
  shellPatched : Option Bool
  issue : Amount
  hasComponents : Bool
  hasPatchedComponents : Bool
  deriving DecidableEq

def Dependency.shape (d : Dependency) : Dependency.Shape :=
  ⟨d.critical, d.detected, d.shellPatched, amountOfValue d.issue, !d.components.isEmpty,
    !d.patchedComponents.isEmpty⟩

/-- A summary without its texts and its count: which properties the file has. -/
def RouteSummary.shape (s : RouteSummary) : List Bool := Property.all.map (·.holds s)

/-- An analysis without its texts and numbers. -/
structure Analysis.Shape where
  issues : List Issue.Shape
  recommendations : List Recommendation.Shape
  dependencies : List Dependency.Shape
  summaries : List (List Bool)
  deriving DecidableEq

def Analysis.shape (a : Analysis) : Analysis.Shape where
  issues := a.issues.map Issue.shape
  recommendations := a.recommendations.map Recommendation.shape
  dependencies := a.dependencies.map Dependency.shape
  summaries := a.summaries.map RouteSummary.shape

/-! ## Pages with the same marks -/

namespace Report

/-- Two pages with the same marks. -/
def Page.Alike (p q : Page) : Prop := marks p.render = marks q.render

namespace Page.Alike

theorem refl (p : Page) : p.Alike p := rfl

theorem append {p p' q q' : Page} (hp : p.Alike p') (hq : q.Alike q') :
    Page.Alike (p ++ q) (p' ++ q') := by
  rw [Page.Alike, Page.render_append, Page.render_append, marks_append, marks_append, hp, hq]

theorem cons (f : Fragment) {p q : Page} (h : p.Alike q) : Page.Alike (f :: p) (f :: q) :=
  append (refl [f]) h

theorem texts (s t : String) : Page.Alike [.text s] [.text t] := by
  simp only [Page.Alike, Page.render, List.flatMap_cons, List.flatMap_nil, List.append_nil,
    Fragment.render, marks_escapeText]

theorem text (s t : String) {p q : Page} (h : p.Alike q) :
    Page.Alike (.text s :: p) (.text t :: q) :=
  append (texts s t) h

theorem whenGiven {s t : Option String} (hst : amountOf s = amountOf t) {f : String → Page}
    (h : ∀ u v, (f u).Alike (f v)) : (whenGiven s f).Alike (whenGiven t f) := by
  have hgiven : ∀ o, amountOf o = .given → ∃ u, Report.whenGiven o f = f u := by
    intro o ho
    cases o with
    | none => cases ho
    | some u =>
      rw [amountOf] at ho
      split at ho
      · cases ho
      · rename_i hu
        exact ⟨u, by rw [Report.whenGiven, if_neg hu]⟩
  have hnil : ∀ o, amountOf o ≠ .given → Report.whenGiven o f = [] := by
    intro o ho
    cases o with
    | none => rfl
    | some u =>
      rw [amountOf] at ho
      split at ho
      · rename_i hu
        rw [Report.whenGiven, if_pos hu]
      · exact absurd rfl ho
  by_cases hs : amountOf s = .given
  · obtain ⟨u, hu⟩ := hgiven s hs
    obtain ⟨v, hv⟩ := hgiven t (hst ▸ hs)
    rw [hu, hv]
    exact h u v
  · rw [hnil s hs, hnil t (hst ▸ hs)]
    exact refl []

theorem ite {b c : Bool} (h : b = c) {p p' q q' : Page} (hp : p.Alike p') (hq : q.Alike q') :
    Page.Alike (if b then p else q) (if c then p' else q') := by
  subst h
  split
  · exact hp
  · exact hq

/-- Blocks of items of the same shapes. -/
theorem flatMap {α β : Type} {shape : α → β} {block : α → Page}
    (h : ∀ x y, shape x = shape y → (block x).Alike (block y)) {xs ys : List α}
    (hxy : xs.map shape = ys.map shape) : Page.Alike (xs.flatMap block) (ys.flatMap block) := by
  induction xs generalizing ys with
  | nil =>
    rw [List.map_nil] at hxy
    rw [List.map_eq_nil_iff.1 hxy.symm]
    exact refl []
  | cons x xs ih =>
    cases ys with
    | nil => cases hxy
    | cons y ys =>
      rw [List.map_cons, List.map_cons, List.cons.injEq] at hxy
      rw [List.flatMap_cons, List.flatMap_cons]
      exact append (h x y hxy.1) (ih hxy.2)

theorem blocks {α β : Type} {shape : α → β} {block : α → Page}
    (h : ∀ x y, shape x = shape y → (block x).Alike (block y)) {xs ys : List α}
    (hxy : xs.map shape = ys.map shape) (otherwise : Fragment) :
    (blocks xs block otherwise).Alike (blocks ys block otherwise) := by
  have hempty : xs.isEmpty = ys.isEmpty := by
    rw [← List.isEmpty_map (f := shape), hxy, List.isEmpty_map]
  exact ite hempty (refl _) (flatMap h hxy)

end Page.Alike

/-! ## The parts of a page -/

theorem alike_card (m n : Int) (caption : String) : (card m caption).Alike (card n caption) :=
  .cons _ (.text _ _ (.refl _))

theorem alike_overview (a b : Analysis) (s t : String) : (overview a s).Alike (overview b t) := by
  refine .append (.append (.append (.append (.append ?_ ?_) ?_) ?_) ?_) ?_
  · exact .cons _ (.cons _ (.cons _ (.text _ _ (.cons _ (.cons _ (.text _ _ (.refl _)))))))
  · exact alike_card _ _ _
  · exact alike_card _ _ _
  · exact alike_card _ _ _
  · exact alike_card _ _ _
  · exact .refl _

/-- How often something was seen is told without marks. -/
theorem marks_count (count : Option Int) :
    marks (Page.render (match count with
      | some n => [.markup (" (" ++ toString n ++ " occurrences)")]
      | none => [])) = [] := by
  cases count with
  | none => rfl
  | some n =>
    have hends : marks " (".toList = [] ∧ marks " occurrences)".toList = [] := by decide +kernel
    simp only [Page.render, List.flatMap_cons, List.flatMap_nil, List.append_nil, Fragment.render,
      String.toList_append, marks_append, hends, marks_int]

theorem alike_issueBlock (i j : Issue) (h : i.shape = j.shape) :
    (issueBlock i).Alike (issueBlock j) := by
  rw [Issue.shape, Issue.shape, Issue.Shape.mk.injEq] at h
  obtain ⟨hkind, hseverity, hpattern, hfix⟩ := h
  rw [issueBlock, issueBlock, hkind, hseverity]
  refine .append (.append (.append (.append (.append ?_ ?_) ?_) ?_) ?_) ?_
  · exact .cons _ (.cons _ (.cons _ (.text _ _ (.cons _ (.cons _ (.cons _ (.cons _
      (.text _ _ (.refl _)))))))))
  · exact (marks_count i.count).trans (marks_count j.count).symm
  · exact .refl _
  · exact .whenGiven hpattern fun u v => .cons _ (.text u v (.refl _))
  · exact .whenGiven hfix fun u v => .cons _ (.text u v (.refl _))
  · exact .refl _

theorem alike_recommendationBlock (q r : Recommendation) (h : q.shape = r.shape) :
    (recommendationBlock q).Alike (recommendationBlock r) := by
  rw [Recommendation.shape, Recommendation.shape, Recommendation.Shape.mk.injEq] at h
  obtain ⟨hpriority, hfile, haction⟩ := h
  rw [recommendationBlock, recommendationBlock, hpriority]
  refine .append (.append (.append (.append (.append ?_ ?_) ?_) ?_) ?_) ?_
  · exact .refl _
  · exact .refl _
  · exact .text _ _ (.refl _)
  · exact .whenGiven haction fun u v => .cons _ (.text u v (.refl _))
  · exact .whenGiven hfile fun u v => .cons _ (.text u v (.refl _))
  · exact .refl _

theorem alike_labelled (label s t : String) : (labelled label s).Alike (labelled label t) :=
  .cons _ (.text s t (.refl _))

theorem truth_of_amountOfValue {v w : Yaml.Value} (h : amountOfValue v = amountOfValue w) :
    v.truth = w.truth := by
  have htruth : ∀ v : Yaml.Value, v.truth = decide (amountOfValue v = .given) := by
    intro v
    cases v with
    | null => rfl
    | _ =>
      rw [amountOfValue]
      · split
        · assumption
        · simp_all
      · simp
  rw [htruth v, htruth w, h]

theorem alike_dependencyBlock (c d : Dependency) (h : c.shape = d.shape) :
    (dependencyBlock c).Alike (dependencyBlock d) := by
  rw [Dependency.shape, Dependency.shape, Dependency.Shape.mk.injEq] at h
  obtain ⟨hcritical, hdetected, -, hissue, hcomponents, hpatched⟩ := h
  rw [dependencyBlock, dependencyBlock, hcritical, hdetected]
  refine .append (.append (.append (.append ?_ ?_) ?_) ?_) ?_
  · exact .cons _ (.cons _ (.text _ _ (.cons _ (.cons _ (.text _ _ (.refl _))))))
  · exact .ite (truth_of_amountOfValue hissue) (alike_labelled _ _ _) (.refl _)
  · exact .ite (Bool.not_inj hcomponents) (.refl _) (alike_labelled _ _ _)
  · exact .ite (Bool.not_inj hpatched) (.refl _) (alike_labelled _ _ _)
  · exact .refl _

theorem alike_diagnosisBlock (s t : RouteSummary) (h : s.shape = t.shape) :
    (diagnosisBlock (diagnose s)).Alike (diagnosisBlock (diagnose t)) := by
  simp only [RouteSummary.shape, Property.all, List.map_cons, List.map_nil, Property.holds,
    List.cons.injEq, and_true] at h
  obtain ⟨hactivity, hblocked, hclients, hroutes, -, -⟩ := h
  have hcauses : (diagnose s).causes = (diagnose t).causes := by
    simp only [diagnose, hactivity, hblocked, hclients, hroutes]
  have hseverity : (diagnose s).severity = (diagnose t).severity := by
    simp only [diagnose, hclients, hroutes]
  rw [diagnosisBlock, diagnosisBlock, hcauses, hseverity]
  refine .append (.append ?_ ?_) ?_
  · exact .cons _ (.cons _ (.text _ _ (.refl _)))
  · exact .refl _
  · exact .refl _

theorem blocks_map {α β : Type} (f : α → β) (xs : List α) (block : β → Page)
    (otherwise : Fragment) :
    blocks (xs.map f) block otherwise = blocks xs (fun x => block (f x)) otherwise := by
  rw [blocks, blocks, List.isEmpty_map, List.flatMap_map]

/-- **The markup of a page** depends on the shape of the analysis alone. -/
theorem alike_pageFront {a b : Analysis} (h : a.shape = b.shape) (s t : String) :
    (pageFront a s).Alike (pageFront b t) := by
  rw [Analysis.shape, Analysis.shape, Analysis.Shape.mk.injEq] at h
  obtain ⟨hissues, hrecommendations, hdependencies, hsummaries⟩ := h
  refine .append (.append (.append (.append (.append (.append (.append (.append ?_ ?_) ?_) ?_) ?_)
    ?_) ?_) ?_) ?_
  · exact .refl _
  · exact .refl _
  · exact alike_overview a b s t
  · exact .refl _
  · exact .append (.append (.refl _) (.blocks alike_issueBlock hissues _)) (.refl _)
  · exact .append (.append (.refl _) (.blocks alike_recommendationBlock hrecommendations _))
      (.refl _)
  · exact .append (.append (.refl _) (.blocks alike_dependencyBlock hdependencies _)) (.refl _)
  · rw [routeFilesTab, routeFilesTab, blocks_map, blocks_map]
    exact .append (.append (.refl _) (.blocks alike_diagnosisBlock hsummaries _)) (.refl _)
  · exact .refl _

/-- The rest of a page has the same marks whatever its data is. -/
theorem alike_pageRest (data data' : Json) : (pageRest data).Alike (pageRest data') := by
  have hdata : Page.Alike [.data data] [.data data'] := by
    simp only [Page.Alike, Page.render, List.flatMap_cons, List.flatMap_nil, List.append_nil,
      Fragment.render, marks_embedded]
  exact .append (.refl _) (.append hdata (.refl _))

/-- The data of a page, from its name up to the end of its value, has no character that means
anything to a page. -/
def DataIsHidden (page : List Char) : Prop :=
  ∃ text rest data, dataText? page = some (text ++ rest) ∧
    Json.read? (text ++ rest) = some (data, rest) ∧ ∀ c ∈ text, c ∉ ['<', '>', '&', '\'']

theorem dataIsHidden_page (a : Analysis) (generated : String) {data : Json} (h : data.Plain) :
    DataIsHidden (Page.render (pageFront a generated ++ pageRest data)) := by
  obtain ⟨tail, htext⟩ := dataText?_page a generated data
  refine ⟨data.embedded, ';' :: tail, data, htext, Json.read?_embedded h rfl, fun c hc hmark => ?_⟩
  have hnot : c ∉ data.embedded := Json.not_mem_htmlSafe (by simpa using hmark) _
  exact hnot hc

end Report

/-- **Texts of a project are no markup.**  The pages of two analyses of the same shape have the same
angle brackets and single quotes, in the same order, whatever their texts are; and the data of a
page has no character that means anything to a page, so that it cannot end the script in which it
stands. -/
theorem pages_alike {a b : Analysis} (ha : a.Textual) (hb : b.Textual) (h : a.shape = b.shape)
    (generated generated' : String) :
    ∃ p q, Report.html a generated = .ok p ∧ Report.html b generated' = .ok q ∧
      Report.marks p.toList = Report.marks q.toList ∧
      Report.DataIsHidden p.toList ∧ Report.DataIsHidden q.toList := by
  obtain ⟨-, data, -, hdata, -, hplain, -⟩ := Analysis.exists_reports ha
  obtain ⟨-, data', -, hdata', -, hplain', -⟩ := Analysis.exists_reports hb
  refine ⟨_, _, Report.html_eq hdata (fun d hd => (ha d hd).isShowable) generated,
    Report.html_eq hdata' (fun d hd => (hb d hd).isShowable) generated', ?_, ?_, ?_⟩
  · rw [String.toList_ofList, String.toList_ofList]
    exact (Report.alike_pageFront h generated generated').append
      (Report.alike_pageRest data data')
  · rw [String.toList_ofList]
    exact Report.dataIsHidden_page a generated hplain
  · rw [String.toList_ofList]
    exact Report.dataIsHidden_page b generated' hplain'

/-- An analysis of the same shape as the hostile one, without anything special in its texts. -/
def mildAnalysis : Analysis :=
  { hostileAnalysis with
    basePath := "/srv"
    issues := [
      { kind := .queryClient
        severity := .high
        file := "routes.ts"
        message := "A client is created."
        pattern := some "new QueryClient" }] }

/-- The pages of the two analyses have the same markup. -/
theorem pages_alike_hostileAnalysis : hostileAnalysis.shape = mildAnalysis.shape ∧
    ∃ p q, Report.html hostileAnalysis "" = .ok p ∧ Report.html mildAnalysis "now" = .ok q ∧
      Report.marks p.toList = Report.marks q.toList ∧
      Report.DataIsHidden p.toList ∧ Report.DataIsHidden q.toList :=
  have h : hostileAnalysis.shape = mildAnalysis.shape := by decide
  ⟨h, pages_alike (fun _ hd => Table.textual_bundled hd) (fun _ hd => Table.textual_bundled hd) h
    "" "now"⟩

end RouteAudit
