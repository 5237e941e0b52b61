import RouteAudit.Proofs.Report.PlainData
import RouteAudit.Proofs.Report.Script
import RouteAudit.Proofs.Scan.DirtyFiles

/-!
# Two reports with the same data

An analysis can be written as JSON for other programs, and the page that is made for people carries
data for its own script.  The two are written by different hands: the one leaves every character
alone that it can, the other is ASCII with the characters hidden that mean something to a page.
Read by one reader they say the same.

## What is here

* `Report.data?` — the data of a page, as its script would read it;
* `Json.SameData` — the members that both reports have are equal;
* `reports_agree` — the report of an analysis is read back as it was, and the data of its page says
  the same.
-/

set_option autoImplicit false

namespace RouteAudit

/-- The data of a page: the value behind its name in the script, up to a semicolon. -/
def Report.data? (page : List Char) : Option Json :=
  match (Report.dataText? page).bind Json.read? with
  | some (data, ';' :: _) => some data
  | _ => none

namespace Json

/-- Both values have the member, and with the same value. -/
def SameMember (report data : Json) (key : String) : Prop :=
  ∃ j, report.member? key = some j ∧ data.member? key = some j

/-- The data of a page says what a report says; without the libraries and the route files, unless
the analysis was extended. -/
structure SameData (extended : Bool) (report data : Json) : Prop where
  issues : SameMember report data "issues"
  recommendations : SameMember report data "recommendations"
  summary : SameMember report data "summary"
  dependencies : if extended then SameMember report data "dependencies"
    else data.member? "dependencies" = some (.obj [])
  routeConfigs : if extended then SameMember report data "routeConfigs"
    else data.member? "routeConfigs" = some (.arr [])

end Json

/-- A library whose fields are texts can be shown on a page. -/
theorem Dependency.Textual.isShowable {d : Dependency} (h : d.Textual) :
    Report.isShowable d = true := by
  have htext : ∀ ts : List String, ∀ v ∈ ts.map Yaml.Value.text, v.plain?.isSome = true := by
    intro ts v hv
    obtain ⟨s, -, rfl⟩ := List.mem_map.1 hv
    rfl
  obtain ⟨name, hname⟩ := h.name
  obtain ⟨ts, hts⟩ := h.components
  obtain ⟨ps, hps⟩ := h.patchedComponents
  rw [Report.isShowable, Report.shownValues, hname, hts, hps, List.all_eq_true]
  intro v hv
  simp only [List.cons_append, List.mem_cons, List.mem_append] at hv
  rcases hv with rfl | (hissue | hts) | hps
  · rfl
  · split at hissue
    · rw [List.mem_singleton.1 hissue]
      rcases h.issue with hnull | ⟨s, hs⟩
      · rw [hnull]
        rfl
      · rw [hs]
        rfl
    · cases hissue
  · exact htext ts v hts
  · exact htext ps v hps

namespace Analysis

open Json (Plain SameData)

/-- **Both forms of an analysis** are there, they are plain, and they say the same. -/
theorem exists_reports {a : Analysis} (h : a.Textual) : ∃ report data, a.json = .ok report ∧
    a.debugData = .ok data ∧ report.Plain ∧ data.Plain ∧ SameData a.extended report data := by
  cases hx : a.extended with
  | false =>
    refine ⟨_, .obj [("issues", a.issuesJson), ("recommendations", a.recommendationsJson),
      ("dependencies", .obj []), ("routeConfigs", .arr []), ("summary", a.summary)],
      json_of_plain hx, ?_, ?_, ?_, ?_⟩
    · rw [debugData, hx]
      rfl
    · refine .obj (by simp) ?_
      simp only [List.forall_mem_cons, List.not_mem_nil, false_implies, implies_true, and_true]
      exact ⟨a.plain_summary, a.plain_issuesJson, a.plain_recommendationsJson, .str _, .str _⟩
    · refine .obj (by simp) ?_
      simp only [List.forall_mem_cons, List.not_mem_nil, false_implies, implies_true, and_true]
      exact ⟨a.plain_issuesJson, a.plain_recommendationsJson, .obj (by simp) (by simp),
        .arr (by simp), a.plain_summary⟩
    · exact ⟨⟨_, rfl, rfl⟩, ⟨_, rfl, rfl⟩, ⟨_, rfl, rfl⟩, rfl, rfl⟩
  | true =>
    obtain ⟨ds, hds, hplain⟩ := Dependency.exists_jsonByName h
    refine ⟨_, .obj [("issues", a.issuesJson), ("recommendations", a.recommendationsJson),
      ("dependencies", ds), ("routeConfigs", a.summariesJson), ("summary", a.summary)],
      json_of_extended hx hds, ?_, ?_, ?_, ?_⟩
    · rw [debugData, hx, if_pos rfl, hds]
      rfl
    · refine .obj (by simp) ?_
      simp only [List.forall_mem_cons, List.not_mem_nil, false_implies, implies_true, and_true]
      exact ⟨a.plain_summary, a.plain_issuesJson, a.plain_recommendationsJson, hplain,
        a.plain_summariesJson, .str _, .str _⟩
    · refine .obj (by simp) ?_
      simp only [List.forall_mem_cons, List.not_mem_nil, false_implies, implies_true, and_true]
      exact ⟨a.plain_issuesJson, a.plain_recommendationsJson, hplain, a.plain_summariesJson,
        a.plain_summary⟩
    · exact ⟨⟨_, rfl, rfl⟩, ⟨_, rfl, rfl⟩, ⟨_, rfl, rfl⟩, ⟨_, rfl, rfl⟩, ⟨_, rfl, rfl⟩⟩

end Analysis

/-- **The data of a page is read back.** -/
theorem Report.data?_page (a : Analysis) (generated : String) {data : Json} (h : data.Plain) :
    data? (Page.render (pageFront a generated ++ pageRest data)) = some data := by
  obtain ⟨tail, htext⟩ := dataText?_page a generated data
  have hread : Json.read? (data.embedded ++ ';' :: tail) = some (data, ';' :: tail) :=
    Json.read?_embedded h rfl
  rw [data?, htext, Option.bind_some, hread]
  rfl

/-- **The reports agree.**  The report of an analysis whose libraries are described by texts is read
back exactly as it was, and the data of its page says the same. -/
theorem reports_agree (a : Analysis) (generated : String) (h : a.Textual) :
    ∃ report text page data, a.json = .ok report ∧ a.jsonText = .ok text ∧
      Report.html a generated = .ok page ∧ Json.parse text.toList = some report ∧
      Report.data? page.toList = some data ∧ report.SameData a.extended data := by
  obtain ⟨report, data, hreport, hdata, hplain, hdplain, hsame⟩ := Analysis.exists_reports h
  refine ⟨report, report.pretty, _, data, hreport, ?_,
    Report.html_eq hdata (fun d hd => (h d hd).isShowable) generated, Json.parse_pretty hplain, ?_,
    hsame⟩
  · rw [Analysis.jsonText, hreport]
    rfl
  · rw [String.toList_ofList]
    exact Report.data?_page a generated hdplain

/-- An analysis of a project that tries to write its report itself. -/
def hostileAnalysis : Analysis where
  basePath := "/srv/\"a\\b\""
  extended := true
  issues := [
    { kind := .queryClient
      severity := .high
      file := "😀/routes.ts"
      message := "window.routeDebugData = null; </script> \x7f \x01 \n '"
      pattern := some "&lt;" }]
  dependencies := Table.bundled.detect []
  timestamp := ""

/-- The reports of that analysis agree. -/
theorem reports_agree_hostileAnalysis : hostileAnalysis.Textual ∧
    ∃ report text page data, hostileAnalysis.json = .ok report ∧
      hostileAnalysis.jsonText = .ok text ∧ Report.html hostileAnalysis "" = .ok page ∧
      Json.parse text.toList = some report ∧ Report.data? page.toList = some data ∧
      report.SameData true data :=
  have h : hostileAnalysis.Textual := fun _ hd => Table.textual_bundled hd
  ⟨h, reports_agree hostileAnalysis "" h⟩

end RouteAudit
