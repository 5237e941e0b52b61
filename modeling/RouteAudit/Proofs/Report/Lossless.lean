import Mathlib.Data.List.Basic
import Mathlib.Data.List.Induction
import RouteAudit.Proofs.Report.SameData

/-!
# What a report tells is not lost

A report leaves out what is not there: an optional text that is none, an empty list of parts.  It
puts the libraries under their names, and all of it is escaped and laid out as one text.  Two
analyses with the same text are nevertheless the same in everything that a report is there to tell,
down to an empty text as against none.

## What is here

* `lookup_optionalMember` — a member that may be left out is read back as an option;
* `Issue.json_injective`, `Recommendation.json_injective`, `RouteSummary.json_injective`,
  `Dependency.Textual.eq_of_members_eq` — the objects of a report tell what they are made of;
* `Dependency.eq_of_jsonByName_eq` — libraries of different names are told in their order;
* `Analysis.Told` — what stands under which key of a report;
* `Analysis.SameReport`, `jsonText_lossless` — equal reports tell the same.
-/

set_option autoImplicit false

namespace RouteAudit

/-! ## Members that may be left out -/

theorem lookup_optionalMember {α : Type} (key k : String) (f : α → Json) (o : Option α) :
    (optionalMember key f o).lookup k = if k = key then o.map f else none := by
  cases o with
  | none => simp [optionalMember]
  | some a =>
    by_cases h : k = key
    · simp [optionalMember, h]
    · have hkey : (k == key) = false := by simpa using h
      simp [optionalMember, List.lookup_cons, h, hkey]

namespace Json

theorem str_injective : Function.Injective Json.str := fun _ _ => Json.str.inj

theorem int_injective : Function.Injective Json.int := fun _ _ => Json.int.inj

theorem map_str_injective : Function.Injective (List.map Json.str) :=
  List.map_injective_iff.2 str_injective

/-- Values that are written alike are the same. -/
theorem Plain.eq_of_pretty_eq {j k : Json} (hj : j.Plain) (hk : k.Plain)
    (h : j.pretty = k.pretty) : j = k := by
  have hparse := parse_pretty hj
  rw [h, parse_pretty hk] at hparse
  exact (Option.some.inj hparse).symm

end Json

open Json (str_injective int_injective map_str_injective)

/-! ## Findings -/

theorem Severity.name_injective : Function.Injective Severity.name := by
  intro s t h
  have hs := Severity.ofName?_name s
  rw [h, Severity.ofName?_name] at hs
  exact (Option.some.inj hs).symm

/-- What an issue tells under which key. -/
theorem Issue.member?_json (i : Issue) :
    i.json.member? "type" = some (.str i.kind.name) ∧
    i.json.member? "severity" = some (.str i.severity.name) ∧
    i.json.member? "file" = some (.str i.file) ∧
    i.json.member? "message" = some (.str i.message) ∧
    i.json.member? "pattern" = i.pattern.map .str ∧
    i.json.member? "count" = i.count.map .int ∧
    i.json.member? "fix" = i.fix.map .str := by
  refine ⟨rfl, rfl, rfl, rfl, ?_, ?_, ?_⟩ <;>
    simp [Issue.json, Json.member?, List.lookup_cons, List.lookup_append, lookup_optionalMember]

theorem Issue.json_injective : Function.Injective Issue.json := by
  intro i j h
  have told := i.member?_json
  rw [h] at told
  simp only [j.member?_json, Option.some.injEq, Json.str.injEq] at told
  obtain ⟨hkind, hseverity, hfile, hmessage, hpattern, hcount, hfix⟩ := told
  obtain ⟨⟩ := i
  obtain ⟨⟩ := j
  rw [Issue.mk.injEq]
  exact ⟨(IssueKind.name_injective hkind).symm, (Severity.name_injective hseverity).symm,
    hfile.symm, hmessage.symm, (Option.map_injective str_injective hpattern).symm,
    (Option.map_injective int_injective hcount).symm,
    (Option.map_injective str_injective hfix).symm⟩

/-- What a recommendation tells under which key. -/
theorem Recommendation.member?_json (r : Recommendation) :
    r.json.member? "message" = some (.str r.message) ∧
    r.json.member? "file" = r.file.map .str ∧
    r.json.member? "priority" = r.priority.map (fun s => .str s.name) ∧
    r.json.member? "action" = r.action.map .str := by
  refine ⟨?_, ?_, ?_, ?_⟩ <;>
    simp [Recommendation.json, Json.member?, List.lookup_cons, List.lookup_append,
      lookup_optionalMember]

theorem Recommendation.json_injective : Function.Injective Recommendation.json := by
  intro r t h
  have told := r.member?_json
  rw [h] at told
  simp only [t.member?_json, Option.some.injEq, Json.str.injEq] at told
  obtain ⟨hmessage, hfile, hpriority, haction⟩ := told
  have hname : Function.Injective fun s : Severity => Json.str s.name :=
    str_injective.comp Severity.name_injective
  obtain ⟨⟩ := r
  obtain ⟨⟩ := t
  rw [Recommendation.mk.injEq]
  exact ⟨hmessage.symm, (Option.map_injective str_injective hfile).symm,
    (Option.map_injective hname hpriority).symm,
    (Option.map_injective str_injective haction).symm⟩

theorem RouteSummary.json_injective : Function.Injective RouteSummary.json := by
  intro s t h
  simp only [RouteSummary.json, Json.obj.injEq, List.cons.injEq, Prod.mk.injEq, true_and, and_true,
    Json.str.injEq, Json.bool.injEq, Json.int.injEq, Json.arr.injEq] at h
  obtain ⟨⟩ := s
  obtain ⟨⟩ := t
  rw [RouteSummary.mk.injEq]
  exact ⟨h.1, h.2.1, h.2.2.1, h.2.2.2.1, h.2.2.2.2.1, h.2.2.2.2.2.1, h.2.2.2.2.2.2.1,
    h.2.2.2.2.2.2.2.1, map_str_injective h.2.2.2.2.2.2.2.2⟩

/-! ## Libraries -/

namespace Dependency

open Yaml (Value)

/-- The text of a value that is a text or null. -/
def text? : Value → Option String
  | .text s => some s
  | _ => none

/-- A list of texts, unless it is empty. -/
def givenTexts (vs : List Value) : Option (List String) :=
  if vs.isEmpty then none else some (vs.filterMap text?)

theorem filterMap_text? (ts : List String) : (ts.map Value.text).filterMap text? = ts := by
  rw [List.filterMap_map]
  exact List.filterMap_some

/-- Lists of texts are told apart, the empty one by being left out. -/
theorem eq_of_givenTexts_eq {vs ws : List Value} (hvs : ∃ ts : List String, vs = ts.map .text)
    (hws : ∃ us : List String, ws = us.map .text) (h : givenTexts vs = givenTexts ws) :
    vs = ws := by
  obtain ⟨ts, rfl⟩ := hvs
  obtain ⟨us, rfl⟩ := hws
  simp only [givenTexts, filterMap_text?] at h
  cases ts with
  | nil =>
    cases us with
    | nil => rfl
    | cons u us => cases h
  | cons t ts =>
    cases us with
    | nil => cases h
    | cons u us => rw [Option.some.inj h]

theorem eq_of_text?_eq {v w : Value} (hv : v = .null ∨ ∃ s, v = .text s)
    (hw : w = .null ∨ ∃ s, w = .text s) (h : text? v = text? w) : v = w := by
  rcases hv with rfl | ⟨s, rfl⟩ <;> rcases hw with rfl | ⟨t, rfl⟩
  · rfl
  · cases h
  · cases h
  · rw [Option.some.inj h]

theorem listMember_texts (key : String) (ts : List String) :
    listMember key (ts.map .text) =
      .ok (optionalMember key (fun ts : List String => .arr (ts.map .str))
        (givenTexts (ts.map .text))) := by
  rw [listMember, givenTexts, filterMap_text?, Value.jsonItems_text]
  split <;> rfl

/-- The members of a library whose fields are texts. -/
theorem Textual.members_eq {d : Dependency} (h : d.Textual) :
    d.members = .ok ([("version", .str d.version), ("critical", .bool d.critical)]
      ++ optionalMember "shellPatched" .bool d.shellPatched
      ++ optionalMember "patchedComponents" (fun ts : List String => .arr (ts.map .str))
        (givenTexts d.patchedComponents)
      ++ optionalMember "components" (fun ts : List String => .arr (ts.map .str))
        (givenTexts d.components)
      ++ optionalMember "issue" .str (text? d.issue)
      ++ [("detected", .bool d.detected)]) := by
  obtain ⟨ps, hps⟩ := h.patchedComponents
  obtain ⟨ts, hts⟩ := h.components
  rw [members, hps, hts, listMember_texts, listMember_texts]
  rcases h.issue with hissue | ⟨t, hissue⟩ <;> rw [hissue] <;> cases d.shellPatched <;> rfl

/-- What a library tells under which key. -/
theorem Textual.lookup_members {d : Dependency} (h : d.Textual) {ms : List (String × Json)}
    (hms : d.members = .ok ms) :
    ms.lookup "version" = some (.str d.version) ∧
    ms.lookup "critical" = some (.bool d.critical) ∧
    ms.lookup "detected" = some (.bool d.detected) ∧
    ms.lookup "shellPatched" = d.shellPatched.map .bool ∧
    ms.lookup "patchedComponents" =
      (givenTexts d.patchedComponents).map (fun ts => .arr (ts.map .str)) ∧
    ms.lookup "components" = (givenTexts d.components).map (fun ts => .arr (ts.map .str)) ∧
    ms.lookup "issue" = (text? d.issue).map .str := by
  rw [h.members_eq] at hms
  cases hms
  refine ⟨rfl, rfl, ?_, ?_, ?_, ?_, ?_⟩ <;>
    simp [List.lookup_cons, List.lookup_append, lookup_optionalMember]

/-- Libraries whose fields are texts are told by their names and their members. -/
theorem Textual.eq_of_members_eq {d e : Dependency} (hd : d.Textual) (he : e.Textual)
    {ms : List (String × Json)} (hname : d.name = e.name) (hdm : d.members = .ok ms)
    (hem : e.members = .ok ms) : d = e := by
  have told := hd.lookup_members hdm
  simp only [he.lookup_members hem, Option.some.injEq, Json.str.injEq, Json.bool.injEq] at told
  obtain ⟨hversion, hcritical, hdetected, hshell, hpatched, hcomponents, hissue⟩ := told
  have hlist : Function.Injective fun ts : List String => Json.arr (ts.map .str) :=
    fun _ _ h => map_str_injective (Json.arr.inj h)
  have hpatched := Option.map_injective hlist hpatched
  have hcomponents := Option.map_injective hlist hcomponents
  have hissue := Option.map_injective str_injective hissue
  have hbool : Function.Injective Json.bool := fun _ _ => Json.bool.inj
  obtain ⟨⟩ := d
  obtain ⟨⟩ := e
  rw [Dependency.mk.injEq]
  exact ⟨hname, hversion.symm, hcritical.symm, hdetected.symm,
    (Option.map_injective hbool hshell).symm,
    (eq_of_givenTexts_eq he.patchedComponents hd.patchedComponents hpatched).symm,
    (eq_of_givenTexts_eq he.components hd.components hcomponents).symm,
    (eq_of_text?_eq he.issue hd.issue hissue).symm⟩

/-! ### Libraries by name -/

theorem put_of_new {es : List (Value × Dependency)} {d : Dependency} (hd : d.Textual)
    (hes : ∀ e ∈ es, ∃ s, e.1 = .text s) (hnew : d.name ∉ es.map Prod.fst) :
    Value.put es d.name d = es ++ [(d.name, d)] := by
  obtain ⟨t, ht⟩ := hd.name
  induction es with
  | nil => rfl
  | cons e es ih =>
    obtain ⟨⟨s, hs⟩, hes⟩ := List.forall_mem_cons.1 hes
    rw [List.map_cons, List.mem_cons, not_or] at hnew
    have hkey : Value.sameKey e.1 d.name = false := by
      have hne : s ≠ t := by
        rintro rfl
        exact hnew.1 (ht.trans hs.symm)
      rw [hs, ht]
      simpa [Value.sameKey] using hne
    rw [Value.put, hkey, if_neg Bool.false_ne_true, ih hes hnew.2]
    rfl

/-- Libraries of different names are kept in their order. -/
theorem byName_of_nodup {ds : List Dependency} (h : ∀ d ∈ ds, d.Textual)
    (hnd : (ds.map Dependency.name).Nodup) : byName ds = ds.map fun d => (d.name, d) := by
  induction ds using List.reverseRecOn with
  | nil => rfl
  | append_singleton ds d ih =>
    rw [List.forall_mem_append, List.forall_mem_singleton] at h
    rw [List.map_append, List.nodup_append] at hnd
    obtain ⟨hnds, -, hdisjoint⟩ := hnd
    have hnames : (ds.map fun d => (d.name, d)).map Prod.fst = ds.map Dependency.name := by
      rw [List.map_map]
      rfl
    have hput : byName (ds ++ [d]) = Value.put (byName ds) d.name d := by
      rw [byName, List.foldl_append]
      rfl
    rw [hput, ih h.1 hnds, put_of_new h.2, List.map_append]
    · rfl
    · intro e he
      obtain ⟨c, hc, rfl⟩ := List.mem_map.1 he
      exact (h.1 c hc).name
    · rw [hnames]
      intro hmem
      exact hdisjoint _ hmem _ (List.mem_map_of_mem (List.mem_singleton_self d)) rfl

theorem Textual.exists_of_allMembers_cons {d : Dependency} (hd : d.Textual)
    {rest : List (Value × Dependency)} {ms : List (String × Json)}
    (h : allMembers ((d.name, d) :: rest) = .ok ms) :
    ∃ s fields tail, d.name = .text s ∧ d.members = .ok fields ∧ allMembers rest = .ok tail ∧
      ms = (s, .obj fields) :: tail := by
  obtain ⟨s, hs⟩ := hd.name
  obtain ⟨fields, hfields, -⟩ := hd.exists_members
  have hkey : (Value.text s).keyText = .ok s := rfl
  simp only [allMembers, hs, hkey, hfields] at h
  cases htail : allMembers rest with
  | error f =>
    rw [htail] at h
    cases h
  | ok tail =>
    rw [htail] at h
    cases h
    exact ⟨s, fields, tail, hs, hfields, rfl, rfl⟩

/-- The object of libraries tells each of them, and their order. -/
theorem eq_of_allMembers_eq {ds es : List Dependency} (hds : ∀ d ∈ ds, d.Textual)
    (hes : ∀ e ∈ es, e.Textual) {ms : List (String × Json)}
    (hdm : allMembers (ds.map fun d => (d.name, d)) = .ok ms)
    (hem : allMembers (es.map fun e => (e.name, e)) = .ok ms) : ds = es := by
  induction ds generalizing es ms with
  | nil =>
    cases es with
    | nil => rfl
    | cons e es =>
      obtain ⟨_, _, _, _, _, _, hms⟩ :=
        (hes e List.mem_cons_self).exists_of_allMembers_cons hem
      rw [hms] at hdm
      cases hdm
  | cons d ds ih =>
    obtain ⟨hd, hds⟩ := List.forall_mem_cons.1 hds
    obtain ⟨s, fields, tail, hname, hfields, htail, rfl⟩ := hd.exists_of_allMembers_cons hdm
    cases es with
    | nil => cases hem
    | cons e es =>
      obtain ⟨he, hes⟩ := List.forall_mem_cons.1 hes
      obtain ⟨s', fields', tail', hname', hfields', htail', hms⟩ :=
        he.exists_of_allMembers_cons hem
      cases hms
      rw [hd.eq_of_members_eq he (hname.trans hname'.symm) hfields hfields',
        ih hds hes htail htail']

/-- **Libraries of different names are told as they are.** -/
theorem eq_of_jsonByName_eq {ds es : List Dependency} (hds : ∀ d ∈ ds, d.Textual)
    (hes : ∀ e ∈ es, e.Textual) (hdn : (ds.map Dependency.name).Nodup)
    (hen : (es.map Dependency.name).Nodup) {j : Json} (hd : jsonByName ds = .ok j)
    (he : jsonByName es = .ok j) : ds = es := by
  have hmembers : ∀ {cs : List Dependency}, (∀ c ∈ cs, c.Textual) →
      (cs.map Dependency.name).Nodup → jsonByName cs = .ok j →
      ∃ ms, allMembers (cs.map fun c => (c.name, c)) = .ok ms ∧ j = .obj ms := by
    intro cs hcs hcn hc
    rw [jsonByName, byName_of_nodup hcs hcn] at hc
    split at hc
    · cases hc
    · cases hms : allMembers (cs.map fun c => (c.name, c)) with
      | error f =>
        rw [hms] at hc
        cases hc
      | ok ms =>
        rw [hms] at hc
        exact ⟨ms, rfl, (Except.ok.inj hc).symm⟩
  obtain ⟨ms, hdm, rfl⟩ := hmembers hds hdn hd
  obtain ⟨ns, hem, hj⟩ := hmembers hes hen he
  cases hj
  exact eq_of_allMembers_eq hds hes hdm hem

end Dependency

/-! ## Reports -/

namespace Analysis

/-- What an analysis tells under which key of its report. -/
structure Told (a : Analysis) (report : Json) : Prop where
  summary : report.member? "summary" = some a.summary
  issues : report.member? "issues" = some a.issuesJson
  recommendations : report.member? "recommendations" = some a.recommendationsJson
  timestamp : report.member? "timestamp" = some (.str a.timestamp)
  basePath : report.member? "basePath" = some (.str a.basePath)
  routeConfigs : report.member? "routeConfigs" = if a.extended then some a.summariesJson else none
  dependencies : a.extended = true → ∃ ds, Dependency.jsonByName a.dependencies = .ok ds ∧
    report.member? "dependencies" = some ds

theorem Textual.told {a : Analysis} (h : a.Textual) {report : Json} (hreport : a.json = .ok report) :
    a.Told report := by
  cases hx : a.extended with
  | false =>
    rw [json_of_plain hx] at hreport
    cases hreport
    exact ⟨rfl, rfl, rfl, rfl, rfl, by rw [hx]; rfl, by rw [hx]; nofun⟩
  | true =>
    obtain ⟨ds, hds, -⟩ := Dependency.exists_jsonByName h
    rw [json_of_extended hx hds] at hreport
    cases hreport
    exact ⟨rfl, rfl, rfl, rfl, rfl, by rw [hx]; rfl, fun _ => ⟨ds, hds, rfl⟩⟩

/-- The analyses agree on all that a report tells.  The number of files that were found is not in
it, nor are the files without an issue, unless there is a summary of them. -/
structure SameReport (a b : Analysis) : Prop where
  extended : a.extended = b.extended
  basePath : a.basePath = b.basePath
  timestamp : a.timestamp = b.timestamp
  analyzed : a.stats.analyzed = b.stats.analyzed
  withIssues : a.stats.withIssues = b.stats.withIssues
  issues : a.issues = b.issues
  recommendations : a.recommendations = b.recommendations
  summaries : a.extended = true → a.summaries = b.summaries
  /-- Of libraries with one name the last one hides the others. -/
  dependencies : a.extended = true → (a.dependencies.map Dependency.name).Nodup →
    (b.dependencies.map Dependency.name).Nodup → a.dependencies = b.dependencies

/-- Numbers of an analysis that its summary tells. -/
theorem stats_of_summary_eq {a b : Analysis} (h : a.summary = b.summary) :
    a.stats.analyzed = b.stats.analyzed ∧ a.stats.withIssues = b.stats.withIssues := by
  simp only [summary, Json.obj.injEq, List.cons.injEq, Prod.mk.injEq, Json.int.injEq,
    true_and] at h
  exact ⟨h.1, h.2.1⟩

/-- **What is told of two analyses by one report** is the same. -/
theorem Told.sameReport {a b : Analysis} {report : Json} (ha : a.Told report) (hb : b.Told report)
    (hat : a.Textual) (hbt : b.Textual) : a.SameReport b := by
  have told : ∀ {key : String} {j k : Json}, report.member? key = some j →
      report.member? key = some k → j = k := fun hj hk => Option.some.inj (hj.symm.trans hk)
  have hconfigs := ha.routeConfigs.symm.trans hb.routeConfigs
  have hextended : a.extended = b.extended := by
    cases hx : a.extended <;> cases hy : b.extended <;> simp [hx, hy] at hconfigs <;> rfl
  obtain ⟨hanalyzed, hwithIssues⟩ := stats_of_summary_eq (told ha.summary hb.summary)
  refine ⟨hextended, Json.str.inj (told ha.basePath hb.basePath),
    Json.str.inj (told ha.timestamp hb.timestamp), hanalyzed, hwithIssues, ?_, ?_, fun hx => ?_,
    fun hx hand hbnd => ?_⟩
  · exact List.map_injective_iff.2 Issue.json_injective
      (Json.arr.inj (told ha.issues hb.issues))
  · exact List.map_injective_iff.2 Recommendation.json_injective
      (Json.arr.inj (told ha.recommendations hb.recommendations))
  · rw [hx, ← hextended, hx, if_pos rfl, if_pos rfl] at hconfigs
    exact List.map_injective_iff.2 RouteSummary.json_injective
      (Json.arr.inj (Option.some.inj hconfigs))
  · obtain ⟨ds, hds, hdm⟩ := ha.dependencies hx
    obtain ⟨es, hes, hem⟩ := hb.dependencies (hextended ▸ hx)
    cases told hdm hem
    exact Dependency.eq_of_jsonByName_eq hat hbt hand hbnd hds hes

end Analysis

/-- **A report loses nothing of what it tells.**  Analyses whose libraries are described by texts
and whose reports are the same text agree on everything that is in a report. -/
theorem jsonText_lossless {a b : Analysis} (ha : a.Textual) (hb : b.Textual)
    (h : a.jsonText = b.jsonText) : a.SameReport b := by
  obtain ⟨ra, _, hra, _, hpa, _⟩ := Analysis.exists_reports ha
  obtain ⟨rb, _, hrb, _, hpb, _⟩ := Analysis.exists_reports hb
  have hpretty : ra.pretty = rb.pretty := by
    rw [Analysis.jsonText, Analysis.jsonText, hra, hrb] at h
    exact Except.ok.inj h
  cases hpa.eq_of_pretty_eq hpb hpretty
  exact (ha.told hra).sameReport (hb.told hrb) ha hb

/-- The hostile analysis of a project in which a file was found that could not be read. -/
def unreadAnalysis : Analysis := { hostileAnalysis with stats := { total := 1 } }

/-- The two have the same report, so they agree on all that it tells, while one of them has found a
file more. -/
theorem jsonText_lossless_unreadAnalysis :
    hostileAnalysis.Textual ∧ unreadAnalysis.Textual ∧
      hostileAnalysis.jsonText = unreadAnalysis.jsonText ∧
      hostileAnalysis.SameReport unreadAnalysis ∧
      hostileAnalysis.stats ≠ unreadAnalysis.stats :=
  have h : hostileAnalysis.Textual := fun _ hd => Table.textual_bundled hd
  have h' : unreadAnalysis.Textual := fun _ hd => Table.textual_bundled hd
  ⟨h, h', rfl, jsonText_lossless h h' rfl, by decide⟩

end RouteAudit
