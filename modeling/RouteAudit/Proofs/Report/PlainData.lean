import RouteAudit.Analysis
import RouteAudit.Proofs.Json.RoundTrip

/-!
# Reports as plain data

The reports of an analysis are built by adding members one after the other, some of them only if
there is something to say.  Here is why no object of a report has a member twice: the keys are
taken, in order, from a list without repetitions, or they are the names of different kinds, or they
come out of a map.

## What is here

* `Json.Fields` — members with plain values, under keys taken in order from a list;
* `Dependency.Textual`, `Analysis.Textual` — libraries whose fields are texts, as in every analysis
  that was made with the table that is bundled;
* `Dependency.exists_jsonByName` — the object of such libraries;
* `Analysis.json_of_plain`, `Analysis.json_of_extended` — the report of an analysis, member by
  member.
-/

set_option autoImplicit false

namespace RouteAudit

/-! ## Objects with given keys -/

namespace Json

/-- Members whose keys are taken in order from a list, and whose values are plain. -/
structure Fields (keys : List String) (ms : List (String × Json)) : Prop where
  keys : (ms.map Prod.fst).Sublist keys
  plain : ∀ m ∈ ms, m.2.Plain

namespace Fields

theorem append {ks ls : List String} {ms ns : List (String × Json)} (hm : Fields ks ms)
    (hn : Fields ls ns) : Fields (ks ++ ls) (ms ++ ns) := by
  refine ⟨?_, fun m h => ?_⟩
  · rw [List.map_append]
    exact hm.keys.append hn.keys
  · rcases List.mem_append.1 h with h | h
    · exact hm.plain m h
    · exact hn.plain m h

/-- Members that are always there. -/
theorem of_plain (ms : List (String × Json)) (h : ∀ m ∈ ms, m.2.Plain) :
    Fields (ms.map Prod.fst) ms :=
  ⟨List.Sublist.refl _, h⟩

theorem singleton (key : String) {v : Json} (hv : v.Plain) : Fields [key] [(key, v)] :=
  of_plain [(key, v)] fun _ hm => (List.mem_singleton.1 hm) ▸ hv

theorem nil (keys : List String) : Fields keys [] :=
  ⟨List.nil_sublist keys, fun _ hm => absurd hm List.not_mem_nil⟩

/-- A member that is left out when there is nothing to say. -/
theorem optionalMember {α : Type} (key : String) {f : α → Json} (hf : ∀ a, (f a).Plain)
    (o : Option α) : Fields [key] (optionalMember key f o) := by
  cases o with
  | none => exact nil [key]
  | some a => exact singleton key (hf a)

/-- An object whose keys are taken from a list without repetitions. -/
theorem obj {keys : List String} {ms : List (String × Json)} (h : Fields keys ms)
    (hkeys : keys.Nodup) : Plain (.obj ms) :=
  .obj (h.keys.nodup hkeys) h.plain

end Fields

/-- An array of plain values. -/
theorem Plain.map {α : Type} {f : α → Json} (hf : ∀ a, (f a).Plain) (xs : List α) :
    Plain (.arr (xs.map f)) := by
  refine .arr fun v hv => ?_
  obtain ⟨a, -, rfl⟩ := List.mem_map.1 hv
  exact hf a

end Json

open Json (Plain Fields)

/-! ## Findings -/

theorem Issue.plain_json (i : Issue) : i.json.Plain := by
  have hfixed := Fields.of_plain [("type", .str i.kind.name), ("severity", .str i.severity.name),
    ("file", .str i.file), ("message", .str i.message)] (by simp [Plain.str])
  exact (((hfixed.append (.optionalMember "pattern" .str i.pattern)).append
    (.optionalMember "count" .int i.count)).append
    (.optionalMember "fix" .str i.fix)).obj (by simp)

theorem Recommendation.plain_json (r : Recommendation) : r.json.Plain :=
  ((((Fields.optionalMember "file" .str r.file).append
    (.optionalMember "priority" (fun s : Severity => .str s.name) r.priority)).append
    (.singleton "message" (.str r.message))).append
    (.optionalMember "action" .str r.action)).obj (by simp)

theorem RouteSummary.plain_json (s : RouteSummary) : s.json.Plain := by
  refine .obj (by simp) ?_
  simp only [List.forall_mem_cons, List.not_mem_nil, false_implies, implies_true, and_true]
  exact ⟨.str _, .bool _, .bool _, .bool _, .bool _, .bool _, .bool _, .int _, Plain.map .str _⟩

/-! ## Numbers -/

section
variable {α : Type} [DecidableEq α]

theorem fst_of_mem_bump {x : α} {t : List (α × Nat)} {e : α × Nat} (h : e ∈ bump x t) :
    e.1 = x ∨ e.1 ∈ t.map Prod.fst := by
  induction t with
  | nil => exact .inl (by rw [List.mem_singleton.1 h])
  | cons d t ih =>
    rw [bump] at h
    split at h
    · rename_i hd
      rcases List.mem_cons.1 h with rfl | h
      · exact .inl hd
      · exact .inr (List.mem_map_of_mem (List.mem_cons_of_mem d h))
    · rcases List.mem_cons.1 h with rfl | h
      · exact .inr List.mem_cons_self
      · exact (ih h).imp_right (List.mem_cons_of_mem _)

theorem nodup_keys_bump (x : α) {t : List (α × Nat)} (h : (t.map Prod.fst).Nodup) :
    ((bump x t).map Prod.fst).Nodup := by
  induction t with
  | nil => simp [bump]
  | cons d t ih =>
    obtain ⟨hnew, hnd⟩ := List.nodup_cons.1 h
    rw [bump]
    split
    · exact List.nodup_cons.2 ⟨hnew, hnd⟩
    · rename_i hd
      refine List.nodup_cons.2 ⟨fun hmem => ?_, ih hnd⟩
      obtain ⟨e, he, heq⟩ := List.mem_map.1 hmem
      rcases fst_of_mem_bump he with hx | hx
      · exact hd (heq ▸ hx)
      · exact hnew (heq ▸ hx)

/-- Nothing is counted under two entries. -/
theorem nodup_keys_tally (xs : List α) : ((tally xs).map Prod.fst).Nodup :=
  List.foldlRecOn (motive := fun t : List (α × Nat) => (t.map Prod.fst).Nodup) xs _ List.nodup_nil
    fun _ ht x _ => nodup_keys_bump x ht

end

theorem IssueKind.name_injective {k l : IssueKind} (h : k.name = l.name) : k = l := by
  have hk := IssueKind.ofName?_name k
  rw [h, IssueKind.ofName?_name] at hk
  exact (Option.some.inj hk).symm

namespace Analysis

theorem plain_summary (a : Analysis) : a.summary.Plain := by
  have hkinds : Plain (.obj (a.byKind.map fun e => (e.1.name, .int e.2))) := by
    refine .obj ?_ fun m hm => ?_
    · have hnd := nodup_keys_tally (a.issues.map Issue.kind)
      rw [List.map_map]
      rw [List.Nodup, List.pairwise_map] at hnd ⊢
      exact hnd.imp fun hne heq => hne (IssueKind.name_injective heq)
    · obtain ⟨e, -, rfl⟩ := List.mem_map.1 hm
      exact .int _
  have hseverities : Plain (.obj (a.bySeverity.map fun e => (e.1.name, .int e.2))) := by
    refine .obj (by simp [bySeverity, Severity.all, Severity.name]) fun m hm => ?_
    obtain ⟨e, -, rfl⟩ := List.mem_map.1 hm
    exact .int _
  refine .obj (by simp) ?_
  simp only [List.forall_mem_cons, List.not_mem_nil, false_implies, implies_true, and_true]
  exact ⟨.int _, .int _, .int _, hkinds, hseverities⟩

end Analysis

/-! ## Libraries -/

open Yaml (Value)

/-- A library whose fields are texts. -/
structure Dependency.Textual (d : Dependency) : Prop where
  name : ∃ s, d.name = .text s
  /-- What is known to go wrong, if anything is. -/
  issue : d.issue = .null ∨ ∃ s, d.issue = .text s
  components : ∃ ts : List String, d.components = ts.map .text
  patchedComponents : ∃ ts : List String, d.patchedComponents = ts.map .text

/-- An analysis with libraries whose fields are texts. -/
def Analysis.Textual (a : Analysis) : Prop := ∀ d ∈ a.dependencies, d.Textual

/-- The libraries of the table that is bundled are described by texts. -/
theorem Table.textual_bundled {summaries : List RouteSummary} {d : Dependency}
    (h : d ∈ bundled.detect summaries) : d.Textual := by
  have hentries : ∀ e ∈ bundled, e.dependency.Textual := by
    rw [bundled]
    simp only [List.forall_mem_cons, List.not_mem_nil, false_implies, implies_true, and_true]
    exact ⟨⟨⟨_, rfl⟩, .inl rfl, ⟨[], rfl⟩, ⟨["Switch -> ShellSwitch"], rfl⟩⟩,
      ⟨⟨_, rfl⟩, .inl rfl, ⟨_, rfl⟩, ⟨[], rfl⟩⟩, ⟨⟨_, rfl⟩, .inr ⟨_, rfl⟩, ⟨[], rfl⟩, ⟨[], rfl⟩⟩,
      ⟨⟨_, rfl⟩, .inl rfl, ⟨_, rfl⟩, ⟨[], rfl⟩⟩⟩
  obtain ⟨e, he, rfl⟩ := List.mem_map.1 h
  obtain ⟨hname, hissue, hcomponents, hpatched⟩ := hentries e he
  exact ⟨hname, hissue, hcomponents, hpatched⟩

namespace Dependency

theorem exists_listMember (key : String) (ts : List String) :
    ∃ ms, listMember key (ts.map .text) = .ok ms ∧ Fields [key] ms := by
  rw [listMember]
  split
  · exact ⟨[], rfl, .nil [key]⟩
  · rw [Value.jsonItems_text]
    exact ⟨_, rfl, .singleton key (Plain.map .str ts)⟩

theorem fields_shellPatched (patched : Option Bool) :
    Fields ["shellPatched"] (match patched with
      | some b => [("shellPatched", Json.bool b)]
      | none => []) := by
  cases patched with
  | none => exact .nil _
  | some b => exact .singleton "shellPatched" (.bool b)

/-- A library whose fields are texts has a plain object. -/
theorem Textual.exists_members {d : Dependency} (h : d.Textual) :
    ∃ ms, d.members = .ok ms ∧ Plain (.obj ms) := by
  obtain ⟨ps, hps⟩ := h.patchedComponents
  obtain ⟨ts, hts⟩ := h.components
  obtain ⟨patched, hpatched, hpf⟩ := exists_listMember "patchedComponents" ps
  obtain ⟨components, hcomponents, hcf⟩ := exists_listMember "components" ts
  have hshell := fields_shellPatched d.shellPatched
  have hfields := (((Fields.of_plain [("version", .str d.version), ("critical", .bool d.critical)]
    (by simp [Plain.str, Plain.bool])).append hshell).append hpf).append hcf
  have hdetected := Fields.singleton "detected" (.bool d.detected)
  rw [members, hps, hts, hpatched, hcomponents]
  rcases h.issue with hnull | ⟨t, ht⟩
  · rw [hnull]
    exact ⟨_, rfl, ((hfields.append (.nil ["issue"])).append hdetected).obj (by simp)⟩
  · rw [ht]
    exact ⟨_, rfl, ((hfields.append (.singleton "issue" (.str t))).append hdetected).obj (by simp)⟩

/-- Libraries under different names, all of them texts. -/
structure Listed (es : List (Value × Dependency)) : Prop where
  name : ∀ e ∈ es, ∃ s, e.1 = .text s
  textual : ∀ e ∈ es, e.2.Textual
  nodup : (es.map Prod.fst).Nodup

theorem mem_put {es : List (Value × Dependency)} {k : Value} {d : Dependency}
    {e : Value × Dependency} (h : e ∈ Value.put es k d) :
    (e.1 = k ∨ e.1 ∈ es.map Prod.fst) ∧ (e.2 = d ∨ e ∈ es) := by
  induction es with
  | nil =>
    rw [List.mem_singleton.1 h]
    exact ⟨.inl rfl, .inl rfl⟩
  | cons c es ih =>
    rw [Value.put] at h
    split at h
    · rcases List.mem_cons.1 h with rfl | h
      · exact ⟨.inr List.mem_cons_self, .inl rfl⟩
      · exact ⟨.inr (List.mem_map_of_mem (List.mem_cons_of_mem c h)),
          .inr (List.mem_cons_of_mem c h)⟩
    · rcases List.mem_cons.1 h with rfl | h
      · exact ⟨.inr List.mem_cons_self, .inr List.mem_cons_self⟩
      · exact ⟨(ih h).1.imp_right (List.mem_cons_of_mem _),
          (ih h).2.imp_right (List.mem_cons_of_mem c)⟩

/-- One more library is listed, in the place of another one of its name. -/
theorem Listed.put {es : List (Value × Dependency)} (h : Listed es) {d : Dependency}
    (hd : d.Textual) : Listed (Value.put es d.name d) := by
  obtain ⟨t, ht⟩ := hd.name
  refine ⟨fun e he => ?_, fun e he => ?_, ?_⟩
  · rcases (mem_put he).1 with hk | hk
    · exact ⟨t, hk.trans ht⟩
    · obtain ⟨c, hc, hce⟩ := List.mem_map.1 hk
      exact hce ▸ h.name c hc
  · rcases (mem_put he).2 with rfl | he
    · exact hd
    · exact h.textual e he
  · obtain ⟨hname, -, hnd⟩ := h
    rw [ht]
    induction es with
    | nil => simp [Value.put]
    | cons c es ih =>
      obtain ⟨k, e⟩ := c
      obtain ⟨⟨s, rfl⟩, hnames⟩ := List.forall_mem_cons.1 hname
      obtain ⟨hnew, hnd⟩ := List.nodup_cons.1 hnd
      rw [Value.put]
      split
      · exact List.nodup_cons.2 ⟨hnew, hnd⟩
      · rename_i hne
        refine List.nodup_cons.2 ⟨fun hmem => ?_, ih hnames hnd⟩
        obtain ⟨c, hc, hck⟩ := List.mem_map.1 hmem
        rcases (mem_put hc).1 with hk | hk
        · exact hne (by simpa [Value.sameKey] using hck.symm.trans hk)
        · exact hnew (hck ▸ hk)

theorem listed_byName {ds : List Dependency} (h : ∀ d ∈ ds, d.Textual) : Listed (byName ds) :=
  List.foldlRecOn (motive := Listed) ds _ ⟨by simp, by simp, List.nodup_nil⟩
    fun _ hes d hd => hes.put (h d hd)

theorem exists_allMembers {es : List (Value × Dependency)} (hname : ∀ e ∈ es, ∃ s, e.1 = .text s)
    (htextual : ∀ e ∈ es, e.2.Textual) :
    ∃ ms, allMembers es = .ok ms ∧ es.map Prod.fst = (ms.map Prod.fst).map .text ∧
      ∀ m ∈ ms, m.2.Plain := by
  induction es with
  | nil => exact ⟨[], rfl, rfl, fun _ hm => absurd hm List.not_mem_nil⟩
  | cons e es ih =>
    obtain ⟨k, d⟩ := e
    obtain ⟨⟨s, rfl⟩, hnames⟩ := List.forall_mem_cons.1 hname
    obtain ⟨hd, htextual⟩ := List.forall_mem_cons.1 htextual
    obtain ⟨ms, hms, hplain⟩ := hd.exists_members
    obtain ⟨rest, hrest, hkeys, hall⟩ := ih hnames htextual
    refine ⟨(s, .obj ms) :: rest, ?_, ?_, List.forall_mem_cons.2 ⟨hplain, hall⟩⟩
    · have hkey : (Value.text s).keyText = .ok s := rfl
      simp only [allMembers, hkey, hms, hrest, Except.map]
    · rw [List.map_cons, hkeys]
      rfl

/-- **Libraries have a plain object**, if their fields are texts. -/
theorem exists_jsonByName {ds : List Dependency} (h : ∀ d ∈ ds, d.Textual) :
    ∃ j, jsonByName ds = .ok j ∧ j.Plain := by
  obtain ⟨hname, htextual, hnd⟩ := listed_byName h
  obtain ⟨ms, hms, hkeys, hplain⟩ := exists_allMembers hname htextual
  have hfault : ds.findSome? (fun d => d.name.keyFault?) = none := by
    rw [List.findSome?_eq_none_iff]
    intro d hd
    obtain ⟨s, hs⟩ := (h d hd).name
    rw [hs]
    rfl
  rw [hkeys, List.Nodup, List.pairwise_map] at hnd
  refine ⟨.obj ms, ?_, .obj (hnd.imp fun hne heq => hne (congrArg Value.text heq)) hplain⟩
  rw [jsonByName, hfault]
  simp only [hms, Except.map]

end Dependency

namespace Analysis

theorem plain_issuesJson (a : Analysis) : a.issuesJson.Plain :=
  Plain.map Issue.plain_json a.issues

theorem plain_recommendationsJson (a : Analysis) : a.recommendationsJson.Plain :=
  Plain.map Recommendation.plain_json a.recommendations

theorem plain_summariesJson (a : Analysis) : a.summariesJson.Plain :=
  Plain.map RouteSummary.plain_json a.summaries

/-- **A report as data**, of an analysis that is not extended. -/
theorem json_of_plain {a : Analysis} (hx : a.extended = false) :
    a.json = .ok (.obj [("summary", a.summary), ("issues", a.issuesJson),
      ("recommendations", a.recommendationsJson), ("timestamp", .str a.timestamp),
      ("basePath", .str a.basePath)]) := by
  rw [json, hx]
  rfl

/-- **A report as data**, of an extended analysis: the libraries and the files come in front of the
time. -/
theorem json_of_extended {a : Analysis} (hx : a.extended = true) {ds : Json}
    (hds : Dependency.jsonByName a.dependencies = .ok ds) :
    a.json = .ok (.obj [("summary", a.summary), ("issues", a.issuesJson),
      ("recommendations", a.recommendationsJson), ("dependencies", ds),
      ("routeConfigs", a.summariesJson), ("timestamp", .str a.timestamp),
      ("basePath", .str a.basePath)]) := by
  rw [json, hx, if_pos rfl, hds]
  rfl

end Analysis
end RouteAudit
