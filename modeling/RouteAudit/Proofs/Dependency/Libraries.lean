import RouteAudit.Proofs.Dependency.Reading
import RouteAudit.Proofs.Report.Lossless
import RouteAudit.Proofs.Report.Tallies

/-!
# From a table to a report

The libraries of a table go through three hands: the table is read, each library is marked when some
route file has its property, and the report lists the libraries by name.  Nothing is lost on the way
but what a name can hold only once: there is one line for each entry of the table and one library
for each line, and of the libraries of one name the report has the last, in the place of the first.

A name is any value, and not every value can be a key.  For names that are texts, with or without
halves of pairs in them, the report is a table by name like the tables of counts, and `foldl_alter`
says what is in it.

## What is here

* `Value.ofPoints_injective`, `Value.sameKey_ofPoints` — texts as keys;
* `Dependency.ByName`, `Dependency.byName_ofPoints` — the libraries by name;
* `Dependency.Tells` — what a report has to do with them;
* `Table.load_faithful` — all three steps.
-/

set_option autoImplicit false

namespace RouteAudit

open Yaml (Value ReportFault)

/-! ## Texts as keys -/

namespace Yaml.Value

/-- The code points of a text; nothing else has any. -/
def points : Value → List CodePoint
  | .text s => CodePoint.ofChars s.toList
  | .halves ps => ps
  | _ => []

/-- A text is either all characters, or there are halves in it. -/
theorem ofPoints_cases (ps : List CodePoint) :
    (∃ cs, ps = CodePoint.ofChars cs ∧ ofPoints ps = .text (String.ofList cs)) ∨
      ofPoints ps = .halves ps := by
  rw [ofPoints]
  split
  · rename_i cs hcs
    exact .inl ⟨cs, CodePoint.eq_ofChars_of_chars? hcs, rfl⟩
  · exact .inr rfl

@[simp] theorem points_ofPoints (ps : List CodePoint) : (ofPoints ps).points = ps := by
  rcases ofPoints_cases ps with ⟨cs, hps, h⟩ | h
  · rw [h, points, String.toList_ofList, hps]
  · rw [h, points]

theorem ofPoints_injective : Function.Injective ofPoints :=
  Function.LeftInverse.injective points_ofPoints

/-- Texts are the same key when they are the same text. -/
theorem sameKey_ofPoints (ps qs : List CodePoint) :
    sameKey (ofPoints ps) (ofPoints qs) = true ↔ ps = qs := by
  rw [← ofPoints_injective.eq_iff, ofPoints, ofPoints]
  split <;> split <;> simp [sameKey, asInt?]

theorem keyText_ofPoints (ps : List CodePoint) :
    (ofPoints ps).keyText = .ok (String.ofList (CodePoint.paired ps)) := by
  rcases ofPoints_cases ps with ⟨cs, hps, h⟩ | h
  · rw [h, hps, CodePoint.paired_ofChars]
    rfl
  · rw [h]
    rfl

theorem keyFault?_ofPoints (ps : List CodePoint) : (ofPoints ps).keyFault? = none := by
  rcases ofPoints_cases ps with ⟨cs, -, h⟩ | h <;> rw [h] <;> rfl

/-- Putting in an entry under a text is altering the row of the text. -/
theorem put_ofPoints {α : Type} (fresh : α) (rows : List (List CodePoint × α))
    (ps : List CodePoint) (a : α) :
    put (rows.map fun r => (ofPoints r.1, r.2)) (ofPoints ps) a =
      (alter fresh ps (fun _ => a) rows).map fun r => (ofPoints r.1, r.2) := by
  induction rows with
  | nil => rfl
  | cons r rows ih =>
    simp only [List.map_cons, put, sameKey_ofPoints, alter, ih]
    split <;> rfl

end Yaml.Value

/-! ## Libraries by name -/

/-- The row of a key, when each member replaces the one before, has the last member of the key. -/
theorem exists_last_rowOf {κ ι : Type} [DecidableEq κ] (fresh : ι) (key : ι → κ) {xs : List ι}
    {k : κ} (h : k ∈ xs.map key) :
    ∃ front back, xs = front ++ rowOf fresh key (fun x _ => x) xs k :: back ∧
      key (rowOf fresh key (fun x _ => x) xs k) = k ∧ ∀ x ∈ back, key x ≠ k := by
  induction xs using List.reverseRecOn with
  | nil => cases h
  | append_singleton xs x ih =>
    rw [rowOf_append_singleton]
    split
    · rename_i hx
      exact ⟨xs, [], rfl, hx, by simp⟩
    · rename_i hx
      have hmem : k ∈ xs.map key := by
        rw [List.map_append, List.mem_append] at h
        exact h.resolve_right fun hk => hx (List.mem_singleton.1 hk).symm
      obtain ⟨front, back, hxs, hkey, hback⟩ := ih hmem
      refine ⟨front, back ++ [x], ?_, hkey, ?_⟩
      · rw [← List.cons_append, ← List.append_assoc, ← hxs]
      · exact List.forall_mem_append.2 ⟨hback, by simpa using hx⟩

namespace Dependency

/-- **Libraries by name**, for names that are texts: each name has a row, in the order in which the
names first come up, and in the row of a name is the last library of that name. -/
structure ByName (names : List (List CodePoint)) (ds : List Dependency)
    (rows : List (Value × Dependency)) : Prop where
  keys : rows.map Prod.fst = names.eraseDups.map Value.ofPoints
  nodup : (rows.map Prod.fst).Nodup
  last : ∀ row ∈ rows, ∃ front back, ds = front ++ row.2 :: back ∧ row.2.name = row.1 ∧
    ∀ d ∈ back, d.name ≠ row.1

/-- What a row has before a library is put into it. -/
def unnamed : Dependency := { name := .null, version := "" }

/-- The last library of a name. -/
def lastOf (ds : List Dependency) (k : List CodePoint) : Dependency :=
  rowOf unnamed (·.name.points) (fun d _ => d) ds k

section
variable {names : List (List CodePoint)} {ds : List Dependency}

theorem name_eq (h : ds.map Dependency.name = names.map Value.ofPoints) {d : Dependency}
    (hd : d ∈ ds) : d.name = Value.ofPoints d.name.points := by
  have hmem : d.name ∈ names.map Value.ofPoints := h ▸ List.mem_map_of_mem hd
  obtain ⟨ps, -, hps⟩ := List.mem_map.1 hmem
  rw [← hps, Value.points_ofPoints]

theorem map_points_eq (h : ds.map Dependency.name = names.map Value.ofPoints) :
    ds.map (·.name.points) = names := by
  have hpoints := congrArg (List.map Value.points) h
  simpa [Function.comp_def] using hpoints

/-- Libraries are put in one after the other as rows of a table are altered. -/
theorem foldl_put (hds : ∀ d ∈ ds, d.name = Value.ofPoints d.name.points)
    (rows : List (List CodePoint × Dependency)) :
    ds.foldl (fun acc d => Value.put acc d.name d) (rows.map fun r => (Value.ofPoints r.1, r.2)) =
      (ds.foldl (fun t d => alter unnamed d.name.points (fun _ => d) t) rows).map
        fun r => (Value.ofPoints r.1, r.2) := by
  induction ds generalizing rows with
  | nil => rfl
  | cons d ds ih =>
    obtain ⟨hd, hds⟩ := List.forall_mem_cons.1 hds
    rw [List.foldl_cons, List.foldl_cons, ← ih hds, ← Value.put_ofPoints, ← hd]

theorem byName_eq (h : ds.map Dependency.name = names.map Value.ofPoints) :
    byName ds = names.eraseDups.map fun k => (Value.ofPoints k, lastOf ds k) := by
  have htable := foldl_alter unnamed (·.name.points) (fun (d : Dependency) _ => d) [] ds
  simp only [List.eraseDups_nil, List.map_nil, List.nil_append, map_points_eq h] at htable
  have hrows := foldl_put (fun d hd => name_eq h hd) []
  rw [List.map_nil] at hrows
  -- the names are compared as lists here, and as members of a type with decidable equality there
  rw [byName, hrows, htable, List.map_map,
    lawful_beq_subsingleton List.instBEq instBEqOfDecidableEq]
  rfl

/-- **Libraries whose names are texts** are listed by name. -/
theorem byName_ofPoints (h : ds.map Dependency.name = names.map Value.ofPoints) :
    ByName names ds (byName ds) := by
  have hkeys : (byName ds).map Prod.fst = names.eraseDups.map Value.ofPoints := by
    rw [byName_eq h, List.map_map]
    rfl
  refine ⟨hkeys, ?_, fun row hrow => ?_⟩
  · rw [hkeys, lawful_beq_subsingleton List.instBEq instBEqOfDecidableEq]
    exact (nodup_eraseDups names).map Value.ofPoints_injective
  · rw [byName_eq h] at hrow
    obtain ⟨k, hk, rfl⟩ := List.mem_map.1 hrow
    rw [List.mem_eraseDups, ← map_points_eq h] at hk
    obtain ⟨front, back, hds, hkey, hback⟩ := exists_last_rowOf unnamed (·.name.points) hk
    refine ⟨front, back, hds, ?_, fun d hd hdk => hback d hd ?_⟩
    · have hmem : lastOf ds k ∈ front ++ lastOf ds k :: back :=
        List.mem_append_right front List.mem_cons_self
      rw [lastOf, ← hds] at hmem
      exact (name_eq h hmem).trans (congrArg Value.ofPoints hkey)
    · rw [hdk, Value.points_ofPoints]

end

/-! ## Libraries in a report -/

/-- The member of a report for a library under its name. -/
def IsMember (row : Value × Dependency) (m : String × Json) : Prop :=
  row.1.keyText = .ok m.1 ∧ ∃ fields, row.2.members = .ok fields ∧ m.2 = .obj fields

theorem allMembers_cons (row : Value × Dependency) (rows : List (Value × Dependency)) :
    allMembers (row :: rows) =
      row.1.keyText >>= fun t => row.2.members >>= fun fields => allMembers rows >>= fun ms =>
        pure ((t, .obj fields) :: ms) := by
  rw [allMembers]
  cases row.1.keyText with
  | error f => rfl
  | ok t =>
    cases row.2.members with
    | error f => rfl
    | ok fields => cases allMembers rows <;> rfl

/-- The object of all libraries has a member for each of them. -/
theorem allMembers_eq_ok_iff {rows : List (Value × Dependency)} {ms : List (String × Json)} :
    allMembers rows = .ok ms ↔ List.Forall₂ IsMember rows ms := by
  induction rows generalizing ms with
  | nil => simp [allMembers, eq_comm]
  | cons row rows ih =>
    simp only [allMembers_cons, bind_eq_ok_iff, ih, List.forall₂_cons_left_iff]
    constructor
    · rintro ⟨t, ht, fields, hfields, ms', hms', h⟩
      exact ⟨(t, .obj fields), ms', ⟨ht, fields, hfields, rfl⟩, hms', (Except.ok.inj h).symm⟩
    · rintro ⟨⟨t, j⟩, ms', ⟨ht, fields, hfields, rfl⟩, hms', rfl⟩
      exact ⟨t, ht, fields, hfields, ms', hms', rfl⟩

/-- There is no such object only because of what is in one of the libraries, if every name can be a
key. -/
theorem exists_fault_of_allMembers {rows : List (Value × Dependency)} {f : ReportFault}
    (h : allMembers rows = .error f) (hkeys : ∀ row ∈ rows, ∃ t, row.1.keyText = .ok t) :
    ∃ row ∈ rows, row.2.members = .error f := by
  induction rows with
  | nil => cases h
  | cons row rows ih =>
    obtain ⟨⟨t, ht⟩, hrest⟩ := List.forall_mem_cons.1 hkeys
    rw [allMembers_cons] at h
    rcases bind_eq_error_iff.1 h with hkey | ⟨t, -, h⟩
    · rw [ht] at hkey
      cases hkey
    rcases bind_eq_error_iff.1 h with hmembers | ⟨fields, -, h⟩
    · exact ⟨row, List.mem_cons_self, hmembers⟩
    rcases bind_eq_error_iff.1 h with hall | ⟨ms, -, h⟩
    · obtain ⟨row', hrow', hf⟩ := ih hall hrest
      exact ⟨row', List.mem_cons_of_mem row hrow', hf⟩
    · cases h

/-- **What a report tells about libraries by name**: it has an object with a member for each, and
when there is no report, the reason is in a library that it was to tell about. -/
def Tells (rows : List (Value × Dependency)) : Except ReportFault Json → Prop
  | .ok report => ∃ ms, report.member? "dependencies" = some (.obj ms) ∧
      List.Forall₂ IsMember rows ms
  | .error f => ∃ row ∈ rows, row.2.members = .error f

/-- **An extended report tells about the libraries** by name. -/
theorem tells_json {a : Analysis} {names : List (List CodePoint)} (hx : a.extended = true)
    (h : a.dependencies.map Dependency.name = names.map Value.ofPoints) :
    Tells (byName a.dependencies) a.json := by
  have hcomparable : a.dependencies.findSome? (fun d => d.name.keyFault?) = none := by
    rw [List.findSome?_eq_none_iff]
    intro d hd
    rw [name_eq h hd, Value.keyFault?_ofPoints]
  have hobject : jsonByName a.dependencies = (allMembers (byName a.dependencies)).map .obj := by
    rw [jsonByName, hcomparable]
  cases hms : allMembers (byName a.dependencies) with
  | ok ms =>
    rw [hms] at hobject
    rw [Analysis.json_of_extended hx hobject]
    exact ⟨ms, rfl, allMembers_eq_ok_iff.1 hms⟩
  | error f =>
    rw [hms] at hobject
    have hjson : a.json = .error f := by
      rw [Analysis.json, hx, if_pos rfl, hobject]
      rfl
    rw [hjson]
    refine exists_fault_of_allMembers hms fun row hrow => ?_
    have hkey := List.mem_map_of_mem (f := Prod.fst) hrow
    rw [(byName_ofPoints h).keys] at hkey
    obtain ⟨ps, -, hps⟩ := List.mem_map.1 hkey
    exact ⟨_, hps ▸ Value.keyText_ofPoints ps⟩

theorem eq_of_text?_eq_some {v : Value} {s : String} (h : text? v = some s) :
    v = .text s := by
  cases v with
  | text t => exact congrArg Value.text (Option.some.inj h)
  | _ => cases h

/-- Values that are told apart as texts are these texts. -/
theorem map_eq_of_text?_eq {α : Type} {f : α → Value} {xs : List α} {ss : List String}
    (h : xs.map (fun x => text? (f x)) = ss.map some) : xs.map f = ss.map .text := by
  induction xs generalizing ss with
  | nil => simpa using h
  | cons x xs ih =>
    cases ss with
    | nil => cases h
    | cons s ss =>
      obtain ⟨hx, hxs⟩ := List.cons.inj h
      rw [List.map_cons, List.map_cons, ih hxs, eq_of_text?_eq_some hx]

end Dependency

namespace Table

/-! ## From a table to a report -/

/-- What detection makes of a line: its library, marked when some route file has its property. -/
def Marked (summaries : List RouteSummary) (e : TableEntry) (d : Dependency) : Prop :=
  d = { e.dependency with detected := d.detected } ∧
    (d.detected = true ↔ ∃ s ∈ summaries, e.property.holds s = true)

theorem marked_detect (t : Table) (summaries : List RouteSummary) :
    List.Forall₂ (Marked summaries) t (t.detect summaries) := by
  rw [detect, List.forall₂_map_right_iff, List.forall₂_same]
  exact fun e _ => ⟨rfl, List.any_eq_true⟩

theorem map_name_detect (t : Table) (summaries : List RouteSummary) :
    (t.detect summaries).map Dependency.name = t.map (·.dependency.name) := by
  rw [detect, List.map_map]
  rfl

/-- **A table that is read is kept all the way into the report.**  There is a line for each entry,
in order, and each part of a line is from its own field; there is a library for each line, in order,
and it is the library of the line but for the mark; and if the names are texts, an extended report
has each name once, in the order in which the names first come up, with the last library of the
name. -/
theorem load_faithful {text : List Char} {t : Table} (h : load text = .ok t)
    (summaries : List RouteSummary) :
    (∃ v fields vs, Yaml.load text = .ok v ∧ v.entries? = some fields ∧
        entriesOf fields = some vs ∧ List.Forall₂ EntryOf vs t) ∧
      List.Forall₂ (Marked summaries) t (t.detect summaries) ∧
      ∀ names : List (List CodePoint), t.map (·.dependency.name) = names.map Value.ofPoints →
        Dependency.ByName names (t.detect summaries) (Dependency.byName (t.detect summaries)) ∧
        ∀ a : Analysis, a.extended = true → a.summaries = summaries →
          Dependency.Tells (Dependency.byName (t.detect summaries)) (a.finalize t).json := by
  refine ⟨load_eq_ok_iff.1 h, marked_detect t summaries, fun names hnames => ?_⟩
  have hds := (map_name_detect t summaries).trans hnames
  refine ⟨Dependency.byName_ofPoints hds, ?_⟩
  rintro a hx rfl
  have hextended : (a.finalize t).extended = true := by
    rw [Analysis.finalize, if_pos hx]
    exact hx
  have hdependencies : (a.finalize t).dependencies = t.detect a.summaries := by
    rw [Analysis.finalize, if_pos hx]
  rw [← hdependencies]
  exact Dependency.tells_json hextended (hdependencies ▸ hds)

/-- A table with two libraries of one name. -/
def repeatedName : List Char :=
  ("dependencies:\n- &x\n  name: a\n  detect: has_react_router\n"
    ++ "- <<: *x\n  name: b\n- <<: *x\n  version: 2\n").toList

theorem load_repeatedName :
    ∃ t, load repeatedName = .ok t ∧
      t.map (·.dependency.name) = [.text "a", .text "b", .text "a"] ∧
      (t.detect []).map Dependency.version = ["", "", "2"] := by
  have h : (match load repeatedName with
      | .ok t => decide (t.map (fun e => Dependency.text? e.dependency.name) =
          ["a", "b", "a"].map some ∧ (t.detect []).map Dependency.version = ["", "", "2"])
      | .error _ => false) = true := by decide +kernel
  split at h
  · rename_i t ht
    obtain ⟨hnames, hversions⟩ := of_decide_eq_true h
    exact ⟨t, ht, Dependency.map_eq_of_text?_eq hnames, hversions⟩
  · cases h

/-- The name that comes up twice is listed first, and with the second of its libraries. -/
theorem load_faithful_repeatedName :
    ∃ t, load repeatedName = .ok t ∧
      (Dependency.byName (t.detect [])).map Prod.fst = [.text "a", .text "b"] ∧
      ∀ row ∈ Dependency.byName (t.detect []), row.1 = .text "a" → row.2.version = "2" := by
  obtain ⟨t, ht, hnames, hversions⟩ := load_repeatedName
  obtain ⟨-, -, hreport⟩ := load_faithful ht []
  obtain ⟨hbyName, -⟩ := hreport [[.char 'a'], [.char 'b'], [.char 'a']] hnames
  refine ⟨t, ht, hbyName.keys, fun row hrow ha => ?_⟩
  obtain ⟨front, back, hds, -, hback⟩ := hbyName.last row hrow
  rw [← map_name_detect t []] at hnames
  rw [hds] at hnames hversions
  rcases List.eq_nil_or_concat back with rfl | ⟨front', d, rfl⟩
  · simpa using congrArg List.getLast? hversions
  · have hlast := congrArg List.getLast? hnames
    rw [List.concat_eq_append, ← List.cons_append, ← List.append_assoc, List.map_append,
      List.map_singleton, List.getLast?_concat] at hlast
    exact absurd ((Option.some.inj hlast).trans ha.symm) (hback d (by simp))

end Table
end RouteAudit
