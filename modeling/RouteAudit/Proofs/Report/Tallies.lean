import Mathlib.Algebra.BigOperators.Group.List.Basic
import Mathlib.Algebra.GroupWithZero.Nat
import Mathlib.Data.List.Induction
import Mathlib.Data.List.Nodup
import RouteAudit.Proofs.Report.PlainData
import RouteAudit.Proofs.Scan.DirtyFiles

/-!
# All counts of an analysis agree

The issues of an analysis are counted by kind, by severity, and by file and severity.  Each of these
counts is made in one pass over the issues, with a table whose rows are in the order in which their
keys first come up.  Such a table can be read off the list: its keys are those of the list, each
once, and the row of a key is what the members with that key leave there.  Everything else is about
adding up rows.

## What is here

* `alter` — changes the row of a key, or adds one, and `foldl_alter`, the table after a pass;
* `sum_count` — the counts of different members that are all there are add up to the length;
* `Analysis.countedSeverities`, `Analysis.countedFiles` — the tables as they are counted;
* `Analysis.TalliesAgree` — what the counts have to do with each other, and
  `Analysis.talliesAgree`, that this is so for every analysis.
-/

set_option autoImplicit false

namespace RouteAudit

open Terminal (MarkupFault Styled escape styled)

/-! ## Members, each once -/

section
variable {α : Type} [DecidableEq α]

theorem nodup_eraseDups (xs : List α) : xs.eraseDups.Nodup := by
  induction hn : xs.length using Nat.strongRecOn generalizing xs with
  | ind n ih =>
    subst hn
    cases xs with
    | nil => simp
    | cons x xs =>
      rw [List.eraseDups_cons]
      refine List.nodup_cons.2 ⟨fun hmem => ?_, ih _ ?_ _ rfl⟩
      · have hx := (List.mem_filter.1 (List.mem_eraseDups.1 hmem)).2
        simp at hx
      · exact Nat.lt_succ_of_le (List.length_filter_le _ _)

/-- One more member is new, or it changes nothing. -/
theorem eraseDups_append_singleton (xs : List α) (x : α) :
    (xs ++ [x]).eraseDups = if x ∈ xs then xs.eraseDups else xs.eraseDups ++ [x] := by
  rw [List.eraseDups_append]
  split
  · rename_i hx
    simp [List.removeAll, hx]
  · rename_i hx
    simp [List.removeAll, hx, List.eraseDups_cons]

/-- Members that are already there are not there again behind. -/
theorem eraseDups_append_of_subset {xs ys : List α} (h : ys ⊆ xs) :
    (xs ++ ys).eraseDups = xs.eraseDups := by
  have hnone : ys.removeAll xs = [] :=
    List.filter_eq_nil_iff.2 fun y hy => by simpa using h hy
  rw [List.eraseDups_append, hnone, List.eraseDups_nil, List.append_nil]

/-- Members that are kept are kept once. -/
theorem eraseDups_filter (p : α → Bool) (xs : List α) :
    (xs.filter p).eraseDups = xs.eraseDups.filter p := by
  induction xs using List.reverseRecOn with
  | nil => rfl
  | append_singleton xs x ih =>
    rw [List.filter_append, eraseDups_append_singleton]
    by_cases hp : p x = true
    · rw [List.filter_singleton, hp, cond_true, eraseDups_append_singleton, ih]
      simp only [List.mem_filter, hp, and_true]
      split <;> simp [hp]
    · rw [List.filter_singleton, Bool.eq_false_iff.2 hp, cond_false, List.append_nil, ih]
      split <;> simp [hp]

/-- A list has a member as often as that member adds one. -/
theorem sum_ite (x : α) (keys : List α) :
    (keys.map fun k => if x == k then 1 else 0).sum = keys.count x := by
  induction keys with
  | nil => rfl
  | cons k keys ih =>
    rw [List.map_cons, List.sum_cons, ih, List.count_cons, Nat.add_comm, BEq.comm]

/-- **The counts of different members** that are all there are add up to the length. -/
theorem sum_count {keys xs : List α} (hkeys : keys.Nodup) (h : xs ⊆ keys) :
    (keys.map fun k => xs.count k).sum = xs.length := by
  induction xs with
  | nil => simp
  | cons x xs ih =>
    obtain ⟨hx, hxs⟩ := List.cons_subset.1 h
    have hone : (keys.map fun k => if x == k then 1 else 0).sum = 1 := by
      rw [sum_ite, List.count_eq_one_of_mem hkeys hx]
    simp only [List.count_cons, List.sum_map_add, ih hxs, hone, List.length_cons]

end

/-! ## Tables -/

section
variable {κ β ι : Type} [DecidableEq κ]

/-- Changes the row of a key.  A key without a row gets one at the end, changed from `fresh`. -/
def alter (fresh : β) (key : κ) (f : β → β) : List (κ × β) → List (κ × β)
  | [] => [(key, f fresh)]
  | (k, b) :: rest => if k = key then (k, f b) :: rest else (k, b) :: alter fresh key f rest

/-- Counting once more changes a count. -/
theorem bump_eq_alter (x : κ) (t : List (κ × Nat)) : bump x t = alter 0 x (· + 1) t := by
  induction t with
  | nil => rfl
  | cons e t ih => rw [bump, alter, ih]

/-- A row that is there is changed where it is. -/
theorem alter_of_mem (fresh : β) {key : κ} (f : β → β) {keys : List κ} (row : κ → β)
    (hkeys : keys.Nodup) (h : key ∈ keys) :
    alter fresh key f (keys.map fun k => (k, row k)) =
      keys.map fun k => (k, if key = k then f (row k) else row k) := by
  induction keys with
  | nil => cases h
  | cons k keys ih =>
    obtain ⟨hk, hkeys⟩ := List.nodup_cons.1 hkeys
    rw [List.map_cons, List.map_cons, alter]
    by_cases heq : k = key
    · subst heq
      have hrest : (keys.map fun l => (l, row l)) =
          keys.map fun l => (l, if k = l then f (row l) else row l) :=
        List.map_congr_left fun l hl => by rw [if_neg (ne_of_mem_of_not_mem hl hk).symm]
      rw [if_pos rfl, if_pos rfl, hrest]
    · rw [if_neg heq, if_neg (Ne.symm heq), ih hkeys ((List.mem_cons.1 h).resolve_left (Ne.symm heq))]

/-- A row that is not there comes behind the others. -/
theorem alter_of_not_mem (fresh : β) {key : κ} (f : β → β) {keys : List κ} (row : κ → β)
    (h : key ∉ keys) :
    alter fresh key f (keys.map fun k => (k, row k)) =
      (keys.map fun k => (k, row k)) ++ [(key, f fresh)] := by
  induction keys with
  | nil => rfl
  | cons k keys ih =>
    simp only [List.mem_cons, not_or] at h
    rw [List.map_cons, alter, if_neg (Ne.symm h.1), ih h.2]
    rfl

/-- What the members of a list leave in the row of a key. -/
def rowOf (fresh : β) (key : ι → κ) (step : ι → β → β) (xs : List ι) (k : κ) : β :=
  (xs.filter (key · = k)).foldl (fun b x => step x b) fresh

theorem rowOf_append_singleton (fresh : β) (key : ι → κ) (step : ι → β → β) (xs : List ι) (x : ι)
    (k : κ) : rowOf fresh key step (xs ++ [x]) k =
      if key x = k then step x (rowOf fresh key step xs k) else rowOf fresh key step xs k := by
  rw [rowOf, List.filter_append]
  split
  · rename_i h
    simp [rowOf, h]
  · rename_i h
    simp [rowOf, h]

theorem rowOf_of_not_mem (fresh : β) {key : ι → κ} (step : ι → β → β) {xs : List ι} {k : κ}
    (h : k ∉ xs.map key) : rowOf fresh key step xs k = fresh := by
  have hnone : xs.filter (key · = k) = [] := by
    refine List.filter_eq_nil_iff.2 fun x hx hk => h ?_
    exact List.mem_map.2 ⟨x, hx, of_decide_eq_true hk⟩
  rw [rowOf, hnone, List.foldl_nil]

/-- **A table after a pass**: it has a row for each key, in the order in which they come up, and the
row of a key is what the members with that key leave there. -/
theorem foldl_alter (fresh : β) (key : ι → κ) (step : ι → β → β) (keys : List κ) (xs : List ι) :
    xs.foldl (fun t x => alter fresh (key x) (step x) t) (keys.eraseDups.map fun k => (k, fresh)) =
      (keys ++ xs.map key).eraseDups.map fun k => (k, rowOf fresh key step xs k) := by
  -- the induction takes the last member away, since that is the one whose row is changed last
  induction xs using List.reverseRecOn with
  | nil =>
    rw [List.map_nil, List.append_nil]
    rfl
  | append_singleton xs x ih =>
    rw [List.foldl_append, ih, List.foldl_cons, List.foldl_nil, List.map_append, List.map_singleton,
      ← List.append_assoc, eraseDups_append_singleton]
    simp only [rowOf_append_singleton]
    split
    · rename_i h
      exact alter_of_mem fresh (step x) _ (nodup_eraseDups _) (List.mem_eraseDups.2 h)
    · rename_i h
      have hnew : key x ∉ xs.map key := fun hmem => h (List.mem_append_right _ hmem)
      have hold : ∀ k ∈ (keys ++ xs.map key).eraseDups, key x ≠ k := by
        rintro k hk rfl
        exact h (List.mem_eraseDups.1 hk)
      rw [alter_of_not_mem _ _ _ fun hmem => h (List.mem_eraseDups.1 hmem), List.map_append,
        List.map_singleton, if_pos rfl, rowOf_of_not_mem fresh step hnew]
      refine congrArg (· ++ _) (List.map_congr_left fun k hk => ?_)
      rw [if_neg (hold k hk)]

/-- A row to which nothing is done. -/
theorem rowOf_const (fresh : β) (key : ι → κ) (xs : List ι) (k : κ) :
    rowOf fresh key (fun _ _ => fresh) xs k = fresh :=
  List.foldlRecOn (motive := (· = fresh)) _ _ rfl fun _ _ _ _ => rfl

/-- A row of counts has the number of the members with its key. -/
theorem rowOf_count (key : ι → κ) (xs : List ι) (k : κ) :
    rowOf 0 key (fun _ n => n + 1) xs k = (xs.filter (key · = k)).length := by
  have hlength : ∀ (ys : List ι) (n : Nat), ys.foldl (fun n _ => n + 1) n = n + ys.length := by
    intro ys
    induction ys with
    | nil => exact fun _ => rfl
    | cons y ys ih =>
      intro n
      rw [List.foldl_cons, ih, List.length_cons]
      omega
  rw [rowOf, hlength, Nat.zero_add]

/-- The members with a key, counted by their keys. -/
theorem length_filter_eq_count (key : ι → κ) (xs : List ι) (k : κ) :
    (xs.filter (key · = k)).length = (xs.map key).count k := by
  rw [List.count, List.countP_map, List.countP_eq_length_filter]
  rfl

end

/-! ## One pass over the issues -/

/-- No issue counted yet, of any severity. -/
def noCounts : List (Severity × Nat) := Severity.all.map fun s => (s, 0)

/-- Issues by severity, counted one after the other. -/
def countedSeverities (issues : List Issue) : List (Severity × Nat) :=
  issues.foldl (fun t i => bump i.severity t) noCounts

theorem countedSeverities_eq (issues : List Issue) :
    countedSeverities issues =
      Severity.all.map fun s => (s, (issues.filter (·.severity = s)).length) := by
  have hall : Severity.all.eraseDups = Severity.all := rfl
  have hsub : issues.map Issue.severity ⊆ Severity.all := fun s _ => Severity.mem_all s
  have h := foldl_alter 0 Issue.severity (fun _ n => n + 1) Severity.all issues
  rw [eraseDups_append_of_subset hsub, hall] at h
  simp only [rowOf_count] at h
  simp only [countedSeverities, bump_eq_alter]
  exact h

/-- A count for each severity. -/
theorem countIn_severities (count : Severity → Nat) (s : Severity) :
    countIn s (Severity.all.map fun s => (s, count s)) = count s := by
  cases s <;> rfl

namespace Analysis

variable (a : Analysis)

theorem byKind_eq : a.byKind =
    (a.issues.map Issue.kind).eraseDups.map fun k =>
      (k, (a.issues.filter (·.kind = k)).length) := by
  have h := foldl_alter 0 Issue.kind (fun _ n => n + 1) [] a.issues
  simp only [rowOf_count] at h
  simp only [byKind, tally, List.foldl_map, bump_eq_alter]
  exact h

/-- The table of files while it is counted: every file that could be read has a row from the
beginning, and a file that comes up with its first issue gets one then. -/
def countedFiles : List (String × List (Severity × Nat)) :=
  a.issues.foldl (fun t i => alter noCounts i.file (bump i.severity) t)
    (a.files.foldl (fun t f => alter noCounts f (fun _ => noCounts) t) [])

end Analysis

namespace Report.Screen

/-- The table of files with counted rows. -/
def drawRows (s : Screen) (rows : List (String × List (Severity × Nat))) :
    Except MarkupFault (List Char) := do
  let names ← rows.mapM fun r => (styled (escape r.1.toList)).map Styled.text
  let numbers (name : String) (severity : Severity) : Terminal.Column :=
    { justify := .right
      head := name.toList
      cells := rows.map fun r => (toString (countIn severity r.2)).toList }
  let columns : List Terminal.Column := [
    { justify := .left, head := "File".toList, cells := names },
    numbers "High" .high,
    numbers "Medium" .medium,
    numbers "Low" .low]
  let widths := Terminal.columnWidths (s.width - (columns.length + 1)) columns
  let title := "Files".toList
  let lines := Terminal.tableLines widths columns
  if s.width = 0 then return []
  else if s.softWrap then return endLines (title :: lines.map List.flatten)
  else
    let titles := (Styled.plain title).wrapLines (Terminal.tableWidth widths) .fold .center
    return endLines ((titles.map Styled.segments ++ lines).map fun line =>
      (Terminal.crop s.width line).flatten)

end Report.Screen

open Report.Screen (tableFiles fileCount severityColumn)

namespace Analysis

variable (a : Analysis)

theorem countedFiles_eq : a.countedFiles =
    (tableFiles a).map fun f => (f, Severity.all.map fun s => (s, fileCount a f s)) := by
  have hfresh : a.files.foldl (fun t f => alter noCounts f (fun _ => noCounts) t) [] =
      a.files.eraseDups.map fun f => (f, noCounts) := by
    have h := foldl_alter noCounts id (fun _ _ => noCounts) [] a.files
    simp only [rowOf_const, List.map_id, List.nil_append] at h
    exact h
  rw [countedFiles, hfresh, foldl_alter noCounts Issue.file (fun i => bump i.severity)]
  refine List.map_congr_left fun f _ => congrArg (f, ·) ?_
  have hrow : rowOf noCounts Issue.file (fun i => bump i.severity) a.issues f =
      countedSeverities (a.issues.filter (·.file = f)) := rfl
  rw [hrow, countedSeverities_eq]
  refine List.map_congr_left fun s _ => congrArg (s, ·) ?_
  rw [fileCount, issuesOf, List.filter_comm]

/-- **The table of files has the rows that are counted.** -/
theorem fileTable_eq (s : Report.Screen) : s.fileTable a = s.drawRows a.countedFiles := by
  have hcolumn : ∀ (name : String) (severity : Severity), severityColumn a name severity =
      { justify := .right
        head := name.toList
        cells := a.countedFiles.map fun r => (toString (countIn severity r.2)).toList } := by
    intro name severity
    rw [severityColumn, countedFiles_eq, List.map_map]
    simp only [Function.comp_def, countIn_severities]
  have hnames : (tableFiles a).mapM (fun f => (styled (escape f.toList)).map Styled.text) =
      a.countedFiles.mapM fun r => (styled (escape r.1.toList)).map Styled.text := by
    rw [countedFiles_eq, List.mapM_map]
    rfl
  rw [Report.Screen.fileTable, hnames, hcolumn, hcolumn, hcolumn]
  rfl

/-! ## Sums -/

/-- A cell of the table counts the issues of its file and its severity. -/
theorem fileCount_eq (f : String) (s : Severity) :
    fileCount a f s = (a.issues.filter fun i => i.file = f ∧ i.severity = s).length := by
  rw [fileCount, issuesOf, List.filter_filter]
  simp only [Bool.decide_and]

/-- A cell with a number in it belongs to an issue. -/
theorem fileCount_ne_zero {f : String} {s : Severity} :
    fileCount a f s ≠ 0 ↔ ∃ i ∈ a.issues, i.file = f ∧ i.severity = s := by
  rw [fileCount_eq, ← Nat.pos_iff_ne_zero, List.length_pos_iff_exists_mem]
  simp

theorem mem_tableFiles {f : String} :
    f ∈ tableFiles a ↔ f ∈ a.files ∨ ∃ i ∈ a.issues, i.file = f := by
  rw [tableFiles, List.mem_eraseDups, List.mem_append, List.mem_map]

theorem mem_dirtyFiles {f : String} : f ∈ a.dirtyFiles ↔ ∃ i ∈ a.issues, i.file = f := by
  rw [dirtyFiles, List.mem_eraseDups, List.mem_map]

theorem nodup_tableFiles : (tableFiles a).Nodup := nodup_eraseDups _

theorem tableFiles_eq :
    tableFiles a = a.files.eraseDups ++ a.dirtyFiles.filter (· ∉ a.files) := by
  rw [tableFiles, List.eraseDups_append, dirtyFiles, ← eraseDups_filter, List.removeAll]
  simp only [List.elem_eq_mem, decide_not]

/-- Each column of the table adds up to the issues of its severity. -/
theorem sum_fileCount (s : Severity) :
    ((tableFiles a).map fun f => fileCount a f s).sum = (a.issuesOf s).length := by
  have hsub : (a.issuesOf s).map Issue.file ⊆ tableFiles a := by
    intro f hf
    obtain ⟨i, hi, rfl⟩ := List.mem_map.1 hf
    exact (mem_tableFiles a).2 (.inr ⟨i, (List.mem_filter.1 hi).1, rfl⟩)
  have h := sum_count (nodup_tableFiles a) hsub
  simp only [fileCount, length_filter_eq_count]
  rw [h, List.length_map]

theorem sum_byKind : (a.byKind.map Prod.snd).sum = a.issues.length := by
  have hsub : a.issues.map Issue.kind ⊆ (a.issues.map Issue.kind).eraseDups :=
    fun k hk => List.mem_eraseDups.2 hk
  rw [byKind_eq, List.map_map]
  simp only [Function.comp_def, length_filter_eq_count]
  rw [sum_count (nodup_eraseDups _) hsub, List.length_map]

theorem sum_bySeverity : (a.bySeverity.map Prod.snd).sum = a.issues.length := by
  have hsub : a.issues.map Issue.severity ⊆ Severity.all := fun s _ => Severity.mem_all s
  rw [bySeverity, List.map_map]
  simp only [Function.comp_def, countOf, issuesOf, length_filter_eq_count]
  rw [sum_count (by decide) hsub, List.length_map]

/-! ## Agreement -/

/-- All counts of the issues of an analysis agree. -/
structure TalliesAgree : Prop where
  /-- The kinds that are counted are those that occur, each once and in the order in which they come
  up. -/
  kinds : a.byKind.map Prod.fst = (a.issues.map Issue.kind).eraseDups
  mem_kinds : ∀ k, k ∈ a.byKind.map Prod.fst ↔ ∃ i ∈ a.issues, i.kind = k
  /-- No two of them are called the same. -/
  nodup_kinds : (a.byKind.map fun e => e.1.name).Nodup
  /-- A kind that is counted occurs, as often as it is counted. -/
  kind : ∀ e ∈ a.byKind, e.2 = (a.issues.filter (·.kind = e.1)).length ∧ 0 < e.2
  /-- Counted one after the other, the issues are as many of each severity as there are in the list
  of that severity. -/
  counted : countedSeverities a.issues = a.bySeverity
  severity : ∀ s, countIn s a.bySeverity = (a.issuesOf s).length
  /-- Both counts add up to the number of issues, which is also told in the summary. -/
  sum_kinds : (a.byKind.map Prod.snd).sum = a.issues.length
  sum_severities : (a.bySeverity.map Prod.snd).sum = a.issues.length
  total : a.summary.member? "totalIssues" = some (.int a.issues.length)
  /-- Counted one after the other, the issues make the rows of the table of files that is drawn. -/
  rows : a.countedFiles =
    (tableFiles a).map fun f => (f, Severity.all.map fun s => (s, fileCount a f s))
  drawn : ∀ s : Report.Screen, s.fileTable a = s.drawRows a.countedFiles
  /-- There is a row for each file that could be read, and behind them one for each other file of an
  issue, all in the order in which they come up. -/
  files : tableFiles a = a.files.eraseDups ++ a.dirtyFiles.filter (· ∉ a.files)
  nodup_files : (tableFiles a).Nodup
  cell : ∀ f s, fileCount a f s = (a.issues.filter fun i => i.file = f ∧ i.severity = s).length
  /-- Each column adds up to the issues of its severity. -/
  sum_column : ∀ s, ((tableFiles a).map fun f => fileCount a f s).sum = countIn s a.bySeverity
  /-- The files with issues are those with a number in their row. -/
  dirty : ∀ f, f ∈ a.dirtyFiles ↔ f ∈ tableFiles a ∧ ∃ s, fileCount a f s ≠ 0

/-- **All counts of an analysis agree.** -/
theorem talliesAgree : a.TalliesAgree where
  kinds := by
    rw [byKind_eq, List.map_map]
    exact List.map_id _
  mem_kinds k := by
    rw [byKind_eq, List.map_map]
    simp [Function.comp_def]
  nodup_kinds := by
    have hkinds := nodup_keys_tally (a.issues.map Issue.kind)
    rw [List.Nodup, List.pairwise_map] at hkinds ⊢
    exact hkinds.imp fun hne heq => hne (IssueKind.name_injective heq)
  kind e he := by
    rw [byKind_eq] at he
    obtain ⟨k, hk, rfl⟩ := List.mem_map.1 he
    obtain ⟨i, hi, rfl⟩ := List.mem_map.1 (List.mem_eraseDups.1 hk)
    refine ⟨rfl, List.length_pos_of_mem (a := i) ?_⟩
    exact List.mem_filter.2 ⟨hi, decide_eq_true rfl⟩
  counted := countedSeverities_eq a.issues
  severity s := countIn_severities _ s
  sum_kinds := sum_byKind a
  sum_severities := sum_bySeverity a
  total := rfl
  rows := countedFiles_eq a
  drawn := fileTable_eq a
  files := tableFiles_eq a
  nodup_files := nodup_tableFiles a
  cell := fileCount_eq a
  sum_column s := (sum_fileCount a s).trans (countIn_severities a.countOf s).symm
  dirty f := by
    rw [mem_dirtyFiles, mem_tableFiles]
    simp only [fileCount_ne_zero]
    constructor
    · rintro ⟨i, hi, rfl⟩
      exact ⟨.inr ⟨i, hi, rfl⟩, i.severity, i, hi, rfl, rfl⟩
    · rintro ⟨-, s, i, hi, rfl, -⟩
      exact ⟨i, hi, rfl⟩

end Analysis
end RouteAudit
