import RouteAudit.Proofs.FileTree.Sound

/-!
# What listing a directory shows

A directory is listed by its path, and the path is followed from its start each time, over every
link on the way.  So it has to be shown that the directory `d` among the entries of `p` is what the
path `p/d` leads to: the links that led to `p` lead there once more and no further link is met.
Only the length of the path can come in between.

* `FileTree.at?_of_find` — what was found is at the place where it was found;
* `FileTree.find_child` — following a path one real name further;
* `FileTree.list_child` — listing a directory that was listed as an entry: its own entries, unless
  its path is too long;
* `FileTree.CanList`, `FileTree.Shows` — what the walk asks of a directory.
-/

set_option autoImplicit false

namespace RouteAudit
namespace FileTree

/-! ## Following a path -/

/-- One part of a path that is followed to look at what it leads to. -/
theorem follow_look_cons (root : Node)
    (jump : List String → List String → Except PathFault Target) (place : List String)
    (part : String) (rest : List String) :
    follow root .look jump place (part :: rest) =
      match root.at? place with
      | some (.dir entries) =>
        if !Path.isProper part then follow root .look jump place rest
        else if part = ".." then follow root .look jump place.dropLast rest
        else if maxName < part.utf8ByteSize then .error .nameTooLong
        else
          match Node.entry? entries part with
          | none => if rest.isEmpty then .ok (.vacant (place ++ [part])) else .error .missing
          | some (.link target) =>
            jump (if (Path.ofString target).anchor = .here then place else [])
              (Path.rawParts target ++ rest)
          | some _ => follow root .look jump (place ++ [part]) rest
      | some _ => .error .notDirectory
      | none => .error .missing := by
  rw [follow]
  cases root.at? place with
  | none => rfl
  | some n =>
    cases n with
    | file bytes => rfl
    | link target => rfl
    | dir entries =>
      have hlink : (rest.isEmpty && decide (Purpose.look = .lookAtLink)) = false :=
        Bool.and_false _
      dsimp only
      cases Node.entry? entries part with
      | none => rfl
      | some m =>
        cases m with
        | file bytes => rfl
        | dir below => rfl
        | link target =>
          dsimp only
          rw [hlink]
          rfl

/-- The end of a path is found where the parts before it have led. -/
theorem follow_nil_eq_ok {root : Node} {purpose : Purpose}
    {jump : List String → List String → Except PathFault Target} {place q : List String} {n : Node}
    (h : follow root purpose jump place [] = .ok (.node q n)) :
    q = place ∧ root.at? place = some n := by
  rw [follow] at h
  split at h
  · rename_i m hm
    cases h
    exact ⟨rfl, hm⟩
  · cases h

/-- Whether what is found by a way of following paths is where it is found. -/
def FindsInPlace (root : Node) (way : List String → List String → Except PathFault Target) :
    Prop :=
  ∀ place parts q n, way place parts = .ok (.node q n) → root.at? q = some n

theorem findsInPlace_follow {root : Node}
    {jump : List String → List String → Except PathFault Target} (hj : FindsInPlace root jump) :
    FindsInPlace root (follow root .look jump) := by
  intro place parts q n h
  induction parts generalizing place with
  | nil =>
    obtain ⟨rfl, hn⟩ := follow_nil_eq_ok h
    exact hn
  | cons part rest ih =>
    rw [follow_look_cons] at h
    split at h
    · split at h
      · exact ih _ h
      · split at h
        · exact ih _ h
        · split at h
          · cases h
          · split at h
            · split at h <;> cases h
            · exact hj _ _ _ _ h
            · exact ih _ h
    · cases h
    · cases h

theorem findsInPlace_followWithin (root : Node) (links : Nat) :
    FindsInPlace root (followWithin root .look links) := by
  induction links with
  | zero => exact findsInPlace_follow fun _ _ _ _ h => by cases h
  | succ links ih => exact findsInPlace_follow ih

/-- **What was found is at the place where it was found.** -/
theorem at?_of_find {t : FileTree} {p : Path} {q : List String} {n : Node}
    (h : t.find .look p = .ok (.node q n)) : t.root.at? q = some n := by
  rw [find] at h
  split at h
  · cases h
  · split at h
    · cases h
    · exact findsInPlace_followWithin _ _ _ _ _ _ h

/-- Whether a way of following paths goes on from a directory to its entry `d`. -/
def GoesOnTo (d : String) (way : List String → List String → Except PathFault Target) : Prop :=
  ∀ place parts q es n, way place parts = .ok (.node q (.dir es)) →
    Node.entry? es d = some n → (∀ target, n ≠ .link target) →
    way place (parts ++ [d]) = .ok (.node (q ++ [d]) n)

theorem goesOnTo_follow {root : Node} {d : String} (hd : isEntryName d = true)
    {jump : List String → List String → Except PathFault Target} (hj : GoesOnTo d jump) :
    GoesOnTo d (follow root .look jump) := by
  intro place parts q es n h hn hlink
  obtain ⟨hproper, hup, -, -, hshort⟩ := isEntryName_iff.1 hd
  induction parts generalizing place with
  | nil =>
    obtain ⟨rfl, hes⟩ := follow_nil_eq_ok h
    have hat : root.at? (q ++ [d]) = some n := by rw [Node.at?_concat hes, hn]
    rw [List.nil_append, follow_look_cons, hes]
    simp only [hproper, Bool.not_true, Bool.false_eq_true, if_false, if_neg hup,
      if_neg (Nat.not_lt.2 hshort), hn]
    cases n with
    | link target => exact absurd rfl (hlink target)
    | file bytes => simp only [follow, hat]
    | dir entries => simp only [follow, hat]
  | cons part rest ih =>
    -- the name is behind `rest`, so each step is the step that was made without it
    rw [List.cons_append, follow_look_cons]
    rw [follow_look_cons] at h
    split at h
    · split at h
      · rename_i hp
        rw [if_pos hp]
        exact ih _ h
      · rename_i hp
        rw [if_neg hp]
        split at h
        · rename_i hu
          rw [if_pos hu]
          exact ih _ h
        · rename_i hu
          rw [if_neg hu]
          split at h
          · cases h
          · rename_i hl
            rw [if_neg hl]
            split at h
            · split at h <;> cases h
            · simpa only [List.append_assoc] using hj _ _ _ _ _ h hn hlink
            · exact ih _ h
    · cases h
    · cases h

theorem goesOnTo_followWithin (root : Node) {d : String} (hd : isEntryName d = true)
    (links : Nat) : GoesOnTo d (followWithin root .look links) := by
  induction links with
  | zero => exact goesOnTo_follow hd fun _ _ _ _ _ h => by cases h
  | succ links ih => exact goesOnTo_follow hd ih

/-- **Following a path one real name further** leads to the entry of that name, unless the path
gets too long by it. -/
theorem find_child {t : FileTree} {p : Path} {q : List String} {es : List (String × Node)}
    {d : String} {n : Node} (h : t.find .look p = .ok (.node q (.dir es)))
    (hd : isEntryName d = true) (hn : Node.entry? es d = some n)
    (hlink : ∀ target, n ≠ .link target) :
    t.find .look (p.child d) =
      if maxPath < (p.child d).text.utf8ByteSize then .error .nameTooLong
      else .ok (.node (q ++ [d]) n) := by
  rw [find] at h
  split at h
  · cases h
  · rename_i hnull
    split at h
    · cases h
    · have hnull' : (p.child d).hasNull = false := by
        have hd' := (isEntryName_iff.1 hd).2.2.2.1
        simpa [Path.hasNull, Path.child, hd'] using hnull
      rw [find, hnull', if_neg Bool.false_ne_true]
      split
      · rfl
      · exact goesOnTo_followWithin t.root hd maxLinks _ _ _ _ _ h hn hlink

/-! ## Listing a directory -/

theorem list_eq_ok_iff {t : FileTree} {p : Path} {es : List (String × Node)} :
    t.list p = .ok es ↔ ∃ q, t.find .look p = .ok (.node q (.dir es)) := by
  rw [list, stat]
  cases t.find .look p with
  | error e => simp
  | ok target =>
    cases target with
    | vacant place => simp
    | node place n => cases n <;> simp

/-- A sound tree shows sound entries. -/
theorem areSound_of_list {t : FileTree} (ht : t.Sound) {p : Path} {es : List (String × Node)}
    (h : t.list p = .ok es) : Node.areSound es = true := by
  obtain ⟨q, hq⟩ := list_eq_ok_iff.1 h
  have hs := Node.isSound_of_at? ht.root (at?_of_find hq)
  rwa [Node.isSound] at hs

/-- **Listing a directory that was listed as an entry.** -/
theorem list_child {t : FileTree} (ht : t.Sound) {p : Path} {es es' : List (String × Node)}
    {d : String} (h : t.list p = .ok es) (hd : (d, .dir es') ∈ es) :
    t.list (p.child d) =
      if maxPath < (p.child d).text.utf8ByteSize then .error ⟨.nameTooLong, p.child d, none⟩
      else .ok es' := by
  have hs := areSound_of_list ht h
  obtain ⟨q, hq⟩ := list_eq_ok_iff.1 h
  have hc := find_child hq (Node.isEntryName_of_mem hs hd) ((Node.entry?_eq_some_iff hs).2 hd)
    fun _ => by simp
  rw [list, stat, hc]
  by_cases hlong : maxPath < (p.child d).text.utf8ByteSize
  · rw [if_pos hlong, if_pos hlong]
  · rw [if_neg hlong, if_neg hlong]

/-- The path leads to a directory that can be listed. -/
def CanList (t : FileTree) (p : Path) : Prop := ∃ es, t.list p = .ok es

/-- Listing the path shows an entry of this name, which is a directory itself or is not. -/
def Shows (t : FileTree) (p : Path) (name : String) (directory : Bool) : Prop :=
  ∃ es n, t.list p = .ok es ∧ (name, n) ∈ es ∧ n.isDir = directory

theorem Shows.isEntryName {t : FileTree} (ht : t.Sound) {p : Path} {name : String}
    {directory : Bool} (h : t.Shows p name directory) : isEntryName name = true := by
  obtain ⟨es, n, hl, hmem, -⟩ := h
  exact Node.isEntryName_of_mem (areSound_of_list ht hl) hmem

end FileTree
end RouteAudit
