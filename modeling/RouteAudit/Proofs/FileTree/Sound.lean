import RouteAudit.FileTree.Change

/-!
# Sound file trees

A `Node` is more than a system can hold: it may have a directory with two entries of one name, or
with an entry whose name is empty, is one or two points, or has a slash in it.  A tree without any
of that is *sound*, and it is sound trees that the walk and the scan are about.

## What is here

* `isEntryName` — whether a directory can have an entry of this name;
* `Node.isSound`, `FileTree.Sound` — a test that can be run, and its form for trees;
* `Node.inductionOn` — induction over a node with its entries, which the recursor of a nested type
  does not give in this form;
* `Node.entry?_eq_some_iff`, `Node.isSound_of_at?` — in a sound directory looking up is being
  listed, and whatever lies below a sound node is sound.
-/

set_option autoImplicit false

namespace RouteAudit

/-- Whether a directory can have an entry of this name. -/
def isEntryName (name : String) : Bool :=
  Path.isProper name && name != ".." && !name.toList.contains '/' && !name.toList.contains '\x00'
    && decide (name.utf8ByteSize ≤ FileTree.maxName)

theorem isEntryName_iff {name : String} :
    isEntryName name = true ↔ Path.isProper name = true ∧ name ≠ ".." ∧ '/' ∉ name.toList ∧
      '\x00' ∉ name.toList ∧ name.utf8ByteSize ≤ FileTree.maxName := by
  simp [isEntryName, and_assoc]

namespace Node

/-- Whether a node is a directory itself, and no link to one. -/
def isDir : Node → Bool
  | .dir _ => true
  | _ => false

theorem isDir_eq_true_iff {n : Node} : n.isDir = true ↔ ∃ es, n = .dir es := by
  cases n <;> simp [isDir]

mutual

/-- Whether a system can hold the node. -/
def isSound : Node → Bool
  | .file _ => true
  | .link target => !target.toList.contains '\x00'
  | .dir entries => areSound entries

/-- Whether a directory can have these entries. -/
def areSound : List (String × Node) → Bool
  | [] => true
  | (name, n) :: rest =>
    isEntryName name && n.isSound && !(rest.map Prod.fst).contains name && areSound rest

end

/-- **Sound entries**, without the recursion: the names are good and differ, and the nodes are
sound. -/
theorem areSound_iff {es : List (String × Node)} :
    areSound es = true ↔ (∀ e ∈ es, isEntryName e.1 = true ∧ e.2.isSound = true) ∧
      (es.map Prod.fst).Nodup := by
  induction es with
  | nil => simp [areSound]
  | cons e es ih =>
    obtain ⟨name, n⟩ := e
    simp only [areSound, Bool.and_eq_true, ih, List.forall_mem_cons, List.map_cons,
      List.nodup_cons, Bool.not_eq_true', List.contains_eq_mem, decide_eq_false_iff_not]
    constructor
    · rintro ⟨⟨⟨hname, hn⟩, hnew⟩, hes, hnd⟩
      exact ⟨⟨⟨hname, hn⟩, hes⟩, hnew, hnd⟩
    · rintro ⟨⟨⟨hname, hn⟩, hes⟩, hnew, hnd⟩
      exact ⟨⟨⟨hname, hn⟩, hnew⟩, hes, hnd⟩

theorem isEntryName_of_mem {es : List (String × Node)} (h : areSound es = true) {name : String}
    {n : Node} (hmem : (name, n) ∈ es) : isEntryName name = true :=
  ((areSound_iff.1 h).1 _ hmem).1

theorem isSound_of_mem {es : List (String × Node)} (h : areSound es = true) {name : String}
    {n : Node} (hmem : (name, n) ∈ es) : n.isSound = true :=
  ((areSound_iff.1 h).1 _ hmem).2

mutual

/-- **Induction over a node and its entries.** -/
theorem inductionOn {P : Node → Prop} (n : Node) (file : ∀ bytes, P (.file bytes))
    (link : ∀ target, P (.link target))
    (dir : ∀ es, (∀ name m, (name, m) ∈ es → P m) → P (.dir es)) : P n :=
  match n with
  | .file bytes => file bytes
  | .link target => link target
  | .dir es => dir es (inductionOnEntries es file link dir)

/-- The entries of a directory, one after the other. -/
theorem inductionOnEntries {P : Node → Prop} (es : List (String × Node))
    (file : ∀ bytes, P (.file bytes)) (link : ∀ target, P (.link target))
    (dir : ∀ es, (∀ name m, (name, m) ∈ es → P m) → P (.dir es)) :
    ∀ name m, (name, m) ∈ es → P m :=
  match es with
  | [] => fun _ _ h => absurd h List.not_mem_nil
  | (_, n) :: rest => fun name m h =>
    match List.mem_cons.1 h with
    | .inl he => (Prod.mk.inj he).2 ▸ inductionOn n file link dir
    | .inr hr => inductionOnEntries rest file link dir name m hr

end

/-! ## Looking up -/

@[simp] theorem entry?_nil (name : String) : entry? [] name = none := rfl

@[simp] theorem entry?_cons (k name : String) (n : Node) (es : List (String × Node)) :
    entry? ((k, n) :: es) name = if k = name then some n else entry? es name := rfl

theorem mem_of_entry?_eq_some {es : List (String × Node)} {name : String} {n : Node}
    (h : entry? es name = some n) : (name, n) ∈ es := by
  induction es with
  | nil => simp at h
  | cons e es ih =>
    obtain ⟨k, m⟩ := e
    rw [entry?_cons] at h
    split at h
    · rename_i hk
      cases h
      simp [hk]
    · exact List.mem_cons_of_mem _ (ih h)

/-- Where no two entries have one name, looking up a name finds the entry that is listed. -/
theorem entry?_of_mem {es : List (String × Node)} (hnd : (es.map Prod.fst).Nodup) {name : String}
    {n : Node} (h : (name, n) ∈ es) : entry? es name = some n := by
  induction es with
  | nil => simp at h
  | cons e es ih =>
    obtain ⟨k, m⟩ := e
    rw [List.map_cons, List.nodup_cons] at hnd
    rcases List.mem_cons.1 h with he | ht
    · cases he
      simp
    · have hk : k ≠ name := by
        rintro rfl
        exact hnd.1 (List.mem_map.2 ⟨_, ht, rfl⟩)
      rw [entry?_cons, if_neg hk]
      exact ih hnd.2 ht

theorem entry?_eq_some_iff {es : List (String × Node)} (hs : areSound es = true) {name : String}
    {n : Node} : entry? es name = some n ↔ (name, n) ∈ es :=
  ⟨mem_of_entry?_eq_some, entry?_of_mem (areSound_iff.1 hs).2⟩

/-- The node at a place, reached over a place on the way. -/
theorem at?_append (n : Node) (ps qs : List String) :
    n.at? (ps ++ qs) = (n.at? ps).bind fun m => m.at? qs := by
  induction ps generalizing n with
  | nil => simp [at?]
  | cons p ps ih =>
    cases n with
    | file bytes => simp [at?]
    | link target => simp [at?]
    | dir es =>
      simp only [List.cons_append, at?]
      cases entry? es p with
      | none => rfl
      | some m => exact ih m

/-- The node one step further than a directory. -/
theorem at?_concat {n : Node} {place : List String} {es : List (String × Node)}
    (h : n.at? place = some (.dir es)) (name : String) :
    n.at? (place ++ [name]) = entry? es name := by
  rw [at?_append, h, Option.bind_some]
  simp only [at?]
  cases entry? es name <;> rfl

/-- Whatever lies below a sound node is sound. -/
theorem isSound_of_at? {n m : Node} {place : List String} (hn : n.isSound = true)
    (h : n.at? place = some m) : m.isSound = true := by
  induction place generalizing n with
  | nil =>
    simp only [at?, Option.some.injEq] at h
    rwa [← h]
  | cons p ps ih =>
    cases n with
    | file bytes => simp [at?] at h
    | link target => simp [at?] at h
    | dir es =>
      rw [isSound] at hn
      simp only [at?] at h
      cases he : entry? es p with
      | none => simp [he] at h
      | some k =>
        rw [he] at h
        exact ih (isSound_of_mem hn (mem_of_entry?_eq_some he)) h

end Node

/-- A tree that a system can hold, with a working directory that has a path. -/
structure FileTree.Sound (t : FileTree) : Prop where
  /-- Everything below the root is sound. -/
  root : t.root.isSound = true
  /-- The place of the working directory is one of names. -/
  cwd : ∀ name ∈ t.cwd, isEntryName name = true

/-- Wherever a path starts, it starts at a place of names. -/
theorem FileTree.Sound.start {t : FileTree} (ht : t.Sound) (a : Anchor) :
    ∀ name ∈ t.start a, isEntryName name = true := by
  cases a with
  | here => exact ht.cwd
  | root => exact fun _ h => absurd h List.not_mem_nil
  | doubleRoot => exact fun _ h => absurd h List.not_mem_nil

end RouteAudit
