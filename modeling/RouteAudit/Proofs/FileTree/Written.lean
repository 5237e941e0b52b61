import RouteAudit.Proofs.FileTree.Alike
import RouteAudit.Proofs.FileTree.Resolve

/-!
# What a change does to the files

Every change of a tree puts one node at one place, and all other places stay as they are, up to the
entries of the directories around it.  So a file that was written is there when its path is followed
once more, and making directories changes no file.

## What is here

* `Node.at?_put_self`, `Node.bare_at?_put` — the place where a node was put, and all other places;
* `FileTree.find_look` — whatever a path is followed for, it leads to the same;
* `FileTree.Grown`, `FileTree.find_of_grown` — a tree in which everything is still there, where a
  path leads to where it led;
* `FileTree.read_of_write` — a file that was written can be read;
* `FileTree.MoreDirs`, `FileTree.moreDirs_makeDirs` — a tree with new directories in it, which is
  what making directories gives;
* `FileTree.SameFiles`, `FileTree.sameFiles_makeDirs` — the same files at the same places, which
  new directories keep.
-/

set_option autoImplicit false

namespace RouteAudit

namespace Node

/-! ## Putting a node -/

/-- What putting a node below a directory does to its entries. -/
theorem exists_put_dir (n : Node) (es : List (String × Node)) (name : String)
    (rest : List String) :
    ∃ es', put n (.dir es) (name :: rest) = .dir es' ∧
      (∀ other, other ≠ name → entry? es' other = entry? es other) ∧
      entry? es' name = if rest = [] then some n else (Node.entry? es name).map (put n · rest) := by
  cases rest with
  | nil =>
    exact ⟨_, by rw [put], fun _ h => entry?_putEntry_of_ne h n es, entry?_putEntry name n es⟩
  | cons next rest =>
    rw [if_neg (List.cons_ne_nil next rest)]
    cases he : entry? es name with
    | none => exact ⟨es, by simp [put, he], fun _ _ => rfl, he⟩
    | some m =>
      exact ⟨putEntry name (put n m (next :: rest)) es, by simp [put, he],
        fun _ h => entry?_putEntry_of_ne h _ es, entry?_putEntry name _ es⟩

theorem put_cons_of_not_isDir {root : Node} (h : root.isDir = false) (n : Node) (name : String)
    (rest : List String) : put n root (name :: rest) = root := by
  cases root with
  | dir es => cases h
  | file bytes => simp [put]
  | link target => simp [put]

@[simp] theorem at?_dir_cons (es : List (String × Node)) (name : String) (rest : List String) :
    (Node.dir es).at? (name :: rest) = (Node.entry? es name).bind fun m => m.at? rest := by
  rw [at?]
  cases entry? es name <;> rfl

/-- A place that there can be something at: the root, or an entry of a directory. -/
def IsPlace (root : Node) (place : List String) : Prop :=
  place = [] ∨ ∃ es, root.at? place.dropLast = some (.dir es)

theorem IsPlace.of_at? {root n : Node} {place : List String} (h : root.at? place = some n) :
    IsPlace root place := by
  rcases List.eq_nil_or_concat place with rfl | ⟨front, name, rfl⟩
  · exact .inl rfl
  · rw [List.concat_eq_append, at?_append] at h
    obtain ⟨m, hm, hname⟩ := Option.bind_eq_some_iff.1 h
    rw [List.concat_eq_append, IsPlace, List.dropLast_concat]
    cases m with
    | dir es => exact .inr ⟨es, hm⟩
    | file bytes => cases hname
    | link target => cases hname

/-- **A node is where it was put.** -/
theorem at?_put_self {root : Node} {place : List String} (h : IsPlace root place) (n : Node) :
    (put n root place).at? place = some n := by
  induction place generalizing root with
  | nil => rw [put, at?]
  | cons name rest ih =>
    obtain ⟨es, hes⟩ := h.resolve_left (List.cons_ne_nil name rest)
    obtain ⟨es', rfl⟩ : ∃ es', root = .dir es' := by
      cases root with
      | dir es' => exact ⟨es', rfl⟩
      | file bytes => cases rest <;> cases hes
      | link target => cases rest <;> cases hes
    obtain ⟨below, hput, -, hname⟩ := exists_put_dir n es' name rest
    rw [hput, at?_dir_cons, hname]
    cases rest with
    | nil => rfl
    | cons next rest =>
      rw [List.dropLast_cons_cons, at?_dir_cons] at hes
      obtain ⟨m, hm, hrest⟩ := Option.bind_eq_some_iff.1 hes
      rw [if_neg (List.cons_ne_nil next rest), hm]
      exact ih (.inr ⟨es, hrest⟩)

/-- **All other places stay as they are**, up to the entries of directories. -/
theorem bare_at?_put {root : Node} {place other : List String} (h : ¬ place <+: other) (n : Node) :
    ((put n root place).at? other).map bare = (root.at? other).map bare := by
  induction place generalizing root other with
  | nil => exact absurd List.nil_prefix h
  | cons name rest ih =>
    cases hdir : root.isDir with
    | false => rw [put_cons_of_not_isDir hdir]
    | true =>
      obtain ⟨es, rfl⟩ := isDir_eq_true_iff.1 hdir
      obtain ⟨below, hput, hothers, hname⟩ := exists_put_dir n es name rest
      rw [hput]
      cases other with
      | nil => rfl
      | cons first others =>
        rw [at?_dir_cons, at?_dir_cons]
        by_cases hfirst : first = name
        · subst hfirst
          rw [List.cons_prefix_cons, not_and] at h
          have hrest : rest ≠ [] := by
            rintro rfl
            exact h rfl List.nil_prefix
          rw [hname, if_neg hrest]
          cases entry? es first with
          | none => rfl
          | some m => exact ih (h rfl)
        · rw [hothers first hfirst]

section
variable {a b : Option Node}

/-- What is left of a node without what is in it tells a file, a link and a directory apart. -/
theorem eq_file_of_bare (h : a.map bare = b.map bare) {bytes : List UInt8}
    (ha : a = some (.file bytes)) : b = some (.file bytes) := by
  rw [ha, Option.map_some, eq_comm] at h
  obtain ⟨n, rfl, hn⟩ := Option.map_eq_some_iff.1 h
  cases n with
  | file bytes' => exact congrArg some hn
  | dir es => cases hn
  | link target => cases hn

@[inherit_doc eq_file_of_bare]
theorem eq_link_of_bare (h : a.map bare = b.map bare) {target : String}
    (ha : a = some (.link target)) : b = some (.link target) := by
  rw [ha, Option.map_some, eq_comm] at h
  obtain ⟨n, rfl, hn⟩ := Option.map_eq_some_iff.1 h
  cases n with
  | file bytes => cases hn
  | dir es => cases hn
  | link text => exact congrArg some hn

@[inherit_doc eq_file_of_bare]
theorem exists_dir_of_bare (h : a.map bare = b.map bare) {es : List (String × Node)}
    (ha : a = some (.dir es)) : ∃ es', b = some (.dir es') := by
  rw [ha, Option.map_some, eq_comm] at h
  obtain ⟨n, rfl, hn⟩ := Option.map_eq_some_iff.1 h
  cases n with
  | file bytes => cases hn
  | dir es' => exact ⟨es', rfl⟩
  | link target => cases hn

end

/-- Nothing is in a node that is the same without what is in it. -/
theorem at?_cons_of_bare {n : Node} (h : n.bare = n) (name : String) (rest : List String) :
    n.at? (name :: rest) = none := by
  cases n with
  | file b => rfl
  | link target => rfl
  | dir es =>
    cases h
    rfl

/-- When nothing is behind a place, before and after, then only what is at the place itself is
different. -/
theorem bare_at?_of_ne {root root' n : Node} {q : List String} (hself : root'.at? q = some n)
    (hn : n.bare = n)
    (hothers : ∀ x, ¬ q <+: x → (root'.at? x).map bare = (root.at? x).map bare)
    (hbehind : ∀ x m, root.at? x = some m → q <+: x → x = q) {x : List String} (hne : x ≠ q) :
    (root'.at? x).map bare = (root.at? x).map bare := by
  by_cases hx : q <+: x
  · have hnone : root.at? x = none :=
      Option.eq_none_iff_forall_ne_some.2 fun m hm => hne (hbehind x m hm hx)
    obtain ⟨back, rfl⟩ := hx
    obtain ⟨name, rest, rfl⟩ : ∃ name rest, back = name :: rest := by
      refine List.exists_cons_of_ne_nil ?_
      rintro rfl
      exact hne (List.append_nil q)
    rw [hnone, at?_append, hself, Option.bind_some, at?_cons_of_bare hn]
  · exact hothers x hx

end Node

namespace FileTree

variable {root root' : Node}

/-! ## Where a path leads -/

/-- Whether what is found for a purpose is found for looking too: links that are looked at
themselves are not. -/
def Purpose.Sees (purpose : Purpose) (target : Target) : Prop :=
  purpose = .lookAtLink → ∃ q, target = .vacant q

theorem look_of_follow {purpose : Purpose}
    {jump jump' : List String → List String → Except PathFault Target} {target : Target}
    (hsees : purpose.Sees target)
    (hj : ∀ place parts, jump place parts = .ok target → jump' place parts = .ok target)
    {place parts : List String} (h : follow root purpose jump place parts = .ok target) :
    follow root .look jump' place parts = .ok target := by
  induction parts generalizing place with
  | nil => simpa only [follow] using h
  | cons part rest ih =>
    rw [follow] at h
    rw [follow_look_cons]
    cases hplace : root.at? place with
    | none => simp [hplace] at h
    | some m =>
      cases m with
      | file bytes => simp [hplace] at h
      | link text => simp [hplace] at h
      | dir es =>
        simp only [hplace] at h
        dsimp only
        split at h
        · rename_i hproper
          rw [if_pos hproper]
          exact ih h
        · rename_i hproper
          rw [if_neg hproper]
          split at h
          · rename_i hup
            rw [if_pos hup]
            exact ih h
          · rename_i hup
            rw [if_neg hup]
            split at h
            · cases h
            · split at h
              · cases h
              · rename_i hshort
                rw [if_neg hshort]
                cases hentry : Node.entry? es part with
                | none => simpa only [hentry] using h
                | some m =>
                  cases m with
                  | file bytes => exact ih (by simpa only [hentry] using h)
                  | dir below => exact ih (by simpa only [hentry] using h)
                  | link text =>
                    simp only [hentry] at h
                    split at h
                    · rename_i hlook
                      simp only [Bool.and_eq_true, decide_eq_true_eq] at hlook
                      obtain ⟨q, rfl⟩ := hsees hlook.2
                      cases h
                    · exact hj _ _ h

theorem look_of_followWithin {purpose : Purpose} {target : Target} (hsees : purpose.Sees target)
    {links : Nat} {place parts : List String}
    (h : followWithin root purpose links place parts = .ok target) :
    followWithin root .look links place parts = .ok target := by
  induction links generalizing place parts with
  | zero => exact look_of_follow hsees (fun _ _ h => by cases h) h
  | succ links ih => exact look_of_follow hsees (fun _ _ => ih) h

/-- **Whatever a path is followed for, it leads to the same.** -/
theorem find_look {t : FileTree} {purpose : Purpose} {p : Path} {target : Target}
    (hsees : purpose.Sees target) (h : t.find purpose p = .ok target) :
    t.find .look p = .ok target := by
  rw [find] at h ⊢
  split at h
  · cases h
  · rename_i hnull
    rw [if_neg hnull]
    split at h
    · cases h
    · rename_i hlong
      rw [if_neg hlong]
      exact look_of_followWithin hsees h

/-- Nothing is at the place, but it is in a directory. -/
def IsVacant (root : Node) (q : List String) : Prop :=
  root.at? q = none ∧ root.IsPlace q

theorem isVacant_of_follow {jump : List String → List String → Except PathFault Target}
    {q : List String} (hj : ∀ place parts, jump place parts = .ok (.vacant q) → IsVacant root q)
    {place parts : List String} (h : follow root .look jump place parts = .ok (.vacant q)) :
    IsVacant root q := by
  induction parts generalizing place with
  | nil =>
    rw [follow] at h
    split at h <;> cases h
  | cons part rest ih =>
    rw [follow_look_cons] at h
    split at h
    · rename_i es hplace
      split at h
      · exact ih h
      · split at h
        · exact ih h
        · split at h
          · cases h
          · split at h
            · rename_i hentry
              split at h <;> cases h
              refine ⟨by rw [Node.at?_concat hplace, hentry], .inr ⟨es, ?_⟩⟩
              rw [List.dropLast_concat, hplace]
            · exact hj _ _ h
            · exact ih h
    · cases h
    · cases h

theorem isVacant_of_followWithin {links : Nat} {place parts q : List String}
    (h : followWithin root .look links place parts = .ok (.vacant q)) : IsVacant root q := by
  induction links generalizing place parts with
  | zero => exact isVacant_of_follow (fun _ _ h => by cases h) h
  | succ links ih => exact isVacant_of_follow (fun _ _ => ih) h

/-- A path that leads to nothing leads to where something can be. -/
theorem isVacant_of_find {t : FileTree} {p : Path} {q : List String}
    (h : t.find .look p = .ok (.vacant q)) : IsVacant t.root q := by
  rw [find] at h
  split at h
  · cases h
  · split at h
    · cases h
    · exact isVacant_of_followWithin h

/-! ## Following a path once more -/

/-- The second root has whatever the first one has, up to the bytes of files and the entries of
directories, and no other links. -/
structure Grown (root root' : Node) : Prop where
  dir : ∀ x es, root.at? x = some (.dir es) → ∃ es', root'.at? x = some (.dir es')
  file : ∀ x b, root.at? x = some (.file b) → ∃ b', root'.at? x = some (.file b')
  link : ∀ x target, root.at? x = some (.link target) ↔ root'.at? x = some (.link target)

namespace Grown

theorem refl (root : Node) : Grown root root :=
  ⟨fun _ es h => ⟨es, h⟩, fun _ b h => ⟨b, h⟩, fun _ _ => Iff.rfl⟩

theorem trans {root'' : Node} (h : Grown root root') (h' : Grown root' root'') :
    Grown root root'' where
  dir x es hx := by
    obtain ⟨es', hx'⟩ := h.dir x es hx
    exact h'.dir x es' hx'
  file x b hx := by
    obtain ⟨b', hx'⟩ := h.file x b hx
    exact h'.file x b' hx'
  link x target := (h.link x target).trans (h'.link x target)

/-- A node that is no link, put where there was a node of its kind or nothing. -/
theorem of_ne {n : Node} {q : List String} (hself : root'.at? q = some n)
    (hothers : ∀ x, x ≠ q → (root'.at? x).map Node.bare = (root.at? x).map Node.bare)
    (hold : ∀ m, root.at? q = some m → ∃ b b', m = .file b ∧ n = .file b')
    (hlink : ∀ target, n ≠ .link target) : Grown root root' := by
  have hfile : ∀ {x m}, (∀ b, m ≠ .file b) → root.at? x = some m → x ≠ q := by
    rintro x m hm hx rfl
    obtain ⟨b, -, rfl, -⟩ := hold m hx
    exact hm b rfl
  refine ⟨fun x es hx => ?_, fun x b hx => ?_, fun x target => ⟨fun hx => ?_, fun hx => ?_⟩⟩
  · have hne : x ≠ q := hfile (fun _ h => by cases h) hx
    exact Node.exists_dir_of_bare (hothers x hne).symm hx
  · by_cases hne : x = q
    · subst hne
      obtain ⟨_, b', -, rfl⟩ := hold _ hx
      exact ⟨b', hself⟩
    · exact ⟨b, Node.eq_file_of_bare (hothers x hne).symm hx⟩
  · have hne : x ≠ q := hfile (fun _ h => by cases h) hx
    exact Node.eq_link_of_bare (hothers x hne).symm hx
  · have hne : x ≠ q := by
      rintro rfl
      exact hlink target (Option.some.inj (hself.symm.trans hx))
    exact Node.eq_link_of_bare (hothers x hne) hx

/-- **A path leads to where it led**, also to where nothing was, if there is something by now. -/
theorem follow (h : Grown root root')
    {jump jump' : List String → List String → Except PathFault Target}
    (hj : ∀ place parts target n, jump place parts = .ok target →
      root'.at? target.place = some n → jump' place parts = .ok (.node target.place n))
    {place parts : List String} {target : Target} {n : Node}
    (hfollow : FileTree.follow root .look jump place parts = .ok target)
    (hn : root'.at? target.place = some n) :
    FileTree.follow root' .look jump' place parts = .ok (.node target.place n) := by
  induction parts generalizing place with
  | nil =>
    rw [FileTree.follow] at hfollow
    split at hfollow <;> cases hfollow
    rw [Target.place] at hn ⊢
    rw [FileTree.follow, hn]
  | cons part rest ih =>
    rw [follow_look_cons] at hfollow
    rw [follow_look_cons]
    cases hplace : root.at? place with
    | none => simp [hplace] at hfollow
    | some m =>
      cases m with
      | file b => simp [hplace] at hfollow
      | link text => simp [hplace] at hfollow
      | dir es =>
        obtain ⟨es', hplace'⟩ := h.dir place es hplace
        simp only [hplace] at hfollow
        rw [hplace']
        dsimp only
        split at hfollow
        · rename_i hproper
          rw [if_pos hproper]
          exact ih hfollow
        · rename_i hproper
          rw [if_neg hproper]
          split at hfollow
          · rename_i hup
            rw [if_pos hup]
            exact ih hfollow
          · rename_i hup
            rw [if_neg hup]
            split at hfollow
            · cases hfollow
            · rename_i hshort
              rw [if_neg hshort, ← Node.at?_concat hplace']
              have hconcat := Node.at?_concat hplace part
              cases hentry : Node.entry? es part with
              | none =>
                simp only [hentry] at hfollow
                split at hfollow <;> cases hfollow
                rename_i hrest
                rw [Target.place] at hn ⊢
                rw [List.isEmpty_iff.1 hrest, hn]
                cases n with
                | file b => dsimp only; rw [FileTree.follow, hn]
                | dir below => dsimp only; rw [FileTree.follow, hn]
                | link text =>
                  rw [← h.link, hconcat, hentry] at hn
                  cases hn
              | some m =>
                rw [hentry] at hconcat
                cases m with
                | file b =>
                  obtain ⟨b', hb'⟩ := h.file _ b hconcat
                  rw [hb']
                  exact ih (by simpa only [hentry] using hfollow)
                | dir below =>
                  obtain ⟨below', hbelow'⟩ := h.dir _ below hconcat
                  rw [hbelow']
                  exact ih (by simpa only [hentry] using hfollow)
                | link text =>
                  rw [(h.link _ text).1 hconcat]
                  exact hj _ _ _ _ (by simpa only [hentry] using hfollow) hn

theorem followWithin (h : Grown root root') {links : Nat} {place parts : List String}
    {target : Target} {n : Node}
    (hfollow : FileTree.followWithin root .look links place parts = .ok target)
    (hn : root'.at? target.place = some n) :
    FileTree.followWithin root' .look links place parts = .ok (.node target.place n) := by
  induction links generalizing place parts target n with
  | zero => exact h.follow (fun _ _ _ _ h => by cases h) hfollow hn
  | succ links ih => exact h.follow (fun _ _ _ _ => ih) hfollow hn

end Grown

variable {t u : FileTree} {p : Path}

/-- **A path leads to where it led** in a tree that has grown. -/
theorem find_of_grown (hcwd : u.cwd = t.cwd) (h : Grown t.root u.root) {target : Target} {n : Node}
    (hfind : t.find .look p = .ok target) (hn : u.root.at? target.place = some n) :
    u.find .look p = .ok (.node target.place n) := by
  have hstart : u.start p.anchor = t.start p.anchor := by
    cases hp : p.anchor <;> simp [start, hcwd]
  rw [find] at hfind ⊢
  split at hfind
  · cases hfind
  · rename_i hnull
    rw [if_neg hnull]
    split at hfind
    · cases hfind
    · rename_i hlong
      rw [if_neg hlong, hstart]
      exact h.followWithin hfind hn

/-! ## Reading what was written -/

/-- The second root is the first one with a file at a place where there was a file or nothing. -/
structure Overlay (root root' : Node) (q : List String) (bytes : List UInt8) : Prop where
  self : root'.at? q = some (.file bytes)
  others : ∀ x, ¬ q <+: x → (root'.at? x).map Node.bare = (root.at? x).map Node.bare
  /-- Nothing but a file was at the place, and nothing behind it. -/
  behind : ∀ x n, root.at? x = some n → q <+: x → x = q ∧ ∃ b, n = .file b

theorem overlay_put {q : List String} (hplace : root.IsPlace q)
    (hq : ∀ n, root.at? q = some n → ∃ b, n = .file b) (bytes : List UInt8) :
    Overlay root (Node.put (.file bytes) root q) q bytes where
  self := Node.at?_put_self hplace _
  others _ hx := Node.bare_at?_put hx _
  behind x n hn hx := by
    obtain ⟨back, rfl⟩ := hx
    rw [Node.at?_append] at hn
    obtain ⟨m, hm, hback⟩ := Option.bind_eq_some_iff.1 hn
    obtain ⟨b, rfl⟩ := hq m hm
    cases back with
    | nil =>
      cases hback
      exact ⟨List.append_nil q, b, rfl⟩
    | cons name rest => cases hback

namespace Overlay

variable {q : List String} {bytes : List UInt8}

/-- Only the place itself is different, up to the entries of directories. -/
theorem bare_of_ne (h : Overlay root root' q bytes) {x : List String} (hne : x ≠ q) :
    (root'.at? x).map Node.bare = (root.at? x).map Node.bare :=
  Node.bare_at?_of_ne h.self rfl h.others (fun x n hn hx => (h.behind x n hn hx).1) hne

theorem grown (h : Overlay root root' q bytes) : Grown root root' := by
  refine .of_ne h.self (fun x => h.bare_of_ne) (fun m hm => ?_) (fun _ h => by cases h)
  obtain ⟨-, b, rfl⟩ := h.behind q m hm (List.prefix_refl q)
  exact ⟨b, bytes, rfl, rfl⟩

end Overlay

/-- A place that a path leads to is one where something can be. -/
theorem isPlace_of_find {target : Target} (h : t.find .look p = .ok target) :
    t.root.IsPlace target.place := by
  cases target with
  | node place n => exact .of_at? (at?_of_find h)
  | vacant place => exact (isVacant_of_find h).2

/-- A path without parts leads to where it starts. -/
theorem place_of_followWithin_nil {purpose : Purpose} {links : Nat} {place : List String}
    {target : Target} (h : followWithin root purpose links place [] = .ok target) :
    target.place = place := by
  cases links <;> rw [followWithin, follow] at h <;> split at h <;> cases h <;> rfl

theorem followWithin_nil {purpose : Purpose} {links : Nat} {place : List String} {n : Node}
    (h : root.at? place = some n) :
    followWithin root purpose links place [] = .ok (.node place n) := by
  cases links <;> rw [followWithin, follow, h]

/-- A path with parts that does not lead to a directory leads to a file or to nothing. -/
theorem overlay_putAt {target : Target} (h : t.find .look p = .ok target)
    (hdir : ∀ place es, target ≠ .node place (.dir es)) (hparts : p.parts ≠ [])
    (bytes : List UInt8) :
    Overlay t.root (t.putAt target.place (.file bytes)).root target.place bytes := by
  refine overlay_put (isPlace_of_find h) (fun n hn => ?_) bytes
  cases target with
  | vacant place =>
    rw [Target.place, (isVacant_of_find h).1] at hn
    cases hn
  | node place m =>
    cases (at?_of_find h).symm.trans hn
    cases n with
    | file b => exact ⟨b, rfl⟩
    | dir es => exact absurd rfl (hdir place es)
    | link text =>
      obtain ⟨k, hleads⟩ := leads_of_find h
      obtain ⟨part, rest, hcons⟩ := List.exists_cons_of_ne_nil hparts
      rw [hcons] at hleads
      exact absurd hn (hleads.ne_link_of_cons text)

/-- A path that does not lead to a directory leads to the file that is put there. -/
theorem find_putAt {target : Target} (h : t.find .look p = .ok target)
    (hdir : ∀ place es, target ≠ .node place (.dir es)) (bytes : List UInt8) :
    (t.putAt target.place (.file bytes)).find .look p =
      .ok (.node target.place (.file bytes)) := by
  have hself := Node.at?_put_self (isPlace_of_find h) (.file bytes)
  by_cases hparts : p.parts = []
  · rw [find] at h ⊢
    split at h
    · cases h
    · rename_i hnull
      rw [if_neg hnull]
      split at h
      · cases h
      · rename_i hlong
        rw [if_neg hlong]
        rw [hparts] at h ⊢
        have hstart : (t.putAt target.place (.file bytes)).start p.anchor = target.place :=
          (place_of_followWithin_nil h).symm
        rw [hstart]
        exact followWithin_nil hself
  · have hcwd : (t.putAt target.place (.file bytes)).cwd = t.cwd := rfl
    exact find_of_grown hcwd (overlay_putAt h hdir hparts bytes).grown h hself

/-- **Writing a file** puts it where the path leads, unless that is a directory. -/
theorem exists_target_of_write {bytes : List UInt8} (h : t.write p bytes = .ok u) :
    ∃ target, t.find .look p = .ok target ∧ (∀ place es, target ≠ .node place (.dir es)) ∧
      u = t.putAt target.place (.file bytes) := by
  have hsees : ∀ target, Purpose.Sees .write target := fun _ h => absurd h (by decide)
  rw [write] at h
  split at h <;> cases h
  · rename_i place n hdir hfind
    refine ⟨_, find_look (hsees _) hfind, fun _ es heq => ?_, rfl⟩
    cases heq
    exact hdir es rfl
  · rename_i place hfind
    refine ⟨_, find_look (hsees _) hfind, fun _ _ heq => ?_, rfl⟩
    cases heq

/-- **A file that was written can be read.** -/
theorem read_of_write {bytes : List UInt8} (h : t.write p bytes = .ok u) :
    u.read p = .ok bytes := by
  obtain ⟨target, hfind, hdir, rfl⟩ := exists_target_of_write h
  rw [read, stat, find_putAt hfind hdir]

/-! ## Making directories -/

/-- The same files at the same places. -/
def SameFiles (t u : FileTree) : Prop :=
  ∀ place bytes, t.root.at? place = some (.file bytes) ↔ u.root.at? place = some (.file bytes)

theorem SameFiles.trans {v : FileTree} (h : SameFiles t u) (h' : SameFiles u v) :
    SameFiles t v := fun place bytes => (h place bytes).trans (h' place bytes)

/-- Only the place of a new directory is different, up to the entries of directories. -/
theorem bare_putAt_dir_of_ne {q : List String} (h : IsVacant t.root q) {x : List String}
    (hne : x ≠ q) : ((t.putAt q (.dir [])).root.at? x).map Node.bare =
      (t.root.at? x).map Node.bare := by
  refine Node.bare_at?_of_ne (Node.at?_put_self h.2 (.dir [])) rfl
    (fun x hx => Node.bare_at?_put hx (.dir [])) ?_ hne
  rintro x m hm ⟨back, rfl⟩
  rw [Node.at?_append, h.1] at hm
  cases hm

theorem grown_putAt_dir {q : List String} (h : IsVacant t.root q) :
    Grown t.root (t.putAt q (.dir [])).root := by
  refine .of_ne (Node.at?_put_self h.2 (.dir [])) (fun _ => bare_putAt_dir_of_ne h)
    (fun m hm => ?_) (fun _ h => by cases h)
  rw [h.1] at hm
  cases hm

/-- A new directory brings no file. -/
theorem sameFiles_putAt_dir {q : List String} (h : IsVacant t.root q) :
    SameFiles t (t.putAt q (.dir [])) := by
  intro place bytes
  have hself : (t.putAt q (.dir [])).root.at? q = some (.dir []) := Node.at?_put_self h.2 (.dir [])
  by_cases hq : place = q
  · rw [hq, hself, h.1]
    constructor <;> intro h <;> cases h
  · have hothers := bare_putAt_dir_of_ne h hq
    exact ⟨Node.eq_file_of_bare hothers.symm, Node.eq_file_of_bare hothers⟩

/-- The second tree is the first one with new directories in it. -/
inductive MoreDirs (t : FileTree) : FileTree → Prop where
  | refl : MoreDirs t t
  | putAt {u : FileTree} {q : List String} (h : MoreDirs t u) (hq : IsVacant u.root q) :
    MoreDirs t (u.putAt q (.dir []))

theorem MoreDirs.trans {v : FileTree} (h : MoreDirs t u) (h' : MoreDirs u v) : MoreDirs t v := by
  induction h' with
  | refl => exact h
  | putAt _ hq ih => exact ih.putAt hq

theorem moreDirs_of_make (h : t.make p (.dir []) = .ok u) : MoreDirs t u := by
  rw [make] at h
  split at h <;> cases h
  rename_i place hfind
  exact .putAt .refl (isVacant_of_find (find_look (fun _ => ⟨place, rfl⟩) hfind))

theorem moreDirs_makeDir (t : FileTree) (p : Path) : MoreDirs t (t.makeDir p).1 := by
  rw [makeDir]
  split
  · rename_i u hmake
    exact moreDirs_of_make hmake
  · split <;> exact .refl

theorem moreDirs_makeDirsOf (anchor : Anchor) (parts : List String) (t : FileTree) :
    MoreDirs t (makeDirsOf anchor parts t).1 := by
  induction parts with
  | nil => exact moreDirs_makeDir t _
  | cons part outer ih =>
    rw [makeDirsOf]
    split
    · rename_i u hmake
      exact moreDirs_of_make hmake
    · split
      · split
        · rename_i u hu
          rw [hu] at ih
          exact ih.trans (moreDirs_makeDir u _)
        · rename_i u f hu
          rw [hu] at ih
          exact ih
      · split <;> exact .refl

/-- **Making directories** puts new directories where nothing was, whether it succeeds or not. -/
theorem moreDirs_makeDirs (t : FileTree) (p : Path) : MoreDirs t (t.makeDirs p).1 :=
  moreDirs_makeDirsOf p.anchor p.parts.reverse t

/-- Making the directories around a file that is planted does the same. -/
theorem moreDirs_ensureDirsOf (anchor : Anchor) (parts : List String) (t : FileTree) :
    MoreDirs t (ensureDirsOf anchor parts t).1 := by
  induction parts with
  | nil => exact moreDirs_makeDir t _
  | cons part outer ih =>
    have hfirst : MoreDirs t (if t.isThere ⟨anchor, outer.reverse⟩ then (t, none)
        else ensureDirsOf anchor outer t).1 := by
      split
      · exact .refl
      · exact ih
    rw [ensureDirsOf]
    generalize (if t.isThere ⟨anchor, outer.reverse⟩ then (t, none)
      else ensureDirsOf anchor outer t) = first at hfirst
    dsimp only
    split
    · split
      · exact hfirst.trans (moreDirs_makeDir _ _)
      · exact hfirst
    · exact hfirst.trans (moreDirs_makeDir _ _)

theorem MoreDirs.sameFiles (h : MoreDirs t u) : SameFiles t u := by
  induction h with
  | refl => exact fun _ _ => Iff.rfl
  | putAt _ hq ih => exact ih.trans (sameFiles_putAt_dir hq)

/-- **Making directories keeps all files**, whether it succeeds or not. -/
theorem sameFiles_makeDirs (t : FileTree) (p : Path) : SameFiles t (t.makeDirs p).1 :=
  (moreDirs_makeDirs t p).sameFiles

end FileTree
end RouteAudit
