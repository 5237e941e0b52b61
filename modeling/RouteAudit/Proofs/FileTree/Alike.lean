import RouteAudit.Proofs.FileTree.Listing

/-!
# Trees that differ only in the order of their entries

A system lists the entries of a directory in an order of its own, and here that order is the order
of a list.  Two trees are *alike* when the same nodes are at the same places, so that only those
orders can differ.  Following a path never looks at the order, and so alike trees show the same
entries under every path (`FileTree.Alike.shows`).  Reordering the entries of a directory gives a
tree that is alike (`FileTree.alike_of_perm`).
-/

set_option autoImplicit false

namespace RouteAudit

/-- What a node is without what is in it. -/
def Node.bare : Node → Node
  | .dir _ => .dir []
  | n => n

/-- What a path leads to, without what is in it. -/
def Target.bare : Target → Target
  | .node place n => .node place n.bare
  | .vacant place => .vacant place

theorem Node.isDir_bare (n : Node) : n.bare.isDir = n.isDir := by cases n <;> rfl

namespace FileTree

/-- The same nodes at the same places. -/
structure Alike (t u : FileTree) : Prop where
  /-- The working directories are at the same place. -/
  cwd : t.cwd = u.cwd
  /-- At every place there is the same node, up to the order of entries. -/
  nodes : ∀ place, (t.root.at? place).map Node.bare = (u.root.at? place).map Node.bare

/-- What is found without what is in it. -/
def bareFound (found : Except PathFault Target) : Except PathFault Target := found.map Target.bare

/-- Two ways of following paths lead to the same. -/
def SameWay (way way' : List String → List String → Except PathFault Target) : Prop :=
  ∀ place parts, bareFound (way place parts) = bareFound (way' place parts)

theorem sameWay_follow {root root' : Node}
    (hr : ∀ place, (root.at? place).map Node.bare = (root'.at? place).map Node.bare)
    {jump jump' : List String → List String → Except PathFault Target} (hj : SameWay jump jump') :
    SameWay (follow root .look jump) (follow root' .look jump') := by
  intro place parts
  induction parts generalizing place with
  | nil =>
    have h := hr place
    rw [follow, follow]
    cases hn : root.at? place <;> cases hn' : root'.at? place <;> simp_all [bareFound, Target.bare,
      Except.map]
  | cons part rest ih =>
    have h := hr place
    rw [follow_look_cons, follow_look_cons]
    cases hn : root.at? place with
    | none =>
      rw [hn, Option.map_none, eq_comm, Option.map_eq_none_iff] at h
      rw [h]
    | some n =>
      rw [hn, Option.map_some, eq_comm, Option.map_eq_some_iff] at h
      obtain ⟨n', hn', hbare⟩ := h
      rw [hn']
      cases n with
      | file bytes => cases n' <;> simp_all [Node.bare]
      | link target => cases n' <;> simp_all [Node.bare]
      | dir es =>
        cases n' with
        | file bytes => simp [Node.bare] at hbare
        | link target => simp [Node.bare] at hbare
        | dir es' =>
          have he := hr (place ++ [part])
          rw [Node.at?_concat hn, Node.at?_concat hn'] at he
          -- the two directories agree on the entry that is looked up, which is all that is used
          dsimp only
          split
          · exact ih _
          · split
            · exact ih _
            · split
              · rfl
              · cases hm : Node.entry? es part with
                | none =>
                  rw [hm, Option.map_none, eq_comm, Option.map_eq_none_iff] at he
                  rw [he]
                | some m =>
                  rw [hm, Option.map_some, eq_comm, Option.map_eq_some_iff] at he
                  obtain ⟨m', hm', hb⟩ := he
                  rw [hm']
                  cases m <;> cases m' <;> simp only [Node.bare, reduceCtorEq, Node.link.injEq] at hb
                  · exact ih _
                  · exact ih _
                  · subst hb
                    exact hj _ _

theorem sameWay_followWithin {root root' : Node}
    (hr : ∀ place, (root.at? place).map Node.bare = (root'.at? place).map Node.bare)
    (links : Nat) : SameWay (followWithin root .look links) (followWithin root' .look links) := by
  induction links with
  | zero => exact sameWay_follow hr fun _ _ => rfl
  | succ links ih => exact sameWay_follow hr ih

namespace Alike

variable {t u : FileTree}

theorem symm (h : Alike t u) : Alike u t := ⟨h.cwd.symm, fun place => (h.nodes place).symm⟩

/-- A path leads to the same in both. -/
theorem find (h : Alike t u) (p : Path) :
    bareFound (t.find .look p) = bareFound (u.find .look p) := by
  have hstart : t.start p.anchor = u.start p.anchor := by
    cases p.anchor <;> simp only [FileTree.start, h.cwd]
  rw [FileTree.find, FileTree.find, hstart]
  split
  · rfl
  · split
    · rfl
    · exact sameWay_followWithin h.nodes _ _ _

/-- A directory that can be listed in one can be listed in the other, with the same entries. -/
theorem list (h : Alike t u) {p : Path} {es : List (String × Node)} (hl : t.list p = .ok es) :
    ∃ es', u.list p = .ok es' ∧
      ∀ name, (Node.entry? es name).map Node.bare = (Node.entry? es' name).map Node.bare := by
  obtain ⟨q, hq⟩ := list_eq_ok_iff.1 hl
  have hf := h.find p
  rw [hq] at hf
  cases hu : u.find .look p with
  | error e => simp [hu, bareFound, Except.map] at hf
  | ok target =>
    cases target with
    | vacant place => simp [hu, bareFound, Except.map, Target.bare] at hf
    | node place n =>
      simp only [hu, bareFound, Except.map, Target.bare, Except.ok.injEq, Target.node.injEq] at hf
      obtain ⟨rfl, hb⟩ := hf
      cases n with
      | file bytes => simp [Node.bare] at hb
      | link target => simp [Node.bare] at hb
      | dir es' =>
        refine ⟨es', list_eq_ok_iff.2 ⟨_, hu⟩, fun name => ?_⟩
        rw [← Node.at?_concat (at?_of_find hq), ← Node.at?_concat (at?_of_find hu)]
        exact h.nodes _

theorem canList (h : Alike t u) {p : Path} (hc : t.CanList p) : u.CanList p := by
  obtain ⟨es, hl⟩ := hc
  obtain ⟨es', hl', -⟩ := h.list hl
  exact ⟨es', hl'⟩

/-- **Alike trees show the same entries.** -/
theorem shows (h : Alike t u) (ht : t.Sound) {p : Path} {name : String} {directory : Bool}
    (hs : t.Shows p name directory) : u.Shows p name directory := by
  obtain ⟨es, n, hl, hmem, hdir⟩ := hs
  obtain ⟨es', hl', he⟩ := h.list hl
  have hn := he name
  rw [(Node.entry?_eq_some_iff (areSound_of_list ht hl)).2 hmem, Option.map_some, eq_comm,
    Option.map_eq_some_iff] at hn
  obtain ⟨n', hn', hb⟩ := hn
  refine ⟨es', n', hl', Node.mem_of_entry?_eq_some hn', ?_⟩
  rw [← hdir, ← Node.isDir_bare n', hb, Node.isDir_bare]

end Alike
/-- The root listed in another order. -/
theorem alike_of_perm {es es' : List (String × Node)} (hs : Node.areSound es = true)
    (hp : es.Perm es') (cwd : List String) : Alike ⟨.dir es, cwd⟩ ⟨.dir es', cwd⟩ := by
  have hnd : (es.map Prod.fst).Nodup := (Node.areSound_iff.1 hs).2
  have hnd' : (es'.map Prod.fst).Nodup := (hp.map Prod.fst).nodup_iff.1 hnd
  have hentry : Node.entry? es = Node.entry? es' := by
    funext name
    refine Option.ext fun n => ⟨fun h => ?_, fun h => ?_⟩
    · exact Node.entry?_of_mem hnd' (hp.mem_iff.1 (Node.mem_of_entry?_eq_some h))
    · exact Node.entry?_of_mem hnd (hp.mem_iff.2 (Node.mem_of_entry?_eq_some h))
  refine ⟨rfl, fun place => ?_⟩
  cases place with
  | nil => rfl
  | cons name rest => simp only [Node.at?, hentry]

end FileTree
end RouteAudit
