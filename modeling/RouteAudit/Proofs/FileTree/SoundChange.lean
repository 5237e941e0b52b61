import RouteAudit.Proofs.FileTree.PathText

/-!
# Changes keep a tree sound

Every change of a tree puts one node at one place.  So a change keeps a tree sound if the names of
the place are good, and they are: a part of a path becomes a name of a place only after it was seen
to be short enough and to lead somewhere, it has no slash in it because it comes from splitting a
text at its slashes, and it has no null character because a path with one is refused and no link of
a sound tree has one.

* `Node.isSound_put` — putting a sound node at a place of good names;
* `FileTree.isEntryName_of_find` — every place that a path leads to has good names;
* `FileTree.Sound.make`, `FileTree.Sound.makeDirs`, `FileTree.Sound.write` — making directories and
  writing files;
* `FileTree.Sound.plant`, `FileTree.sound_planted` — planting files, directories and links keeps a
  tree sound, so that whatever is planted into the empty tree gives a sound one.
-/

set_option autoImplicit false

namespace RouteAudit

/-! ## Putting a node -/

namespace Node

theorem mem_of_mem_putEntry {name : String} {n : Node} {es : List (String × Node)}
    {e : String × Node} (h : e ∈ putEntry name n es) : e = (name, n) ∨ e ∈ es := by
  induction es with
  | nil => exact .inl (List.mem_singleton.1 h)
  | cons e' es ih =>
    obtain ⟨k, m⟩ := e'
    rw [putEntry] at h
    split at h
    · rename_i hk
      rcases List.mem_cons.1 h with he | he
      · exact .inl (hk ▸ he)
      · exact .inr (List.mem_cons_of_mem _ he)
    · rcases List.mem_cons.1 h with he | he
      · exact .inr (he ▸ List.mem_cons_self)
      · exact (ih he).imp_right (List.mem_cons_of_mem _)

/-- No name comes up twice by putting an entry. -/
theorem nodup_putEntry {es : List (String × Node)} (hnd : (es.map Prod.fst).Nodup) (name : String)
    (n : Node) : ((putEntry name n es).map Prod.fst).Nodup := by
  induction es with
  | nil => simp [putEntry]
  | cons e es ih =>
    obtain ⟨k, m⟩ := e
    rw [List.map_cons, List.nodup_cons] at hnd
    rw [putEntry]
    split
    · rw [List.map_cons, List.nodup_cons]
      exact hnd
    · rename_i hk
      rw [List.map_cons, List.nodup_cons]
      refine ⟨fun hmem => ?_, ih hnd.2⟩
      obtain ⟨e, he, hek⟩ := List.mem_map.1 hmem
      rcases mem_of_mem_putEntry he with rfl | he
      · exact hk hek.symm
      · exact hnd.1 (List.mem_map.2 ⟨e, he, hek⟩)

theorem areSound_putEntry {es : List (String × Node)} (hes : areSound es = true) {name : String}
    (hname : isEntryName name = true) {n : Node} (hn : n.isSound = true) :
    areSound (putEntry name n es) = true := by
  obtain ⟨hall, hnd⟩ := areSound_iff.1 hes
  refine areSound_iff.2 ⟨fun e he => ?_, nodup_putEntry hnd name n⟩
  rcases mem_of_mem_putEntry he with rfl | he
  · exact ⟨hname, hn⟩
  · exact hall e he

/-- **Putting a sound node at a place of good names.** -/
theorem isSound_put {n : Node} (hn : n.isSound = true) {place : List String}
    (hplace : ∀ name ∈ place, isEntryName name = true) {m : Node} (hm : m.isSound = true) :
    (put n m place).isSound = true := by
  induction place generalizing m with
  | nil => exact hn
  | cons name rest ih =>
    obtain ⟨hname, hrest⟩ := List.forall_mem_cons.1 hplace
    cases m with
    | file bytes => simpa only [put] using hm
    | link target => simpa only [put] using hm
    | dir es =>
      cases rest with
      | nil => exact areSound_putEntry hm hname hn
      | cons next rest =>
        rw [put]
        · cases he : entry? es name with
          | none => exact hm
          | some k =>
            have hk : k.isSound = true := isSound_of_mem hm (mem_of_entry?_eq_some he)
            exact areSound_putEntry hm hname (ih hrest hk)
        · exact List.cons_ne_nil next rest

end Node

/-! ## Places that a path leads to -/

/-- A part that can come up on the way along a path. -/
def Path.IsPlain (part : String) : Prop := IsPiece part ∧ '\x00' ∉ part.toList

theorem Text.mem_of_mem_splitAt {p : Char → Bool} {s w : List Char} (hw : w ∈ splitAt p s)
    {c : Char} (hc : c ∈ w) : c ∈ s := by
  induction s generalizing w with
  | nil =>
    rw [splitAt, List.mem_singleton] at hw
    rwa [hw] at hc
  | cons d s ih =>
    obtain ⟨v, vs, hv⟩ := List.exists_cons_of_ne_nil (splitAt_ne_nil p s)
    rw [hv] at ih
    rw [splitAt, hv] at hw
    split at hw
    · rcases List.mem_cons.1 hw with rfl | hw
      · exact absurd hc List.not_mem_nil
      · exact List.mem_cons_of_mem d (ih hw hc)
    · rcases List.mem_cons.1 hw with rfl | hw
      · rcases List.mem_cons.1 hc with rfl | hc
        · exact List.mem_cons_self
        · exact List.mem_cons_of_mem d (ih List.mem_cons_self hc)
      · exact List.mem_cons_of_mem d (ih (List.mem_cons_of_mem v hw) hc)

theorem Path.isPlain_of_mem_rawParts {s part : String} (hs : '\x00' ∉ s.toList)
    (h : part ∈ rawParts s) : IsPlain part := by
  refine ⟨isPiece_of_mem_rawParts h, fun hnull => hs ?_⟩
  obtain ⟨w, hw, rfl⟩ := List.mem_map.1 h
  rw [String.toList_ofList] at hnull
  exact Text.mem_of_mem_splitAt hw hnull

/-- The place that a path leads to, whether something is there or not. -/
def Target.place : Target → List String
  | .node place _ => place
  | .vacant place => place

namespace FileTree

/-- Whether a way of following paths leads to places of good names. -/
def LeadsToNames (way : List String → List String → Except PathFault Target) : Prop :=
  ∀ place parts target, (∀ name ∈ place, isEntryName name = true) →
    (∀ part ∈ parts, Path.IsPlain part) → way place parts = .ok target →
    ∀ name ∈ target.place, isEntryName name = true

/-- A place gets longer by names that were looked at. -/
theorem leadsToNames_follow {root : Node} (hroot : root.isSound = true) {purpose : Purpose}
    {jump : List String → List String → Except PathFault Target} (hj : LeadsToNames jump) :
    LeadsToNames (follow root purpose jump) := by
  intro place parts target hplace hparts h
  induction parts generalizing place with
  | nil =>
    rw [follow] at h
    split at h <;> cases h
    exact hplace
  | cons part rest ih =>
    obtain ⟨⟨hpiece, hnull⟩, hrest⟩ := List.forall_mem_cons.1 hparts
    rw [follow] at h
    split at h
    · rename_i es hes
      split at h
      · exact ih _ hplace hrest h
      · rename_i hproper
        split at h
        · exact ih _ (fun name hname => hplace name (List.dropLast_subset _ hname)) hrest h
        · rename_i hup
          split at h
          · cases h
          · split at h
            · cases h
            · rename_i hshort
              have hpart : isEntryName part = true :=
                isEntryName_iff.2 ⟨by simpa using hproper, hup, hpiece, hnull, by omega⟩
              have hnext : ∀ name ∈ place ++ [part], isEntryName name = true := by
                intro name hname
                rcases List.mem_append.1 hname with hname | hname
                · exact hplace name hname
                · rwa [List.mem_singleton.1 hname]
              split at h
              · split at h <;> cases h
                exact hnext
              · rename_i text hlink
                split at h
                · cases h
                  exact hnext
                · -- a link of a sound tree has no null character, and its parts no slash
                  have hlinked := Node.isSound_of_mem (Node.isSound_of_at? hroot hes)
                    (Node.mem_of_entry?_eq_some hlink)
                  have htext : '\x00' ∉ text.toList := by simpa [Node.isSound] using hlinked
                  refine hj _ _ _ (fun name hname => ?_) (fun q hq => ?_) h
                  · split at hname
                    · exact hplace name hname
                    · exact absurd hname List.not_mem_nil
                  · rcases List.mem_append.1 hq with hq | hq
                    · exact Path.isPlain_of_mem_rawParts htext hq
                    · exact hrest q hq
              · exact ih _ hnext hrest h
    · cases h
    · cases h

theorem leadsToNames_followWithin {root : Node} (hroot : root.isSound = true) (purpose : Purpose)
    (links : Nat) : LeadsToNames (followWithin root purpose links) := by
  induction links with
  | zero => exact leadsToNames_follow hroot fun _ _ _ _ _ h => by cases h
  | succ links ih => exact leadsToNames_follow hroot ih

/-- **Every place that a path leads to has good names**, in a sound tree. -/
theorem isEntryName_of_find {t : FileTree} (ht : t.Sound) {p : Path} (hp : p.Normal)
    {purpose : Purpose} {target : Target} (h : t.find purpose p = .ok target) :
    ∀ name ∈ target.place, isEntryName name = true := by
  rw [find] at h
  split at h
  · cases h
  · rename_i hnull
    split at h
    · cases h
    · refine leadsToNames_followWithin ht.root purpose maxLinks _ _ _ (ht.start p.anchor)
        (fun q hq => ⟨(hp q hq).2, fun hq' => hnull ?_⟩) h
      exact List.any_eq_true.2 ⟨q, hq, by simpa using hq'⟩

/-! ## Changes -/

variable {t : FileTree} {p : Path}

theorem Sound.putAt (ht : t.Sound) {place : List String}
    (hplace : ∀ name ∈ place, isEntryName name = true) {n : Node} (hn : n.isSound = true) :
    (t.putAt place n).Sound :=
  ⟨Node.isSound_put hn hplace ht.root, ht.cwd⟩

theorem Sound.make (ht : t.Sound) (hp : p.Normal) {n : Node} (hn : n.isSound = true) {u : FileTree}
    (h : t.make p n = .ok u) : u.Sound := by
  rw [FileTree.make] at h
  split at h <;> cases h
  rename_i hfind
  exact ht.putAt (isEntryName_of_find ht hp hfind) hn

theorem Sound.makeDir (ht : t.Sound) (hp : p.Normal) : (t.makeDir p).1.Sound := by
  rw [FileTree.makeDir]
  split
  · rename_i u hu
    exact ht.make hp rfl hu
  · split <;> exact ht

theorem Sound.write (ht : t.Sound) (hp : p.Normal) {bytes : List UInt8} {u : FileTree}
    (h : t.write p bytes = .ok u) : u.Sound := by
  rw [FileTree.write] at h
  split at h <;> cases h
  all_goals
    rename_i hfind
    exact ht.putAt (isEntryName_of_find ht hp hfind) rfl

theorem Sound.makeLink (ht : t.Sound) (hp : p.Normal) {text : String} {u : FileTree}
    (h : t.makeLink p text = .ok u) : u.Sound := by
  rw [FileTree.makeLink] at h
  split at h
  · cases h
  · rename_i hnull
    split at h
    · cases h
    · split at h
      · cases h
      · split at h <;> cases h
        rename_i hmake
        exact ht.make hp (by simpa [Node.isSound] using hnull) hmake

/-- A path whose parts are given last one first is normal together with the paths around it. -/
theorem normal_of_reverse_cons {anchor : Anchor} {part : String} {outer : List String}
    (h : (Path.mk anchor (part :: outer).reverse).Normal) :
    (Path.mk anchor outer.reverse).Normal := by
  intro q hq
  refine h q ?_
  rw [List.reverse_cons]
  exact List.mem_append_left _ hq

theorem Sound.makeDirsOf {anchor : Anchor} {parts : List String} (ht : t.Sound)
    (hp : (Path.mk anchor parts.reverse).Normal) : (makeDirsOf anchor parts t).1.Sound := by
  induction parts with
  | nil => exact ht.makeDir hp
  | cons part outer ih =>
    have houter := ih (normal_of_reverse_cons hp)
    rw [FileTree.makeDirsOf]
    split
    · rename_i u hu
      exact ht.make hp rfl hu
    · split
      · split
        · rename_i u hu
          rw [hu] at houter
          exact houter.makeDir hp
        · rename_i u f hu
          rw [hu] at houter
          exact houter
      · split <;> exact ht

theorem Sound.makeDirs (ht : t.Sound) (hp : p.Normal) : (t.makeDirs p).1.Sound :=
  ht.makeDirsOf (by rwa [List.reverse_reverse])

theorem Sound.ensureDirsOf {anchor : Anchor} {parts : List String} (ht : t.Sound)
    (hp : (Path.mk anchor parts.reverse).Normal) : (ensureDirsOf anchor parts t).1.Sound := by
  induction parts with
  | nil => exact ht.makeDir hp
  | cons part outer ih =>
    have houter := ih (normal_of_reverse_cons hp)
    rw [FileTree.ensureDirsOf]
    have hfirst : (if t.isThere ⟨anchor, outer.reverse⟩ then (t, none)
        else FileTree.ensureDirsOf anchor outer t).1.Sound := by
      split
      · exact ht
      · exact houter
    generalize (if t.isThere ⟨anchor, outer.reverse⟩ then (t, none)
      else FileTree.ensureDirsOf anchor outer t) = first at hfirst
    dsimp only
    split
    · split
      · exact hfirst.makeDir hp
      · exact hfirst
    · exact hfirst.makeDir hp

/-- A change that comes after the directories around it were made. -/
theorem sound_after {change : FileTree → Except FileFault FileTree}
    (hchange : ∀ u v : FileTree, u.Sound → change u = .ok v → v.Sound)
    {made : FileTree × Option FileFault} (hmade : made.1.Sound) :
    Sound (match made with
      | (t, some f) => (t, some f)
      | (t, none) =>
        match change t with
        | .ok t => (t, none)
        | .error f => (t, some f)).1 := by
  obtain ⟨u, fault⟩ := made
  cases fault with
  | some f => exact hmade
  | none =>
    dsimp only
    split
    · rename_i v hv
      exact hchange u v hmade hv
    · exact hmade

/-- **Planting** a file, a directory or a link keeps a tree sound, whether it succeeds or not. -/
theorem Sound.plant (ht : t.Sound) (hp : p.Normal) (n : Node) : (t.plant p n).1.Sound := by
  have hparent : p.parent.Normal := fun q hq => hp q (List.dropLast_subset _ hq)
  have haround : (FileTree.ensureDirsOf p.anchor p.parent.parts.reverse t).1.Sound :=
    ht.ensureDirsOf (by rwa [List.reverse_reverse])
  cases n with
  | dir es => exact ht.ensureDirsOf (by rwa [List.reverse_reverse])
  | file bytes => exact sound_after (fun _ _ hu hv => hu.write hp hv) haround
  | link text => exact sound_after (fun _ _ hu hv => hu.makeLink hp hv) haround

theorem sound_empty : empty.Sound := ⟨rfl, fun _ h => absurd h List.not_mem_nil⟩

/-- **Whatever is planted into the empty tree gives a sound tree.** -/
theorem sound_planted (steps : List (String × Node)) :
    (steps.foldl (fun t s => (t.plant (Path.ofString s.1) s.2).1) empty).Sound :=
  List.foldlRecOn (motive := Sound) steps _ sound_empty
    fun _ ht s _ => ht.plant (Path.normal_ofString s.1) s.2

end FileTree
end RouteAudit
