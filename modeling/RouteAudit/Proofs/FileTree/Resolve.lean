import RouteAudit.Proofs.FileTree.Listing
import RouteAudit.Proofs.FileTree.SoundChange
import Mathlib.Data.List.Perm.Subperm

/-!
# A path that leads somewhere can be resolved

Following a path and replacing its links are two ways along the same links.  One has a bound on the
links that it follows, the other goes down into links until it meets one that it is already inside.
Here is why the second finds its way wherever the first does.  Between them stands `Leads`, which
counts the links on the way.  The count of a link is bigger than those of the links inside it, so no
link is met inside itself, and there are no more links inside each other than there are in the tree.

## What is here

* `move?` — what one part of a path does: it leads to a place, or through a link;
* `Leads` — a path leads to a place through so many links; there is only one such place and number
  (`Leads.unique`), and a path can be cut (`Leads.split`);
* `leads_of_find` — following a path is a way along `Leads`;
* `unlinkWithin_of_leads` — and so is replacing links;
* `stepAlong` — what a part does to a place where there are no links;
* `exists_resolve` — a path that leads somewhere can be resolved.
-/

set_option autoImplicit false

namespace RouteAudit

namespace Node

/-! ## Counting links -/

mutual

/-- The places of links. -/
def linkPlaces : Node → List (List String)
  | .file _ => []
  | .link _ => [[]]
  | .dir entries => entryLinkPlaces entries

/-- The places of links among entries. -/
def entryLinkPlaces : List (String × Node) → List (List String)
  | [] => []
  | (name, n) :: rest => n.linkPlaces.map (name :: ·) ++ entryLinkPlaces rest

end

mutual

theorem length_linkPlaces (n : Node) : n.linkPlaces.length = n.linkCount :=
  match n with
  | .file _ => rfl
  | .link _ => rfl
  | .dir es => by rw [linkPlaces, linkCount, length_entryLinkPlaces es]

theorem length_entryLinkPlaces (es : List (String × Node)) :
    (entryLinkPlaces es).length = linkCounts es :=
  match es with
  | [] => rfl
  | (_, n) :: rest => by
    rw [entryLinkPlaces, linkCounts, List.length_append, List.length_map, length_linkPlaces n,
      length_entryLinkPlaces rest]

end

theorem mem_entryLinkPlaces {es : List (String × Node)} {name : String} {n : Node}
    (h : (name, n) ∈ es) {place : List String} (hplace : place ∈ n.linkPlaces) :
    name :: place ∈ entryLinkPlaces es := by
  induction es with
  | nil => cases h
  | cons e es ih =>
    rw [entryLinkPlaces, List.mem_append]
    rcases List.mem_cons.1 h with rfl | h
    · exact .inl (List.mem_map_of_mem hplace)
    · exact .inr (ih h)

/-- A link is at one of the places of links. -/
theorem mem_linkPlaces {n : Node} {place : List String} {target : String}
    (h : n.at? place = some (.link target)) : place ∈ n.linkPlaces := by
  induction place generalizing n with
  | nil =>
    cases h
    exact List.mem_singleton_self _
  | cons name rest ih =>
    cases n with
    | file bytes => cases h
    | link text => cases h
    | dir es =>
      rw [at?] at h
      cases he : entry? es name with
      | none => simp [he] at h
      | some m =>
        rw [he] at h
        exact mem_entryLinkPlaces (mem_of_entry?_eq_some he) (ih h)

/-- **There are no more places of links than links.** -/
theorem length_le_linkCount {n : Node} {places : List (List String)} (hnd : places.Nodup)
    (h : ∀ place ∈ places, ∃ target, n.at? place = some (.link target)) :
    places.length ≤ n.linkCount := by
  rw [← length_linkPlaces]
  refine (List.subperm_of_subset hnd fun place hplace => ?_).length_le
  obtain ⟨target, htarget⟩ := h place hplace
  exact mem_linkPlaces htarget

end Node

namespace FileTree

variable {root : Node}

/-! ## The way along a path -/

/-- What a part of a path does. -/
inductive Move where
  /-- It leads to a place. -/
  | to (place : List String)
  /-- It leads through a link, to where the parts of the link lead from a place. -/
  | through (place parts : List String)

/-- What a part of a path does at a place. -/
def move? (root : Node) (place : List String) (part : String) : Option Move :=
  match root.at? place with
  | some (.dir entries) =>
    if !Path.isProper part then some (.to place)
    else if part = ".." then some (.to place.dropLast)
    else
      match Node.entry? entries part with
      | none => none
      | some (.link target) =>
        some (.through (if (Path.ofString target).anchor = .here then place else [])
          (Path.rawParts target))
      | some _ => some (.to (place ++ [part]))
  | _ => none

/-- The parts lead from one place to another through so many links. -/
inductive Leads (root : Node) : Nat → List String → List String → List String → Prop where
  | here {place : List String} (h : (root.at? place).isSome = true) : Leads root 0 place [] place
  | go {links : Nat} {place next rest goal : List String} {part : String}
    (hmove : move? root place part = some (.to next)) (h : Leads root links next rest goal) :
    Leads root links place (part :: rest) goal
  | jump {links : Nat} {place origin parts rest goal : List String} {part : String}
    (hmove : move? root place part = some (.through origin parts))
    (h : Leads root links origin (parts ++ rest) goal) :
    Leads root (links + 1) place (part :: rest) goal

namespace Leads

theorem isSome_of_move? {place : List String} {part : String} {m : Move}
    (h : move? root place part = some m) : (root.at? place).isSome = true := by
  rw [move?] at h
  split at h
  · rename_i hdir
    rw [hdir]
    rfl
  · cases h

variable {k l : Nat} {place parts goal goal' : List String}

/-- **There is one way along a path.** -/
theorem unique (h : Leads root k place parts goal) (h' : Leads root l place parts goal') :
    k = l ∧ goal = goal' := by
  induction h generalizing l goal' with
  | here _ =>
    cases h'
    exact ⟨rfl, rfl⟩
  | go hmove _ ih =>
    cases h' with
    | go hmove' h' =>
      cases hmove.symm.trans hmove'
      exact ih h'
    | jump hmove' _ => cases hmove.symm.trans hmove'
  | jump hmove _ ih =>
    cases h' with
    | go hmove' _ => cases hmove.symm.trans hmove'
    | jump hmove' h' =>
      cases hmove.symm.trans hmove'
      obtain ⟨rfl, rfl⟩ := ih h'
      exact ⟨rfl, rfl⟩

/-- **A path can be cut anywhere.** -/
theorem split {front back : List String} (h : Leads root k place (front ++ back) goal) :
    ∃ m n mid, k = m + n ∧ Leads root m place front mid ∧ Leads root n mid back goal := by
  generalize hparts : front ++ back = parts at h
  induction h generalizing front with
  | here hplace =>
    obtain ⟨rfl, rfl⟩ := List.append_eq_nil_iff.1 hparts
    exact ⟨0, 0, _, rfl, .here hplace, .here hplace⟩
  | @go k place next rest goal part hmove h ih =>
    cases front with
    | nil =>
      rw [List.nil_append] at hparts
      subst hparts
      exact ⟨0, k, place, (Nat.zero_add k).symm, .here (isSome_of_move? hmove), .go hmove h⟩
    | cons p front =>
      rw [List.cons_append, List.cons.injEq] at hparts
      obtain ⟨rfl, rfl⟩ := hparts
      obtain ⟨m, n, mid, hk, hfront, hback⟩ := ih rfl
      exact ⟨m, n, mid, hk, .go hmove hfront, hback⟩
  | @jump k place origin parts rest goal part hmove h ih =>
    cases front with
    | nil =>
      rw [List.nil_append] at hparts
      subst hparts
      exact ⟨0, k + 1, place, (Nat.zero_add _).symm, .here (isSome_of_move? hmove), .jump hmove h⟩
    | cons p front =>
      rw [List.cons_append, List.cons.injEq] at hparts
      obtain ⟨rfl, rfl⟩ := hparts
      obtain ⟨m, n, mid, hk, hfront, hback⟩ := ih (List.append_assoc _ _ _)
      exact ⟨m + 1, n, mid, by omega, .jump hmove hfront, hback⟩

end Leads

/-! ## Following a path -/

/-- What following a path does at its first part. -/
theorem move?_of_follow {jump : List String → List String → Except PathFault Target}
    {place rest goal : List String} {part : String} {n : Node}
    (h : follow root .look jump place (part :: rest) = .ok (.node goal n)) :
    (∃ next, move? root place part = some (.to next) ∧
      follow root .look jump next rest = .ok (.node goal n)) ∨
    ∃ origin parts, move? root place part = some (.through origin parts) ∧
      jump origin (parts ++ rest) = .ok (.node goal n) := by
  rw [follow_look_cons] at h
  rw [move?]
  cases hplace : root.at? place with
  | none => simp [hplace] at h
  | some m =>
    cases m with
    | file bytes => simp [hplace] at h
    | link target => simp [hplace] at h
    | dir es =>
      simp only [hplace] at h
      dsimp only
      split at h
      · rename_i hproper
        exact .inl ⟨_, if_pos hproper, h⟩
      · rename_i hproper
        rw [if_neg hproper]
        split at h
        · rename_i hup
          exact .inl ⟨_, if_pos hup, h⟩
        · rename_i hup
          rw [if_neg hup]
          split at h
          · cases h
          · cases hentry : Node.entry? es part with
            | none =>
              simp only [hentry] at h
              split at h <;> cases h
            | some m =>
              cases m with
              | file bytes => exact .inl ⟨_, rfl, by simpa only [hentry] using h⟩
              | dir below => exact .inl ⟨_, rfl, by simpa only [hentry] using h⟩
              | link target => exact .inr ⟨_, _, rfl, by simpa only [hentry] using h⟩

theorem leads_of_follow {jump : List String → List String → Except PathFault Target}
    (hjump : ∀ place parts goal n, jump place parts = .ok (.node goal n) →
      ∃ k, Leads root k place parts goal)
    {place parts goal : List String} {n : Node}
    (h : follow root .look jump place parts = .ok (.node goal n)) :
    ∃ k, Leads root k place parts goal := by
  induction parts generalizing place with
  | nil =>
    obtain ⟨rfl, hplace⟩ := follow_nil_eq_ok h
    exact ⟨0, .here (by rw [hplace]; rfl)⟩
  | cons part rest ih =>
    rcases move?_of_follow h with ⟨next, hmove, hrest⟩ | ⟨origin, parts, hmove, hrest⟩
    · obtain ⟨k, hk⟩ := ih hrest
      exact ⟨k, .go hmove hk⟩
    · obtain ⟨k, hk⟩ := hjump _ _ _ _ hrest
      exact ⟨k + 1, .jump hmove hk⟩

theorem leads_of_followWithin {links : Nat} {place parts goal : List String} {n : Node}
    (h : followWithin root .look links place parts = .ok (.node goal n)) :
    ∃ k, Leads root k place parts goal := by
  induction links generalizing place parts goal n with
  | zero => exact leads_of_follow (fun _ _ _ _ h => by cases h) h
  | succ links ih => exact leads_of_follow (fun _ _ _ _ => ih) h

/-- **A path that is found leads to its place.** -/
theorem leads_of_find {t : FileTree} {p : Path} {goal : List String} {n : Node}
    (h : t.find .look p = .ok (.node goal n)) :
    ∃ k, Leads t.root k (t.start p.anchor) p.parts goal := by
  rw [find] at h
  split at h
  · cases h
  · split at h
    · cases h
    · exact leads_of_followWithin h

/-! ## Replacing links -/

section Unlink

variable {jump : List String → List String → List String → Real} {seen : List (List String)}
  {place : List String} {part : String}

theorem unlink_of_to {next : List String} (h : move? root place part = some (.to next))
    (rest : List String) :
    unlink root jump seen place (part :: rest) = unlink root jump seen next rest := by
  rw [move?] at h
  split at h
  · rename_i es hplace
    rw [unlink]
    split at h
    · rename_i hproper
      cases h
      rw [if_pos hproper]
    · rename_i hproper
      rw [if_neg hproper]
      split at h
      · rename_i hup
        cases h
        rw [if_pos hup]
      · rename_i hup
        rw [if_neg hup]
        dsimp only
        rw [Node.at?_concat hplace]
        cases hentry : Node.entry? es part with
        | none => simp [hentry] at h
        | some m => cases m <;> simp_all
  · cases h

/-- A part that leads through a link names the link. -/
theorem move?_through {origin parts : List String}
    (h : move? root place part = some (.through origin parts)) :
    Path.isProper part = true ∧ part ≠ ".." ∧ ∃ target,
      root.at? (place ++ [part]) = some (.link target) ∧ parts = Path.rawParts target ∧
      origin = if (Path.ofString target).anchor = .here then place else [] := by
  rw [move?] at h
  split at h
  · rename_i es hplace
    split at h
    · cases h
    · rename_i hproper
      split at h
      · cases h
      · rename_i hup
        refine ⟨by simpa using hproper, hup, ?_⟩
        rw [Node.at?_concat hplace]
        cases hentry : Node.entry? es part with
        | none => simp [hentry] at h
        | some m =>
          cases m with
          | file bytes => simp [hentry] at h
          | dir below => simp [hentry] at h
          | link target =>
            simp only [hentry, Option.some.injEq, Move.through.injEq] at h
            exact ⟨target, rfl, h.2.symm, h.1.symm⟩
  · cases h

theorem unlink_of_through {origin parts mid : List String}
    (h : move? root place part = some (.through origin parts)) (hseen : place ++ [part] ∉ seen)
    (hjump : jump (place ++ [part]) origin parts = ⟨mid, false⟩) (rest : List String) :
    unlink root jump seen place (part :: rest) = unlink root jump seen mid rest := by
  obtain ⟨hproper, hup, target, htarget, rfl, rfl⟩ := move?_through h
  rw [unlink, if_neg (by simp [hproper]), if_neg hup]
  simp [htarget, hseen, hjump]

end Unlink

/-- The link at a place leads somewhere, through so many links. -/
def Expands (root : Node) (link : List String) (k : Nat) : Prop :=
  ∃ place part origin parts goal, link = place ++ [part] ∧
    move? root place part = some (.through origin parts) ∧ Leads root k origin parts goal

theorem Expands.unique {link : List String} {k l : Nat} (h : Expands root link k)
    (h' : Expands root link l) : k = l := by
  obtain ⟨place, part, origin, parts, goal, rfl, hmove, hleads⟩ := h
  obtain ⟨place', part', origin', parts', goal', hlink, hmove', hleads'⟩ := h'
  obtain ⟨rfl, hpart⟩ := List.append_inj' hlink rfl
  cases hpart
  cases hmove.symm.trans hmove'
  exact (hleads.unique hleads').1

/-- The links that a way is inside of: they differ, and all that is inside of them is smaller. -/
structure Inside (root : Node) (seen : List (List String)) (k : Nat) : Prop where
  nodup : seen.Nodup
  isLink : ∀ link ∈ seen, ∃ target, root.at? link = some (.link target)
  bound : ∀ link ∈ seen, ∀ l, Expands root link l → k ≤ l

theorem Inside.mono {seen : List (List String)} {k l : Nat} (h : Inside root seen k)
    (hl : l ≤ k) : Inside root seen l :=
  ⟨h.nodup, h.isLink, fun link hlink m hm => Nat.le_trans hl (h.bound link hlink m hm)⟩

/-- **No link is inside itself**: it would be bigger than it is. -/
theorem Inside.not_mem {seen : List (List String)} {link : List String} {k l : Nat}
    (h : Inside root seen k) (hlink : Expands root link l) (hl : l < k) : link ∉ seen := fun hmem =>
  Nat.not_lt_of_le (h.bound link hmem l hlink) hl

theorem Inside.cons {seen : List (List String)} {link : List String} {target : String} {k l : Nat}
    (h : Inside root seen k) (hlink : Expands root link l) (hl : l < k)
    (htarget : root.at? link = some (.link target)) : Inside root (link :: seen) l where
  nodup := List.nodup_cons.2 ⟨h.not_mem hlink hl, h.nodup⟩
  isLink := List.forall_mem_cons.2 ⟨⟨target, htarget⟩, h.isLink⟩
  bound := by
    refine List.forall_mem_cons.2 ⟨fun m hm => ?_, (h.mono (Nat.le_of_lt hl)).bound⟩
    exact Nat.le_of_eq (hlink.unique hm)

/-- **Replacing links finds the way** of a path that leads somewhere, if it may go deep enough. -/
theorem unlinkWithin_of_leads {k : Nat} {place parts goal : List String}
    (h : Leads root k place parts goal) {seen : List (List String)} (hseen : Inside root seen k)
    {depth : Nat} (hdepth : root.linkCount < depth + seen.length) :
    unlinkWithin root depth seen place parts = ⟨goal, false⟩ := by
  -- along a path the number of links falls, or it stays and the path gets shorter
  induction k using Nat.strongRecOn generalizing place parts goal seen depth with
  | ind k ihk =>
    obtain ⟨d, rfl⟩ : ∃ d, depth = d + 1 := by
      have hlength := Node.length_le_linkCount hseen.nodup hseen.isLink
      exact ⟨depth - 1, by omega⟩
    induction parts generalizing place with
    | nil =>
      cases h
      rfl
    | cons part rest ih =>
      rw [unlinkWithin]
      cases h with
      | go hmove h =>
        rw [unlink_of_to hmove]
        exact ih h
      | @jump k _ origin parts _ _ _ hmove h =>
        obtain ⟨m, n, mid, rfl, hinner, hrest⟩ := h.split
        have hlink : Expands root (place ++ [part]) m :=
          ⟨place, part, origin, parts, mid, rfl, hmove, hinner⟩
        obtain ⟨-, -, target, htarget, -, -⟩ := move?_through hmove
        have hinside := hseen.cons hlink (by omega) htarget
        have hjump : unlinkWithin root d ((place ++ [part]) :: seen) origin parts = ⟨mid, false⟩ :=
          ihk m (by omega) hinner hinside (by rw [List.length_cons]; omega)
        rw [unlink_of_through hmove (hseen.not_mem hlink (by omega)) hjump]
        exact ihk n (by omega) hrest (hseen.mono (by omega)) hdepth

/-! ## Places without links -/

/-- On the way to a directory there are only directories. -/
theorem exists_dir_of_append {front back : List String} {es : List (String × Node)}
    (h : root.at? (front ++ back) = some (.dir es)) :
    ∃ es', root.at? front = some (.dir es') := by
  rw [Node.at?_append] at h
  obtain ⟨m, hfront, hm⟩ := Option.bind_eq_some_iff.1 h
  cases m with
  | dir es' => exact ⟨es', hfront⟩
  | file bytes => cases back <;> cases hm
  | link target => cases back <;> cases hm

/-- No part of a path leads to a link, and none leads on from one. -/
theorem ne_link_of_move? {place : List String} {part : String} {m : Move}
    (h : move? root place part = some m) (target : String) :
    match m with
    | .to next => root.at? next ≠ some (.link target)
    | .through origin _ => root.at? origin ≠ some (.link target) := by
  rw [move?] at h
  split at h
  · rename_i es hplace
    have hfront : ∀ front back, front ++ back = place → root.at? front ≠ some (.link target) := by
      rintro front back rfl hlink
      obtain ⟨es', hdir⟩ := exists_dir_of_append hplace
      rw [hdir] at hlink
      cases hlink
    split at h
    · cases h
      exact hfront place [] (List.append_nil place)
    · split at h
      · cases h
        obtain ⟨back, hback⟩ := List.dropLast_prefix place
        exact hfront _ back hback
      · split at h
        · cases h
        · cases h
          dsimp only
          split
          · exact hfront place [] (List.append_nil place)
          · exact hfront [] place rfl
        · rename_i m hm hentry
          cases h
          dsimp only
          rw [Node.at?_concat hplace, hentry]
          rintro ⟨⟩
          exact hm target rfl
  · cases h

theorem Leads.ne_link {k : Nat} {place parts goal : List String}
    (h : Leads root k place parts goal) {target : String}
    (hstart : root.at? place ≠ some (.link target)) : root.at? goal ≠ some (.link target) := by
  induction h with
  | here _ => exact hstart
  | go hmove _ ih => exact ih (ne_link_of_move? hmove target)
  | jump hmove _ ih => exact ih (ne_link_of_move? hmove target)

/-- A path with parts does not lead to a link. -/
theorem Leads.ne_link_of_cons {k : Nat} {place rest goal : List String} {part : String}
    (h : Leads root k place (part :: rest) goal) (target : String) :
    root.at? goal ≠ some (.link target) := by
  cases h with
  | go hmove h => exact h.ne_link (ne_link_of_move? hmove target)
  | jump hmove h => exact h.ne_link (ne_link_of_move? hmove target)

/-- The names of a place lead there, as long as there is no link at its end. -/
theorem follow_names (jump : List String → List String → Except PathFault Target)
    {place names : List String} {n : Node} (hn : root.at? (place ++ names) = some n)
    (hlink : ∀ target, n ≠ .link target) (hnames : ∀ name ∈ names, isEntryName name = true) :
    follow root .look jump place names = .ok (.node (place ++ names) n) := by
  induction names generalizing place with
  | nil =>
    rw [List.append_nil] at hn ⊢
    rw [follow, hn]
  | cons name rest ih =>
    obtain ⟨hname, hrest⟩ := List.forall_mem_cons.1 hnames
    obtain ⟨hproper, hup, -, -, hshort⟩ := isEntryName_iff.1 hname
    rw [List.append_cons] at hn ⊢
    -- the directory at the place has the name, and what it names is no link
    obtain ⟨es, hplace⟩ : ∃ es, root.at? place = some (.dir es) := by
      rw [List.append_assoc, Node.at?_append] at hn
      obtain ⟨m, hm, hbelow⟩ := Option.bind_eq_some_iff.1 hn
      cases m with
      | dir es => exact ⟨es, hm⟩
      | file bytes => cases hbelow
      | link target => cases hbelow
    obtain ⟨m, hm, hbelow⟩ := Option.bind_eq_some_iff.1 ((Node.at?_append ..).symm.trans hn)
    rw [Node.at?_concat hplace] at hm
    rw [follow_look_cons, hplace]
    dsimp only
    rw [if_neg (by simp [hproper]), if_neg hup, if_neg (by omega), hm]
    cases m with
    | dir below => exact ih hn hrest
    | file bytes => exact ih hn hrest
    | link target =>
      cases rest with
      | nil =>
        cases hbelow
        exact absurd rfl (hlink target)
      | cons next rest => cases hbelow

/-- What a part does to a place, links apart. -/
def stepAlong (place : List String) (part : String) : List String :=
  if !Path.isProper part then place else if part = ".." then place.dropLast else place ++ [part]

theorem stepAlong_of_name {name : String} (hproper : Path.isProper name = true) (hup : name ≠ "..")
    (place : List String) : stepAlong place name = place ++ [name] := by
  rw [stepAlong, if_neg (by simp [hproper]), if_neg hup]

/-- Names are put behind each other. -/
theorem foldl_stepAlong {names : List String}
    (h : ∀ name ∈ names, Path.isProper name = true ∧ name ≠ "..") (place : List String) :
    names.foldl stepAlong place = place ++ names := by
  induction names generalizing place with
  | nil => exact (List.append_nil place).symm
  | cons name rest ih =>
    obtain ⟨⟨hproper, hup⟩, hrest⟩ := List.forall_mem_cons.1 h
    rw [List.foldl_cons, stepAlong_of_name hproper hup, ih hrest, List.append_assoc]
    rfl

/-- What is left of a place of names is the place. -/
theorem collapse_of_names {names : List String}
    (h : ∀ name ∈ names, isEntryName name = true) : collapse names = names :=
  foldl_stepAlong (fun name hname =>
    have hgood := isEntryName_iff.1 (h name hname)
    ⟨hgood.1, hgood.2.1⟩) []

/-- The path of a place leads there, unless it is too long. -/
theorem stat_place {t : FileTree} {names : List String} {n : Node}
    (hn : t.root.at? names = some n) (hlink : names = [] ∨ ∀ target, n ≠ .link target)
    (hnames : ∀ name ∈ names, isEntryName name = true) :
    t.stat ⟨.root, names⟩ =
      if maxPath < (Path.mk .root names).text.utf8ByteSize then .error .nameTooLong else .ok n := by
  have hnull : (Path.mk .root names).hasNull = false := by
    refine List.any_eq_false.2 fun name hname hc => ?_
    exact (isEntryName_iff.1 (hnames name hname)).2.2.2.1 (by simpa using hc)
  have hfollow : ∀ links, followWithin t.root .look links [] names = .ok (.node names n) := by
    intro links
    rcases hlink with rfl | hlink
    · cases links <;> rw [followWithin, follow, hn]
    · cases links <;> exact follow_names _ hn hlink hnames
  have hstart : t.start .root = [] := rfl
  rw [stat, find, hnull, if_neg Bool.false_ne_true, hstart, hfollow]
  by_cases hlong : maxPath < (Path.mk .root names).text.utf8ByteSize
  · rw [if_pos hlong, if_pos hlong]
  · rw [if_neg hlong, if_neg hlong]

/-- **A path that leads somewhere can be resolved**, from the root, to the place where it leads. -/
theorem exists_resolve {t : FileTree} (ht : t.Sound) {p : Path} (hp : p.Normal)
    (hanchor : p.anchor ≠ .here) {n : Node} (h : t.stat p = .ok n) :
    ∃ goal, t.resolve p = .ok ⟨.root, goal⟩ ∧ t.root.at? goal = some n := by
  obtain ⟨goal, hfind⟩ : ∃ goal, t.find .look p = .ok (.node goal n) := by
    rw [stat] at h
    split at h <;> cases h
    rename_i goal hfind
    exact ⟨goal, hfind⟩
  have hgoal := at?_of_find hfind
  have hnames : ∀ name ∈ goal, isEntryName name = true := isEntryName_of_find ht hp hfind
  obtain ⟨k, hleads⟩ := leads_of_find hfind
  have hstart : t.start p.anchor = [] := by
    cases hp : p.anchor <;> simp_all [start]
  rw [hstart] at hleads
  have hreal : t.realPath p = ⟨.root, goal⟩ := by
    have hinside : Inside t.root [] k := ⟨List.nodup_nil, by simp, by simp⟩
    rw [realPath, hstart, unlinkWithin_of_leads hleads hinside (by simp), collapse_of_names hnames]
  have hlink : goal = [] ∨ ∀ target, n ≠ .link target := by
    cases hparts : p.parts with
    | nil =>
      rw [hparts] at hleads
      cases hleads
      exact .inl rfl
    | cons part rest =>
      rw [hparts] at hleads
      refine .inr fun target hn => hleads.ne_link_of_cons target ?_
      rw [hgoal, hn]
  have hnull : p.hasNull = false := by
    rw [find] at hfind
    split at hfind
    · cases hfind
    · rename_i hnull
      simpa using hnull
  have hstraight : t.stat (t.realPath p) ≠ .error .tooManyLinks := by
    rw [hreal, stat_place hgoal hlink hnames]
    split <;> simp
  exact ⟨goal, resolve_eq_ok_iff.2 ⟨hnull, fun h => absurd h hanchor, hstraight, hreal⟩, hgoal⟩

end FileTree
end RouteAudit
