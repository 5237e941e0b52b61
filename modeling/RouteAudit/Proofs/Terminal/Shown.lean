import RouteAudit.Proofs.Terminal.Escape
import RouteAudit.Terminal.Wrap

/-!
# Markup that can be shown

A markup is shown if every closing tag has an opening one in front of it and every look that it
speaks of can be shown.  This is followed part by part: literal parts change nothing, and an opening
and a closing tag of one name may stand around whatever can be shown between them.  Cutting a text
into lines adds no look to it.

## What is here

* `Styled.Shows` — a text whose looks can be shown, and why its lines can be (`Shows.openLines`,
  `Shows.wrapLines`);
* `IsLook` — what can stand in a tag, and the look that it means;
* `Settles` — parts that have a text whatever comes in front of them, given the tags that are open;
* `Prints` — a markup that can be shown; `prints_bare`, `prints_escape`, `prints_labelled_escape` and
  `prints_of_opensAndCloses` for the markups that reports are made of.
-/

set_option autoImplicit false

namespace RouteAudit
namespace Terminal

/-! ## Looks of lines -/

namespace Styled

/-- All looks of a text can be shown. -/
def Shows (t : Styled) : Prop := ∀ s ∈ t.spans, lookFault? s.look = none

theorem Shows.fault? {t : Styled} (h : t.Shows) : t.fault? = none :=
  List.findSome?_eq_none_iff.2 h

/-- A text whose looks come from another one. -/
theorem Shows.of_looks {t u : Styled} (h : t.Shows)
    (hlook : ∀ s ∈ u.spans, ∃ r ∈ t.spans, s.look = r.look) : u.Shows := by
  intro s hs
  obtain ⟨r, hr, heq⟩ := hlook s hs
  rw [heq]
  exact h r hr

theorem shows_plain (s : List Char) : (plain s).Shows := fun _ h => absurd h List.not_mem_nil

theorem Shows.window {t : Styled} (h : t.Shows) (start length : Nat) :
    (t.window start length).Shows := by
  refine h.of_looks fun s hs => ?_
  obtain ⟨r, hr, hseen⟩ := List.mem_filterMap.1 hs
  refine ⟨r, hr, ?_⟩
  rw [Span.within?] at hseen
  split at hseen <;> cases hseen
  rfl

theorem Shows.of_mem_cutFrom {t : Styled} (h : t.Shows) {gap start : Nat}
    {parts : List (List Char)} {u : Styled} (hu : u ∈ t.cutFrom gap start parts) : u.Shows := by
  induction parts generalizing start with
  | nil => cases hu
  | cons p ps ih =>
    rcases List.mem_cons.1 hu with rfl | hu
    · exact h.window _ _
    · exact ih hu

theorem Shows.of_mem_cut {t : Styled} (h : t.Shows) {gap : Nat} {parts : List (List Char)}
    {u : Styled} (hu : u ∈ t.cut gap parts) : u.Shows := by
  rw [cut] at hu
  split at hu
  · rw [List.mem_singleton.1 hu]
    exact h
  · exact h.of_mem_cutFrom hu

theorem shows_concat {parts : List Styled} (h : ∀ t ∈ parts, t.Shows) : (concat parts).Shows := by
  induction parts with
  | nil => exact shows_plain []
  | cons t parts ih =>
    obtain ⟨ht, hparts⟩ := List.forall_mem_cons.1 h
    intro s hs
    rcases List.mem_append.1 hs with hs | hs
    · exact ht s hs
    · obtain ⟨r, hr, rfl⟩ := List.mem_map.1 hs
      exact ih hparts r hr

theorem Shows.fillTab {t : Styled} (h : t.Shows) (fill : Nat) : (t.fillTab fill).Shows := by
  refine h.of_looks fun s hs => ?_
  obtain ⟨r, hr, rfl⟩ := List.mem_map.1 hs
  refine ⟨r, hr, ?_⟩
  split <;> rfl

theorem shows_of_mem_fillTabs {parts : List Styled} (h : ∀ t ∈ parts, t.Shows) {cell : Nat}
    {u : Styled} (hu : u ∈ fillTabs cell parts) : u.Shows := by
  induction parts generalizing cell with
  | nil => cases hu
  | cons t parts ih =>
    obtain ⟨ht, hparts⟩ := List.forall_mem_cons.1 h
    rw [fillTabs] at hu
    split at hu
    · rcases List.mem_cons.1 hu with rfl | hu
      · exact ht.fillTab _
      · exact ih hparts hu
    · rcases List.mem_cons.1 hu with rfl | hu
      · exact ht
      · exact ih hparts hu

theorem Shows.expandTabs {t : Styled} (h : t.Shows) : t.expandTabs.Shows := by
  rw [Styled.expandTabs]
  split
  · exact shows_concat fun u hu =>
      shows_of_mem_fillTabs (fun _ => h.of_mem_cut) hu
  · exact h

theorem Shows.withText {t : Styled} (h : t.Shows) (text : List Char) : (t.withText text).Shows := by
  rw [Styled.withText]
  split
  · exact h
  · refine h.of_looks fun s hs => ?_
    obtain ⟨r, hr, rfl⟩ := List.mem_map.1 hs
    exact ⟨r, (List.mem_filter.1 hr).1, rfl⟩

/-- The lines of a text that is not wrapped can be shown. -/
theorem Shows.openLines {t : Styled} (h : t.Shows) : ∀ u ∈ t.openLines, u.Shows := by
  intro u hu
  obtain ⟨line, hline, rfl⟩ := List.mem_map.1 hu
  exact (h.of_mem_cut hline).expandTabs

/-- The lines of a text that is wrapped can be shown. -/
theorem Shows.wrapLines {t : Styled} (h : t.Shows) (width : Nat) (o : Overflow) (j : Justify) :
    ∀ u ∈ t.wrapLines width o j, u.Shows := by
  intro u hu
  obtain ⟨line, hline, hu⟩ := List.mem_flatMap.1 hu
  obtain ⟨v, hv, rfl⟩ := List.mem_map.1 hu
  exact (((h.of_mem_cut hline).expandTabs.of_mem_cut hv).withText _).withText _

end Styled

/-! ## Parts with a text -/

/-- A name that can stand in an opening and in a closing tag, and the look that it means. -/
structure IsLook (inside : List Char) (name : String) : Prop where
  isInside : IsInside inside
  opens : inside.head? ≠ some '/'
  noArgument : '=' ∉ inside
  trimmed : Text.trim inside = inside
  named : tagName inside = .ok name
  noAction : name.startsWith "@" = false
  shown : lookFault? name.toList = none

instance : DecidablePred IsInside
  | [] => .isFalse id
  | c :: cs => inferInstanceAs (Decidable (startsTag c = true ∧ ']' ∉ cs ∧ '[' ∉ cs))

/-- A look that is checked by running the test. -/
theorem isLook_of {inside : List Char} {name : String} (named : tagName inside = .ok name)
    (h : IsInside inside ∧ inside.head? ≠ some '/' ∧ '=' ∉ inside ∧ Text.trim inside = inside ∧
      name.startsWith "@" = false ∧ lookFault? name.toList = none) : IsLook inside name :=
  ⟨h.1, h.2.1, h.2.2.1, h.2.2.2.1, named, h.2.2.2.2.1, h.2.2.2.2.2⟩

/-- A tag that is open, of a look that can be shown. -/
structure OpenTag.Tame (t : OpenTag) : Prop where
  argument : t.argument = none
  noAction : t.name.startsWith "@" = false
  shown : lookFault? t.name.toList = none

theorem OpenTag.Tame.look {t : OpenTag} (h : t.Tame) : t.look = t.name.toList := by
  rw [OpenTag.look, h.argument]

/-- The parts have a text that can be shown, whatever is printed in front of them, where tags with
these names are open, the last one first. -/
def Settles (names : List String) (ps : List Piece) : Prop :=
  ∀ (run : List Char) (position written : Nat) (stack : List OpenTag),
    stack.map OpenTag.name = names → (∀ t ∈ stack, t.Tame) →
    ∃ t, styledFrom run position written stack ps = .ok t ∧ t.Shows

theorem settles_nil (names : List String) : Settles names [] := by
  intro run position written stack _ htame
  refine ⟨_, rfl, fun s hs => ?_⟩
  obtain ⟨t, ht, rfl⟩ := List.mem_map.1 hs
  rw [OpenTag.span, (htame t ht).look]
  exact (htame t ht).shown

/-- What is printed in front of a text changes nothing about its looks. -/
theorem exists_behind {x : Except MarkupFault Styled} (h : ∃ t, x = .ok t ∧ t.Shows)
    (text : List Char) {spans : List Span} (hspans : ∀ s ∈ spans, lookFault? s.look = none) :
    ∃ t, x.map (Styled.behind text spans) = .ok t ∧ t.Shows := by
  obtain ⟨t, rfl, ht⟩ := h
  refine ⟨_, rfl, fun s hs => ?_⟩
  rcases List.mem_append.1 hs with hs | hs
  · exact hspans s hs
  · exact ht s hs

/-- **Literal parts** may stand anywhere. -/
theorem Settles.literal {names : List String} {ps qs : List Piece}
    (hps : ps.all Piece.isLiteral = true) (h : Settles names qs) : Settles names (ps ++ qs) := by
  induction ps with
  | nil => exact h
  | cons p ps ih =>
    rw [List.all_cons, Bool.and_eq_true] at hps
    intro run position written stack hstack htame
    cases p with
    | char c => exact ih hps.2 _ _ _ stack hstack htame
    | tag n inside =>
      have hodd : n % 2 = 1 := by simpa [Piece.isLiteral] using hps.1
      rw [List.cons_append, styledFrom, if_pos hodd]
      exact exists_behind (ih hps.2 _ _ _ stack hstack htame) _ (fun _ hs => absurd hs List.not_mem_nil)

theorem splitTag_of_not_mem {inside : List Char} (h : '=' ∉ inside) :
    splitTag inside = (inside, none) := by
  have hdrop : inside.dropWhile (· ≠ '=') = [] := by
    rw [← List.append_nil inside, List.dropWhile_append_of_pos, List.dropWhile_nil]
    exact fun c hc => decide_eq_true fun heq => h (heq ▸ hc)
  rw [splitTag, hdrop]

/-- **An opening tag** opens. -/
theorem Settles.opening {names : List String} {inside : List Char} {name : String}
    (hlook : IsLook inside name) {n : Nat} (hn : n % 2 = 0) {ps : List Piece}
    (h : Settles (name :: names) ps) : Settles names (.tag n inside :: ps) := by
  intro run position written stack hstack htame
  have hafter : ∀ position written, openAfter position written inside stack =
      .ok (⟨name, none, written⟩ :: stack, []) := by
    intro position written
    rw [openAfter, splitTag_of_not_mem hlook.noArgument]
    dsimp only
    split
    · exact absurd rfl hlook.opens
    · rw [hlook.named]
      rfl
  rw [styledFrom, if_neg (by omega)]
  simp only [hafter]
  refine exists_behind (h _ _ _ _ (by simp [hstack]) ?_) _ (fun _ hs => absurd hs List.not_mem_nil)
  exact List.forall_mem_cons.2 ⟨⟨rfl, hlook.noAction, hlook.shown⟩, htame⟩

/-- **A closing tag** closes. -/
theorem Settles.closing {names : List String} {inside : List Char} {name : String}
    (hlook : IsLook inside name) {n : Nat} (hn : n % 2 = 0) {ps : List Piece}
    (h : Settles names ps) : Settles (name :: names) (.tag n ('/' :: inside) :: ps) := by
  intro run position written stack hstack htame
  obtain ⟨t, rest, rfl⟩ : ∃ t rest, stack = t :: rest := by
    cases stack with
    | nil => cases hstack
    | cons t rest => exact ⟨t, rest, rfl⟩
  rw [List.map_cons, List.cons.injEq] at hstack
  obtain ⟨rfl, hrest⟩ := hstack
  obtain ⟨ht, hrestTame⟩ := List.forall_mem_cons.1 htame
  have hclose : ∀ stop, t.close stop = .ok (t.span stop) := by
    intro stop
    rw [OpenTag.close, ht.noAction, if_neg Bool.false_ne_true]
  have htake : takeTag? t.name (t :: rest) = some (t, rest) := by
    simp [takeTag?]
  have hafter : ∀ position written, openAfter position written ('/' :: inside) (t :: rest) =
      .ok (rest, [t.span written]) := by
    intro position written
    have hslash : '=' ∉ '/' :: inside := by
      simp only [List.mem_cons, not_or]
      exact ⟨by decide, hlook.noArgument⟩
    cases inside with
    | nil => exact hlook.isInside.elim
    | cons c cs =>
      simp only [openAfter, splitTag_of_not_mem hslash, hlook.trimmed, hlook.named, htake, hclose,
        Except.map]
  rw [styledFrom, if_neg (by omega)]
  simp only [hafter]
  refine exists_behind (h _ _ _ _ hrest hrestTame) _ fun s hs => ?_
  rw [List.mem_singleton.1 hs, OpenTag.span, ht.look]
  exact ht.shown

/-! ## Markups that can be shown -/

/-- A markup that has a text with looks that can be shown. -/
def Prints (markup : List Char) : Prop := ∃ t, styled markup = .ok t ∧ t.Shows

theorem prints_of_settles {markup : List Char} (h : Settles [] (pieces markup)) :
    Prints markup := by
  obtain ⟨t, ht, hshows⟩ := h [] 0 0 [] rfl (fun _ h => absurd h List.not_mem_nil)
  refine ⟨_, by rw [styled, ht]; rfl, hshows.of_looks fun s hs => ⟨s, ?_, rfl⟩⟩
  simpa [List.mem_mergeSort] using hs

/-- Whether a text has no brackets and no backslashes, so that it means itself in a markup. -/
def isBare (s : List Char) : Bool := s.all fun c => c != '[' && c != ']' && c != '\\'

@[simp] theorem isBare_append (s t : List Char) : isBare (s ++ t) = (isBare s && isBare t) :=
  List.all_append

theorem isBare_lit {s : String} {cs : List Char} (hs : s = String.ofList cs)
    (h : isBare cs = true) : isBare s.toList = true := by
  rwa [hs, String.toList_ofList]

theorem isBare_digits (n : Nat) : isBare (Nat.toDigits 10 n) = true := by
  refine List.all_eq_true.2 fun c hc => ?_
  have hdigit : c.isDigit = true := Nat.isDigit_of_mem_toDigits (by decide) (by decide) hc
  have hne : ∀ d : Char, d.isDigit = false → c ≠ d := by
    rintro d hd rfl
    rw [hdigit] at hd
    cases hd
  simp [hne '[' rfl, hne ']' rfl, hne '\\' rfl]

theorem not_mem_of_isBare {s : List Char} (h : isBare s = true) :
    '[' ∉ s ∧ ']' ∉ s ∧ '\\' ∉ s := by
  have hall := List.all_eq_true.1 h
  refine ⟨?_, ?_, ?_⟩ <;> exact fun hmem => absurd (hall _ hmem) (by decide)

theorem all_isLiteral_char (s : List Char) : (s.map Piece.char).all Piece.isLiteral = true := by
  simp [List.all_map, Piece.isLiteral]

theorem settles_chars (names : List String) (s : List Char) : Settles names (s.map .char) := by
  rw [← List.append_nil (s.map Piece.char)]
  exact (settles_nil names).literal (all_isLiteral_char s)

/-- A bare text may stand in front of anything. -/
theorem pieces_bare_append {s : List Char} (h : isBare s = true) (r : List Char) :
    pieces (s ++ r) = s.map .char ++ pieces r := by
  obtain ⟨hopen, -, hslash⟩ := not_mem_of_isBare h
  clear h
  induction s with
  | nil => rfl
  | cons c s ih =>
    simp only [List.mem_cons, not_or] at hopen hslash
    rw [List.cons_append, pieces_cons (slashedTag?_of_ne (Ne.symm hopen.1) (Ne.symm hslash.1) _),
      ih hopen.2 hslash.2]
    rfl

/-- A bare text can be shown. -/
theorem prints_bare {s : List Char} (h : isBare s = true) : Prints s := by
  refine prints_of_settles ?_
  rw [pieces_of_not_mem (not_mem_of_isBare h).1]
  exact settles_chars [] s

/-- A bare text is its own markup. -/
theorem escape_of_isBare {s : List Char} (h : isBare s = true) : escape s = s := by
  obtain ⟨hopen, -, hslash⟩ := not_mem_of_isBare h
  have hsame : (s.map Piece.char).flatMap Piece.escaped = s := by
    simp [List.flatMap_map, Piece.escaped]
  have hlast : ∀ cs, s.reverse ≠ '\\' :: cs := by
    intro cs h
    exact hslash (List.mem_reverse.1 (h ▸ List.mem_cons_self))
  rw [escape, pieces_of_not_mem hopen, hsame]
  unfold closeSlash
  split
  · rename_i h
    exact absurd h (hlast [])
  · rename_i h
    exact absurd h (hlast _)
  · rfl

/-- **An escaped text can be shown** between bare ones. -/
theorem prints_escape {front back : List Char} (hfront : isBare front = true)
    (hback : isBare back = true) (s : List Char) : Prints (front ++ (escape s ++ back)) := by
  obtain ⟨ps, n, hps, hpieces⟩ := exists_pieces_escape s
  obtain ⟨hopen, hclose, -⟩ := not_mem_of_isBare hback
  have hslashes : '[' ∉ slashes n ++ back := by
    rw [List.mem_append, not_or]
    exact ⟨by simp [slashes], hopen⟩
  refine prints_of_settles ?_
  rw [pieces_bare_append hfront, hpieces back (tagEnd?_of_not_mem hclose),
    pieces_of_not_mem hslashes]
  exact ((settles_chars [] _).literal hps).literal (all_isLiteral_char front)

theorem isInside_closing {inside : List Char} (h : IsInside inside) : IsInside ('/' :: inside) := by
  cases inside with
  | nil => exact h.elim
  | cons c cs =>
    obtain ⟨hc, hclose, hopen⟩ := h
    obtain ⟨hc1, hc2, -⟩ := ne_of_startsTag hc
    refine ⟨by decide, ?_, ?_⟩
    · simp only [List.mem_cons, not_or]
      exact ⟨Ne.symm hc2, hclose⟩
    · simp only [List.mem_cons, not_or]
      exact ⟨Ne.symm hc1, hopen⟩

/-- **An escaped text can be shown in a look**, behind a bare one, however many backslashes it ends
with: an odd number of them makes the closing tag a text, and then the look goes on to the end. -/
theorem prints_labelled_escape {inside : List Char} {name : String} (hlook : IsLook inside name)
    {front label back : List Char} (hfront : isBare front = true) (hlabel : isBare label = true)
    (hback : isBare back = true) (s : List Char) :
    Prints (front ++
      '[' :: (inside ++ ']' :: (label ++ (escape s ++ '[' :: ('/' :: inside ++ ']' :: back))))) := by
  obtain ⟨ps, n, hps, hpieces⟩ := exists_pieces_escape s
  have hclosing := pieces_tag n (isInside_closing hlook.isInside) back
  have hrest : Settles [name] (.tag n ('/' :: inside) :: back.map .char) := by
    rcases Nat.mod_two_eq_zero_or_one n with hn | hn
    · exact (settles_chars [] back).closing hlook hn
    · have hliteral : [Piece.tag n ('/' :: inside)].all Piece.isLiteral = true := by
        simp [Piece.isLiteral, hn]
      exact (settles_chars [name] back).literal hliteral
  refine prints_of_settles ?_
  rw [pieces_bare_append hfront]
  refine Settles.literal (all_isLiteral_char front) ?_
  have hopening := pieces_tag 0 hlook.isInside
    (label ++ (escape s ++ '[' :: ('/' :: inside ++ ']' :: back)))
  rw [slashes, List.replicate_zero, List.nil_append] at hopening
  rw [hopening, pieces_bare_append hlabel, hpieces _ rfl, hclosing,
    pieces_of_not_mem (not_mem_of_isBare hback).1]
  exact ((hrest.literal hps).literal (all_isLiteral_char label)).opening hlook rfl

theorem prints_tagged_escape {inside : List Char} {name : String} (hlook : IsLook inside name)
    {front back : List Char} (hfront : isBare front = true) (hback : isBare back = true)
    (s : List Char) :
    Prints (front ++
      '[' :: (inside ++ ']' :: (escape s ++ '[' :: ('/' :: inside ++ ']' :: back)))) :=
  prints_labelled_escape hlook hfront (rfl : isBare [] = true) hback s

/-- Whether the only tags among some parts open a look and close it again, in turn. -/
def opensAndCloses (inside : List Char) : (isOpen : Bool) → List Piece → Bool
  | _, [] => true
  | isOpen, .char _ :: ps => opensAndCloses inside isOpen ps
  | false, .tag n tag :: ps => n % 2 == 0 && tag == inside && opensAndCloses inside true ps
  | true, .tag n tag :: ps => n % 2 == 0 && tag == '/' :: inside && opensAndCloses inside false ps

theorem settles_of_opensAndCloses {inside : List Char} {name : String} (hlook : IsLook inside name)
    {ps : List Piece} {isOpen : Bool} (h : opensAndCloses inside isOpen ps = true) :
    Settles (if isOpen then [name] else []) ps := by
  induction ps generalizing isOpen with
  | nil => exact settles_nil _
  | cons p ps ih =>
    cases p with
    | char c =>
      rw [opensAndCloses] at h
      have hliteral : [Piece.char c].all Piece.isLiteral = true := rfl
      exact (ih h).literal hliteral
    | tag n tag =>
      cases isOpen with
      | false =>
        simp only [opensAndCloses, Bool.and_eq_true, beq_iff_eq] at h
        obtain ⟨⟨hn, rfl⟩, h⟩ := h
        exact (ih h).opening hlook hn
      | true =>
        simp only [opensAndCloses, Bool.and_eq_true, beq_iff_eq] at h
        obtain ⟨⟨hn, rfl⟩, h⟩ := h
        exact (ih h).closing hlook hn

/-- **A markup that opens and closes one look** can be shown. -/
theorem prints_of_opensAndCloses {inside : List Char} {name : String} (hlook : IsLook inside name)
    {markup : List Char} (h : opensAndCloses inside false (pieces markup) = true) :
    Prints markup :=
  prints_of_settles (settles_of_opensAndCloses hlook h)

end Terminal
end RouteAudit
