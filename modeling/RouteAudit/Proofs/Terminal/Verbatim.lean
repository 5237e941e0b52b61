import Mathlib.Data.List.Chain
import RouteAudit.Proofs.FileTree.PathText
import RouteAudit.Proofs.Terminal.Shown

/-!
# Text that is printed as it is

An escaped text is read back part by part, but it need not be printed as it was: controls are left
out, and a backslash directly in front of an opening bracket disappears even where the bracket
begins no tag.  A text without either is printed as it is, whatever in it looks like a tag.

The parts of the text are those of the whole line, so the run in front of a tag is made of what
stands in front of the text and of the text itself.  That is why the condition is about the line.

## What is here

* `Verbatim` — a text without controls and without a backslash directly in front of a bracket;
* `Piece.shown` — what is printed of a literal part, and `styledFrom_literal`, that nothing else is
  printed of literal parts;
* `styled_escape` — an escaped text between bare ones is printed as it is, without looks;
* `openLines_plain` — a text in one line is printed in one line.
-/

set_option autoImplicit false

namespace RouteAudit
namespace Terminal

/-! ## Texts without anything special -/

/-- A backslash directly in front of an opening bracket. -/
def slashedBracket : List Char := ['\\', '[']

/-- A text without silent controls and without a backslash directly in front of a bracket. -/
structure Verbatim (s : List Char) : Prop where
  bracket : ¬ slashedBracket <:+: s
  silent : ∀ c ∈ s, isSilent c = false

theorem not_slashedBracket_iff {s : List Char} :
    ¬ slashedBracket <:+: s ↔ s.IsChain fun c d => ¬ (c = '\\' ∧ d = '[') := by
  rw [List.isChain_iff_forall_rel_of_append_cons_cons]
  constructor
  · rintro h c d l₁ l₂ rfl ⟨rfl, rfl⟩
    exact h ⟨l₁, l₂, by simp [slashedBracket]⟩
  · rintro h ⟨l₁, l₂, rfl⟩
    exact @h '\\' '[' l₁ l₂ (by simp [slashedBracket]) ⟨rfl, rfl⟩

namespace Verbatim

variable {s t : List Char}

theorem append (hs : Verbatim s) (ht : Verbatim t) (hlast : s.getLast? ≠ some '\\') :
    Verbatim (s ++ t) where
  bracket := by
    rw [not_slashedBracket_iff, List.isChain_append]
    refine ⟨not_slashedBracket_iff.1 hs.bracket, not_slashedBracket_iff.1 ht.bracket, ?_⟩
    rintro c hc d - ⟨rfl, -⟩
    exact hlast hc
  silent := List.forall_mem_append.2 ⟨hs.silent, ht.silent⟩

theorem of_infix (ht : Verbatim t) (h : s <:+: t) : Verbatim s :=
  ⟨fun hs => ht.bracket (hs.trans h), fun c hc => ht.silent c (h.subset hc)⟩

theorem unslash (h : ¬ slashedBracket <:+: s) : unslash s = s := by
  rw [not_slashedBracket_iff] at h
  induction s with
  | nil => rfl
  | cons c s ih =>
    cases s with
    | nil => rfl
    | cons d s =>
      obtain ⟨hcd, hs⟩ := List.isChain_cons_cons.1 h
      rw [Terminal.unslash, if_neg hcd, ih hs]

/-- **Such a text is printed as it is.** -/
theorem printed (h : Verbatim s) : printed s = s := by
  rw [Terminal.printed, unslash h.bracket]
  exact List.filter_eq_self.2 fun c hc => by rw [h.silent c hc]; rfl

end Verbatim

/-- A text without brackets and controls is printed as it is. -/
theorem verbatim_of_isBare {s : List Char} (hbare : isBare s = true)
    (hsilent : ∀ c ∈ s, isSilent c = false) : Verbatim s where
  bracket h := (not_mem_of_isBare hbare).1 (h.subset (by simp [slashedBracket]))
  silent := hsilent

/-! ## Literal parts -/

/-- What is printed of a literal part: of the backslashes in front of its tag every other one. -/
def Piece.shown : Piece → List Char
  | .char c => [c]
  | .tag n inside => slashes (n / 2) ++ '[' :: inside ++ [']']

/-- **Literal parts** are printed, and they have no looks. -/
theorem styledFrom_literal {ps : List Piece} (hps : ps.all Piece.isLiteral = true)
    (run : List Char) (position written : Nat)
    (h : Verbatim (run.reverse ++ ps.flatMap Piece.shown)) :
    styledFrom run position written [] ps =
      .ok (Styled.plain (run.reverse ++ ps.flatMap Piece.shown)) := by
  induction ps generalizing run position written with
  | nil =>
    rw [List.flatMap_nil, List.append_nil] at h ⊢
    rw [styledFrom, h.printed]
    rfl
  | cons p ps ih =>
    rw [List.all_cons, Bool.and_eq_true] at hps
    cases p with
    | char c =>
      have hrun : run.reverse ++ (Piece.char c :: ps).flatMap Piece.shown =
          (c :: run).reverse ++ ps.flatMap Piece.shown := by
        simp [Piece.shown]
      rw [hrun] at h ⊢
      exact ih hps.2 (c :: run) (position + 1) written h
    | tag n inside =>
      have hodd : n % 2 = 1 := by simpa [Piece.isLiteral] using hps.1
      rw [List.flatMap_cons] at h ⊢
      have hrun : Terminal.printed run.reverse = run.reverse :=
        (h.of_infix (List.prefix_append _ _).isInfix).printed
      have htag : Terminal.printed ('[' :: inside ++ [']']) = '[' :: inside ++ [']'] := by
        refine (h.of_infix ?_).printed
        exact ⟨run.reverse ++ slashes (n / 2), ps.flatMap Piece.shown, by simp [Piece.shown]⟩
      have hrest : Verbatim (([] : List Char).reverse ++ ps.flatMap Piece.shown) := by
        refine h.of_infix (List.IsSuffix.isInfix ?_)
        exact ⟨run.reverse ++ Piece.shown (.tag n inside), by simp⟩
      rw [styledFrom, if_pos hodd, hrun, htag]
      dsimp only
      rw [ih hps.2 [] _ _ hrest]
      simp [Except.map, Styled.behind, Styled.plain, Piece.shown, slashes]

/-! ## Escaped text -/

section
variable {f : Nat → Nat}

theorem getLast?_respell (s : List Char) : (respell f s).getLast? = s.getLast? := by
  induction s using pieces_induction with
  | nil => rfl
  | tag n inside t hinside ih =>
    rw [respell_tag n hinside]
    simp [List.getLast?_append, List.getLast?_cons, ih]
  | char c s h ih => rw [respell_cons h, List.getLast?_cons, List.getLast?_cons, ih]

end

theorem closeSlash_of_getLast? {s : List Char} (h : s.getLast? ≠ some '\\') :
    closeSlash s = s := by
  rw [← List.head?_reverse] at h
  unfold closeSlash
  split
  · rename_i heq
    exact absurd (by rw [heq]; rfl) h
  · rename_i heq
    exact absurd (by rw [heq]; rfl) h
  · rfl

/-- A text that does not end in a backslash only gets backslashes in front of its tags. -/
theorem escape_of_getLast? {s : List Char} (h : s.getLast? ≠ some '\\') :
    escape s = respell escapeSlashes s := by
  rw [escape, flatMap_escaped, closeSlash_of_getLast? (by rwa [getLast?_respell])]

/-- Of the parts of an escaped text the text is printed. -/
theorem flatMap_shown_slashed (s : List Char) :
    ((pieces s).map (Piece.slashed escapeSlashes)).flatMap Piece.shown = s := by
  have hpart : ∀ p : Piece, (p.slashed escapeSlashes).shown = p.text := by
    intro p
    cases p with
    | char c => rfl
    | tag n inside =>
      have hn : escapeSlashes n / 2 = n := by
        rw [escapeSlashes]
        omega
      simp [Piece.slashed, Piece.shown, Piece.text, slashes, hn]
  have hid : (pieces s).flatMap Piece.text = s := by
    have h := respell_id s
    rw [respell, List.flatMap_map] at h
    refine (congrArg (fun g => List.flatMap g (pieces s)) (funext fun p => ?_)).trans h
    cases p <;> rfl
  rw [List.flatMap_map]
  simp only [hpart, hid]

/-- **An escaped text is printed as it is**, between bare ones, whatever in it looks like a tag. -/
theorem styled_escape {front text back : List Char} (hfront : isBare front = true)
    (hback : isBare back = true) (hlast : text.getLast? ≠ some '\\')
    (h : Verbatim (front ++ (text ++ back))) :
    styled (front ++ (escape text ++ back)) = .ok (Styled.plain (front ++ (text ++ back))) := by
  obtain ⟨hopen, hclose, -⟩ := not_mem_of_isBare hback
  have hpieces : pieces (front ++ (escape text ++ back)) =
      front.map .char ++ ((pieces text).map (Piece.slashed escapeSlashes) ++ back.map .char) := by
    rw [pieces_bare_append hfront, escape_of_getLast? hlast,
      pieces_respell_append hlast (tagEnd?_of_not_mem hclose), pieces_of_not_mem hopen]
  have hliteral : (pieces (front ++ (escape text ++ back))).all Piece.isLiteral = true := by
    rw [hpieces, List.all_append, List.all_append, all_isLiteral_char, all_isLiteral_char,
      all_isLiteral_slashed]
    rfl
  have hshown : (pieces (front ++ (escape text ++ back))).flatMap Piece.shown =
      front ++ (text ++ back) := by
    have hchars : ∀ s : List Char, (s.map Piece.char).flatMap Piece.shown = s := by
      intro s
      rw [List.flatMap_map]
      exact List.flatMap_singleton' s
    rw [hpieces, List.flatMap_append, List.flatMap_append, hchars, hchars, flatMap_shown_slashed]
  have hstyled := styledFrom_literal hliteral [] 0 0 (by rw [hshown]; exact h)
  rw [styled, hstyled, hshown]
  simp [Except.map, Styled.plain]

-- Without tags the backslashes of a text are printed otherwise: one more at its end, and one less in
-- front of a bracket.
example : printed (escape "a\\".toList) = "a\\\\".toList := by decide +kernel

example : printed (escape "a\\[1]".toList) = "a[1]".toList := by decide +kernel

/-! ## Lines -/

/-- A text in one line without tabs is printed in one line. -/
theorem openLines_plain {s : List Char} (hline : '\n' ∉ s) (htab : '\t' ∉ s) :
    (Styled.plain s).openLines = [Styled.plain s] := by
  have hlines : (Styled.plain s).lines = [Styled.plain s] := by
    rw [Styled.lines, Styled.plain, Text.splitAt_of_not_mem hline]
    rfl
  rw [Styled.openLines, hlines, List.map_singleton, Styled.expandTabs_of_not_mem htab]

end Terminal
end RouteAudit
