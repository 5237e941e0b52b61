import RouteAudit.Terminal.Action
import RouteAudit.Terminal.Styled

/-!
# Terminal markup

Messages are written with tags in square brackets, such as `[bold]` and `[/bold]`, that say how the
text between them looks.  Here the output has no looks, so a tag disappears; but it ends a segment
of the text, and a closing tag has to have an opening one that describes the same look.

A tag begins with a small letter or one of `#/@` and has no opening bracket inside.  Backslashes in
front of a tag take its meaning away: of every two one is printed, and an odd one makes the tag a
text.  An opening bracket that begins no tag loses one backslash in front of it.

* `escape` — a text as markup;
* `styled` — the text of a markup with its looks, or why it has none.
-/

set_option autoImplicit false

namespace RouteAudit
namespace Terminal

/-- Whether `c` may be the first character of a tag. -/
def startsTag (c : Char) : Bool := c.isLower || c == '#' || c == '/' || c == '@'

/-- The characters up to the first closing bracket, if no opening one comes before it. -/
def tagEnd? : List Char → Option (List Char)
  | [] => none
  | c :: cs =>
    if c = ']' then some []
    else if c = '[' then none
    else (tagEnd? cs).map (c :: ·)

/-- The inside of the tag that begins here, brackets left out. -/
def tagHere? : List Char → Option (List Char)
  | '[' :: c :: cs => if startsTag c then (tagEnd? cs).map (c :: ·) else none
  | _ => none

/-- A part of a markup. -/
inductive Piece where
  /-- A character outside all tags. -/
  | char (c : Char)
  /-- A tag, and how many backslashes stand in front of it. -/
  | tag (slashes : Nat) (inside : List Char)
  deriving DecidableEq, Repr

/-- How many backslashes a text begins with. -/
def leadingSlashes : List Char → Nat
  | [] => 0
  | c :: cs => if c = '\\' then leadingSlashes cs + 1 else 0

/-- The tag that begins here, with the backslashes in front of it. -/
def slashedTag? (s : List Char) : Option (Nat × List Char) :=
  let n := leadingSlashes s
  (tagHere? (s.drop n)).map fun inside => (n, inside)

/-- The parts of a markup behind its first `skip` characters. -/
def piecesFrom : Nat → List Char → List Piece
  | _, [] => []
  | skip + 1, _ :: cs => piecesFrom skip cs
  | 0, c :: cs =>
    match slashedTag? (c :: cs) with
    | some (n, inside) => .tag n inside :: piecesFrom (n + inside.length + 1) cs
    | none => .char c :: piecesFrom 0 cs

/-- The parts of a markup. -/
def pieces (s : List Char) : List Piece := piecesFrom 0 s

/-- The text of a part. -/
def Piece.text : Piece → List Char
  | .char c => [c]
  | .tag n inside => List.replicate n '\\' ++ '[' :: inside ++ [']']

/-- A part with its tag made into text. -/
def Piece.escaped : Piece → List Char
  | .char c => [c]
  | .tag n inside => (Piece.tag (2 * n + 1) inside).text

/-- A text that ends with exactly one backslash gets another one. -/
def closeSlash (s : List Char) : List Char :=
  match s.reverse with
  | ['\\'] => s ++ ['\\']
  | '\\' :: c :: _ => if c = '\\' then s else s ++ ['\\']
  | _ => s

/-- A text as markup. -/
def escape (s : List Char) : List Char := closeSlash ((pieces s).flatMap Piece.escaped)

/-! ## The text of a markup -/

/-- Why a markup has no text. -/
inductive MarkupFault where
  /-- A closing tag without an opening one. -/
  | unmatched (tag : String) (position : Nat)
  /-- A closing tag for whatever is open where nothing is. -/
  | nothingOpen (position : Nat)
  /-- The argument of an action cannot be read. -/
  | action (f : ActionFault)
  /-- A look cannot be shown. -/
  | look (f : LookFault)
  deriving DecidableEq, Repr

/-- A sentence about the fault. -/
def MarkupFault.message : MarkupFault → String
  | .unmatched tag position =>
    "closing tag '[" ++ tag ++ "]' at position " ++ toString position
      ++ " doesn't match any open tag"
  | .nothingOpen position =>
    "closing tag '[/]' at position " ++ toString position ++ " has nothing to close"
  | .action f => f.message
  | .look f => f.message

/-- Whether `c` is a control that is never printed. -/
def isSilent (c : Char) : Bool :=
  c.toNat == 7 || c.toNat == 8 || c.toNat == 11 || c.toNat == 12 || c.toNat == 13

/-- Takes a backslash in front of an opening bracket away. -/
def unslash : List Char → List Char
  | [] => []
  | [c] => [c]
  | c :: d :: cs => if c = '\\' ∧ d = '[' then '[' :: unslash cs else c :: unslash (d :: cs)

/-- A run of text outside of tags as it is printed. -/
def printed (s : List Char) : List Char := (unslash s).filter fun c => !isSilent c

/-- A tag that is open. -/
structure OpenTag where
  /-- The name of its look. -/
  name : String
  /-- What stands behind an equals sign. -/
  argument : Option (List Char)
  /-- How many characters were printed before it. -/
  start : Nat
  deriving DecidableEq, Repr

namespace OpenTag

/-- The words for the look of a tag. -/
def look (t : OpenTag) : List Char :=
  match t.argument with
  | none => t.name.toList
  | some a => t.name.toList ++ ' ' :: a

/-- The span of a tag that ends with the text. -/
def span (t : OpenTag) (stop : Nat) : Span := ⟨t.start, stop, t.look⟩

/-- The span of a tag that is closed.  An action has no look, but its argument has to make sense. -/
def close (t : OpenTag) (stop : Nat) : Except MarkupFault Span :=
  if t.name.startsWith "@" then
    match actionFault? (t.argument.getD []) with
    | some f => .error (.action f)
    | none => .ok ⟨t.start, stop, []⟩
  else .ok (t.span stop)

end OpenTag

/-- What stands in front of the first equals sign, and what stands behind it. -/
def splitTag (inside : List Char) : List Char × Option (List Char) :=
  match inside.dropWhile (· ≠ '=') with
  | [] => (inside, none)
  | _ :: argument => (inside.takeWhile (· ≠ '='), some argument)

/-- The last tag that was opened under a name, and the others. -/
def takeTag? (name : String) (stack : List OpenTag) : Option (OpenTag × List OpenTag) :=
  (stack.find? (·.name == name)).map fun t => (t, stack.eraseP (·.name == name))

/-- The name of a look, as far as there is one. -/
def tagName (s : List Char) : Except MarkupFault String :=
  match lookName s with
  | .ok name => .ok name
  | .error f => .error (.look f)

/-- The tags that are open after one more, with the span that it ends, or why there is no such
thing.  `written` characters were printed before it. -/
def openAfter (position written : Nat) (inside : List Char) (stack : List OpenTag) :
    Except MarkupFault (List OpenTag × List Span) :=
  let (name, argument) := splitTag inside
  match name with
  | '/' :: name =>
    let closing : Except MarkupFault (OpenTag × List OpenTag) :=
      match Text.trim name, stack with
      | [], [] => .error (.nothingOpen position)
      | [], t :: rest => .ok (t, rest)
      | name, stack =>
        match tagName name with
        | .error f => .error f
        | .ok look =>
          match takeTag? look stack with
          | none => .error (.unmatched (String.ofList inside) position)
          | some found => .ok found
    match closing with
    | .error f => .error f
    | .ok (t, rest) => (t.close written).map fun span => (rest, [span])
  | name => (tagName name).map fun look => (⟨look, argument, written⟩ :: stack, [])

/-- A text that has other text and spans in front. -/
def Styled.behind (text : List Char) (spans : List Span) (t : Styled) : Styled where
  text := text ++ t.text
  spans := spans ++ t.spans

/-- The text of the parts of a markup, and its spans in the order in which they end.  `run` is the
run of text in front of them, last character first, `position` their place in the markup, `written`
the number of characters that were printed in front of the run, and `stack` the tags that are
open. -/
def styledFrom (run : List Char) (position written : Nat) (stack : List OpenTag) :
    List Piece → Except MarkupFault Styled
  | [] =>
    let text := printed run.reverse
    .ok { text, spans := stack.map (OpenTag.span · (written + text.length)) }
  | .char c :: ps => styledFrom (c :: run) (position + 1) written stack ps
  | .tag n inside :: ps =>
    let next := position + n + inside.length + 2
    let before := printed run.reverse ++ List.replicate (n / 2) '\\'
    if n % 2 = 1 then
      let text := before ++ printed ('[' :: inside ++ [']'])
      (styledFrom [] next (written + text.length) stack ps).map (Styled.behind text [])
    else
      match openAfter (position + n) (written + before.length) inside stack with
      | .error f => .error f
      | .ok (stack, spans) =>
        (styledFrom [] next (written + before.length) stack ps).map (Styled.behind before spans)

/-- The text of a markup with its looks, those that begin first in front and of two that begin
together the one that ends last. -/
def styled (markup : List Char) : Except MarkupFault Styled :=
  (styledFrom [] 0 0 [] (pieces markup)).map fun t =>
    { t with spans := t.spans.reverse.mergeSort (·.start ≤ ·.start) }

/-! ## Facts -/

/-- What is found as the end of a tag is there. -/
theorem tagEnd?_eq_some {s t : List Char} (h : tagEnd? s = some t) :
    ∃ rest, s = t ++ ']' :: rest := by
  induction s generalizing t with
  | nil => simp [tagEnd?] at h
  | cons c cs ih =>
    simp only [tagEnd?] at h
    split at h
    · rename_i hc
      simp only [Option.some.injEq] at h
      exact ⟨cs, by simp [← h, hc]⟩
    · split at h
      · simp at h
      · obtain ⟨u, hu, rfl⟩ := Option.map_eq_some_iff.1 h
        obtain ⟨rest, rfl⟩ := ih hu
        exact ⟨rest, rfl⟩

/-- A text without opening brackets has no tags. -/
theorem pieces_of_not_mem {s : List Char} (h : '[' ∉ s) : pieces s = s.map .char := by
  have key : ∀ s : List Char, '[' ∉ s → slashedTag? s = none := by
    intro s hs
    have hd : ∀ c cs, s.drop (leadingSlashes s) = c :: cs → c ≠ '[' := by
      rintro c cs hc rfl
      exact hs (List.drop_subset _ _ (hc ▸ List.mem_cons_self))
    simp only [slashedTag?, Option.map_eq_none_iff]
    cases hc : s.drop (leadingSlashes s) with
    | nil => rfl
    | cons c cs =>
      have := hd c cs hc
      simp [tagHere?, this]
  simp only [pieces]
  induction s with
  | nil => rfl
  | cons c cs ih =>
    simp only [piecesFrom, key _ h, List.map_cons, List.cons.injEq, true_and]
    exact ih fun hm => h (List.mem_cons_of_mem _ hm)

end Terminal
end RouteAudit
