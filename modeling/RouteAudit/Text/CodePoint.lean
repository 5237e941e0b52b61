import RouteAudit.Text.Quoted

/-!
# Code points

An escape in a quoted text can name any code point, also one half of a surrogate pair, which is no
character.  So a text with escapes is a list of `CodePoint`s.  Two halves that meet stay two in a
message; where a text is written out, they read as the one character that they make.
-/

set_option autoImplicit false

namespace RouteAudit

/-- A character, or one half of a surrogate pair. -/
inductive CodePoint where
  | char (c : Char)
  | half (unit : Nat)
  deriving DecidableEq, Repr

namespace CodePoint

/-- The code point with a number, if there is one. -/
def ofNat? (n : Nat) : Option CodePoint :=
  if 0xD800 ≤ n && n ≤ 0xDFFF then some (.half n)
  else if n ≤ 0x10FFFF then some (.char (Char.ofNat n))
  else none

/-- The character itself, and the replacement character for a half. -/
def toChar : CodePoint → Char
  | .char c => c
  | .half _ => '\uFFFD'

/-- The code points of a text. -/
def ofChars (cs : List Char) : List CodePoint := cs.map .char

/-- The text, if there is no half in it. -/
def chars? : List CodePoint → Option (List Char)
  | [] => some []
  | .char c :: ps => (chars? ps).map (c :: ·)
  | .half _ :: _ => none

/-- The characters of a text, with every pair read as one and a lone half replaced. -/
def paired : List CodePoint → List Char
  | [] => []
  | .char c :: ps => c :: paired ps
  | .half a :: .half b :: ps =>
    if a < 0xDC00 && 0xDC00 ≤ b then
      Char.ofNat (0x10000 + (a - 0xD800) * 0x400 + (b - 0xDC00)) :: paired ps
    else '\uFFFD' :: paired (.half b :: ps)
  | .half _ :: ps => '\uFFFD' :: paired ps

/-- One code point of a text between the quotes `q`. -/
def quoted (q : Char) : CodePoint → List Char
  | .char c => Text.quotedChar q c
  | .half n => ['\\', 'u'] ++ Text.padZero 4 (Text.hexDigits n)

/-- A text between quotes. -/
def quotedAll (ps : List CodePoint) : List Char :=
  let q := Text.quoteFor (ps.map toChar)
  q :: ps.flatMap (quoted q) ++ [q]

/-- A text of characters is written as it is. -/
@[simp] theorem paired_ofChars (cs : List Char) : paired (ofChars cs) = cs := by
  induction cs with
  | nil => rfl
  | cons c cs ih => simpa [ofChars, paired] using ih

/-- Only a text of characters has characters alone. -/
theorem eq_ofChars_of_chars? {ps : List CodePoint} {cs : List Char} (h : chars? ps = some cs) :
    ps = ofChars cs := by
  induction ps generalizing cs with
  | nil => simp_all [chars?, ofChars]
  | cons p ps ih =>
    cases p with
    | half n => simp [chars?] at h
    | char c =>
      obtain ⟨ds, hd, rfl⟩ := Option.map_eq_some_iff.1 (by simpa [chars?] using h)
      simp [ofChars, ih hd]

end CodePoint
end RouteAudit
