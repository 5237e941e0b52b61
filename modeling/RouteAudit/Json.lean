import RouteAudit.Number.Shortest
import RouteAudit.Text.Quoted

/-!
# JSON

Reports are written as JSON, one member or item to a line, indented by two spaces a level.  An
object keeps the order of its members.

Which characters of a text are escaped differs.  A report for people escapes only what has to be:
the double quote, the backslash and the controls below the space.  Data inside a page is written
in ASCII, and `htmlSafe` hides the characters that mean something to a page.

Main definitions: `Json.pretty`, `Json.embedded`.
-/

set_option autoImplicit false

namespace RouteAudit

/-- A JSON value. -/
inductive Json where
  | null
  | bool (b : Bool)
  | int (n : Int)
  | float (x : Binary64)
  | str (s : String)
  | arr (items : List Json)
  | obj (members : List (String × Json))
  deriving Inhabited

namespace Json

/-- A character by its UTF-16 unit. -/
def unitEscape (n : Nat) : List Char := ['\\', 'u'] ++ Text.padZero 4 (Text.hexDigits n)

/-- Escapes what has to be escaped in every text. -/
def escapeControl (c : Char) : List Char :=
  if c = '"' || c = '\\' then ['\\', c]
  else if c = '\n' then ['\\', 'n']
  else if c = '\r' then ['\\', 'r']
  else if c = '\t' then ['\\', 't']
  else if c = '\x08' then ['\\', 'b']
  else if c = '\x0c' then ['\\', 'f']
  else if c.toNat < 0x20 then unitEscape c.toNat
  else [c]

/-- Escapes also the delete character and what is not ASCII, a character beyond the first plane by
two units. -/
def escapeAscii (c : Char) : List Char :=
  let n := c.toNat
  if n < 0x7F then escapeControl c
  else if n < 0x10000 then unitEscape n
  else
    unitEscape (0xD800 + (n - 0x10000) / 0x400) ++ unitEscape (0xDC00 + (n - 0x10000) % 0x400)

/-- How a floating-point number is written. -/
def floatLayout : Decimal.Layout := ⟨-4, 16, 'e', 2, "Infinity", "NaN"⟩

/-- A text between quotes. -/
def quoted (escape : Char → List Char) (s : String) : List Char :=
  '"' :: s.toList.flatMap escape ++ ['"']

/-- A new line at a depth. -/
def newline (depth : Nat) : List Char := '\n' :: List.replicate (2 * depth) ' '

mutual

/-- The text of a value at a depth. -/
def render (escape : Char → List Char) (depth : Nat) : Json → List Char
  | .null => "null".toList
  | .bool b => if b then "true".toList else "false".toList
  | .int n => (toString n).toList
  | .float x => (floatLayout.text x).toList
  | .str s => quoted escape s
  | .arr [] => ['[', ']']
  | .arr (v :: vs) =>
    '[' :: newline (depth + 1) ++ render escape (depth + 1) v ++ renderItems escape (depth + 1) vs
      ++ newline depth ++ [']']
  | .obj [] => ['{', '}']
  | .obj ((k, v) :: ms) =>
    '{' :: newline (depth + 1) ++ quoted escape k ++ ':' :: ' ' :: render escape (depth + 1) v
      ++ renderMembers escape (depth + 1) ms ++ newline depth ++ ['}']

/-- The items behind the first one. -/
def renderItems (escape : Char → List Char) (depth : Nat) : List Json → List Char
  | [] => []
  | v :: vs => ',' :: newline depth ++ render escape depth v ++ renderItems escape depth vs

/-- The members behind the first one. -/
def renderMembers (escape : Char → List Char) (depth : Nat) : List (String × Json) → List Char
  | [] => []
  | (k, v) :: ms =>
    ',' :: newline depth ++ quoted escape k ++ ':' :: ' ' :: render escape depth v
      ++ renderMembers escape depth ms

end

/-- The text of a value in a report. -/
def pretty (j : Json) : String := String.ofList (j.render escapeControl 0)

/-- Hides a character that means something to a page. -/
def hideMarkup (c : Char) : List Char :=
  if c = '<' || c = '>' || c = '&' || c = '\'' then unitEscape c.toNat else [c]

/-- A text that means nothing to a page. -/
def htmlSafe (s : List Char) : List Char := s.flatMap hideMarkup

/-- The text of a value inside a page. -/
def embedded (j : Json) : List Char := htmlSafe (j.render escapeAscii 0)

/-- **No markup.**  A text that was made safe has no character that means something to a page. -/
theorem not_mem_htmlSafe {c : Char} (h : c = '<' ∨ c = '>' ∨ c = '&' ∨ c = '\'') (s : List Char) :
    c ∉ htmlSafe s := by
  simp only [htmlSafe, List.mem_flatMap, not_exists, not_and]
  intro d _ hc
  simp only [hideMarkup] at hc
  split at hc
  · rename_i hd
    simp only [Bool.or_eq_true, decide_eq_true_eq] at hd
    rcases hd with ((rfl | rfl) | rfl) | rfl <;> rcases h with rfl | rfl | rfl | rfl <;>
      revert hc <;> decide
  · rename_i hd
    simp only [List.mem_singleton] at hc
    subst hc
    simp at hd
    rcases h with h | h | h | h <;> simp [h] at hd

end Json
end RouteAudit
