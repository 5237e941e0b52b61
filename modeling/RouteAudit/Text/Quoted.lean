import RouteAudit.Text.Printable

/-!
# Quoted text

Messages show a text between quotes.  The quotes are single ones unless the text has a single
quote and no double one.  A backslash and the quote in use are written with a backslash before
them, the three common controls by a letter, and every other character without a printed form by
its code point in two, four or eight hexadecimal digits.
-/

set_option autoImplicit false

namespace RouteAudit
namespace Text

/-- The digits of `n` in base sixteen, lower case. -/
def hexDigits (n : Nat) : List Char := Nat.toDigits 16 n

/-- `s` with zeros in front, up to `width` characters. -/
def padZero (width : Nat) (s : List Char) : List Char :=
  List.replicate (width - s.length) '0' ++ s

/-- The quote to put around a text. -/
def quoteFor (s : List Char) : Char :=
  if s.contains '\'' && !s.contains '"' then '"' else '\''

/-- One character of a text between the quotes `q`. -/
def quotedChar (q c : Char) : List Char :=
  if c = q || c = '\\' then ['\\', c]
  else if c = '\n' then ['\\', 'n']
  else if c = '\r' then ['\\', 'r']
  else if c = '\t' then ['\\', 't']
  else if isPrintable c then [c]
  else if c.toNat < 0x100 then ['\\', 'x'] ++ padZero 2 (hexDigits c.toNat)
  else if c.toNat < 0x10000 then ['\\', 'u'] ++ padZero 4 (hexDigits c.toNat)
  else ['\\', 'U'] ++ padZero 8 (hexDigits c.toNat)

/-- The text between quotes. -/
def quotedChars (s : List Char) : List Char :=
  let q := quoteFor s
  q :: s.flatMap (quotedChar q) ++ [q]

/-- The text between quotes. -/
def quoted (s : String) : String := String.ofList (quotedChars s.toList)

end Text
end RouteAudit
