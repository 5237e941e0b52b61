/-!
# Base 64

Bytes written with sixty-four characters, four for every three bytes.  Other characters between
them do not count.  Padding ends the text once it completes a group of four; without padding the
last group has to be complete.
-/

set_option autoImplicit false

namespace RouteAudit
namespace Text

/-- The six bits that a character stands for. -/
def sixBits? (c : Char) : Option Nat :=
  if c.isUpper then some (c.toNat - 'A'.toNat)
  else if c.isLower then some (c.toNat - 'a'.toNat + 26)
  else if c.isDigit then some (c.toNat - '0'.toNat + 52)
  else if c = '+' then some 62
  else if c = '/' then some 63
  else none

/-- Reads the characters behind `held` characters of a group whose unused bits are `bits`; `pads`
is the length of the run of padding just read. -/
def base64From? (held bits pads : Nat) : List Char → Option (List UInt8)
  | [] => if held = 0 then some [] else none
  | c :: cs =>
    if c = '=' then
      if 2 ≤ held then
        if 4 ≤ held + pads + 1 then some [] else base64From? held bits (pads + 1) cs
      else base64From? held bits pads cs
    else
      match sixBits? c with
      | none => base64From? held bits pads cs
      | some b =>
        match held with
        | 0 => base64From? 1 b 0 cs
        | 1 => (base64From? 2 (b % 16) 0 cs).map (UInt8.ofNat (bits * 4 + b / 16) :: ·)
        | 2 => (base64From? 3 (b % 4) 0 cs).map (UInt8.ofNat (bits * 16 + b / 4) :: ·)
        | _ => (base64From? 0 0 0 cs).map (UInt8.ofNat (bits * 64 + b) :: ·)

/-- The bytes that a text in base 64 stands for. -/
def base64? (cs : List Char) : Option (List UInt8) := base64From? 0 0 0 cs

end Text
end RouteAudit
