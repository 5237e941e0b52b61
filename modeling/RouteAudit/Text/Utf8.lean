/-!
# Reading bytes as text

Any sequence of bytes can be read as text.  Well-formed UTF-8 gives its characters; where the
bytes are not well formed, one replacement character stands for each maximal piece that could
still have begun a character.  A byte order mark is a character like any other.  After that every
line end, whether a carriage return, a line feed or both, is one line feed.

The reader is a machine that looks at one byte at a time.  Between characters it holds nothing;
inside one it holds what has been read so far and the range the next byte has to lie in.

* `decode` — bytes to characters;
* `unifyNewlines` — line ends to line feeds;
* `readText` — both.
-/

set_option autoImplicit false

namespace RouteAudit
namespace Text

/-- Stands for bytes that are not UTF-8. -/
def replacement : Char := '\uFFFD'

/-- A character whose first bytes have been read. -/
structure Unfinished where
  /-- The bits read so far. -/
  code : Nat
  /-- How many bytes are still to come. -/
  owed : Nat
  /-- The least value of the next byte. -/
  low : Nat
  /-- The greatest value of the next byte. -/
  high : Nat
  deriving DecidableEq, Repr

/-- What a byte means between characters: the characters it completes, and the character it
begins. -/
def firstByte (b : Nat) : List Char × Option Unfinished :=
  if b < 0x80 then ([Char.ofNat b], none)
  else if b < 0xC2 then ([replacement], none)
  else if b < 0xE0 then ([], some ⟨b - 0xC0, 1, 0x80, 0xBF⟩)
  else if b = 0xE0 then ([], some ⟨0, 2, 0xA0, 0xBF⟩)
  else if b = 0xED then ([], some ⟨0xD, 2, 0x80, 0x9F⟩)
  else if b < 0xF0 then ([], some ⟨b - 0xE0, 2, 0x80, 0xBF⟩)
  else if b = 0xF0 then ([], some ⟨0, 3, 0x90, 0xBF⟩)
  else if b < 0xF4 then ([], some ⟨b - 0xF0, 3, 0x80, 0xBF⟩)
  else if b = 0xF4 then ([], some ⟨4, 3, 0x80, 0x8F⟩)
  else ([replacement], none)

/-- One step of the machine: the characters that the byte completes, and what is held after it.
A byte that cannot continue the character in hand ends it with a replacement and is then read as
a first byte. -/
def readByte (held : Option Unfinished) (b : Nat) : List Char × Option Unfinished :=
  match held with
  | none => firstByte b
  | some p =>
    if p.low ≤ b ∧ b ≤ p.high then
      let code := p.code * 64 + (b - 0x80)
      if p.owed ≤ 1 then ([Char.ofNat code], none)
      else ([], some ⟨code, p.owed - 1, 0x80, 0xBF⟩)
    else
      let (cs, next) := firstByte b
      (replacement :: cs, next)

/-- The characters of the bytes that follow what is held. -/
def decodeFrom (held : Option Unfinished) : List UInt8 → List Char
  | [] => if held.isSome then [replacement] else []
  | b :: bs =>
    let (cs, next) := readByte held b.toNat
    cs ++ decodeFrom next bs

/-- The characters of a sequence of bytes. -/
def decode (bytes : List UInt8) : List Char := decodeFrom none bytes

/-- An ASCII byte between characters is its own character. -/
theorem decode_ascii {b : UInt8} (bs : List UInt8) (h : b.toNat < 0x80) :
    decode (b :: bs) = Char.ofNat b.toNat :: decode bs := by
  simp [decode, decodeFrom, readByte, firstByte, h]

/-- Every line end becomes one line feed. -/
def unifyNewlines : List Char → List Char
  | [] => []
  | [c] => if c = '\r' then ['\n'] else [c]
  | c :: d :: cs =>
    if c = '\r' then
      if d = '\n' then '\n' :: unifyNewlines cs else '\n' :: unifyNewlines (d :: cs)
    else c :: unifyNewlines (d :: cs)

/-- A text without carriage returns is left alone. -/
theorem unifyNewlines_of_not_mem {s : List Char} (h : '\r' ∉ s) : unifyNewlines s = s := by
  fun_induction unifyNewlines s with
  | case1 => rfl
  | case2 => simp at h
  | case3 => rfl
  | case4 => simp at h
  | case5 => simp at h
  | case6 c d cs hc ih => rw [ih (fun hm => h (List.mem_cons_of_mem _ hm))]

/-- The text of a file. -/
def readText (bytes : List UInt8) : List Char := unifyNewlines (decode bytes)

end Text
end RouteAudit
