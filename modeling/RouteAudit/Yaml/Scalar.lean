import RouteAudit.Yaml.Cursor
import RouteAudit.Yaml.Fault

/-!
# Scalars in a text

A scalar is written plainly, between single or double quotes, or as a block of indented lines.
Each form is read from a cursor and gives the text that it stands for.

* In a plain or quoted scalar a line break stands for a space, and `n + 1` breaks for `n`.
* Between single quotes, a doubled quote stands for one.  Between double quotes, a backslash begins
  an escape.
* A literal block (`|`) keeps its lines; a folded block (`>`) joins lines that are neither indented
  further nor separated by an empty one.  An indicator says what becomes of the last breaks.

Every loop here carries a bound on its rounds; a round reads at least one character, so that the
length of the text is enough.
-/

set_option autoImplicit false

namespace RouteAudit
namespace Yaml

/-- A piece of text that has been read, last character first. -/
abbrev Backwards := List Char

/-- Passes over breaks and the blanks around them inside a quoted scalar. -/
def foldedBreaks : Nat → Backwards → Cursor → Except Fault (Backwards × Cursor)
  | 0, _, _ => .error (.malformed "endless breaks")
  | fuel + 1, acc, c =>
    if c.atSeparator then .error (.malformed "document separator inside quotes")
    else
      let c := c.skip fun ch => ch == ' ' || ch == '\t'
      match c.lineBreak with
      | (some b, c) => foldedBreaks fuel (b :: acc) c
      | (none, c) => .ok (acc, c)

/-- What a break and the breaks behind it (last first) stand for, last character first. -/
def joinBreaks (first : Char) (more : Backwards) : Backwards :=
  if first ≠ '\n' then more ++ [first] else if more.isEmpty then [' '] else more

/-- Escapes of one letter. -/
def simpleEscape? : Char → Option Char
  | '0' => some '\x00'
  | 'a' => some '\x07'
  | 'b' => some '\x08'
  | 't' => some '\t'
  | '\t' => some '\t'
  | 'n' => some '\n'
  | 'v' => some '\x0B'
  | 'f' => some '\x0C'
  | 'r' => some '\r'
  | 'e' => some '\x1B'
  | ' ' => some ' '
  | '"' => some '"'
  | '\\' => some '\\'
  | '/' => some '/'
  | 'N' => some '\x85'
  | '_' => some '\xA0'
  | 'L' => some '\u2028'
  | 'P' => some '\u2029'
  | _ => none

/-- How many hexadecimal digits follow the letter of an escape. -/
def escapeDigits? : Char → Option Nat
  | 'x' => some 2
  | 'u' => some 4
  | 'U' => some 8
  | _ => none

/-- The value of a hexadecimal digit. -/
def hexValue? (c : Char) : Option Nat :=
  if '0' ≤ c ∧ c ≤ '9' then some (c.toNat - '0'.toNat)
  else if 'a' ≤ c ∧ c ≤ 'f' then some (c.toNat - 'a'.toNat + 10)
  else if 'A' ≤ c ∧ c ≤ 'F' then some (c.toNat - 'A'.toNat + 10)
  else none

/-- The number that hexadecimal digits stand for. -/
def hexNumber? (cs : List Char) : Option Nat :=
  cs.foldl (fun acc c => acc.bind fun n => (hexValue? c).map (n * 16 + ·)) (some 0)

/-- A piece of text in which escapes may stand for halves of pairs, last code point first. -/
abbrev BackwardPoints := List CodePoint

/-- Reads an escape, with the cursor behind the backslash: the code points that it stands for, last
first. -/
def readEscape (c : Cursor) : Except Fault (BackwardPoints × Cursor) :=
  let ch := c.peek
  match simpleEscape? ch, escapeDigits? ch with
  | some r, _ => .ok ([.char r], c.step)
  | none, some n =>
    let ds := c.step.rest.take n
    match hexNumber? ds with
    | some number =>
      if ds.length < n then .error (.malformed "short escape")
      else
        match CodePoint.ofNat? number with
        | some p => .ok ([p], c.advance (n + 1))
        | none => .error (.codePoint number)
    | none => .error (.malformed "escape without digits")
  | none, none =>
    match c.lineBreak with
    | (some _, d) =>
      match foldedBreaks (d.rest.length + 1) [] d with
      | .error e => .error e
      | .ok (breaks, d) => .ok (CodePoint.ofChars breaks, d)
    | (none, _) => .error (.malformed "unknown escape")

/-- Whether `c` is an ordinary character of a quoted scalar. -/
def isQuotedOrdinary (c : Char) : Bool := !(c == '\'' || c == '"' || c == '\\' || isGapOrEnd c)

/-- Reads what is not blank inside a quoted scalar. -/
def quotedRun (double : Bool) :
    Nat → BackwardPoints → Cursor → Except Fault (BackwardPoints × Cursor)
  | 0, _, _ => .error (.malformed "endless scalar")
  | fuel + 1, acc, c =>
    let ch := c.peek
    if isQuotedOrdinary ch then quotedRun double fuel (.char ch :: acc) c.step
    else if !double && ch == '\'' && c.peekAt 1 == '\'' then
      quotedRun double fuel (.char '\'' :: acc) (c.advance 2)
    else if (double && ch == '\'') || (!double && (ch == '"' || ch == '\\')) then
      quotedRun double fuel (.char ch :: acc) c.step
    else if double && ch == '\\' then
      match readEscape c.step with
      | .error e => .error e
      | .ok (r, c) => quotedRun double fuel (r ++ acc) c
    else .ok (acc, c)

/-- Reads the blanks and breaks inside a quoted scalar. -/
def quotedBlank (acc : BackwardPoints) (c : Cursor) : Except Fault (BackwardPoints × Cursor) :=
  let blanks := c.run fun ch => ch == ' ' || ch == '\t'
  let c := c.advance blanks.length
  if c.rest.isEmpty then .error (.malformed "unclosed quote")
  else
    match c.lineBreak with
    | (some b, c) =>
      match foldedBreaks (c.rest.length + 1) [] c with
      | .error e => .error e
      | .ok (more, c) => .ok (CodePoint.ofChars (joinBreaks b more) ++ acc, c)
    | (none, c) => .ok (CodePoint.ofChars blanks.reverse ++ acc, c)

/-- Reads on to the closing quote. -/
def quotedLoop (double : Bool) (quote : Char) :
    Nat → BackwardPoints → Cursor → Except Fault (BackwardPoints × Cursor)
  | 0, _, _ => .error (.malformed "endless scalar")
  | fuel + 1, acc, c =>
    if c.peek == quote then .ok (acc, c.step)
    else
      match quotedBlank acc c with
      | .error e => .error e
      | .ok (acc, c) =>
        match quotedRun double (c.rest.length + 1) acc c with
        | .error e => .error e
        | .ok (acc, c) => quotedLoop double quote fuel acc c

/-- Reads a quoted scalar, with the cursor on the opening quote. -/
def quotedScalar (c : Cursor) : Except Fault (List CodePoint × Cursor) :=
  let quote := c.peek
  let double := quote == '"'
  match quotedRun double (c.rest.length + 1) [] c.step with
  | .error e => .error e
  | .ok (acc, c) =>
    match quotedLoop double quote (c.rest.length + 2) acc c with
    | .error e => .error e
    | .ok (acc, c) => .ok (acc.reverse, c)

/-! ## Plain scalars -/

/-- How many characters of a plain scalar stand here before a gap or a mark. -/
def plainLength (flow : Bool) : List Char → Nat
  | [] => 0
  | ch :: rest =>
    let next := rest.headD endMark
    if isGapOrEnd ch then 0
    else if ch == ':' && (isGapOrEnd next || (flow && ",[]\x7b\x7d".toList.contains next)) then 0
    else if flow && ",?[]\x7b\x7d".toList.contains ch then 0
    else 1 + plainLength flow rest

/-- Passes over the breaks behind the first one; none when a separator of documents comes up. -/
def plainBreaks : Nat → Backwards → Cursor → Option Backwards × Cursor
  | 0, acc, c => (some acc, c)
  | fuel + 1, acc, c =>
    if c.peek == ' ' then plainBreaks fuel acc c.step
    else
      match c.lineBreak with
      | (some b, c) => if c.atSeparator then (none, c) else plainBreaks fuel (b :: acc) c
      | (none, c) => (some acc, c)

/-- The blanks inside a plain scalar: what they stand for, last first, whether a line was broken,
and where they end.  Nothing is given when the scalar ends here. -/
def plainBlank (c : Cursor) : Option Backwards × Bool × Cursor :=
  let spaces := c.run (· == ' ')
  let c := c.advance spaces.length
  match c.lineBreak with
  | (some b, c) =>
    if c.atSeparator then (none, true, c)
    else
      match plainBreaks (c.rest.length + 1) [] c with
      | (none, c) => (none, true, c)
      | (some more, c) => (some (joinBreaks b more), true, c)
  | (none, c) => (if spaces.isEmpty then none else some spaces, false, c)

/-- Reads a plain scalar whose lines have to be indented to `indent` outside flow collections: the
text, whether a line was broken behind it, and where it ends. -/
def plainLoop (flow : Bool) (indent : Int) :
    Nat → Backwards → Backwards → Bool → Cursor → Backwards × Bool × Cursor
  | 0, acc, _, broken, c => (acc, broken, c)
  | fuel + 1, acc, blank, broken, c =>
    if c.peek == '#' then (acc, broken, c)
    else
      match plainLength flow c.rest with
      | 0 => (acc, broken, c)
      | n + 1 =>
        let acc := (c.rest.take (n + 1)).reverse ++ blank ++ acc
        match plainBlank (c.advance (n + 1)) with
        | (none, broken, c) => (acc, broken, c)
        | (some blank, broken, c) =>
          if c.peek == '#' || (!flow && (c.column : Int) < indent) then (acc, broken, c)
          else plainLoop flow indent fuel acc blank broken c

/-- Reads a plain scalar. -/
def plainScalar (flow : Bool) (indent : Int) (c : Cursor) : List Char × Bool × Cursor :=
  let (acc, broken, c) := plainLoop flow indent (c.rest.length + 1) [] [] false c
  (acc.reverse, broken, c)

/-! ## Blocks -/

/-- What becomes of the breaks at the end of a block. -/
inductive Chomp where
  /-- One break is kept. -/
  | clip
  /-- All breaks are kept. -/
  | keep
  /-- No break is kept. -/
  | strip
  deriving DecidableEq, Repr

/-- The sign that tells what becomes of the last breaks. -/
def chomp? : Char → Option Chomp
  | '+' => some .keep
  | '-' => some .strip
  | _ => none

/-- The digit that tells how far a block is indented. -/
def indentation? (c : Char) : Option Nat := if c.isDigit then some (c.toNat - '0'.toNat) else none

/-- Reads the indicators behind the mark of a block, in either order. -/
def blockHeader (c : Cursor) : Except Fault (Chomp × Option Nat × Cursor) :=
  let (chomp, indent, c) :=
    match chomp? c.peek with
    | some ch =>
      match indentation? c.step.peek with
      | some n => (ch, some n, c.advance 2)
      | none => (ch, none, c.step)
    | none =>
      match indentation? c.peek with
      | some n =>
        match chomp? c.step.peek with
        | some ch => (ch, some n, c.advance 2)
        | none => (.clip, some n, c.step)
      | none => (.clip, none, c)
  if indent = some 0 then .error (.malformed "indentation of zero")
  else if isSpaceOrEnd c.peek then .ok (chomp, indent, c)
  else .error (.malformed "unexpected indicator")

/-- Passes over spaces and a comment, up to and including the end of the line. -/
def restOfLine (c : Cursor) : Except Fault Cursor :=
  let c := c.skip (· == ' ')
  let c := if c.peek == '#' then c.skip (fun ch => !isBreakOrEnd ch) else c
  if isBreakOrEnd c.peek then .ok c.lineBreak.2 else .error (.malformed "text behind a mark")

/-- Passes over the empty lines at the start of a block: their breaks, last first, and the deepest
indentation among them and the first line. -/
def blockIndent : Nat → Backwards → Nat → Cursor → Backwards × Nat × Cursor
  | 0, acc, deepest, c => (acc, deepest, c)
  | fuel + 1, acc, deepest, c =>
    if c.peek == ' ' then
      let c := c.step
      blockIndent fuel acc (max deepest c.column) c
    else
      match c.lineBreak with
      | (some b, c) => blockIndent fuel (b :: acc) deepest c
      | (none, c) => (acc, deepest, c)

/-- Passes over at most `indent` columns of spaces. -/
def skipIndent (indent : Nat) : Nat → Cursor → Cursor
  | 0, c => c
  | fuel + 1, c =>
    if c.column < indent && c.peek == ' ' then skipIndent indent fuel c.step else c

/-- Passes over empty lines inside a block: their breaks, last first. -/
def blockBreaks (indent : Nat) : Nat → Backwards → Cursor → Backwards × Cursor
  | 0, acc, c => (acc, c)
  | fuel + 1, acc, c =>
    match c.lineBreak with
    | (some b, c) => blockBreaks indent fuel (b :: acc) (skipIndent indent (indent + 1) c)
    | (none, c) => (acc, c)

/-- Reads the lines of a block: the text, the last break, the empty lines behind it and the end. -/
def blockLoop (folded : Bool) (indent : Nat) :
    Nat → Backwards → Backwards → Option Char → Cursor →
      Backwards × Backwards × Option Char × Cursor
  | 0, acc, breaks, last, c => (acc, breaks, last, c)
  | fuel + 1, acc, breaks, last, c =>
    if c.column == indent && !c.rest.isEmpty then
      let acc := breaks ++ acc
      let flush := !(c.peek == ' ' || c.peek == '\t')
      let line := c.run fun ch => !isBreakOrEnd ch
      let acc := line.reverse ++ acc
      let (last, c) := (c.advance line.length).lineBreak
      let (breaks, c) :=
        blockBreaks indent (c.rest.length + 1) [] (skipIndent indent (indent + 1) c)
      if c.column == indent && !c.rest.isEmpty then
        if folded && last == some '\n' && flush && !(c.peek == ' ' || c.peek == '\t') then
          blockLoop folded indent fuel (if breaks.isEmpty then ' ' :: acc else acc) breaks last c
        else blockLoop folded indent fuel (last.toList ++ acc) breaks last c
      else (acc, breaks, last, c)
    else (acc, breaks, last, c)

/-- Reads a block, with the cursor on its mark; `outer` is the indentation around it. -/
def blockScalar (outer : Int) (c : Cursor) : Except Fault (List Char × Cursor) :=
  let folded := c.peek == '>'
  match blockHeader c.step with
  | .error e => .error e
  | .ok (chomp, given, c) =>
    match restOfLine c with
    | .error e => .error e
    | .ok c =>
      let least := (max (outer + 1) 1).toNat
      let (indent, breaks, c) :=
        match given with
        | none =>
          let (breaks, deepest, c) := blockIndent (c.rest.length + 1) [] 0 c
          (max least deepest, breaks, c)
        | some n =>
          let indent := least + n - 1
          let (breaks, c) :=
            blockBreaks indent (c.rest.length + 1) [] (skipIndent indent (indent + 1) c)
          (indent, breaks, c)
      let (acc, breaks, last, c) := blockLoop folded indent (c.rest.length + 1) [] breaks none c
      let acc := if chomp = .strip then acc else last.toList ++ acc
      let acc := if chomp = .keep then breaks ++ acc else acc
      .ok (acc.reverse, c)

end Yaml
end RouteAudit
