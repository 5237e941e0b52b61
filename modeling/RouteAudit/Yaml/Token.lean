import RouteAudit.Number.Numeral
import RouteAudit.Yaml.Scalar

/-!
# Tokens

The text of a table is first cut into tokens.  Two things make that more than a matter of single
characters.

*Indentation* outside flow collections opens and closes blocks: a stack of columns tells where
`blockEnd` tokens have to go.

*Simple keys*: whether a scalar is a key shows only at the colon behind it.  So the scanner
remembers, for each level of flow collections, where a key might have begun, and puts the `key`
token there once the colon comes up.  A key has to be on one line and no longer than 1024
characters; where nothing but a key can stand, a missing colon is a fault.

`tokenize` reads the whole text.  A fault in the text is a token too, the last one: whoever reads
the tokens may meet a fault of another kind before it.  Tokens behind a place where a key may still
have begun are not handed out until that is settled, so a fault takes the place of those.
-/

set_option autoImplicit false

namespace RouteAudit
namespace Yaml

/-- A token. -/
inductive Token where
  /-- The version that the text says it is written in. -/
  | version (major minor : Nat)
  /-- A short name for the start of tags. -/
  | handle (name uri : String)
  /-- Any other directive. -/
  | directive (name : String)
  | documentStart
  | documentEnd
  | blockSequenceStart
  | blockMappingStart
  | blockEnd
  | flowSequenceStart
  | flowSequenceEnd
  | flowMappingStart
  | flowMappingEnd
  | blockEntry
  | flowEntry
  | key
  | value
  | alias (name : String)
  | anchor (name : String)
  /-- A tag; a verbatim one has no handle. -/
  | tag (handle : Option String) (suffix : String)
  /-- A scalar, and whether it was written plainly. -/
  | scalar (text : List CodePoint) (isPlain : Bool)
  /-- The text cannot be read any further. -/
  | fault (f : Fault)
  | streamEnd
  deriving DecidableEq, Repr

/-- A place where a key may have begun. -/
structure SimpleKey where
  /-- How many tokens came before it. -/
  tokenNumber : Nat
  /-- Whether nothing but a key can stand there. -/
  required : Bool
  /-- Its place in the text. -/
  index : Nat
  line : Nat
  column : Nat

/-- The state of the scanner. -/
structure Scan where
  /-- Where it is. -/
  cursor : Cursor
  /-- How many flow collections are open. -/
  flow : Nat := 0
  /-- The column of the current block, or `-1` outside all blocks. -/
  indent : Int := -1
  /-- The columns of the blocks around it. -/
  indents : List Int := []
  /-- Whether a key may begin here. -/
  keyAllowed : Bool := true
  /-- Where a key may have begun, by the number of open flow collections. -/
  keys : List (Nat × SimpleKey) := []
  /-- The tokens so far. -/
  tokens : Array Token := #[]

namespace Scan

/-- Adds a token. -/
def push (s : Scan) (t : Token) : Scan := { s with tokens := s.tokens.push t }

/-- Puts a token in front of the token with number `n`. -/
def insert (s : Scan) (n : Nat) (t : Token) : Scan :=
  { s with tokens := (s.tokens.extract 0 n).push t ++ s.tokens.extract n s.tokens.size }

/-- The place where a key may have begun at the present level. -/
def key? (s : Scan) : Option SimpleKey := (s.keys.find? (·.1 == s.flow)).map Prod.snd

/-- Gives up the key at the present level; that is a fault where a key is required. -/
def dropKey (s : Scan) : Except Fault Scan :=
  if s.key?.any (·.required) then .error (.malformed "missing colon")
  else .ok { s with keys := s.keys.filter (·.1 != s.flow) }

/-- Whether a key can no longer be completed here. -/
def isStale (s : Scan) (k : SimpleKey) : Bool :=
  k.line != s.cursor.line || 1024 < s.cursor.index - k.index

/-- Gives up every key that can no longer be completed. -/
def dropStaleKeys (s : Scan) : Except Fault Scan :=
  if s.keys.any fun e => s.isStale e.2 && e.2.required then .error (.malformed "missing colon")
  else .ok { s with keys := s.keys.filter fun e => !s.isStale e.2 }

/-- Remembers that a key may begin here. -/
def saveKey (s : Scan) : Except Fault Scan :=
  if s.keyAllowed then
    match s.dropKey with
    | .error e => .error e
    | .ok s =>
      let key : SimpleKey :=
        { tokenNumber := s.tokens.size
          required := s.flow == 0 && s.indent == s.cursor.column
          index := s.cursor.index
          line := s.cursor.line
          column := s.cursor.column }
      .ok { s with keys := (s.flow, key) :: s.keys }
  else .ok s

/-- Closes the blocks that are indented further than `column`. -/
def unwindTo (column : Int) : List Int → Scan → Scan
  | [], s => s
  | outer :: more, s =>
    if column < s.indent then
      unwindTo column more ({ s with indent := outer, indents := more }.push .blockEnd)
    else s

/-- Closes the blocks that are indented further than `column`, outside flow collections. -/
def unwind (s : Scan) (column : Int) : Scan :=
  if s.flow == 0 then unwindTo column s.indents s else s

/-- Opens a block at `column`, if that is further in: whether it did. -/
def openBlock (s : Scan) (column : Nat) : Bool × Scan :=
  if s.indent < column then (true, { s with indent := column, indents := s.indent :: s.indents })
  else (false, s)

/-- Goes on behind a token of `n` characters. -/
def emit (s : Scan) (t : Token) (n : Nat) : Scan :=
  { s with cursor := s.cursor.advance n }.push t

/-- Passes over spaces, comments and line breaks.  Behind a break a key may begin, outside flow
collections. -/
def toNextToken : Nat → Scan → Scan
  | 0, s => s
  | fuel + 1, s =>
    let c := s.cursor.skip (· == ' ')
    let c := if c.peek == '#' then c.skip (fun ch => !isBreakOrEnd ch) else c
    match c.lineBreak with
    | (some _, c) =>
      toNextToken fuel { s with cursor := c, keyAllowed := s.keyAllowed || s.flow == 0 }
    | (none, c) => { s with cursor := c }

/-! ## Tokens of one kind -/

/-- The end of the text, or a token that only stands between documents. -/
def betweenDocuments (s : Scan) : Except Fault Scan :=
  match (s.unwind (-1)).dropKey with
  | .error e => .error e
  | .ok s => .ok { s with keyAllowed := false }

/-- Whether `c` may stand in the name of an anchor, a directive or a handle. -/
def isNameChar (c : Char) : Bool := c.isAlphanum || c == '-' || c == '_'

/-- Whether `c` may stand in the text of a tag. -/
def isUriChar (c : Char) : Bool := c.isAlphanum || "-;/?:@&=+$,_.!~*'()[]%".toList.contains c

/-- The bytes of a run of escapes `%xx`. -/
def uriBytes : Nat → Cursor → Except Fault (List UInt8 × Cursor)
  | 0, c => .ok ([], c)
  | fuel + 1, c =>
    if c.peek == '%' then
      match hexValue? (c.peekAt 1), hexValue? (c.peekAt 2) with
      | some a, some b =>
        match uriBytes fuel (c.advance 3) with
        | .error e => .error e
        | .ok (bs, c) => .ok (UInt8.ofNat (a * 16 + b) :: bs, c)
      | _, _ => .error (.malformed "escape in a tag")
    else .ok ([], c)

/-- Reads the text of a tag, last character first. -/
def uriLoop : Nat → Backwards → Cursor → Except Fault (Backwards × Cursor)
  | 0, acc, c => .ok (acc, c)
  | fuel + 1, acc, c =>
    if c.peek == '%' then
      match uriBytes (c.rest.length + 1) c with
      | .error e => .error e
      | .ok (bs, c) =>
        match String.fromUTF8? ⟨bs.toArray⟩ with
        | some t => uriLoop fuel (t.toList.reverse ++ acc) c
        | none => .error (.malformed "escape in a tag")
    else if isUriChar c.peek then uriLoop fuel (c.peek :: acc) c.step
    else .ok (acc, c)

/-- Reads the text of a tag, which has to be there. -/
def uri (c : Cursor) : Except Fault (String × Cursor) :=
  match uriLoop (c.rest.length + 1) [] c with
  | .error e => .error e
  | .ok (acc, d) =>
    if d.index == c.index then .error (.malformed "empty tag")
    else .ok (String.ofList acc.reverse, d)

/-- Reads the handle of a tag: an exclamation mark, or a name between two. -/
def tagHandle (c : Cursor) : Except Fault (String × Cursor) :=
  if c.peek != '!' then .error (.malformed "tag without a handle")
  else if c.peekAt 1 == ' ' then .ok ("!", c.step)
  else
    let name := c.step.run isNameChar
    if c.peekAt (name.length + 1) == '!' then
      .ok (String.ofList ('!' :: name ++ ['!']), c.advance (name.length + 2))
    else .error (.malformed "unclosed handle")

/-- Reads a number. -/
def number (c : Cursor) : Except Fault (Nat × Cursor) :=
  match c.run Char.isDigit with
  | [] => .error (.malformed "missing number")
  | ds =>
    if Numeral.digitLimit < ds.length then .error (.tooManyDigits ds.length)
    else .ok (ds.foldl (fun n d => n * 10 + (d.toNat - '0'.toNat)) 0, c.advance ds.length)

/-- Reads what follows the name of a directive on its line. -/
def directiveBody (name : List Char) (c : Cursor) : Except Fault (Token × Cursor) :=
  if name == "YAML".toList then do
    let (major, c) ← number (c.skip (· == ' '))
    if c.peek != '.' then .error (.malformed "version without a point")
    let (minor, c) ← number c.step
    if isSpaceOrEnd c.peek then .ok (.version major minor, c)
    else .error (.malformed "text behind the version")
  else if name == "TAG".toList then do
    let (handle, c) ← tagHandle (c.skip (· == ' '))
    if c.peek != ' ' then .error (.malformed "text behind a handle")
    let (text, c) ← uri (c.skip (· == ' '))
    if isSpaceOrEnd c.peek then .ok (.handle handle text, c)
    else .error (.malformed "text behind a tag")
  else .ok (.directive (String.ofList name), c.skip fun ch => !isBreakOrEnd ch)

/-- Reads a directive. -/
def fetchDirective (s : Scan) : Except Fault Scan := do
  let s ← s.betweenDocuments
  let c := s.cursor.step
  let name := c.run isNameChar
  if name.isEmpty then .error (.malformed "directive without a name")
  let c := c.advance name.length
  if !isSpaceOrEnd c.peek then .error (.malformed "name of a directive")
  let (token, c) ← directiveBody name c
  let c ← restOfLine c
  return { s with cursor := c }.push token

/-- Reads the name of an anchor or of an alias. -/
def anchorName (c : Cursor) : Except Fault (String × Cursor) :=
  let name := c.run isNameChar
  let d := c.advance name.length
  if name.isEmpty then .error (.malformed "anchor without a name")
  else if isGapOrEnd d.peek || "?:,]\x7d%@\x60".toList.contains d.peek then
    .ok (String.ofList name, d)
  else .error (.malformed "name of an anchor")

/-- Reads an anchor or an alias. -/
def fetchAnchor (s : Scan) (make : String → Token) : Except Fault Scan := do
  let s ← s.saveKey
  let (name, c) ← anchorName s.cursor.step
  return { s with cursor := c, keyAllowed := false }.push (make name)

/-- Reads the parts of a tag. -/
def tagParts (c : Cursor) : Except Fault (Option String × String × Cursor) :=
  if c.peekAt 1 == '<' then do
    let (text, c) ← uri (c.advance 2)
    if c.peek == '>' then .ok (none, text, c.step) else .error (.malformed "unclosed tag")
  else if isGapOrEnd (c.peekAt 1) then .ok (none, "!", c.step)
  else if (c.step.run fun ch => !isSpaceOrEnd ch).contains '!' then do
    let (handle, c) ← tagHandle c
    let (text, c) ← uri c
    return (some handle, text, c)
  else do
    let (text, c) ← uri c.step
    return (some "!", text, c)

/-- Reads a tag. -/
def fetchTag (s : Scan) : Except Fault Scan := do
  let s ← s.saveKey
  let (handle, suffix, c) ← tagParts s.cursor
  if isSpaceOrEnd c.peek then
    return { s with cursor := c, keyAllowed := false }.push (.tag handle suffix)
  else .error (.malformed "text behind a tag")

/-- Opens a flow collection, which may itself be a key. -/
def fetchFlowStart (s : Scan) (t : Token) : Except Fault Scan := do
  let s ← s.saveKey
  return { s with flow := s.flow + 1, keyAllowed := true }.emit t 1

/-- Closes a flow collection. -/
def fetchFlowEnd (s : Scan) (t : Token) : Except Fault Scan := do
  let s ← s.dropKey
  if s.flow == 0 then .error (.malformed "nothing to close")
  return { s with flow := s.flow - 1, keyAllowed := false }.emit t 1

/-- Goes on to the next item of a flow collection. -/
def fetchFlowEntry (s : Scan) : Except Fault Scan := do
  let s ← { s with keyAllowed := true }.dropKey
  return s.emit .flowEntry 1

/-- Opens a block at the present column, where that is allowed. -/
def openHere (s : Scan) (t : Token) : Except Fault Scan :=
  if s.flow != 0 then .ok s
  else if !s.keyAllowed then .error (.malformed "block inside a line")
  else
    match s.openBlock s.cursor.column with
    | (true, s) => .ok (s.push t)
    | (false, s) => .ok s

/-- Goes on to the next item of a block sequence. -/
def fetchBlockEntry (s : Scan) : Except Fault Scan := do
  let s ← s.openHere .blockSequenceStart
  let s ← { s with keyAllowed := true }.dropKey
  return s.emit .blockEntry 1

/-- Begins a key that is marked as one. -/
def fetchKey (s : Scan) : Except Fault Scan := do
  let s ← s.openHere .blockMappingStart
  let s ← { s with keyAllowed := s.flow == 0 }.dropKey
  return s.emit .key 1

/-- Begins a value; what was remembered as a possible key is one now. -/
def fetchValue (s : Scan) : Except Fault Scan := do
  match s.key? with
  | some key =>
    let s := { s with keys := s.keys.filter (·.1 != s.flow) }
    let s := s.insert key.tokenNumber .key
    let s :=
      if s.flow == 0 then
        match s.openBlock key.column with
        | (true, s) => s.insert key.tokenNumber .blockMappingStart
        | (false, s) => s
      else s
    return { s with keyAllowed := false }.emit .value 1
  | none =>
    let s ← s.openHere .blockMappingStart
    let s ← { s with keyAllowed := s.flow == 0 }.dropKey
    return s.emit .value 1

/-- Reads a block of lines. -/
def fetchBlock (s : Scan) : Except Fault Scan := do
  let s ← { s with keyAllowed := true }.dropKey
  let (text, c) ← blockScalar s.indent s.cursor
  return { s with cursor := c }.push (.scalar (CodePoint.ofChars text) false)

/-- Reads a quoted scalar. -/
def fetchQuoted (s : Scan) : Except Fault Scan := do
  let s ← s.saveKey
  let (text, c) ← quotedScalar s.cursor
  return { s with cursor := c, keyAllowed := false }.push (.scalar text false)

/-- Reads a plain scalar. -/
def fetchPlain (s : Scan) : Except Fault Scan := do
  let s ← s.saveKey
  let (text, broken, c) := plainScalar (s.flow != 0) (s.indent + 1) s.cursor
  return { s with cursor := c, keyAllowed := broken }.push
    (.scalar (CodePoint.ofChars text) true)

/-- Whether a plain scalar can begin here. -/
def plainHere (s : Scan) : Bool :=
  let ch := s.cursor.peek
  !(isGapOrEnd ch || "-?:,[]\x7b\x7d#&*!|>'\"%@\x60".toList.contains ch)
    || (!isGapOrEnd (s.cursor.peekAt 1)
      && (ch == '-' || (s.flow == 0 && (ch == '?' || ch == ':'))))

/-- Reads one token, the end of the text excepted. -/
def fetch (s : Scan) : Except Fault Scan :=
  let c := s.cursor
  let ch := c.peek
  let gap := isGapOrEnd (c.peekAt 1)
  if ch == '%' && c.column == 0 then s.fetchDirective
  else if c.column == 0 && c.atTriple '-' then do
    return (← s.betweenDocuments).emit .documentStart 3
  else if c.column == 0 && c.atTriple '.' then do
    return (← s.betweenDocuments).emit .documentEnd 3
  else if ch == '[' then s.fetchFlowStart .flowSequenceStart
  else if ch == '{' then s.fetchFlowStart .flowMappingStart
  else if ch == ']' then s.fetchFlowEnd .flowSequenceEnd
  else if ch == '}' then s.fetchFlowEnd .flowMappingEnd
  else if ch == ',' then s.fetchFlowEntry
  else if ch == '-' && gap then s.fetchBlockEntry
  else if ch == '?' && (s.flow != 0 || gap) then s.fetchKey
  else if ch == ':' && (s.flow != 0 || gap) then s.fetchValue
  else if ch == '*' then s.fetchAnchor .alias
  else if ch == '&' then s.fetchAnchor .anchor
  else if ch == '!' then s.fetchTag
  else if (ch == '|' || ch == '>') && s.flow == 0 then s.fetchBlock
  else if ch == '\'' || ch == '"' then s.fetchQuoted
  else if s.plainHere then s.fetchPlain
  else .error (.malformed "no token begins here")

/-- Goes to the next token and reads it: the state behind it, and whether the text goes on. -/
def advance (s : Scan) : Except Fault (Scan × Bool) := do
  let s ← (toNextToken (s.cursor.rest.length + 1) s).dropStaleKeys
  let s := s.unwind s.cursor.column
  if s.cursor.rest.isEmpty then
    let s ← s.betweenDocuments
    return (s.push .streamEnd, false)
  else
    let s ← s.fetch
    return (s, true)

/-- The tokens in front of the first place where a key may have begun, and the fault behind them. -/
def cutShort (s : Scan) (f : Fault) : Array Token :=
  let settled := s.keys.foldl (fun n k => min n k.2.tokenNumber) s.tokens.size
  (s.tokens.extract 0 settled).push (.fault f)

/-- Reads token after token to the end of the text. -/
def loop : Nat → Scan → Array Token
  | 0, s => s.cutShort (.malformed "endless text")
  | fuel + 1, s =>
    match s.dropStaleKeys with
    | .error e => s.cutShort e
    | .ok s =>
      match s.advance with
      | .error e => s.cutShort e
      | .ok (s, true) => loop fuel s
      | .ok (s, false) => s.tokens

end Scan

/-- Whether `c` may stand in the text of a table. -/
def isReadable (c : Char) : Bool :=
  let n := c.toNat
  n == 0x09 || n == 0x0A || n == 0x0D || (0x20 ≤ n && n ≤ 0x7E) || n == 0x85
    || (0xA0 ≤ n && n ≤ 0xFFFD) || 0x10000 ≤ n

/-- The tokens of a text.  A byte order mark at its start is passed over, and a character that may
not stand in a table is a fault before everything else. -/
def tokenize (text : List Char) : List Token :=
  if !text.all isReadable then [.fault (.malformed "unreadable character")]
  else
    let c := Cursor.start text
    let c := if c.peek == '\uFEFF' then c.step else c
    (Scan.loop (text.length + 2) { cursor := c }).toList

end Yaml
end RouteAudit
