import RouteAudit.Number.Numeral
import RouteAudit.Text.Printable
import RouteAudit.Text.Quoted
import RouteAudit.Text.Word

/-!
# Literals

A literal is a number, a quoted text, one of the words `None`, `True` and `False`, three points, or
literals in parentheses or braces with commas between them; a number may have a sign in front, and
an imaginary number behind.  Square brackets do not occur here.

A text is scanned first, and only a text that scans well is looked at as a whole.  So a quote that
is not closed is reported before anything else, wherever it stands.

* `Literal.Token`, `Literal.scan` — the words of a text;
* `Literal.fault?` — why a text is no literal.
-/

set_option autoImplicit false

namespace RouteAudit
namespace Literal

/-- Why a text is no literal. -/
inductive Fault where
  /-- It does not have the form of one. -/
  | form
  /-- It ends too early. -/
  | ended
  /-- There is no comma between two values. -/
  | noComma
  /-- A name or a value stands in front of an equals sign. -/
  | equals (name : Bool)
  /-- A key has no colon behind it. -/
  | noColon
  /-- A key has no value behind its colon. -/
  | noValue
  | neverClosed (bracket : Char)
  | unmatched (bracket : Char)
  | mismatched (closing opening : Char)
  | openQuote
  | openTripleQuote (line : Nat)
  /-- A numeral of some kind goes on with something else, or has no digits. -/
  | number (kind : String)
  /-- A digit is too big for the base. -/
  | digit (c : Char) (kind : String)
  | leadingZeros
  | character (c : Char)
  | continuation
  | nullCharacter
  | mixedTexts
  /-- It has the form of an expression that is no literal. -/
  | malformed
  /-- A value that can change is used as a key. -/
  | unhashable (kind : String)
  deriving DecidableEq, Repr

namespace Fault

/-- Whether the fault is one of form. -/
def isFormal : Fault → Bool
  | .malformed | .unhashable _ => false
  | _ => true

/-- A sentence about the fault. -/
def message : Fault → String
  | .form | .ended => "invalid syntax"
  | .noComma => "invalid syntax. Perhaps you forgot a comma?"
  | .equals true => "invalid syntax. Maybe you meant '==' or ':=' instead of '='?"
  | .equals false => "cannot assign to literal here. Maybe you meant '==' instead of '='?"
  | .noColon => "':' expected after dictionary key"
  | .noValue => "expression expected after dictionary key and ':'"
  | .neverClosed b => "'" ++ b.toString ++ "' was never closed"
  | .unmatched b => "unmatched '" ++ b.toString ++ "'"
  | .mismatched closing opening =>
    "closing parenthesis '" ++ closing.toString ++ "' does not match opening parenthesis '"
      ++ opening.toString ++ "'"
  | .openQuote => "unterminated string literal (detected at line 1)"
  | .openTripleQuote line =>
    "unterminated triple-quoted string literal (detected at line " ++ toString line ++ ")"
  | .number kind => "invalid " ++ kind ++ " literal"
  | .digit c kind => "invalid digit '" ++ c.toString ++ "' in " ++ kind ++ " literal"
  | .leadingZeros =>
    "leading zeros in decimal integer literals are not permitted; "
      ++ "use an 0o prefix for octal integers"
  | .character c =>
    let code := String.ofList (Text.padZero 4 ((Text.hexDigits c.toNat).map Char.toUpper))
    if Text.isPrintable c then "invalid character '" ++ c.toString ++ "' (U+" ++ code ++ ")"
    else "invalid non-printable character U+" ++ code
  | .continuation => "unexpected character after line continuation character"
  | .nullCharacter => "source code string cannot contain null bytes"
  | .mixedTexts => "cannot mix bytes and nonbytes literals"
  | .malformed => "malformed node or string on line 1"
  | .unhashable kind => "unhashable type: '" ++ kind ++ "'"

end Fault

/-! ## Scanning -/

/-- A word of a text. -/
inductive Token where
  | number (imaginary : Bool)
  | text (bytes : Bool)
  /-- A word or sign that is a value. -/
  | constant
  | name
  | mark (c : Char)
  deriving DecidableEq, Repr

/-- Whether a token is a mark. -/
def Token.isMark : Token → Bool
  | .mark _ => true
  | _ => false

/-- The bracket that closes another. -/
def closing : Char → Char
  | '(' => ')'
  | _ => '}'

/-- How many characters digits with single low lines between them take, or `none` if a low line has
no digit behind it. -/
def digitsLength? (isDigit : Char → Bool) : List Char → Option Nat
  | [] => some 0
  | [c] => if c = '_' then none else some (if isDigit c then 1 else 0)
  | c :: d :: cs =>
    if c = '_' then if isDigit d then (digitsLength? isDigit (d :: cs)).map (· + 1) else none
    else if isDigit c then (digitsLength? isDigit (d :: cs)).map (· + 1)
    else some 0

/-- The base that the second character of a numeral stands for, and its name. -/
def baseOf? (c : Char) : Option (Nat × String) :=
  match c.toLower with
  | 'x' => some (16, "hexadecimal")
  | 'o' => some (8, "octal")
  | 'b' => some (2, "binary")
  | _ => none

/-- Checks that a numeral of `n` characters is not followed by another digit or a letter. -/
def endOfNumeral (kind : String) (imaginary : Bool) (n : Nat) (rest : List Char) :
    Except Fault (Token × Nat) :=
  match rest with
  | c :: _ =>
    if kind != "decimal" && c.isDigit then .error (.digit c kind)
    else if Text.isWord c then .error (.number (if imaginary then "imaginary" else kind))
    else .ok (.number imaginary, n)
  | [] => .ok (.number imaginary, n)

/-- A numeral in another base than ten: the digits behind the mark of the base. -/
def basedNumeral (base : Nat) (kind : String) (s : List Char) : Except Fault (Token × Nat) :=
  let low := if s.head? = some '_' then 1 else 0
  match digitsLength? (Numeral.isDigitIn base) (s.drop low) with
  | none => .error (.number kind)
  | some 0 =>
    match s.drop low with
    | c :: _ => .error (if c.isDigit then .digit c kind else .number kind)
    | [] => .error (.number kind)
  | some n => endOfNumeral kind false (low + n + 2) (s.drop (low + n))

/-- How many characters the exponent at the front takes. -/
def exponentLength? (s : List Char) : Option Nat :=
  match s with
  | e :: sign :: rest =>
    if e.toLower != 'e' then some 0
    else if sign == '+' || sign == '-' then
      if rest.head?.any Char.isDigit then (digitsLength? Char.isDigit rest).map (· + 2) else none
    else if sign.isDigit then (digitsLength? Char.isDigit (sign :: rest)).map (· + 1)
    else some 0
  | _ => some 0

/-- A numeral in base ten. -/
def decimalNumeral (s : List Char) : Except Fault (Token × Nat) :=
  let bad : Except Fault (Token × Nat) := .error (.number "decimal")
  match digitsLength? Char.isDigit s with
  | none => bad
  | some whole =>
    let point := if (s.drop whole).head? = some '.' then 1 else 0
    let places := if point = 1 && (s.drop (whole + 1)).head?.any Char.isDigit then
      digitsLength? Char.isDigit (s.drop (whole + 1)) else some 0
    match places with
    | none => bad
    | some places =>
      let front := whole + point + places
      match exponentLength? (s.drop front) with
      | none => bad
      | some power =>
        let n := front + power
        let imaginary := (s.drop n).head?.any (·.toLower == 'j')
        let n := if imaginary then n + 1 else n
        let digits := s.take whole
        if n = whole && digits.head? = some '0' && digits.any fun c => c != '0' && c != '_' then
          .error .leadingZeros
        else endOfNumeral "decimal" imaginary n (s.drop n)

/-- The numeral at the front of a text. -/
def numeral (s : List Char) : Except Fault (Token × Nat) :=
  match s with
  | '0' :: b :: rest =>
    match baseOf? b with
    | some (base, kind) => basedNumeral base kind rest
    | none => decimalNumeral s
  | s => decimalNumeral s

/-- How many characters a text in single quotes takes, its opening quote left out. -/
def quoteLength? (q : Char) : List Char → Option Nat
  | [] => none
  | [c] => if c = q then some 1 else none
  | c :: d :: cs =>
    if c = q then some 1
    else if c = '\n' then none
    else if c = '\\' then (quoteLength? q cs).map (· + 2)
    else (quoteLength? q (d :: cs)).map (· + 1)

/-- How many characters a text in triple quotes takes, its opening quotes left out. -/
def tripleLength? (q : Char) : List Char → Option Nat
  | [] => none
  | [_] => none
  | c :: d :: cs =>
    if c = q ∧ d = q ∧ cs.head? = some q then some 3
    else if c = '\\' then (tripleLength? q cs).map (· + 2)
    else (tripleLength? q (d :: cs)).map (· + 1)

/-- The length of the quoted text that begins with the quote `q` in front of `s`. -/
def quotation (q : Char) (s : List Char) : Except Fault Nat :=
  if s.take 2 = [q, q] then
    match tripleLength? q (s.drop 2) with
    | some n => .ok (n + 3)
    | none => .error (.openTripleQuote (1 + s.count '\n'))
  else
    match quoteLength? q s with
    | some n => .ok (n + 1)
    | none => .error .openQuote

/-- Whether letters may stand in front of a quote. -/
def isQuoteMark (s : List Char) : Bool :=
  ["r", "b", "u", "br", "rb"].contains (String.ofList (s.map Char.toLower))

/-- The token at the front of a text that is not empty, and how many characters it takes. -/
def tokenAt (c : Char) (cs : List Char) : Except Fault (Token × Nat) :=
  let s := c :: cs
  if c.isDigit || (c == '.' && cs.head?.any Char.isDigit) then
    numeral s
  else if Text.isWord c then
    let word := s.takeWhile Text.isWord
    match s.drop word.length with
    | q :: rest =>
      if isQuoteMark word && (q == '\'' || q == '"') then
        (quotation q rest).map fun n => (.text (word.any (·.toLower == 'b')), word.length + n)
      else .ok (wordToken word, word.length)
    | [] => .ok (wordToken word, word.length)
  else if c == '\'' || c == '"' then (quotation c cs).map fun n => (.text false, n)
  else if s.take 3 = ['.', '.', '.'] then .ok (.constant, 3)
  else if c == '\\' then .error .continuation
  else if c.toNat < 0x80 && 0x20 ≤ c.toNat && c.toNat != 0x7F then .ok (.mark c, 1)
  else .error (.character c)
where
  /-- The token of a word. -/
  wordToken (word : List Char) : Token :=
    if ["None", "True", "False"].contains (String.ofList word) then .constant else .name

/-- The tokens of a text behind its first `skip` characters, inside some brackets, and the brackets
that are open at its end. -/
def scanFrom (brackets : List Char) : Nat → List Char → Except Fault (List Token × List Char)
  | _, [] => .ok ([], brackets)
  | skip + 1, _ :: cs => scanFrom brackets skip cs
  | 0, c :: cs =>
    let behind (t : Token) (brackets : List Char) (skip : Nat) :=
      (scanFrom brackets skip cs).map fun (ts, left) => (t :: ts, left)
    if c == ' ' || c == '\t' || c == '\x0c' || (c == '\n' && !brackets.isEmpty) then
      scanFrom brackets 0 cs
    else if c == '\n' then behind (.mark c) brackets 0
    else if c == '#' then scanFrom brackets (cs.takeWhile (· != '\n')).length cs
    else if c == '(' || c == '\x7b' then behind (.mark c) (c :: brackets) 0
    else if c == ')' || c == '\x7d' then
      match brackets with
      | [] => .error (.unmatched c)
      | b :: outer =>
        if closing b = c then behind (.mark c) outer 0 else .error (.mismatched c b)
    else
      match tokenAt c cs with
      | .error f => .error f
      | .ok (t, n) => behind t brackets (n - 1)

/-- The tokens of a text, and the brackets that are open at its end. -/
def scan (s : List Char) : Except Fault (List Token × List Char) :=
  if s.contains '\x00' then .error .nullCharacter else scanFrom [] 0 s

/-! ## Values -/

/-- What is known of a value. -/
structure Value where
  /-- Whether it is a number, and then whether it is imaginary. -/
  number : Option Bool := none
  /-- Whether its last word is a name. -/
  isName : Bool := false
  /-- What kind of collection keeps it from being a key. -/
  changeable : Option String := none
  /-- What is wrong with it beside its form. -/
  fault : Option Fault := none

/-- A value and the tokens behind it. -/
abbrev Reading := Except Fault (Value × List Token)

namespace Value

/-- A value with a fault, unless it has one already. -/
def withFault (v : Value) (f : Option Fault) : Value := { v with fault := v.fault.or f }

/-- Two values in one collection. -/
def together (v w : Value) : Value where
  isName := w.isName
  changeable := v.changeable.or w.changeable
  fault := v.fault.or w.fault

/-- A value as a key. -/
def asKey (v : Value) : Value := v.withFault (v.changeable.map .unhashable)

/-- What is wrong where a value in brackets is followed by tokens that do not go on with it. -/
def strayFault (v : Value) : List Token → Fault
  | [] => .ended
  | .mark '=' :: _ => .equals v.isName
  | _ :: _ => .form

end Value

/-- The texts at the front, which make one text together. -/
def textsFrom (bytes : Bool) : List Token → Reading
  | .text b :: ts => if b = bytes then textsFrom bytes ts else .error .mixedTexts
  | ts => .ok ({}, ts)

mutual

/-- Reads a value that nothing is added to. -/
def atom : Nat → List Token → Reading
  | 0, _ => .error .form
  | _ + 1, [] => .error .ended
  | _ + 1, .number i :: ts => .ok ({ number := some i }, ts)
  | _ + 1, .text b :: ts => textsFrom b ts
  | _ + 1, .constant :: ts => .ok ({}, ts)
  | _ + 1, .name :: ts => .ok ({ isName := true, fault := some .malformed }, ts)
  | _ + 1, .mark '(' :: .mark ')' :: ts => .ok ({}, ts)
  | _ + 1, .mark '\x7b' :: .mark '\x7d' :: ts => .ok ({ changeable := some "dict" }, ts)
  | fuel + 1, .mark '(' :: ts =>
    match members fuel true ts with
    | .error f => .error f
    | .ok (v, .mark ')' :: rest) => .ok ({ v with isName := false }, rest)
    | .ok (v, rest) => .error (v.strayFault rest)
  | fuel + 1, .mark '\x7b' :: ts => entries fuel none ts
  | fuel + 1, .mark c :: ts =>
    if c = '-' || c = '+' then
      match atom fuel ts with
      | .error f => .error f
      | .ok (v, rest) =>
        .ok (v.withFault (if v.number.isSome then none else some .malformed), rest)
    else .error .form

/-- Reads a value with what is added to it.  Where another value follows at once, a comma is
missing; arguments in parentheses would make a call, which is no literal. -/
def total : Nat → (inside : Bool) → List Token → Reading
  | 0, _, _ => .error .form
  | fuel + 1, inside, ts =>
    match atom fuel ts with
    | .error f => .error f
    | .ok (v, []) => .ok (v, [])
    | .ok (v, t :: rest) =>
      if t = .mark '+' || t = .mark '-' then
        match atom fuel rest with
        | .error f => .error f
        | .ok (w, rest) =>
          let right := v.number == some false && w.number == some true
          .ok ((v.together w).withFault (if right then none else some .malformed), rest)
      else if v.isName && (t = .text false || t = .text true) then .error .form
      else if t.isMark && t ≠ .mark '(' && t ≠ .mark '\x7b' then .ok (v, t :: rest)
      else
        match atom fuel (t :: rest) with
        | .error f => .error f
        | .ok (w, rest) =>
          if t = .mark '(' then .ok ((v.together w).withFault (some .malformed), rest)
          else .error (if rest.isEmpty then .ended else if inside then .noComma else .form)

/-- Reads values with commas between them. -/
def members : Nat → (inside : Bool) → List Token → Reading
  | 0, _, _ => .error .form
  | fuel + 1, inside, ts =>
    match total fuel inside ts with
    | .error f => .error f
    | .ok (v, .mark ',' :: rest) =>
      if rest.isEmpty || rest.head? == some (.mark ')') then .ok ({ v with number := none }, rest)
      else
        match members fuel inside rest with
        | .error f => .error f
        | .ok (w, rest) => .ok (v.together w, rest)
    | .ok (v, rest) => .ok (v, rest)

/-- Reads the rest of a collection in braces.  Its first member says whether it is one of keys with
values or one of keys alone. -/
def entries : Nat → Option Bool → List Token → Reading
  | 0, _, _ => .error .form
  | fuel + 1, paired, ts =>
    match total fuel true ts with
    | .error f => .error f
    | .ok (key, rest) =>
      let member : Except Fault (Value × Bool × List Token) :=
        match rest with
        | .mark ':' :: rest =>
          if paired = some false then .error .form
          else
            match total fuel true rest, rest.head? with
            | .error .form, some (.mark c) =>
              .error (if c = ',' || c = '\x7d' then .noValue else .form)
            | .error f, _ => .error f
            | .ok (w, rest), _ => .ok (key.asKey.together w, true, rest)
        | rest => if paired = some true then .error .noColon else .ok (key.asKey, false, rest)
      match member with
      | .error f => .error f
      | .ok (v, paired, rest) =>
        let whole : Value :=
          { changeable := some (if paired then "dict" else "set"), fault := v.fault }
        match rest with
        | .mark '\x7d' :: rest => .ok (whole, rest)
        | .mark ',' :: .mark '\x7d' :: rest => .ok (whole, rest)
        | .mark ',' :: rest =>
          match entries fuel (some paired) rest with
          | .error f => .error f
          | .ok (w, rest) => .ok (whole.withFault w.fault, rest)
        | rest => .error (v.strayFault rest)

end

/-- Why a text is no literal. -/
def fault? (s : List Char) : Option Fault :=
  match scan s with
  | .error f => some f
  | .ok (ts, brackets) =>
    match members (4 * ts.length + 4) false ts with
    | .error .ended => some ((brackets.head?.map Fault.neverClosed).getD .form)
    | .error f => some f
    | .ok (v, []) => v.fault
    | .ok (_, _ :: _) => some .form

end Literal
end RouteAudit
