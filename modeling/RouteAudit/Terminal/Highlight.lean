import RouteAudit.Terminal.Shape
import RouteAudit.Text.Digit
import RouteAudit.Text.Word

/-!
# What stands out in a text

A terminal shows some parts of a text in a look of their own: brackets, numbers, quoted texts,
paths and addresses.  `highlights` gives these parts.  They are looked for kind by kind; within the
last group of kinds, a part that belongs to one of them is passed over by the others.
-/

set_option autoImplicit false

namespace RouteAudit
namespace Terminal
namespace Highlight

open Shape

/-- A decimal digit of ASCII. -/
def digit : Shape := .char Char.isDigit

/-- A hexadecimal digit. -/
def hex : Shape :=
  .char fun c => c.isDigit || ('a' ≤ c && c ≤ 'f') || ('A' ≤ c && c ≤ 'F')

/-- A word character. -/
def wordChar : Shape := .char Text.isWord

/-- A decimal digit of any script. -/
def anyDigit : Shape := .char fun c => (Text.decimalValue? c).isSome

/-- Any character. -/
def anyChar : Shape := .char fun _ => true

/-- Any character but the end of a line. -/
def inLine : Shape := .char (· != '\n')

/-- The place where a word begins or ends. -/
def wordEdge : Shape := .edge Text.isWord true

/-- A tag between angle brackets. -/
def tag : Shape :=
  all [.mark (lit '<'),
    .mark (anyNumber (.char fun c => Text.isWord c || "-.:|".toList.contains c)),
    .mark (anyNumber anyChar), .mark (lit '>')]

/-- A name with an equals sign and perhaps a value. -/
def assignment : Shape :=
  all [.mark (upTo 1 50 wordChar), lit '=',
    maybe (.mark (all [maybe (lit '"'), several wordChar, maybe (lit '"')]))]

/-- A bracket. -/
def bracket : Shape := .mark (oneOf "][\x7b\x7d()")

/-- Four numbers with points between them. -/
def address4 : Shape :=
  let part := upTo 1 3 digit
  .mark (all [part, lit '.', part, lit '.', part, lit '.', part])

/-- Hexadecimal numbers with colons between them. -/
def address6 : Shape :=
  .mark (all [upTo 1 7 (all [upTo 1 4 hex, lit ':', maybe (lit ':')]), upTo 1 4 hex])

/-- So many pairs of hexadecimal digits and one more with a mark between them, or quadruples. -/
def hardware (pairs quadruples : Nat) : Shape :=
  let pair := upTo 1 2 hex
  let quadruple := upTo 4 4 hex
  .mark (first [
    all [upTo pairs pairs (all [pair, lit '-']), pair],
    all [upTo pairs pairs (all [pair, lit ':']), pair],
    all [upTo quadruples quadruples (all [quadruple, lit '.']), quadruple]])

/-- A universally unique identifier. -/
def identifier : Shape :=
  .mark (all [upTo 8 8 hex, lit '-', upTo 4 4 hex, lit '-', upTo 4 4 hex, lit '-', upTo 4 4 hex,
    lit '-', upTo 12 12 hex])

/-- A name in front of an opening parenthesis. -/
def call : Shape :=
  all [.mark (.many 0 none false (.char fun c => Text.isWord c || c == '.')), lit '(']

/-- A word that stands alone. -/
def alone (t : String) : Shape := all [wordEdge, .mark (word t), wordEdge]

/-- The exponent of a number. -/
def exponent (greedy : Bool) : Shape :=
  maybe (all [lit 'e', maybe (oneOf "-+"), .many 1 none greedy anyDigit])

/-- Digits with perhaps a point among them. -/
def decimal : Shape := all [several digit, maybe (lit '.'), anyNumber digit]

/-- A number with an imaginary part. -/
def complexNumber : Shape :=
  .mark (all [.notBehind Text.isWord, maybe (lit '-'), decimal, exponent false,
    maybe (all [oneOf "-+", decimal, exponent true]), lit 'j'])

/-- A number. -/
def number : Shape :=
  .mark (first [
    all [.notBehind Text.isWord, maybe (lit '-'), decimal, exponent false, wordEdge],
    all [word "0x", anyNumber hex]])

/-- A path with slashes, and the name behind the last of them. -/
def path : Shape :=
  let nameChar := .char fun c => Text.isWord c || "-._+".toList.contains c
  all [.mark (all [.edge Text.isWord false, anyNumber (all [lit '/', several nameChar]), lit '/']),
    maybe (.mark (anyNumber nameChar))]

/-- A text between quotes, the last of which has no backslash in front. -/
def between (quotes : String) : Shape :=
  all [maybe (lit 'b'), word quotes, .many 0 none false inLine, .notBehind (· == '\\'),
    word quotes]

/-- A quoted text. -/
def quotation : Shape :=
  all [.notBehind fun c => c == '\\' || Text.isWord c,
    .mark (first [between "'''", between "'", between "\"\"\"", between "\""])]

/-- A web address. -/
def webAddress : Shape :=
  .mark (all [first (["file", "https", "http", "ws", "wss"].map word), word "://",
    anyNumber (.char fun c => c.isAlphanum || "-$_+!`(),.?/;:&=%#~@".toList.contains c)])

/-- Kinds of values, the first of which counts. -/
def value : Shape :=
  first [address4, address6, hardware 7 3, hardware 5 2, identifier, call, alone "True",
    alone "False", alone "None", .mark (word "..."), complexNumber, number, path, quotation,
    webAddress]

/-- The parts of a text that stand out: where each begins and where it ends. -/
def parts (text : List Char) : List (Nat × Nat) :=
  ([tag, assignment, bracket, value].flatMap fun s => s.marks text).filter fun (a, b) => a < b

end Highlight
end Terminal
end RouteAudit
