import RouteAudit.Terminal.Colour

/-!
# Looks

How a text looks is said in words: attributes such as `bold`, each with `not` in front to take it
back, a colour, a background behind `on`, and a link.  The order of the words does not matter, and
of two that say the same the last one counts.  So there are many ways to say one thing; `Look.name`
is the one that stands for all of them.

* `Look.read` — the look that words describe;
* `Look.name` — the words for a look, in a fixed order;
* `lookName` — the name of the look that a text describes, or the text itself if it describes none.
-/

set_option autoImplicit false

namespace RouteAudit
namespace Terminal

/-- The attributes in the order in which they are named, with their short names. -/
def attributes : List (String × List String) := [
  ("bold", ["b"]), ("dim", ["d"]), ("italic", ["i"]), ("underline", ["u"]), ("blink", []),
  ("blink2", []), ("reverse", ["r"]), ("conceal", ["c"]), ("strike", ["s"]),
  ("underline2", ["uu"]), ("frame", []), ("encircle", []), ("overline", ["o"])]

/-- The full name of an attribute. -/
def attribute? (word : List Char) : Option String :=
  let word := String.ofList word
  (attributes.find? fun a => a.1 == word || a.2.contains word).map Prod.fst

/-- How a text looks. -/
structure Look where
  /-- The attributes that were spoken of, the last one first, and whether it is there. -/
  attributes : List (String × Bool) := []
  colour : Option String := none
  background : Option String := none
  link : Option String := none
  deriving DecidableEq, Repr

namespace Look

/-- Reads words one after the other. -/
def readWords (look : Look) : List (List Char) → Except LookFault Look
  | [] => .ok look
  | word :: rest =>
    match String.ofList (small word), rest with
    | "on", colour :: rest =>
      match Colour.read colour with
      | .ok c => readWords { look with background := some c } rest
      | .error f => .error f
    | "not", word :: rest =>
      match attribute? word with
      | some a => readWords { look with attributes := (a, false) :: look.attributes } rest
      | none => .error .meaningless
    | "link", target :: rest => readWords { look with link := some (String.ofList target) } rest
    | _, rest =>
      match attribute? (small word) with
      | some a => readWords { look with attributes := (a, true) :: look.attributes } rest
      | none =>
        match Colour.read word with
        | .ok c => readWords { look with colour := some c } rest
        | .error f => .error f

/-- Reads the words of a text. -/
def read (s : List Char) : Except LookFault Look :=
  if Text.trim s = "none".toList then .ok {} else readWords {} (Text.words s)

/-- The words for a look. -/
def words (look : Look) : List String :=
  (Terminal.attributes.filterMap fun (a, _) =>
    (look.attributes.lookup a).map fun there => if there then a else "not " ++ a)
  ++ look.colour.toList
  ++ (look.background.map ("on " ++ ·)).toList
  ++ (look.link.map ("link " ++ ·)).toList

/-- The name of a look. -/
def name (look : Look) : String :=
  if look.words.isEmpty then "none" else " ".intercalate look.words

end Look

/-- The name of the look that a text describes; a text that describes none is its own name, in small
letters. -/
def lookName (s : List Char) : Except LookFault String :=
  match Look.read s with
  | .ok look => .ok look.name
  | .error .meaningless => .ok (String.ofList (small (Text.trim s)))
  | .error f => .error f

/-- What keeps a text from being printed in the look that is described.  Words without a meaning are
passed over. -/
def lookFault? (s : List Char) : Option LookFault :=
  match Look.read s with
  | .ok _ => none
  | .error .meaningless => none
  | .error f => some f

end Terminal
end RouteAudit
