import RouteAudit.Yaml.Tag

/-!
# Nodes

A document is a graph of nodes: scalars, sequences and mappings, each with a tag.  A node is given
a name by an anchor and used again by an alias, also inside itself, so sequences and mappings hold
the numbers of their nodes.  `document` builds the graph from the tokens of a text that holds one
document at most.

Tokens are looked at one by one and never further ahead than needed, so a fault in the text is met
only when everything before it is in order.
-/

set_option autoImplicit false

namespace RouteAudit
namespace Yaml

/-- What a node holds: a text, or the numbers of other nodes. -/
inductive Content where
  | scalar (text : List CodePoint)
  | seq (items : List Nat)
  | map (entries : List (Nat × Nat))
  deriving Repr

/-- A node. -/
structure Node where
  tag : Tag
  content : Content
  deriving Repr

/-- The node of nothing. -/
def Node.empty : Node := ⟨.null, .scalar []⟩

/-- A document: its nodes by their numbers, and the number of the outermost one. -/
structure Graph where
  nodes : Array Node
  root : Nat

/-- The state of the reader of nodes. -/
structure Reader where
  /-- The tokens still to be read. -/
  tokens : List Token
  /-- The nodes so far. -/
  nodes : Array Node := #[]
  /-- The numbers of the nodes that have a name. -/
  anchors : List (String × Nat) := []
  /-- Short names for the start of tags. -/
  handles : List (String × String) := [("!", "!"), ("!!", commonTags)]

namespace Reader

/-- The next token. -/
def peek (r : Reader) : Token := r.tokens.headD .streamEnd

/-- Goes behind the next token. -/
def next (r : Reader) : Reader := { r with tokens := r.tokens.tail }

/-- Whether the next token is one of these. -/
def at? (r : Reader) (ts : List Token) : Bool := ts.contains r.peek

/-- The fault at the next token: its own, or that no such token may stand here. -/
def unexpected (r : Reader) (what : String) : Fault :=
  match r.peek with
  | .fault f => f
  | _ => .malformed what

/-- Gives up when the next token is a fault. -/
def check (r : Reader) : Except Fault Unit :=
  match r.peek with
  | .fault f => .error f
  | _ => .ok ()

/-- Gives a node a name. -/
def bind (r : Reader) (anchor : Option String) (n : Nat) : Reader :=
  match anchor with
  | none => r
  | some a => { r with anchors := (a, n) :: r.anchors.filter (·.1 != a) }

/-- Adds a node with a name: its number. -/
def add (r : Reader) (anchor : Option String) (n : Node) : Nat × Reader :=
  (r.nodes.size, { r with nodes := r.nodes.push n }.bind anchor r.nodes.size)

/-- Sets what a node holds. -/
def fill (r : Reader) (i : Nat) (n : Node) : Reader := { r with nodes := r.nodes.setIfInBounds i n }

/-- The anchor and the tag in front of a node, in either order. -/
def properties (r : Reader) :
    Except Fault (Option String × Option (Option String × String) × Reader) := do
  match r.peek with
  | .anchor a =>
    let r := r.next
    match r.peek with
    | .tag h s => return (some a, some (h, s), r.next)
    | .fault f => throw f
    | _ => return (some a, none, r)
  | .tag h s =>
    let r := r.next
    match r.peek with
    | .anchor a => return (some a, some (h, s), r.next)
    | .fault f => throw f
    | _ => return (none, some (h, s), r)
  | _ => return (none, none, r)

/-- The full name of a tag. -/
def fullTag (r : Reader) : Option (Option String × String) → Except Fault (Option String)
  | none => .ok none
  | some (none, suffix) => .ok (some suffix)
  | some (some h, suffix) =>
    match r.handles.find? (·.1 == h) with
    | some (_, start) => .ok (some (start ++ suffix))
    | none => .error (.malformed "unknown handle")

/-- The tag of a scalar: what is written, or what follows from its form. -/
def scalarTag (tag : Option String) (text : List CodePoint) (isPlain : Bool) : Tag :=
  match tag with
  | none => if isPlain then .ofText text else .str
  | some "!" => .ofText text
  | some t => .ofUri t

/-- The tag of a collection: what is written, or the common one. -/
def collectionTag (tag : Option String) (common : Tag) : Tag :=
  match tag with
  | none => common
  | some "!" => common
  | some t => .ofUri t

/-- A node of which nothing is written but an anchor or a tag. -/
def absent (anchor tag : Option String) (r : Reader) : Except Fault (Nat × Reader) :=
  match r.check with
  | .error f => .error f
  | .ok () =>
    if anchor.isSome || tag.isSome then .ok (r.add anchor ⟨scalarTag tag [] true, .scalar []⟩)
    else .error (.malformed "missing node")

/-- Whether a node with this anchor may stand here: no other node has its name. -/
def isFree (r : Reader) (anchor : Option String) : Bool :=
  !anchor.any fun a => r.anchors.any (·.1 == a)

/-- How the items of a sequence are written. -/
inductive Layout where
  | flow
  | block
  /-- In a block that is not indented further than what is around it. -/
  | indentless

mutual

/-- Reads a node.  Blocks are only read where `block` holds, and a sequence that is not indented
only where `indentless` does. -/
def node (block indentless : Bool) : Nat → Reader → Except Fault (Nat × Reader)
  | 0, _ => .error (.malformed "endless nodes")
  | fuel + 1, r =>
    match r.peek with
    | .alias a =>
      match r.anchors.find? (·.1 == a) with
      | some (_, n) => .ok (n, r.next)
      | none => .error (.malformed "unknown alias")
    | _ =>
      match r.properties with
      | .error e => .error e
      | .ok (anchor, written, r) =>
        match r.fullTag written with
        | .error e => .error e
        | .ok tag =>
          match r.check with
          | .error e => .error e
          | .ok () =>
            if r.isFree anchor then content block indentless anchor tag fuel r
            else .error (.malformed "anchor used twice")

/-- Reads what stands behind the anchor and the tag of a node. -/
def content (block indentless : Bool) (anchor tag : Option String) :
    Nat → Reader → Except Fault (Nat × Reader)
  | 0, _ => .error (.malformed "endless nodes")
  | fuel + 1, r =>
    match r.peek with
    | .blockEntry =>
      if indentless then sequence .indentless anchor tag fuel r else absent anchor tag r
    | .scalar text isPlain =>
      .ok (r.next.add anchor ⟨scalarTag tag text isPlain, .scalar text⟩)
    | .flowSequenceStart => sequence .flow anchor tag fuel r.next
    | .flowMappingStart => mapping true anchor tag fuel r.next
    | .blockSequenceStart =>
      if block then sequence .block anchor tag fuel r.next else absent anchor tag r
    | .blockMappingStart =>
      if block then mapping false anchor tag fuel r.next else absent anchor tag r
    | _ => absent anchor tag r

/-- Reads a sequence, with its first token passed. -/
def sequence (layout : Layout) (anchor tag : Option String) :
    Nat → Reader → Except Fault (Nat × Reader)
  | 0, _ => .error (.malformed "endless nodes")
  | fuel + 1, r =>
    let t := collectionTag tag .seq
    let (i, r) := r.add anchor ⟨t, .seq []⟩
    match (match layout with
      | .flow => flowItems true fuel r
      | .block => blockItems fuel r
      | .indentless => indentlessItems fuel r) with
    | .error e => .error e
    | .ok (ns, r) => .ok (i, r.fill i ⟨t, .seq ns⟩)

/-- Reads a mapping, with its first token passed. -/
def mapping (flow : Bool) (anchor tag : Option String) :
    Nat → Reader → Except Fault (Nat × Reader)
  | 0, _ => .error (.malformed "endless nodes")
  | fuel + 1, r =>
    let t := collectionTag tag .map
    let (i, r) := r.add anchor ⟨t, .map []⟩
    match (if flow then flowEntries true fuel r else blockEntries fuel r) with
    | .error e => .error e
    | .ok (es, r) => .ok (i, r.fill i ⟨t, .map es⟩)

/-- Reads the items of a block sequence and its end. -/
def blockItems : Nat → Reader → Except Fault (List Nat × Reader)
  | 0, _ => .error (.malformed "endless nodes")
  | fuel + 1, r =>
    match r.peek with
    | .blockEntry =>
      match optional [.blockEntry, .blockEnd] true false fuel r.next with
      | .error e => .error e
      | .ok (n, r) =>
        match blockItems fuel r with
        | .error e => .error e
        | .ok (ns, r) => .ok (n :: ns, r)
    | .blockEnd => .ok ([], r.next)
    | _ => .error (r.unexpected "missing end of a block")

/-- Reads the items of a sequence that is not indented. -/
def indentlessItems : Nat → Reader → Except Fault (List Nat × Reader)
  | 0, _ => .error (.malformed "endless nodes")
  | fuel + 1, r =>
    match r.peek with
    | .blockEntry =>
      match optional [.blockEntry, .key, .value, .blockEnd] true false fuel r.next with
      | .error e => .error e
      | .ok (n, r) =>
        match indentlessItems fuel r with
        | .error e => .error e
        | .ok (ns, r) => .ok (n :: ns, r)
    | .fault f => .error f
    | _ => .ok ([], r)

/-- Reads the entries of a block mapping and its end. -/
def blockEntries : Nat → Reader → Except Fault (List (Nat × Nat) × Reader)
  | 0, _ => .error (.malformed "endless nodes")
  | fuel + 1, r =>
    match r.peek with
    | .key =>
      match optional [.key, .value, .blockEnd] true true fuel r.next with
      | .error e => .error e
      | .ok (k, r) => blockValue k fuel r
    | .blockEnd => .ok ([], r.next)
    | _ => .error (r.unexpected "missing end of a block")

/-- Reads the value of a key in a block mapping, and the entries behind it. -/
def blockValue (k : Nat) : Nat → Reader → Except Fault (List (Nat × Nat) × Reader)
  | 0, _ => .error (.malformed "endless nodes")
  | fuel + 1, r =>
    match value [.key, .value, .blockEnd] true fuel r with
    | .error e => .error e
    | .ok (v, r) =>
      match blockEntries fuel r with
      | .error e => .error e
      | .ok (es, r) => .ok ((k, v) :: es, r)

/-- Reads the items of a flow sequence and its end.  An entry of a mapping may stand as an item. -/
def flowItems (first : Bool) : Nat → Reader → Except Fault (List Nat × Reader)
  | 0, _ => .error (.malformed "endless nodes")
  | fuel + 1, r =>
    if r.peek == .flowSequenceEnd then .ok ([], r.next)
    else if !first && r.peek != .flowEntry then .error (r.unexpected "missing comma")
    else
      let r := if first then r else r.next
      if r.peek == .flowSequenceEnd then .ok ([], r.next)
      else
        match (if r.peek == .key then flowPair fuel r.next else node false false fuel r) with
        | .error e => .error e
        | .ok (n, r) =>
          match flowItems false fuel r with
          | .error e => .error e
          | .ok (ns, r) => .ok (n :: ns, r)

/-- Reads an entry that stands as an item of a flow sequence. -/
def flowPair : Nat → Reader → Except Fault (Nat × Reader)
  | 0, _ => .error (.malformed "endless nodes")
  | fuel + 1, r =>
    match optional [.value, .flowEntry, .flowSequenceEnd] false false fuel r with
    | .error e => .error e
    | .ok (k, r) =>
      match value [.flowEntry, .flowSequenceEnd] false fuel r with
      | .error e => .error e
      | .ok (v, r) => .ok (r.add none ⟨.map, .map [(k, v)]⟩)

/-- Reads the entries of a flow mapping and its end. -/
def flowEntries (first : Bool) : Nat → Reader → Except Fault (List (Nat × Nat) × Reader)
  | 0, _ => .error (.malformed "endless nodes")
  | fuel + 1, r =>
    if r.peek == .flowMappingEnd then .ok ([], r.next)
    else if !first && r.peek != .flowEntry then .error (r.unexpected "missing comma")
    else
      let r := if first then r else r.next
      if r.peek == .flowMappingEnd then .ok ([], r.next)
      else
        match (if r.peek == .key then
            optional [.value, .flowEntry, .flowMappingEnd] false false fuel r.next
          else node false false fuel r) with
        | .error e => .error e
        | .ok (k, after) =>
          match (if r.peek == .key then value [.flowEntry, .flowMappingEnd] false fuel after
            else .ok (after.add none .empty)) with
          | .error e => .error e
          | .ok (v, r) =>
            match flowEntries false fuel r with
            | .error e => .error e
            | .ok (es, r) => .ok ((k, v) :: es, r)

/-- Reads the value behind a key, or takes the empty one where no value is marked. -/
def value (stops : List Token) (block : Bool) : Nat → Reader → Except Fault (Nat × Reader)
  | 0, _ => .error (.malformed "endless nodes")
  | fuel + 1, r =>
    match r.peek with
    | .value => optional stops block block fuel r.next
    | .fault f => .error f
    | _ => .ok (r.add none .empty)

/-- Reads a node, or takes the empty one where a token of `stops` comes next. -/
def optional (stops : List Token) (block indentless : Bool) :
    Nat → Reader → Except Fault (Nat × Reader)
  | 0, _ => .error (.malformed "endless nodes")
  | fuel + 1, r =>
    if r.at? stops then .ok (r.add none .empty) else node block indentless fuel r

end

/-- Reads the directives in front of a document. -/
def directives : List Token → Bool → List (String × String) →
    Except Fault (List (String × String) × List Token)
  | .version major _ :: ts, seen, hs =>
    if seen then .error (.malformed "version given twice")
    else if major != 1 then .error (.malformed "unknown version")
    else directives ts true hs
  | .handle name uri :: ts, seen, hs =>
    if hs.any (·.1 == name) then .error (.malformed "handle given twice")
    else directives ts seen ((name, uri) :: hs)
  | .directive _ :: ts, seen, hs => directives ts seen hs
  | ts, _, hs => .ok (hs, ts)

/-- A bound on the rounds of reading the tokens. -/
def bound (r : Reader) : Nat := 8 * r.tokens.length + 16

/-- Whether the next token is a directive. -/
def atDirective (r : Reader) : Bool :=
  match r.peek with
  | .version _ _ => true
  | .handle _ _ => true
  | .directive _ => true
  | _ => false

/-- Reads the end of the text behind the one document. -/
def finish (root : Nat) (r : Reader) : Except Fault (Option Graph) :=
  let r := { r with tokens := r.tokens.dropWhile (· == Token.documentEnd) }
  if r.peek == .streamEnd then .ok (some ⟨r.nodes, root⟩)
  else
    match directives r.tokens false [] with
    | .error e => .error e
    | .ok (_, ts) => .error ({ r with tokens := ts }.unexpected "second document")

/-- Reads the start of a document that is marked as one: directives and the mark. -/
def openDocument (r : Reader) : Except Fault Reader := do
  let (own, ts) ← directives r.tokens false []
  let common := r.handles.filter fun h => !own.any (·.1 == h.1)
  let r := { r with tokens := ts, handles := own ++ common }
  if r.peek == .documentStart then return r.next
  else throw (r.unexpected "missing start of the document")

/-- Reads the one document of a text, if it has one. -/
def document (ts : List Token) : Except Fault (Option Graph) := do
  let r : Reader := { tokens := ts }
  if r.peek == .streamEnd then return none
  else if r.atDirective || r.peek == .documentStart then
    let r ← r.openDocument
    if r.atDirective || r.at? [.documentStart, .documentEnd, .streamEnd] then
      let (root, r) := r.add none .empty
      finish root r
    else
      let (root, r) ← node true false r.bound r
      finish root r
  else
    let (root, r) ← node true false r.bound r
    finish root r

end Reader
end Yaml
end RouteAudit
