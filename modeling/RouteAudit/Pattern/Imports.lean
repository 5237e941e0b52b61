import RouteAudit.Pattern.Basic

/-!
# Import statements

`import` … `from` … is read without a grammar of the language: after the word `import` and at least
one blank comes anything on the same line, then blanks, the word `from`, blanks, and a module name
between two quotes of either kind.  The blanks may span lines; what stands between `import` and
them may not.

Three choices are open when a text can be read in more than one way, and each is settled the same
way everywhere: as many blanks as possible behind `import`, then as little as possible before
`from`, and then the whole name up to the next quote.  After a statement the search goes on behind
it.

* `specifierFrom?` — a module name after `from`;
* `importHere?` — a statement at the front of a text;
* `imports` — the module names of all statements, in order.
-/

set_option autoImplicit false

namespace RouteAudit

/-- Whether `c` opens or closes a module name. -/
def isQuote (c : Char) : Bool := c == '\'' || c == '"'

/-- Reads a module name between quotes, which has to be there and not empty: the name and the text
behind it. -/
def quotedName? : List Char → Option (List Char × List Char)
  | [] => none
  | q :: s =>
    if isQuote q then
      match s.takeWhile (fun c => !isQuote c), s.dropWhile (fun c => !isQuote c) with
      | [], _ => none
      | _, [] => none
      | name, _ :: after => some (name, after)
    else none

/-- Reads blanks, `from`, blanks and a module name. -/
def specifierFrom? (s : List Char) : Option (List Char × List Char) :=
  match Phrase.rest? [.gap, .lit "from".toList, .gap] s with
  | none => none
  | some r => quotedName? r

/-- Passes over as little as possible on this line before a module name. -/
def clauseThenSpecifier? : List Char → Option (List Char × List Char)
  | [] => specifierFrom? []
  | c :: cs =>
    match specifierFrom? (c :: cs) with
    | some r => some r
    | none => if c = '\n' then none else clauseThenSpecifier? cs

/-- Tries `k` blanks behind `import`, and fewer when that fails, but at least one. -/
def afterImportBlanks? (s : List Char) : Nat → Option (List Char × List Char)
  | 0 => none
  | k + 1 =>
    match clauseThenSpecifier? (s.drop (k + 1)) with
    | some r => some r
    | none => afterImportBlanks? s k

/-- Reads an import statement at the front of the text: the module name and the text behind. -/
def importHere? (s : List Char) : Option (List Char × List Char) :=
  match afterLit "import".toList s with
  | none => none
  | some r => afterImportBlanks? r (r.takeWhile Text.isBlank).length

/-- The module names of the statements, the first `skip` characters left out. -/
def importsFrom : Nat → List Char → List (List Char)
  | _, [] => []
  | skip + 1, _ :: cs => importsFrom skip cs
  | 0, c :: cs =>
    match importHere? (c :: cs) with
    | some (name, after) => name :: importsFrom (cs.length - after.length) cs
    | none => importsFrom 0 cs

/-- The module names that the text imports, in order. -/
def imports (s : List Char) : List (List Char) := importsFrom 0 s

/-- A module name is not empty. -/
theorem quotedName?_ne_nil {s name after : List Char} (h : quotedName? s = some (name, after)) :
    name ≠ [] := by
  cases s with
  | nil => simp [quotedName?] at h
  | cons q s =>
    simp only [quotedName?] at h
    split at h
    · generalize s.takeWhile (fun c => !isQuote c) = t at h
      generalize s.dropWhile (fun c => !isQuote c) = d at h
      cases t <;> cases d <;> simp_all
      obtain ⟨rfl, _⟩ := h
      simp
    · simp at h

end RouteAudit
