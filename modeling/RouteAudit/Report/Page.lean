import RouteAudit.Json

/-!
# Pages

A page is a list of fragments: markup that is the same in every report, text from the project, and
data for scripts.  Only `Fragment.render` turns fragments into characters, and it escapes text
there, so no text from the project can be taken for markup.
-/

set_option autoImplicit false

namespace RouteAudit
namespace Report

/-- A character of a text on a page. -/
def escapeChar (c : Char) : List Char :=
  if c = '&' then "&amp;".toList
  else if c = '<' then "&lt;".toList
  else if c = '>' then "&gt;".toList
  else if c = '\'' then "&#39;".toList
  else if c = '"' then "&#34;".toList
  else [c]

/-- A text on a page. -/
def escapeText (s : String) : List Char := s.toList.flatMap escapeChar

/-- **Text is not markup.**  A text on a page has no angle bracket and no quote. -/
theorem not_mem_escapeText {c : Char} (h : c = '<' ∨ c = '>' ∨ c = '\'' ∨ c = '"') (s : String) :
    c ∉ escapeText s := by
  simp only [escapeText, List.mem_flatMap, not_exists, not_and]
  intro d _ hc
  by_cases hd : d = '&' ∨ d = '<' ∨ d = '>' ∨ d = '\'' ∨ d = '"'
  · rcases hd with rfl | rfl | rfl | rfl | rfl <;> rcases h with rfl | rfl | rfl | rfl <;>
      revert hc <;> decide
  · have he : escapeChar d = [d] := by
      simp only [not_or] at hd
      simp [escapeChar, hd]
    rw [he, List.mem_singleton] at hc
    exact hd (hc ▸ by rcases h with h | h | h | h <;> simp [h])

/-- A part of a page. -/
inductive Fragment where
  /-- Markup that belongs to the page. -/
  | markup (s : String)
  /-- A text to be shown. -/
  | text (s : String)
  /-- Data for a script. -/
  | data (j : Json)

/-- The characters of a part. -/
def Fragment.render : Fragment → List Char
  | .markup s => s.toList
  | .text s => escapeText s
  | .data j => j.embedded

/-- A page. -/
abbrev Page := List Fragment

/-- The characters of a page. -/
def Page.render (p : Page) : List Char := p.flatMap Fragment.render

/-- Parts of a page are written one behind the other. -/
theorem Page.render_append (p q : Page) :
    Page.render (p ++ q) = Page.render p ++ Page.render q := by
  simp [Page.render]

/-- A line of markup. -/
def line (s : String) : Fragment := .markup (s ++ "\n")

end Report
end RouteAudit
