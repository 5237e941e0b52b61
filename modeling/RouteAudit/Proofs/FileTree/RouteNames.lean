import Mathlib.Data.List.Forall2
import RouteAudit.Proofs.Pattern.Search
import RouteAudit.Proofs.Text.Ascii
import RouteAudit.RouteFile

/-!
# Which names are those of route files

`isRouteFile` asks three things about a name: whether `route` is in it, letters being compared by
the tables of Unicode; whether it ends like the name of a routes module; and whether it ends like
that of a script.  This file says without any search which names pass: a stem with the extension of
a script behind it, and in the stem the word `route`, every letter of it small or capital ASCII.

Two things need an argument.  A character outside ASCII could be taken for a letter of the word;
that there is none such takes a look at every capital letter of the tables.  And the word is looked
for in the whole name, so it could run from the stem into the extension or lie in the extension
altogether; but an extension begins with a dot, and it is shorter than the word.

## What is here

* `Text.foldChar_eq_iff` — a small letter of ASCII other than `i`, `k` and `s` is found for itself
  and for its capital alone;
* `Source.anyCase` — the words that are a text but for the case of their letters;
* `saysRoute_iff`, `isScript_iff` — what is asked, without the search;
* `saysRoute_of_isRoutesModule` — the name of a routes module has the word in it anyway;
* `prefix_of_not_mem_of_lt`, `prefix_stem` — the word stands before the extension, as would any
  that has no dot and is longer than the extension;
* `isRouteFile_iff`, `routeNames_exact` — which names are those of route files.
-/

set_option autoImplicit false

namespace RouteAudit

/-! ## Letters in any case -/

namespace Text

/-- The lower case of the kelvin sign is a letter of ASCII.  That of any other capital outside ASCII
is a character outside ASCII. -/
theorem capitalRuns_high : ∀ r ∈ capitalRuns,
    (r.1 = 0x212A ∧ r.2.1 = 0x212A) ∨
      (0x80 ≤ r.1 + r.2.2.2 ∧ (r.2.1 + r.2.2.2 < 0xD800 ∨
        0xDFFF < r.1 + r.2.2.2 ∧ r.2.1 + r.2.2.2 < 0x110000)) := by
  decide +kernel

theorem le_lowerChar {c : Char} (h : 0x80 ≤ c.toNat) (hkelvin : c ≠ '\u212A') :
    0x80 ≤ (lowerChar c).toNat := by
  simp only [lowerChar, if_neg (Nat.not_lt.2 h)]
  split
  · rename_i first last step shift hfind
    have hrange : first ≤ c.toNat ∧ c.toNat ≤ last := by simpa using List.find?_some hfind
    split
    · obtain ⟨hfirst, hlast⟩ | ⟨hlow, hvalid⟩ :=
        capitalRuns_high _ (List.mem_of_find?_eq_some hfind)
      · have hcode : c.toNat = '\u212A'.toNat :=
          Nat.le_antisymm (hrange.2.trans_eq hlast) (hfirst.symm.trans_le hrange.1)
        exact absurd (Char.toNat_inj.1 hcode) hkelvin
      · -- the code point that comes out is that of a character, so it is kept as it is
        simp only at hlow hvalid
        rw [toNat_ofNat (by unfold Nat.isValidChar; omega)]
        omega
    · exact h
  · exact h

theorem toNat_toLower (c : Char) :
    c.toLower.toNat = if 65 ≤ c.toNat ∧ c.toNat ≤ 90 then c.toNat + 32 else c.toNat := by
  by_cases h : 65 ≤ c.toNat ∧ c.toNat ≤ 90
  · have hlower := congrArg Char.val (dif_pos h : c.toLower = _)
    have hsum : c.toLower.toNat = (c.toNat + 32) % 2 ^ 32 :=
      (congrArg UInt32.toNat hlower).trans (UInt32.toNat_add c.val _)
    rw [if_pos h, hsum]
    omega
  · exact (congrArg Char.toNat (dif_neg h)).trans (if_neg h).symm

theorem toNat_toUpper (c : Char) :
    c.toUpper.toNat = if 97 ≤ c.toNat ∧ c.toNat ≤ 122 then c.toNat - 32 else c.toNat := by
  by_cases h : 97 ≤ c.toNat ∧ c.toNat ≤ 122
  · have hupper := congrArg Char.val (dif_pos h : c.toUpper = _)
    have hsum : c.toUpper.toNat = (c.toNat + (2 ^ 32 - 32)) % 2 ^ 32 :=
      (congrArg UInt32.toNat hupper).trans (UInt32.toNat_add c.val _)
    rw [if_pos h, hsum]
    omega
  · exact (congrArg Char.toNat (dif_neg h)).trans (if_neg h).symm

theorem foldChar_of_lt {c : Char} (h : c.toNat < 0x80) : foldChar c = c.toLower := by
  have hne : ∀ d : Char, 0x80 ≤ d.toNat → c ≠ d := by
    rintro d hd rfl
    omega
  rw [foldChar, if_neg (not_or.2 ⟨hne _ (by decide), hne _ (by decide)⟩),
    if_neg (hne _ (by decide)), lowerChar, if_pos h]

/-- A character outside ASCII is taken for one of three letters of ASCII, or for none. -/
theorem foldChar_of_le {c : Char} (h : 0x80 ≤ c.toNat) :
    foldChar c ∈ ['i', 'k', 's'] ∨ 0x80 ≤ (foldChar c).toNat := by
  rw [foldChar]
  split
  · exact .inl (by simp)
  · split
    · exact .inl (by simp)
    · by_cases hkelvin : c = '\u212A'
      · subst hkelvin
        exact .inl (by decide +kernel)
      · exact .inr (le_lowerChar h hkelvin)

/-- **A small letter of ASCII is found for itself and for its capital alone**, unless it is one of
the three that other characters are taken for. -/
theorem foldChar_eq_iff {c a : Char} (ha : a.isLower = true) (hne : a ∉ ['i', 'k', 's']) :
    foldChar c = a ↔ c = a ∨ c = a.toUpper := by
  have hsmall : 97 ≤ a.toNat ∧ a.toNat ≤ 122 := by
    obtain ⟨hlow, hhigh⟩ := (Bool.and_eq_true _ _).mp ha
    exact ⟨of_decide_eq_true hlow, of_decide_eq_true hhigh⟩
  simp only [← Char.toNat_inj (c := c), toNat_toUpper, if_pos hsmall]
  rcases Nat.lt_or_ge c.toNat 0x80 with hlt | hge
  · rw [foldChar_of_lt hlt, ← Char.toNat_inj, toNat_toLower]
    split <;> omega
  · -- a character outside ASCII is neither the letter nor its capital
    refine iff_of_false ?_ (by omega)
    rintro rfl
    rcases foldChar_of_le hge with hmem | hhigh
    · exact hne hmem
    · omega

end Text

namespace Source

/-- The text, each letter of it small or capital. -/
def anyCase (t : String) : Language Char :=
  {w | List.Forall₂ (fun c a => c = a ∨ c = a.toUpper) w t.toList}

end Source

/-! ## The word -/

theorem map_foldChar_eq_iff {w t : List Char}
    (ht : ∀ a ∈ t, a.isLower = true ∧ a ∉ ['i', 'k', 's']) :
    w.map Text.foldChar = t ↔ List.Forall₂ (fun c a => c = a ∨ c = a.toUpper) w t := by
  induction t generalizing w with
  | nil => simp
  | cons a t ih =>
    obtain ⟨ha, ht⟩ := List.forall_mem_cons.1 ht
    cases w with
    | nil => simp
    | cons c w =>
      rw [List.map_cons, List.cons.injEq, List.forall₂_cons, Text.foldChar_eq_iff ha.1 ha.2, ih ht]

/-- What a search takes for `route` is the word in letters of ASCII. -/
theorem map_foldChar_eq_route_iff {w : List Char} :
    w.map Text.foldChar = "route".toList ↔ w ∈ Source.anyCase "route" :=
  map_foldChar_eq_iff (by simp)

/-- **Speaking of routes** is having the word in the name. -/
theorem saysRoute_iff {name : List Char} :
    saysRoute name = true ↔ ∃ w ∈ Source.anyCase "route", w <:+: name := by
  rw [saysRoute, Pattern.occurs_lit_iff, List.infix_map_iff]
  constructor
  · rintro ⟨w, hw, hroute⟩
    exact ⟨w, map_foldChar_eq_route_iff.1 hroute.symm, hw⟩
  · rintro ⟨w, hroute, hw⟩
    exact ⟨w, hw, (map_foldChar_eq_route_iff.2 hroute).symm⟩

/-- **The name of a routes module** has the word in it anyway. -/
theorem saysRoute_of_isRoutesModule {name : List Char} (h : isRoutesModule name = true) :
    saysRoute name = true := by
  have hword : "Route".toList ∈ Source.anyCase "route" := map_foldChar_eq_route_iff.1 (by decide)
  rw [isRoutesModule, Bool.or_eq_true, endsWith_iff, endsWith_iff] at h
  rw [saysRoute_iff]
  obtain ⟨u, rfl⟩ | ⟨u, rfl⟩ := h
  · exact ⟨_, hword, u, "s.ts".toList, by simp⟩
  · exact ⟨_, hword, u, "s.tsx".toList, by simp⟩

theorem namedLikeRoute_eq (name : List Char) : namedLikeRoute name = saysRoute name := by
  rw [namedLikeRoute]
  cases hmodule : isRoutesModule name with
  | false => exact Bool.or_false _
  | true => rw [saysRoute_of_isRoutesModule hmodule, Bool.or_true]

/-! ## The extension -/

theorem isScript_iff {name : List Char} :
    isScript name = true ↔ ∃ stem, ∃ ext ∈ scriptExtensions, name = stem ++ ext.toList := by
  simp only [isScript, List.any_eq_true, endsWith_iff]
  constructor
  · rintro ⟨ext, hext, stem, hname⟩
    exact ⟨stem, ext, hext, hname⟩
  · rintro ⟨stem, ext, hext, hname⟩
    exact ⟨ext, hext, stem, hname⟩

/-- An extension is a dot with at most three letters behind it, of which the last is an s or an
x. -/
theorem scriptExtensions_form : ∀ ext ∈ scriptExtensions,
    ext.toList = '.' :: ext.toList.tail ∧ ext.toList.tail.length ≤ 3 ∧
      ext.toList.getLast? ∈ [some 's', some 'x'] := by
  decide

/-- The name of a script ends in an s or an x. -/
theorem getLast?_of_isScript {name : List Char} (h : isScript name = true) :
    name.getLast? ∈ [some 's', some 'x'] := by
  obtain ⟨stem, ext, hext, rfl⟩ := isScript_iff.1 h
  obtain ⟨hdot, -, hlast⟩ := scriptExtensions_form ext hext
  rwa [List.getLast?_append_of_ne_nil stem (hdot ▸ List.cons_ne_nil _ _)]

/-- **A word without a dot ends before the dot**, if it is longer than what is behind the dot. -/
theorem prefix_of_not_mem_of_lt {stem ext pre w post : List Char} (hdot : '.' ∉ w)
    (hlong : ext.length + 1 < w.length) (h : stem ++ '.' :: ext = pre ++ (w ++ post)) :
    pre ++ w <+: stem := by
  rcases Nat.le_total pre.length stem.length with hle | hle
  · obtain ⟨v, rfl⟩ : pre <+: stem :=
      List.prefix_of_prefix_length_le ⟨w ++ post, h.symm⟩ (List.prefix_append stem _) hle
    have hrest : v ++ '.' :: ext = w ++ post := by
      rw [List.append_assoc] at h
      exact List.append_cancel_left h
    exact (List.prefix_append_right_inj pre).2 (Source.prefix_of_not_mem hdot ⟨post, hrest.symm⟩)
  · -- there is no room for the word behind the stem
    have hlength := congrArg List.length h
    simp only [List.length_append, List.length_cons] at hlength
    omega

/-- **What a search takes for `route` in the name of a script** ends before the extension. -/
theorem prefix_stem {stem pre w post : List Char} {ext : String} (hext : ext ∈ scriptExtensions)
    (h : stem ++ ext.toList = pre ++ (w ++ post)) (hw : w.map Text.foldChar = "route".toList) :
    pre ++ w <+: stem := by
  obtain ⟨hform, hshort, -⟩ := scriptExtensions_form ext hext
  have hdot : '.' ∉ w := by
    intro hmem
    have hroute : Text.foldChar '.' ∈ "route".toList := hw ▸ List.mem_map_of_mem hmem
    exact absurd hroute (by decide)
  have hlength : w.length = 5 := by simpa using congrArg List.length hw
  rw [hform] at h
  exact prefix_of_not_mem_of_lt hdot (by omega) h

/-! ## The names of route files -/

theorem isRouteFile_eq (name : String) :
    isRouteFile name = (saysRoute name.toList && isScript name.toList) := by
  rw [isRouteFile, namedLikeRoute_eq]

/-- The name of a route file is that of a script with the word in its stem. -/
theorem isRouteFile_iff {name : String} :
    isRouteFile name = true ↔ ∃ stem, ∃ ext ∈ scriptExtensions, name = stem ++ ext ∧
      ∃ w ∈ Source.anyCase "route", w <:+: stem.toList := by
  rw [isRouteFile_eq, Bool.and_eq_true, saysRoute_iff, isScript_iff]
  constructor
  · rintro ⟨⟨w, hw, pre, post, hin⟩, stem, ext, hext, hname⟩
    have hsplit : stem ++ ext.toList = pre ++ (w ++ post) := by
      rw [← hname, ← hin, List.append_assoc]
    obtain ⟨rest, hstem⟩ := prefix_stem hext hsplit (map_foldChar_eq_route_iff.2 hw)
    refine ⟨String.ofList stem, ext, hext, String.toList_inj.1 ?_, w, hw, pre, rest, ?_⟩
    · rw [hname, String.toList_append, String.toList_ofList]
    · rw [hstem, String.toList_ofList]
  · rintro ⟨stem, ext, hext, rfl, w, hw, hin⟩
    rw [String.toList_append]
    exact ⟨⟨w, hw, hin.trans (List.prefix_append _ _).isInfix⟩, stem.toList, ext, hext, rfl⟩

example : isRouteFile "ROUTER.jsx" = true ∧ isRouteFile "router.JSX" = false := by decide

/-- A line break at the end is no part of an extension. -/
theorem isRouteFile_append_newline (name : String) : isRouteFile (name ++ "\n") = false := by
  rw [isRouteFile_eq, Bool.and_eq_false_iff]
  right
  rw [← Bool.not_eq_true]
  intro hscript
  have hlast := getLast?_of_isScript hscript
  rw [String.toList_append, List.getLast?_append_of_ne_nil _ (by decide)] at hlast
  exact absurd hlast (by decide)

/-- **Which names are those of route files.**  A name is one just if it is a stem with the extension
of a script behind it, and the stem has `route` in it, each letter small or capital ASCII.  It makes
no difference that the name of a routes module counts as well.  A name with a line break at the end
is not one.  And whatever a search takes for `route` in the name of a script stands before the
extension. -/
theorem routeNames_exact (name : String) :
    (isRouteFile name = true ↔ ∃ stem, ∃ ext ∈ [".ts", ".tsx", ".js", ".jsx"],
      name = stem ++ ext ∧ ∃ w ∈ Source.anyCase "route", w <:+: stem.toList) ∧
    isRouteFile name = (saysRoute name.toList && isScript name.toList) ∧
    isRouteFile (name ++ "\n") = false ∧
    ∀ stem, ∀ ext ∈ [".ts", ".tsx", ".js", ".jsx"], name = stem ++ ext →
      ∀ pre w post, name.toList = pre ++ (w ++ post) → w.map Text.foldChar = "route".toList →
        pre ++ w <+: stem.toList := by
  refine ⟨isRouteFile_iff, isRouteFile_eq name, isRouteFile_append_newline name, ?_⟩
  rintro stem ext hext rfl pre w post hsplit hw
  rw [String.toList_append] at hsplit
  exact prefix_stem hext hsplit hw

/-- A stem with an extension of its own, and with characters in it that a search takes for a `k` and
for an `s`. -/
def mixedStem : String := "\u212Aa.RoUtE\u017F.ts"

theorem routeNames_exact_mixedStem :
    ".jsx" ∈ [".ts", ".tsx", ".js", ".jsx"] ∧ "RoUtE".toList.map Text.foldChar = "route".toList ∧
    (mixedStem ++ ".jsx").toList =
      "\u212Aa.".toList ++ ("RoUtE".toList ++ "\u017F.ts.jsx".toList) ∧
    isRouteFile (mixedStem ++ ".jsx") = true ∧
    "\u212Aa.".toList ++ "RoUtE".toList <+: mixedStem.toList := by
  have hext : ".jsx" ∈ [".ts", ".tsx", ".js", ".jsx"] := by decide
  have hword : "RoUtE".toList.map Text.foldChar = "route".toList := by decide
  have hin : "RoUtE".toList <:+: mixedStem.toList :=
    ⟨"\u212Aa.".toList, "\u017F.ts".toList, rfl⟩
  obtain ⟨hnamed, -, -, hbefore⟩ := routeNames_exact (mixedStem ++ ".jsx")
  exact ⟨hext, hword, rfl,
    hnamed.2 ⟨mixedStem, ".jsx", hext, rfl, _, map_foldChar_eq_route_iff.1 hword, hin⟩,
    hbefore mixedStem ".jsx" hext rfl _ _ _ rfl hword⟩

end RouteAudit
