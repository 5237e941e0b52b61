import RouteAudit.Proofs.Json.Characters

/-!
# Written values are read back

A value that was written with a way of escaping that the reader takes back is read back, whatever
follows it.  Floating-point numbers are left out, and so are objects that have a member twice: the
reader would keep only one of the two.

## What is here

* `Plain` — the values that this is about;
* `readsBack_of_plain` — such a value at the front of a text is read back;
* `htmlSafe_render` — a value that was made safe for a page is one that was written with another
  way of escaping, so that it is read back too;
* `parse_pretty`, `read?_embedded` — what this means for a report and for the data of a page.
-/

set_option autoImplicit false

namespace RouteAudit
namespace Json

/-- A value without floating-point numbers, in which no object has a member twice. -/
inductive Plain : Json → Prop
  | null : Plain .null
  | bool (b : Bool) : Plain (.bool b)
  | int (n : Int) : Plain (.int n)
  | str (s : String) : Plain (.str s)
  | arr {vs : List Json} (h : ∀ v ∈ vs, Plain v) : Plain (.arr vs)
  | obj {ms : List (String × Json)} (hkeys : (ms.map Prod.fst).Nodup) (h : ∀ m ∈ ms, Plain m.2) :
      Plain (.obj ms)

/-! ## White space -/

theorem skipSpace_append {ws : List Char} (h : ∀ c ∈ ws, isSpace c = true) (s : List Char) :
    skipSpace (ws ++ s) = skipSpace s :=
  List.dropWhile_append_of_pos h

theorem skipSpace_cons {c : Char} (h : isSpace c = false) (s : List Char) :
    skipSpace (c :: s) = c :: s :=
  List.dropWhile_cons_of_neg (by simp [h])

theorem isSpace_of_mem_newline {depth : Nat} {c : Char} (h : c ∈ newline depth) :
    isSpace c = true := by
  rw [newline, List.mem_cons, List.mem_replicate] at h
  rcases h with rfl | ⟨-, rfl⟩ <;> rfl

theorem skipSpace_newline (depth : Nat) (s : List Char) :
    skipSpace (newline depth ++ s) = skipSpace s :=
  skipSpace_append (fun _ => isSpace_of_mem_newline) s

theorem length_newline_pos (depth : Nat) : 0 < (newline depth).length := Nat.succ_pos _

/-! ## Numbers -/

/-- Whether a number in front of the text would end there. -/
def endsNumber : List Char → Bool
  | [] => true
  | c :: _ => !c.isDigit && c != '.' && c != 'e' && c != 'E'

theorem endsNumber_newline (depth : Nat) (s : List Char) :
    endsNumber (newline depth ++ s) = true := rfl

section
variable {r : List Char}

theorem takeWhile_of_endsNumber (h : endsNumber r = true) : r.takeWhile Char.isDigit = [] := by
  cases r with
  | nil => rfl
  | cons c r =>
    simp only [endsNumber, Bool.and_eq_true, Bool.not_eq_true'] at h
    rw [List.takeWhile_cons, h.1.1.1, if_neg Bool.false_ne_true]

theorem dropWhile_of_endsNumber (h : endsNumber r = true) : r.dropWhile Char.isDigit = r := by
  cases r with
  | nil => rfl
  | cons c r =>
    simp only [endsNumber, Bool.and_eq_true, Bool.not_eq_true'] at h
    rw [List.dropWhile_cons, h.1.1.1, if_neg Bool.false_ne_true]

theorem readPlaces_of_endsNumber (h : endsNumber r = true) : readPlaces r = ([], r) := by
  cases r with
  | nil => rfl
  | cons c r =>
    simp only [endsNumber, Bool.and_eq_true, bne_iff_ne] at h
    have hpoint : afterLit ['.'] (c :: r) = none := by rw [afterLit, if_neg (Ne.symm h.1.1.2)]
    rw [readPlaces, hpoint]

theorem readExponent_of_endsNumber (h : endsNumber r = true) : readExponent r = ([], r) := by
  cases r with
  | nil => rfl
  | cons c r =>
    simp only [endsNumber, Bool.and_eq_true, bne_iff_ne] at h
    rw [readExponent, if_neg (by simp [h.1.2, h.2])]

end

theorem toDigits_eq_cons (n : Nat) :
    ∃ c ds, Nat.toDigits 10 n = c :: ds ∧ c.isDigit = true := by
  obtain ⟨c, ds, hs⟩ := List.exists_cons_of_ne_nil (Nat.toDigits_ne_nil (n := n) (b := 10))
  exact ⟨c, ds, hs, Nat.isDigit_of_mem_toDigits (by decide) (by decide) (hs ▸ List.mem_cons_self)⟩

/-- No numeral but that of zero begins with a zero. -/
theorem head?_toDigits {n : Nat} (h : 0 < n) : (Nat.toDigits 10 n).head? ≠ some '0' := by
  induction n using Nat.strongRecOn with
  | ind n ih =>
    by_cases hn : n < 10
    · rw [Nat.toDigits_of_lt_base hn, List.head?_cons, Ne, Option.some.injEq,
        Nat.digitChar_eq_zero]
      omega
    · have hrest := ih (n / 10) (by omega) (by omega)
      obtain ⟨c, ds, hs, -⟩ := toDigits_eq_cons (n / 10)
      rw [hs] at hrest
      rw [Nat.toDigits_of_base_le (by decide) (by omega), hs]
      exact hrest

theorem readWhole?_toDigits (n : Nat) {r : List Char} (h : endsNumber r = true) :
    readWhole? (Nat.toDigits 10 n ++ r) = some (Nat.toDigits 10 n, r) := by
  rcases Nat.eq_zero_or_pos n with rfl | hn
  · rfl
  · have hdigit : ∀ c ∈ Nat.toDigits 10 n, c.isDigit = true := fun c =>
      Nat.isDigit_of_mem_toDigits (by decide) (by decide)
    have hhead := head?_toDigits hn
    obtain ⟨c, ds, hs⟩ := List.exists_cons_of_ne_nil (Nat.toDigits_ne_nil (n := n) (b := 10))
    rw [hs] at hdigit hhead ⊢
    obtain ⟨hc, hds⟩ := List.forall_mem_cons.1 hdigit
    rw [List.head?_cons, Ne, Option.some.injEq] at hhead
    rw [List.cons_append, readWhole?, if_neg hhead, if_pos hc, List.takeWhile_append_of_pos hds,
      List.dropWhile_append_of_pos hds, takeWhile_of_endsNumber h, dropWhile_of_endsNumber h,
      List.append_nil]

theorem readMagnitude?_toDigits (negative : Bool) (n : Nat) {r : List Char}
    (h : endsNumber r = true) :
    readMagnitude? negative (Nat.toDigits 10 n ++ r) =
      some (.int (if negative then -(n : Int) else n), r) := by
  have hvalue : Numeral.natIn? 10 (Nat.toDigits 10 n) = some n := by
    rw [Numeral.natIn?, if_neg (by simp [Nat.toDigits_ne_nil]),
      Numeral.digitsValue?_toDigits (by decide) (by decide)]
  rw [readMagnitude?, readWhole?_toDigits n h]
  dsimp only
  rw [readPlaces_of_endsNumber h]
  dsimp only
  rw [readExponent_of_endsNumber h, hvalue]
  rfl

/-- The characters of an integer: digits, with a sign if it is negative. -/
theorem toList_toString_int (n : Int) : (toString n).toList =
    if 0 ≤ n then Nat.toDigits 10 n.toNat else '-' :: Nat.toDigits 10 (-n).toNat := by
  rw [Int.toString_eq_repr, Int.repr_eq_if]
  split
  · exact Nat.toList_repr
  · rw [String.toList_append, Nat.toList_repr]
    rfl

/-- An integer begins with a digit or with a sign. -/
theorem toList_toString_int_eq_cons (n : Int) :
    ∃ c ds, (toString n).toList = c :: ds ∧ (c.isDigit = true ∨ c = '-') := by
  rw [toList_toString_int]
  split
  · obtain ⟨c, ds, hs, hc⟩ := toDigits_eq_cons n.toNat
    exact ⟨c, ds, hs, .inl hc⟩
  · exact ⟨'-', _, rfl, .inr rfl⟩

/-- An integer is read back. -/
theorem readNumber?_int (n : Int) {r : List Char} (h : endsNumber r = true) :
    readNumber? ((toString n).toList ++ r) = some (.int n, r) := by
  rw [toList_toString_int]
  split
  · rename_i hn
    have hsign : afterLit ['-'] (Nat.toDigits 10 n.toNat ++ r) = none := by
      obtain ⟨c, ds, hs, hc⟩ := toDigits_eq_cons n.toNat
      rw [hs, List.cons_append, afterLit, if_neg]
      rintro rfl
      cases hc
    rw [readNumber?, hsign]
    dsimp only
    rw [readMagnitude?_toDigits false _ h, if_neg Bool.false_ne_true, Int.toNat_of_nonneg hn]
  · have hsign : afterLit ['-'] ('-' :: Nat.toDigits 10 (-n).toNat ++ r) =
        some (Nat.toDigits 10 (-n).toNat ++ r) := rfl
    rw [readNumber?, hsign]
    dsimp only
    rw [readMagnitude?_toDigits true _ h, if_pos rfl, Int.toNat_of_nonneg (by omega), Int.neg_neg]

/-! ## Values -/

variable {escape : Char → List Char}

-- `render` goes down a nested type, so its equations are dear to derive; these hold by computation
section
variable (escape) (depth : Nat)

theorem render_int (n : Int) : render escape depth (.int n) = (toString n).toList := rfl

theorem render_str (s : String) : render escape depth (.str s) = quoted escape s := rfl

theorem render_arr_cons (v : Json) (vs : List Json) : render escape depth (.arr (v :: vs)) =
    '[' :: newline (depth + 1) ++ render escape (depth + 1) v ++ renderItems escape (depth + 1) vs
      ++ newline depth ++ [']'] := rfl

theorem render_obj_cons (k : String) (v : Json) (ms : List (String × Json)) :
    render escape depth (.obj ((k, v) :: ms)) =
      '{' :: newline (depth + 1) ++ quoted escape k ++ ':' :: ' ' :: render escape (depth + 1) v
        ++ renderMembers escape (depth + 1) ms ++ newline depth ++ ['}'] := rfl

end

/-- A value is read back, at any depth, behind any white space and in front of any text that does
not go on with a number. -/
def ReadsBack (escape : Char → List Char) (j : Json) : Prop :=
  ∀ (depth : Nat) (ws r : List Char) (steps : Nat), (∀ c ∈ ws, isSpace c = true) →
    endsNumber r = true → (render escape depth j).length ≤ steps →
    readValue steps (ws ++ (render escape depth j ++ r)) = some (j, r)

/-- White space in front of a value is skipped. -/
theorem readValue_append {ws : List Char} (hws : ∀ d ∈ ws, isSpace d = true) (s : List Char) :
    ∀ steps, readValue steps (ws ++ s) = readValue steps s
  | 0 => rfl
  | steps + 1 => by rw [readValue, readValue, skipSpace_append hws]

/-- A value that begins with a character which opens nothing is a number or a word. -/
theorem readValue_of_scalar {s : List Char} {c : Char} (hspace : isSpace c = false)
    (hopen : c ≠ '"' ∧ c ≠ '[' ∧ c ≠ '{') (steps : Nat) :
    readValue (steps + 1) (c :: s) = (readNumber? (c :: s)).or (readWord? (c :: s)) := by
  rw [readValue, skipSpace_cons hspace]
  split
  · rename_i heq
    exact absurd (List.cons.inj heq).1 hopen.1
  · rename_i heq
    exact absurd (List.cons.inj heq).1 hopen.2.1
  · rename_i heq
    exact absurd (List.cons.inj heq).1 hopen.2.2
  · rfl

section
variable (s : List Char) (steps : Nat)

theorem readValue_quote : readValue (steps + 1) ('"' :: s) =
    (readText steps s).map fun (cs, r) => (.str (String.ofList cs), r) := rfl

theorem readValue_bracket : readValue (steps + 1) ('[' :: s) =
    match afterLit [']'] (skipSpace s) with
    | some r => some (.arr [], r)
    | none => (readItems steps s).map fun (vs, r) => (.arr vs, r) := rfl

theorem readValue_brace : readValue (steps + 1) ('{' :: s) =
    match afterLit ['}'] (skipSpace s) with
    | some r => some (.obj [], r)
    | none => (readMembers steps s).map fun (ms, r) => (.obj (lastWins ms), r) := rfl

end

/-- There is a step to take where a value has any text. -/
theorem exists_step {s : List Char} (hs : s ≠ []) {steps : Nat} (h : s.length ≤ steps) :
    ∃ k, steps = k + 1 :=
  Nat.exists_eq_add_one.2 (Nat.lt_of_lt_of_le (List.length_pos_iff.2 hs) h)

theorem readsBack_null : ReadsBack escape .null := by
  intro depth ws r steps hws hr hsteps
  obtain ⟨steps, rfl⟩ := exists_step (s := "null".toList) (by decide) hsteps
  rw [readValue_append hws]
  exact readValue_of_scalar rfl (by decide) steps

theorem readsBack_bool (b : Bool) : ReadsBack escape (.bool b) := by
  intro depth ws r steps hws hr hsteps
  rw [readValue_append hws]
  cases b with
  | true =>
    obtain ⟨steps, rfl⟩ := exists_step (s := "true".toList) (by decide) hsteps
    exact readValue_of_scalar rfl (by decide) steps
  | false =>
    obtain ⟨steps, rfl⟩ := exists_step (s := "false".toList) (by decide) hsteps
    exact readValue_of_scalar rfl (by decide) steps

theorem readsBack_int (n : Int) : ReadsBack escape (.int n) := by
  intro depth ws r steps hws hr hsteps
  have hread := readNumber?_int n hr
  obtain ⟨c, ds, hs, hc⟩ := toList_toString_int_eq_cons n
  rw [hs] at hread
  have hne : (toString n).toList ≠ [] := by
    rw [hs]
    exact List.cons_ne_nil c ds
  obtain ⟨steps, rfl⟩ := exists_step hne hsteps
  rw [readValue_append hws, render_int, hs]
  have hplain : isSpace c = false ∧ c ≠ '"' ∧ c ≠ '[' ∧ c ≠ '{' := by
    rcases hc with hc | rfl
    · refine ⟨?_, ?_, ?_, ?_⟩
      · simp only [isSpace, Bool.or_eq_false_iff, decide_eq_false_iff_not]
        refine ⟨⟨⟨?_, ?_⟩, ?_⟩, ?_⟩ <;> rintro rfl <;> cases hc
      all_goals rintro rfl; cases hc
    · decide
  rw [List.cons_append, readValue_of_scalar hplain.1 hplain.2 steps, ← List.cons_append, hread]
  rfl

theorem readsBack_str (h : Undone escape) (s : String) : ReadsBack escape (.str s) := by
  intro depth ws r steps hws hr hsteps
  rw [render_str, quoted] at hsteps ⊢
  rw [List.cons_append, List.length_cons, List.length_append, List.length_singleton] at hsteps
  obtain ⟨steps, rfl⟩ : ∃ k, steps = k + 1 := ⟨steps - 1, by omega⟩
  rw [List.cons_append, List.cons_append, List.append_assoc, List.singleton_append,
    readValue_append hws, readValue_quote, readText_flatMap h _ _ _ (by omega)]
  simp

/-- Where a value is read no array ends. -/
theorem afterLit_of_readValue {steps : Nat} {s : List Char} {x : Json × List Char}
    (h : readValue steps s = some x) : afterLit [']'] (skipSpace s) = none := by
  rw [Option.eq_none_iff_forall_ne_some]
  intro t ht
  cases steps with
  | zero => simp [readValue] at h
  | succ steps =>
    rw [readValue, afterLit_eq_some_iff.1 ht] at h
    cases h

theorem afterLit_of_readItems {steps : Nat} {s : List Char} {x : List Json × List Char}
    (h : readItems steps s = some x) : afterLit [']'] (skipSpace s) = none := by
  cases steps with
  | zero => simp [readItems] at h
  | succ steps =>
    rw [readItems] at h
    cases hv : readValue steps s with
    | none => rw [hv] at h; cases h
    | some y => exact afterLit_of_readValue hv

/-- The items of an array are read back up to its end. -/
theorem readItems_render {v : Json} {vs : List Json} (hv : ReadsBack escape v)
    (hvs : ∀ w ∈ vs, ReadsBack escape w) (depth outer : Nat) (r : List Char) (steps : Nat)
    (hsteps : (render escape depth v).length + (renderItems escape depth vs).length + 2 ≤ steps) :
    readItems steps (newline depth ++ (render escape depth v ++ (renderItems escape depth vs
      ++ (newline outer ++ ']' :: r)))) = some (v :: vs, r) := by
  induction vs generalizing v steps with
  | nil =>
    obtain ⟨steps, rfl⟩ : ∃ k, steps = k + 1 := ⟨steps - 1, by omega⟩
    rw [renderItems, List.nil_append, readItems, hv depth _ _ _ (fun _ => isSpace_of_mem_newline)
      (endsNumber_newline _ _) (by omega)]
    dsimp only
    rw [skipSpace_newline, skipSpace_cons rfl]
    rfl
  | cons w vs ih =>
    obtain ⟨hw, hvs⟩ := List.forall_mem_cons.1 hvs
    obtain ⟨steps, rfl⟩ : ∃ k, steps = k + 1 := ⟨steps - 1, by omega⟩
    have hlen : (renderItems escape depth (w :: vs)).length = (newline depth).length
        + (render escape depth w).length + (renderItems escape depth vs).length + 1 := by
      simp only [renderItems, List.length_cons, List.length_append]
      omega
    have hpos := length_newline_pos depth
    have hnext := ih hw hvs steps (by omega)
    simp only [renderItems, List.cons_append, List.append_assoc]
    rw [readItems, hv depth _ _ _ (fun _ => isSpace_of_mem_newline) rfl (by omega)]
    dsimp only
    rw [skipSpace_cons rfl]
    simp only [hnext, Option.map_some]

theorem readsBack_arr {vs : List Json} (h : ∀ v ∈ vs, ReadsBack escape v) :
    ReadsBack escape (.arr vs) := by
  intro depth ws r steps hws hr hsteps
  cases vs with
  | nil =>
    obtain ⟨steps, rfl⟩ := exists_step (s := ['[', ']']) (by decide) hsteps
    rw [readValue_append hws]
    rfl
  | cons v vs =>
    obtain ⟨hv, hvs⟩ := List.forall_mem_cons.1 h
    have hlen : (render escape depth (.arr (v :: vs))).length = (newline (depth + 1)).length
        + (render escape (depth + 1) v).length + (renderItems escape (depth + 1) vs).length
        + (newline depth).length + 2 := by
      simp only [render_arr_cons, List.length_cons, List.length_append, List.length_nil]
      omega
    have hpos := length_newline_pos depth
    obtain ⟨steps, rfl⟩ : ∃ k, steps = k + 1 := ⟨steps - 1, by omega⟩
    have hitems := readItems_render hv hvs (depth + 1) depth r steps (by omega)
    simp only [render_arr_cons, List.cons_append, List.append_assoc, List.nil_append]
    rw [readValue_append hws, readValue_bracket, afterLit_of_readItems hitems, hitems]
    rfl

/-- A member of an object is read back. -/
theorem readMember_render (h : Undone escape) (key : String) {v : Json} (hv : ReadsBack escape v)
    (depth : Nat) {r : List Char} (hr : endsNumber r = true) (steps : Nat)
    (hsteps : (quoted escape key).length + (render escape depth v).length ≤ steps) :
    readMember steps (newline depth ++ (quoted escape key ++ ':' :: ' ' ::
      (render escape depth v ++ r))) = some ((key, v), r) := by
  have hlen : (quoted escape key).length = (key.toList.flatMap escape).length + 2 := by
    simp only [quoted, List.cons_append, List.length_cons, List.length_append, List.length_nil]
  obtain ⟨steps, rfl⟩ : ∃ k, steps = k + 1 := ⟨steps - 1, by omega⟩
  have htext := readText_flatMap h key.toList (':' :: ' ' :: (render escape depth v ++ r)) steps
    (by omega)
  have hvalue := hv depth [' '] r steps (List.forall_mem_singleton.2 rfl) hr (by omega)
  simp only [quoted, List.cons_append, List.append_assoc, List.nil_append]
  rw [readMember, skipSpace_newline, skipSpace_cons rfl]
  simp only [afterLit, htext, ↓reduceIte]
  rw [skipSpace_cons rfl]
  rw [List.singleton_append] at hvalue
  simp only [afterLit, hvalue, Option.map_some, String.ofList_toList, ↓reduceIte]

/-- The members of an object are read back up to its end. -/
theorem readMembers_render (h : Undone escape) (key : String) {v : Json} (hv : ReadsBack escape v)
    {ms : List (String × Json)} (hms : ∀ m ∈ ms, ReadsBack escape m.2) (depth outer : Nat)
    (r : List Char) (steps : Nat)
    (hsteps : (quoted escape key).length + (render escape depth v).length
      + (renderMembers escape depth ms).length + 2 ≤ steps) :
    readMembers steps (newline depth ++ (quoted escape key ++ ':' :: ' ' ::
      (render escape depth v ++ (renderMembers escape depth ms ++ (newline outer ++ '}' :: r))))) =
        some ((key, v) :: ms, r) := by
  induction ms generalizing key v steps with
  | nil =>
    obtain ⟨steps, rfl⟩ : ∃ k, steps = k + 1 := ⟨steps - 1, by omega⟩
    rw [renderMembers, List.nil_append, readMembers,
      readMember_render h key hv depth (endsNumber_newline _ _) _ (by omega)]
    dsimp only
    rw [skipSpace_newline, skipSpace_cons rfl]
    rfl
  | cons m ms ih =>
    obtain ⟨k, w⟩ := m
    obtain ⟨hw, hms⟩ := List.forall_mem_cons.1 hms
    obtain ⟨steps, rfl⟩ : ∃ k, steps = k + 1 := ⟨steps - 1, by omega⟩
    have hlen : (renderMembers escape depth ((k, w) :: ms)).length = (newline depth).length
        + (quoted escape k).length + (render escape depth w).length
        + (renderMembers escape depth ms).length + 3 := by
      simp only [renderMembers, List.length_cons, List.length_append]
      omega
    have hnext := ih k (v := w) hw hms steps (by omega)
    simp only [renderMembers, List.cons_append, List.append_assoc]
    rw [readMembers, readMember_render h key hv depth rfl _ (by omega)]
    dsimp only
    rw [skipSpace_cons rfl]
    simp only [hnext, Option.map_some]

theorem setMember_of_not_mem {key : String} {ms : List (String × Json)}
    (h : key ∉ ms.map Prod.fst) (v : Json) : setMember key v ms = ms ++ [(key, v)] := by
  induction ms with
  | nil => rfl
  | cons m ms ih =>
    rw [List.map_cons, List.mem_cons, not_or] at h
    rw [setMember, if_neg (Ne.symm h.1), ih h.2, List.cons_append]

/-- Members with different keys are all kept. -/
theorem lastWins_of_nodup {ms : List (String × Json)} (h : (ms.map Prod.fst).Nodup) :
    lastWins ms = ms := by
  have key : ∀ (ms acc : List (String × Json)), ((acc ++ ms).map Prod.fst).Nodup →
      ms.foldl (fun acc m => setMember m.1 m.2 acc) acc = acc ++ ms := by
    intro ms
    induction ms with
    | nil => exact fun acc _ => (List.append_nil acc).symm
    | cons m ms ih =>
      intro acc hnd
      have hsplit : acc ++ m :: ms = acc ++ [m] ++ ms := by simp
      have hnew : m.1 ∉ acc.map Prod.fst := by
        rw [List.map_append, List.nodup_append, List.map_cons] at hnd
        exact fun hm => hnd.2.2 _ hm _ List.mem_cons_self rfl
      rw [List.foldl_cons, setMember_of_not_mem hnew, hsplit]
      exact ih _ (hsplit ▸ hnd)
  exact key ms [] h

theorem readsBack_obj (h : Undone escape) {ms : List (String × Json)}
    (hkeys : (ms.map Prod.fst).Nodup) (hms : ∀ m ∈ ms, ReadsBack escape m.2) :
    ReadsBack escape (.obj ms) := by
  intro depth ws r steps hws hr hsteps
  cases ms with
  | nil =>
    obtain ⟨steps, rfl⟩ := exists_step (s := ['{', '}']) (by decide) hsteps
    rw [readValue_append hws]
    rfl
  | cons m ms =>
    obtain ⟨key, v⟩ := m
    obtain ⟨hv, hms⟩ := List.forall_mem_cons.1 hms
    have hlen : (render escape depth (.obj ((key, v) :: ms))).length = (newline (depth + 1)).length
        + (quoted escape key).length + (render escape (depth + 1) v).length
        + (renderMembers escape (depth + 1) ms).length + (newline depth).length + 4 := by
      simp only [render_obj_cons, List.length_cons, List.length_append, List.length_nil]
      omega
    obtain ⟨steps, rfl⟩ : ∃ k, steps = k + 1 := ⟨steps - 1, by omega⟩
    have hmembers := readMembers_render h key (v := v) hv hms (depth + 1) depth r steps (by omega)
    simp only [render_obj_cons, List.cons_append, List.append_assoc, List.nil_append]
    have hopen : afterLit ['}'] (skipSpace (newline (depth + 1) ++ (quoted escape key ++ ':' :: ' '
        :: (render escape (depth + 1) v ++ (renderMembers escape (depth + 1) ms
          ++ (newline depth ++ '}' :: r)))))) = none := by
      rw [skipSpace_newline]
      rfl
    rw [readValue_append hws, readValue_brace, hopen, hmembers]
    dsimp only [Option.map_some]
    rw [lastWins_of_nodup hkeys]

/-- **Plain values are read back.** -/
theorem readsBack_of_plain (h : Undone escape) {j : Json} (hj : j.Plain) : ReadsBack escape j := by
  induction hj with
  | null => exact readsBack_null
  | bool b => exact readsBack_bool b
  | int n => exact readsBack_int n
  | str s => exact readsBack_str h s
  | arr _ ih => exact readsBack_arr ih
  | obj hkeys _ ih => exact readsBack_obj h hkeys ih

/-- A report with blanks behind it is read back. -/
theorem parse_pretty_append {j : Json} (hj : j.Plain) {r : List Char} (hr : endsNumber r = true)
    (hspace : skipSpace r = []) : parse (j.pretty.toList ++ r) = some j := by
  have hread := readsBack_of_plain undone_escapeControl hj 0 [] r
    (j.pretty.toList ++ r).length (by simp) hr (by simp [pretty])
  rw [List.nil_append] at hread
  rw [parse, read?]
  rw [pretty, String.toList_ofList] at hread ⊢
  rw [hread]
  simp [hspace]

/-- A report is read back. -/
theorem parse_pretty {j : Json} (hj : j.Plain) : parse j.pretty.toList = some j := by
  have hread := parse_pretty_append hj (rfl : endsNumber [] = true) rfl
  rwa [List.append_nil] at hread

/-- A printed report is read back. -/
theorem parse_pretty_newline {j : Json} (hj : j.Plain) :
    parse (j.pretty ++ "\n").toList = some j := by
  rw [String.toList_append]
  exact parse_pretty_append hj rfl rfl

/-! ## Data of a page -/

theorem htmlSafe_newline (depth : Nat) : htmlSafe (newline depth) = newline depth := by
  refine htmlSafe_of_all fun c hc => ?_
  rw [newline, List.mem_cons, List.mem_replicate] at hc
  rcases hc with rfl | ⟨-, rfl⟩ <;> rfl

theorem htmlSafe_quoted (s : String) :
    htmlSafe (quoted escapeAscii s) = quoted pageEscape s := by
  rw [quoted, quoted, htmlSafe_append, htmlSafe_cons, htmlSafe, List.flatMap_assoc]
  rfl

theorem htmlSafe_int (n : Int) : htmlSafe (toString n).toList = (toString n).toList := by
  refine htmlSafe_of_all fun c hc => ?_
  rw [toList_toString_int] at hc
  split at hc
  · exact isMarkup_of_mem_toDigits (by decide) hc
  · rcases List.mem_cons.1 hc with rfl | hc
    · rfl
    · exact isMarkup_of_mem_toDigits (by decide) hc

/-- What is written with a way of escaping and then hidden is written with another one. -/
theorem htmlSafe_renderItems {vs : List Json} (h : ∀ v ∈ vs, ∀ depth,
    htmlSafe (render escapeAscii depth v) = render pageEscape depth v) (depth : Nat) :
    htmlSafe (renderItems escapeAscii depth vs) = renderItems pageEscape depth vs := by
  induction vs with
  | nil => rfl
  | cons v vs ih =>
    obtain ⟨hv, hvs⟩ := List.forall_mem_cons.1 h
    simp only [renderItems, htmlSafe_append, htmlSafe_cons, htmlSafe_newline, hv, ih hvs]
    rfl

theorem htmlSafe_renderMembers {ms : List (String × Json)} (h : ∀ m ∈ ms, ∀ depth,
    htmlSafe (render escapeAscii depth m.2) = render pageEscape depth m.2) (depth : Nat) :
    htmlSafe (renderMembers escapeAscii depth ms) = renderMembers pageEscape depth ms := by
  induction ms with
  | nil => rfl
  | cons m ms ih =>
    obtain ⟨hm, hms⟩ := List.forall_mem_cons.1 h
    simp only [renderMembers, htmlSafe_append, htmlSafe_cons, htmlSafe_newline, htmlSafe_quoted, hm,
      ih hms]
    rfl

/-- **Hiding is escaping.**  A plain value that was made safe for a page is the value written with
another way of escaping. -/
theorem htmlSafe_render {j : Json} (hj : j.Plain) (depth : Nat) :
    htmlSafe (render escapeAscii depth j) = render pageEscape depth j := by
  induction hj generalizing depth with
  | null => rfl
  | bool b => cases b <;> rfl
  | int n => exact htmlSafe_int n
  | str s => exact htmlSafe_quoted s
  | @arr vs _ ih =>
    cases vs with
    | nil => rfl
    | cons v vs =>
      obtain ⟨hv, hvs⟩ := List.forall_mem_cons.1 ih
      simp only [render_arr_cons, htmlSafe_append, htmlSafe_cons, htmlSafe_newline, hv,
        htmlSafe_renderItems hvs]
      rfl
  | @obj ms _ _ ih =>
    cases ms with
    | nil => rfl
    | cons m ms =>
      obtain ⟨key, v⟩ := m
      obtain ⟨hm, hms⟩ := List.forall_mem_cons.1 ih
      simp only [render_obj_cons, htmlSafe_append, htmlSafe_cons, htmlSafe_newline,
        htmlSafe_quoted, hm, htmlSafe_renderMembers hms]
      rfl

/-- The data of a page is read back, whatever follows it. -/
theorem read?_embedded {j : Json} (hj : j.Plain) {r : List Char} (hr : endsNumber r = true) :
    read? (j.embedded ++ r) = some (j, r) := by
  have hread := readsBack_of_plain undone_pageEscape hj 0 [] r
    (render pageEscape 0 j ++ r).length (by simp) hr (by simp)
  rw [read?, embedded, htmlSafe_render hj]
  exact hread

end Json
end RouteAudit
