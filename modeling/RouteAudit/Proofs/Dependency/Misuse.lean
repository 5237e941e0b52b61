import RouteAudit.Proofs.Dependency.Reading

/-!
# Which faults of a table are explained

Most faults of a table are explained as something that it says wrong: an entry has no name, a
property is unknown, a version has too many digits.  Two kinds are not.  A property is looked up
among the names of the properties, and a list or a map cannot be looked up at all; and the entries
and the parts of a library are gone through, whatever stands there.  A table with such a fault is
refused as well, but as a value that was put to a wrong use.

So it is not true that every table that cannot be used is refused with an explanation
(`Table.exists_unexplained`).  What is true is that the two kinds come up only in the places where
a value is looked up or gone through, and only when nothing in front of it, in the entries before
and in the fields that are read before, is refused already.

## What is here

* `TableFault.isMisuse`, `Misuse` — the faults that are not explained;
* `Table.MisusedFields`, `Table.Misused` — the tables that have one, told without reading them;
* `Table.refusals_explained` — that these are all of them.
-/

set_option autoImplicit false

namespace RouteAudit

open Yaml (Value)

/-- Whether a fault is a wrong use of a value, and not something that the table says wrong. -/
def TableFault.isMisuse : TableFault → Bool
  | .notComparable _ => true
  | .itemless _ => true
  | _ => false

/-- Reading ends with a wrong use of a value. -/
def Misuse {α : Type} (x : Except TableFault α) : Prop := ∃ f, x = .error f ∧ f.isMisuse = true

section
variable {α β : Type}

theorem not_misuse_ok (a : α) : ¬ Misuse (.ok a) := fun ⟨_, h, _⟩ => by cases h

theorem not_misuse_pure (a : α) : ¬ Misuse (pure a) := not_misuse_ok a

theorem misuse_error {f : TableFault} :
    Misuse (.error f : Except TableFault α) ↔ f.isMisuse = true :=
  ⟨fun ⟨_, h, hf⟩ => Except.error.inj h ▸ hf, fun hf => ⟨f, rfl, hf⟩⟩

instance (x : Except TableFault α) : Decidable (Misuse x) :=
  match x with
  | .ok a => isFalse (not_misuse_ok a)
  | .error _ => decidable_of_iff' _ misuse_error

/-- A wrong use is neither a result nor a fault that is explained, and nothing else is neither. -/
theorem not_misuse_iff {x : Except TableFault α} :
    ¬ Misuse x ↔ (∃ a, x = .ok a) ∨ ∃ f, x = .error f ∧ f.isMisuse = false := by
  cases x with
  | ok a => simp [not_misuse_ok]
  | error f => simp [misuse_error]

/-- A wrong use in one of two steps, the second of which is only made after the first. -/
theorem misuse_bind {x : Except TableFault α} {f : α → Except TableFault β} :
    Misuse (x >>= f) ↔ Misuse x ∨ ∃ a, x = .ok a ∧ Misuse (f a) := by
  simp only [Misuse, bind_eq_error_iff]
  constructor
  · rintro ⟨e, h | ⟨a, ha, h⟩, hf⟩
    · exact .inl ⟨e, h, hf⟩
    · exact .inr ⟨a, ha, e, h, hf⟩
  · rintro (⟨e, h, hf⟩ | ⟨a, ha, e, h, hf⟩)
    · exact ⟨e, .inl h, hf⟩
    · exact ⟨e, .inr ⟨a, ha, h⟩, hf⟩

end

namespace Table

/-! ## Fields -/

/-- A value that cannot be looked up among names.  A set is the exception among the values that
cannot be compared: it is looked up as the set that it is, and not found. -/
def Unlookable (v : Value) : Prop := (∀ xs, v ≠ .set xs) ∧ v.keyFault?.isSome = true

/-- A field has a value, and the value has no items. -/
def Itemless (v : Option Value) : Prop := ∃ w, v = some w ∧ w.items? = none

theorem misuse_propertyOf {v name : Value} : Misuse (propertyOf v name) ↔ Unlookable v := by
  rw [propertyOf.eq_def, Unlookable]
  split
  · split
    · simp [not_misuse_ok, Value.keyFault?]
    · simp [misuse_error, TableFault.isMisuse, Value.keyFault?]
  · simp [misuse_error, TableFault.isMisuse]
  · rename_i hset
    split
    · rename_i w hw
      simpa [misuse_error, TableFault.isMisuse, hw] using hset
    · rename_i hw
      simp [misuse_error, TableFault.isMisuse, hw]

theorem misuse_itemsOf {v : Option Value} : Misuse (itemsOf v) ↔ Itemless v := by
  cases v with
  | none => simp [itemsOf, not_misuse_ok, Itemless]
  | some w =>
    cases h : w.items? <;>
      simp [itemsOf, h, not_misuse_ok, misuse_error, TableFault.isMisuse, Itemless]

/-- Items are found unless the value that is there has none. -/
theorem exists_itemsOf_iff {v : Option Value} : (∃ vs, itemsOf v = .ok vs) ↔ ¬ Itemless v := by
  cases v with
  | none => simp [itemsOf, Itemless]
  | some w => cases h : w.items? <;> simp [itemsOf, Itemless, h]

theorem not_misuse_versionOf (v : Option Value) : ¬ Misuse (versionOf v) := by
  rw [versionOf.eq_def]
  split
  · exact not_misuse_ok _
  · split
    · exact not_misuse_ok _
    · simp [misuse_error, TableFault.isMisuse]

/-- **The fields of an entry that are put to a wrong use.**  A property is looked up once there is a
name, and the parts are gone through once there is a property and a version. -/
def MisusedFields (fields : List (Value × Value)) : Prop :=
  ((Value.field? fields "name").getD .null).truth = true ∧
    (Unlookable ((Value.field? fields "detect").getD (.text "")) ∨
      (∃ p : Property, Value.field? fields "detect" = some (.text p.name)) ∧
        (∃ s, (Value.field? fields "version").elim (some "") Value.plain? = some s) ∧
        (Itemless (Value.field? fields "patched_components") ∨
          Itemless (Value.field? fields "components")))

theorem misuse_readFields {v : Value} {fields : List (Value × Value)} :
    Misuse (readFields v fields) ↔ MisusedFields fields := by
  rw [readFields, MisusedFields]
  by_cases hname : ((Value.field? fields "name").getD .null).truth = true
  · have hparts : ∀ v w : Option Value,
        (Itemless v ∨ (∃ vs, itemsOf v = .ok vs) ∧ Itemless w) ↔ Itemless v ∨ Itemless w := by
      intro v w
      rw [exists_itemsOf_iff]
      by_cases hv : Itemless v <;> simp [hv]
    simp only [hname, Bool.not_true, Bool.false_eq_true, if_false, misuse_bind,
      propertyOf_eq_ok_iff, versionOf_eq_ok_iff, misuse_propertyOf, misuse_itemsOf,
      not_misuse_versionOf, not_misuse_pure, getD_eq_name_iff, false_or, true_and, and_false,
      exists_false, or_false, hparts, exists_and_right]
  · have hnameless : (!((Value.field? fields "name").getD .null).truth) = true := by simp [hname]
    rw [if_pos hnameless]
    refine ⟨fun h => ?_, fun h => absurd h.1 hname⟩
    obtain ⟨f, hf, hmisuse⟩ := h
    cases hf
    cases hmisuse

/-! ## Entries -/

/-- An entry is put to a wrong use. -/
def MisusedEntry (v : Value) : Prop := ∃ fields, v.entries? = some fields ∧ MisusedFields fields

theorem misuse_readEntry {v : Value} : Misuse (readEntry v) ↔ MisusedEntry v := by
  rw [readEntry, MisusedEntry]
  cases h : v.entries? with
  | none => simp [misuse_error, TableFault.isMisuse]
  | some fields => simp [misuse_readFields]

/-- One of the entries is put to a wrong use, and those before it can be read. -/
def MisusedEntries (vs : List Value) : Prop :=
  ∃ front v back, vs = front ++ v :: back ∧ (∀ w ∈ front, ∃ e, EntryOf w e) ∧ MisusedEntry v

theorem misusedEntries_cons {v : Value} {vs : List Value} :
    MisusedEntries (v :: vs) ↔ MisusedEntry v ∨ (∃ e, EntryOf v e) ∧ MisusedEntries vs := by
  constructor
  · rintro ⟨front, w, back, heq, hfront, hw⟩
    cases front with
    | nil =>
      cases heq
      exact .inl hw
    | cons u front =>
      cases heq
      obtain ⟨hu, hfront⟩ := List.forall_mem_cons.1 hfront
      exact .inr ⟨hu, front, w, back, rfl, hfront, hw⟩
  · rintro (hv | ⟨hv, front, w, back, rfl, hfront, hw⟩)
    · exact ⟨[], v, vs, rfl, by simp, hv⟩
    · exact ⟨v :: front, w, back, rfl, List.forall_mem_cons.2 ⟨hv, hfront⟩, hw⟩

theorem misuse_readEntries {vs : List Value} : Misuse (readEntries vs) ↔ MisusedEntries vs := by
  induction vs with
  | nil => simp [readEntries, not_misuse_ok, MisusedEntries]
  | cons v vs ih =>
    simp only [readEntries_cons, misuse_bind, misuse_readEntry, ih, not_misuse_pure,
      readEntry_eq_ok_iff, and_false, exists_false, or_false, exists_and_right, misusedEntries_cons]

/-! ## Tables -/

/-- **A table that is put to a wrong use**: it is a map, and there are no entries in what stands for
them, or one of them is put to a wrong use. -/
def Misused (v : Value) : Prop :=
  ∃ fields, v.entries? = some fields ∧
    (Itemless (Value.field? fields "dependencies") ∨
      ∃ vs, entriesOf fields = some vs ∧ MisusedEntries vs)

theorem misuse_ofValue {v : Value} : Misuse (ofValue v) ↔ Misused v := by
  rw [Misused]
  cases h : v.entries? with
  | none => simp [ofValue_of_none h, misuse_error, TableFault.isMisuse]
  | some fields =>
    simp [ofValue_of_some h, misuse_bind, misuse_itemsOf, misuse_readEntries, itemsOf_eq_ok_iff,
      entriesOf]

/-- **Every table is read, or refused with an explanation, unless it is put to a wrong use**; and
then it is refused as that. -/
theorem refusals_explained {text : List Char} {v : Value} (h : Yaml.load text = .ok v) :
    (¬ Misused v → (∃ t, load text = .ok t) ∨ ∃ f, load text = .error f ∧ f.isMisuse = false) ∧
      (Misused v → ∃ f, load text = .error f ∧ f.isMisuse = true) := by
  have hload : load text = ofValue v := by rw [load, h]
  rw [hload, ← not_misuse_iff, ← misuse_ofValue]
  exact ⟨id, id⟩

/-- A table that lists the property of a library. -/
def listedProperty : List Char := "dependencies:\n- name: x\n  detect: [has_react_router]\n".toList

theorem load_listedProperty :
    ∃ v, Yaml.load listedProperty = .ok v ∧ Misuse (load listedProperty) := by
  have h : Misuse (load listedProperty) := by decide +kernel
  cases hv : Yaml.load listedProperty with
  | ok v => exact ⟨v, rfl, h⟩
  | error e =>
    obtain ⟨f, hf, hmisuse⟩ := h
    rw [load, hv] at hf
    cases hf
    cases hmisuse

/-- The list is looked up, and that is how the table is refused. -/
theorem refusals_explained_listedProperty :
    ∃ v f, Yaml.load listedProperty = .ok v ∧ Misused v ∧ load listedProperty = .error f ∧
      f.isMisuse = true := by
  obtain ⟨v, hv, hmisuse⟩ := load_listedProperty
  obtain ⟨hexplained, hrefused⟩ := refusals_explained hv
  have hmisused : Misused v := by
    by_contra hnot
    exact not_misuse_iff.2 (hexplained hnot) hmisuse
  obtain ⟨f, hf, hkind⟩ := hrefused hmisused
  exact ⟨v, f, hv, hmisused, hf, hkind⟩

/-- **Not every refusal is explained.** -/
theorem exists_unexplained :
    ¬ ∀ (text : List Char) (v : Value), Yaml.load text = .ok v →
      (∃ t, load text = .ok t) ∨ ∃ f, load text = .error f ∧ f.isMisuse = false := by
  intro hall
  obtain ⟨v, hv, hmisuse⟩ := load_listedProperty
  exact not_misuse_iff.2 (hall listedProperty v hv) hmisuse

end Table
end RouteAudit
