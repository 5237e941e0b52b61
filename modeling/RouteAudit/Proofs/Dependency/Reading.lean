import Mathlib.Data.List.Forall2
import RouteAudit.Dependency

/-!
# What a table says

`Table.load` reads a table entry by entry, and an entry field by field.  Here it is told without the
order in which that happens what a table has to look like to be read, and what is read from it: one
line for each entry, and each part of a line from its own field.

## What is here

* `bind_eq_ok_iff`, `bind_eq_error_iff` — how a computation of two steps ends;
* `Table.Describes` — the fields of an entry and the line that they stand for;
* `Table.readEntries_eq_ok_iff`, `Table.load_eq_ok_iff` — what can be read.
-/

set_option autoImplicit false

namespace RouteAudit

open Yaml (Value)

/-! ## Steps that can fail -/

section
variable {ε α β : Type} {x : Except ε α} {f : α → Except ε β}

/-- Two steps succeed when both do. -/
theorem bind_eq_ok_iff {b : β} : (x >>= f) = .ok b ↔ ∃ a, x = .ok a ∧ f a = .ok b := by
  cases x with
  | error e =>
    refine ⟨fun h => ?_, fun ⟨a, ha, _⟩ => ?_⟩
    · cases h
    · cases ha
  | ok a => exact ⟨fun h => ⟨a, rfl, h⟩, fun ⟨_, ha, h⟩ => Except.ok.inj ha ▸ h⟩

/-- Two steps fail when the first one does, or the second one after it. -/
theorem bind_eq_error_iff {e : ε} :
    (x >>= f) = .error e ↔ x = .error e ∨ ∃ a, x = .ok a ∧ f a = .error e := by
  cases x with
  | error e' =>
    refine ⟨fun h => .inl (congrArg Except.error (Except.error.inj h)), fun h => ?_⟩
    rcases h with h | ⟨a, ha, _⟩
    · rw [h]
      rfl
    · cases ha
  | ok a =>
    refine ⟨fun h => .inr ⟨a, rfl, h⟩, fun h => ?_⟩
    rcases h with h | ⟨_, ha, h⟩
    · cases h
    · exact Except.ok.inj ha ▸ h

end

/-! ## The fields of an entry -/

/-- A property has only its own name. -/
theorem Property.ofName?_eq_some_iff {s : String} {p : Property} :
    ofName? s = some p ↔ s = p.name := by
  refine ⟨fun h => ?_, fun h => by rw [h, ofName?_name]⟩
  rw [ofName?] at h
  have hname := List.find?_some h
  exact (eq_of_beq hname).symm

namespace Table

/-- A property is given by its name, as a text. -/
theorem propertyOf_eq_ok_iff {v name : Value} {p : Property} :
    propertyOf v name = .ok p ↔ v = .text p.name := by
  refine ⟨fun h => ?_, fun h => ?_⟩
  · rw [propertyOf.eq_def] at h
    split at h
    · split at h
      · rename_i q hq
        rw [Property.ofName?_eq_some_iff.1 hq, Except.ok.inj h]
      · cases h
    · cases h
    · split at h <;> cases h
  · rw [h, propertyOf, Property.ofName?_name]

theorem itemsOf_eq_ok_iff {v : Option Value} {vs : List Value} :
    itemsOf v = .ok vs ↔ v.elim (some []) Value.items? = some vs := by
  cases v with
  | none => simp [itemsOf]
  | some v => cases h : v.items? <;> simp [itemsOf, h]

theorem versionOf_eq_ok_iff {v : Option Value} {s : String} :
    versionOf v = .ok s ↔ v.elim (some "") Value.plain? = some s := by
  cases v with
  | none => simp [versionOf]
  | some v => cases h : v.plain? <;> simp [versionOf, h]

/-- **The line that the fields of an entry stand for.**  A field that is absent has a default, but
for the name and the property. -/
structure Describes (fields : List (Value × Value)) (e : TableEntry) : Prop where
  name : e.dependency.name = (Value.field? fields "name").getD .null
  named : e.dependency.name.truth = true
  property : Value.field? fields "detect" = some (.text e.property.name)
  version : (Value.field? fields "version").elim (some "") Value.plain? = some e.dependency.version
  critical : e.dependency.critical = ((Value.field? fields "critical").map Value.truth).getD false
  shellPatched : e.dependency.shellPatched =
    match Value.field? fields "shell_patched" with
    | none => none
    | some .null => none
    | some v => some v.truth
  patchedComponents : (Value.field? fields "patched_components").elim (some []) Value.items? =
    some e.dependency.patchedComponents
  components : (Value.field? fields "components").elim (some []) Value.items? =
    some e.dependency.components
  issue : e.dependency.issue = (Value.field? fields "issue").getD .null
  /-- Nothing is in use before the files are looked at. -/
  detected : e.dependency.detected = false

/-- A property that is given has a name, so a field that is absent gives none. -/
theorem getD_eq_name_iff {v : Option Value} {p : Property} :
    v.getD (.text "") = .text p.name ↔ v = some (.text p.name) := by
  cases v with
  | some v => simp
  | none => cases p <;> simp [Property.name]

/-- **Fields that are read** are those that stand for the line. -/
theorem readFields_eq_ok_iff {v : Value} {fields : List (Value × Value)} {e : TableEntry} :
    readFields v fields = .ok e ↔ Describes fields e := by
  rw [readFields]
  by_cases hname : ((Value.field? fields "name").getD .null).truth = true
  · simp only [hname, Bool.not_true, Bool.false_eq_true, if_false, bind_eq_ok_iff,
      propertyOf_eq_ok_iff, versionOf_eq_ok_iff, itemsOf_eq_ok_iff, getD_eq_name_iff]
    constructor
    · rintro ⟨p, hproperty, version, hversion, ps, hpatched, cs, hcomponents, he⟩
      cases he
      exact ⟨rfl, hname, hproperty, hversion, rfl, rfl, hpatched, hcomponents, rfl, rfl⟩
    · intro h
      refine ⟨_, h.property, _, h.version, _, h.patchedComponents, _, h.components, ?_⟩
      obtain ⟨⟨_, _, _, detected, _, _, _, _⟩, _⟩ := e
      obtain ⟨rfl, _, _, _, rfl, rfl, _, _, rfl, rfl⟩ := h
      rfl
  · have hnameless : (!((Value.field? fields "name").getD .null).truth) = true := by simp [hname]
    refine ⟨fun h => ?_, fun h => absurd (h.name ▸ h.named) hname⟩
    rw [if_pos hnameless] at h
    cases h

/-- A line is what an entry says if the entry is a map, and its fields stand for the line. -/
def EntryOf (v : Value) (e : TableEntry) : Prop :=
  ∃ fields, v.entries? = some fields ∧ Describes fields e

theorem readEntry_eq_ok_iff {v : Value} {e : TableEntry} :
    readEntry v = .ok e ↔ EntryOf v e := by
  rw [readEntry, EntryOf]
  cases h : v.entries? with
  | none => simp
  | some fields => simp [readFields_eq_ok_iff]

theorem readEntries_cons (v : Value) (vs : List Value) :
    readEntries (v :: vs) =
      readEntry v >>= fun e => readEntries vs >>= fun t => pure (e :: t) := by
  rw [readEntries]
  cases readEntry v with
  | error f => rfl
  | ok e => cases readEntries vs <;> rfl

/-- **Entries that are read**: each stands for its line, in order. -/
theorem readEntries_eq_ok_iff {vs : List Value} {t : Table} :
    readEntries vs = .ok t ↔ List.Forall₂ EntryOf vs t := by
  induction vs generalizing t with
  | nil => simp [readEntries, eq_comm]
  | cons v vs ih =>
    simp only [readEntries_cons, bind_eq_ok_iff, readEntry_eq_ok_iff, ih,
      List.forall₂_cons_left_iff]
    constructor
    · rintro ⟨e, he, t', ht', h⟩
      exact ⟨e, t', he, ht', (Except.ok.inj h).symm⟩
    · rintro ⟨e, t', he, ht', rfl⟩
      exact ⟨e, he, t', ht', rfl⟩

/-- The entries of a value: those under their key, none when it is absent. -/
def entriesOf (fields : List (Value × Value)) : Option (List Value) :=
  (Value.field? fields "dependencies").elim (some []) Value.items?

theorem ofValue_of_none {v : Value} (h : v.entries? = none) : ofValue v = .error .notMapping := by
  rw [ofValue, h]

theorem ofValue_of_some {v : Value} {fields : List (Value × Value)} (h : v.entries? = some fields) :
    ofValue v = itemsOf (Value.field? fields "dependencies") >>= readEntries := by
  simp only [ofValue, h]
  cases itemsOf (Value.field? fields "dependencies") <;> rfl

theorem ofValue_eq_ok_iff {v : Value} {t : Table} :
    ofValue v = .ok t ↔
      ∃ fields vs, v.entries? = some fields ∧ entriesOf fields = some vs ∧
        List.Forall₂ EntryOf vs t := by
  cases h : v.entries? with
  | none => simp [ofValue_of_none h]
  | some fields =>
    simp [ofValue_of_some h, bind_eq_ok_iff, itemsOf_eq_ok_iff, readEntries_eq_ok_iff, entriesOf]

/-- **A text that is read** has a value, that value is a map, and what stands in it for the entries
stands for the lines. -/
theorem load_eq_ok_iff {text : List Char} {t : Table} :
    load text = .ok t ↔
      ∃ v fields vs, Yaml.load text = .ok v ∧ v.entries? = some fields ∧
        entriesOf fields = some vs ∧ List.Forall₂ EntryOf vs t := by
  rw [load]
  cases Yaml.load text with
  | error f => simp
  | ok v => simp [ofValue_eq_ok_iff]

end Table
end RouteAudit
