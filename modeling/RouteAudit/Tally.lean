/-!
# Tallies

Counting the members of a list, in the order in which they first come up.

Main statement: `countIn_tally`, the count of a key in the tally of a list is the number of times it
is in the list.
-/

set_option autoImplicit false

namespace RouteAudit

variable {α : Type} [DecidableEq α]

/-- Counts `x` once more. -/
def bump (x : α) : List (α × Nat) → List (α × Nat)
  | [] => [(x, 1)]
  | (y, n) :: rest => if y = x then (y, n + 1) :: rest else (y, n) :: bump x rest

/-- The members of a list with their counts. -/
def tally (xs : List α) : List (α × Nat) := xs.foldl (fun t x => bump x t) []

/-- The count of `x` in a tally. -/
def countIn (x : α) (t : List (α × Nat)) : Nat :=
  match t.find? (·.1 = x) with
  | some (_, n) => n
  | none => 0

/-- Counting once more adds one for that member only. -/
theorem countIn_bump (x y : α) (t : List (α × Nat)) :
    countIn x (bump y t) = countIn x t + if y = x then 1 else 0 := by
  induction t with
  | nil => by_cases h : y = x <;> simp [bump, countIn, h]
  | cons e t ih =>
    obtain ⟨z, n⟩ := e
    by_cases hz : z = y
    · subst hz
      by_cases h : z = x <;> simp [bump, countIn, h]
    · by_cases h : z = x
      · subst h
        simp [bump, countIn, hz, Ne.symm hz]
      · simp only [countIn] at ih
        simpa [bump, countIn, hz, h] using ih

/-- **A tally counts.** -/
theorem countIn_tally (x : α) (xs : List α) : countIn x (tally xs) = xs.count x := by
  have key : ∀ (xs : List α) (t : List (α × Nat)),
      countIn x (xs.foldl (fun t y => bump y t) t) = countIn x t + xs.count x := by
    intro xs
    induction xs with
    | nil => simp
    | cons y ys ih =>
      intro t
      simp only [List.foldl_cons, ih, countIn_bump, List.count_cons, beq_iff_eq]
      omega
  simpa [tally, countIn] using key xs []

end RouteAudit
