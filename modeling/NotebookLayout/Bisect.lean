/-!
# Bisection

The point at which a property of positions stops holding, found by halving.

Main statement: for a property that, once lost, stays lost, `bisect` is the first position without
it (`bisect_le`, `of_lt_bisect`, `not_of_bisect_le`).
-/

namespace NotebookLayout

/-- Halves the `size` positions from `start` on: drops the front half with its middle while the
middle has `p`, and keeps the front half otherwise. -/
def bisectFrom (p : Nat → Bool) (start size : Nat) : Nat :=
  if h : size = 0 then start
  else
    let half := size / 2
    if p (start + half) then bisectFrom p (start + half + 1) (size - half - 1)
    else bisectFrom p start half
termination_by size

/-- The first of the positions `0, …, size - 1` without `p`, or `size` if all have it. Meant for a
`p` that fails everywhere after it failed once. -/
def bisect (p : Nat → Bool) (size : Nat) : Nat := bisectFrom p 0 size

/-- The property is never regained once it is lost. -/
def Initial (p : Nat → Bool) (size : Nat) : Prop :=
  ∀ i j, i ≤ j → j < size → p j = true → p i = true

/-- The search stays within its range. -/
theorem bisectFrom_bounds (p : Nat → Bool) (start size : Nat) :
    start ≤ bisectFrom p start size ∧ bisectFrom p start size ≤ start + size := by
  fun_induction bisectFrom p start size <;> omega

/-- Within the range, what is in front of the place found fulfils the condition and what comes after
it does not. -/
theorem bisectFrom_splits {p : Nat → Bool} {start size : Nat} (hp : Initial p (start + size)) :
    (∀ i, start ≤ i → i < bisectFrom p start size → p i = true) ∧
      ∀ i, bisectFrom p start size ≤ i → i < start + size → p i = false := by
  fun_induction bisectFrom p start size with
  | case1 start => exact ⟨by omega, by omega⟩
  | case2 start size h half hmid ih =>
    obtain ⟨hlo, hhi⟩ := ih fun i j hij hj => hp i j hij (by omega)
    refine ⟨fun i _ hi => ?_, fun i hi hs => hhi i hi (by omega)⟩
    by_cases him : i ≤ start + half
    · exact hp i _ him (by omega) hmid
    · exact hlo i (by omega) hi
  | case3 start size h half hmid ih =>
    obtain ⟨hlo, hhi⟩ := ih fun i j hij hj => hp i j hij (by omega)
    refine ⟨hlo, fun i hi hs => ?_⟩
    by_cases him : i < start + half
    · exact hhi i hi him
    · cases hpi : p i with
      | false => rfl
      | true => exact absurd (hp _ i (by omega) hs hpi) hmid

/-- The place found is no further than the end. -/
theorem bisect_le (p : Nat → Bool) (size : Nat) : bisect p size ≤ size := by
  have := (bisectFrom_bounds p 0 size).2
  rw [bisect]
  omega

/-- Every position before the answer has the property. -/
theorem of_lt_bisect {p : Nat → Bool} {size i : Nat} (hp : Initial p size)
    (h : i < bisect p size) : p i = true :=
  (bisectFrom_splits (by simpa using hp)).1 i (Nat.zero_le i) h

/-- No position from the answer on has the property. -/
theorem not_of_bisect_le {p : Nat → Bool} {size i : Nat} (hp : Initial p size)
    (h : bisect p size ≤ i) (hi : i < size) : p i = false :=
  (bisectFrom_splits (by simpa using hp)).2 i h (by omega)

end NotebookLayout
