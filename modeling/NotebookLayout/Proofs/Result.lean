import NotebookLayout.Text.Basic

/-!
# When a computation gives a result

A computation that may fail gives a result where each of its steps does.
-/

namespace NotebookLayout

variable {ε ε' α β : Type}

/-- Steps give a result if the first one does and the rest goes on from it. -/
theorem bind_eq_ok {x : Except ε α} {f : α → Except ε β} {b : β} :
    x >>= f = .ok b ↔ ∃ a, x = .ok a ∧ f a = .ok b := by
  cases x <;> simp [bind, Except.bind]

theorem throw_ne_ok {e : ε} {a : α} : (throw e : Except ε α) ≠ .ok a := nofun

/-- A value is its own result. -/
theorem pure_eq_ok {a b : α} : (pure a : Except ε α) = .ok b ↔ b = a := by
  simp [pure, Except.pure, eq_comm]

/-- What fails in one branch has its result in the other. -/
theorem ite_throw_eq_ok {p : Prop} [Decidable p] {e : ε} {x : Except ε α} {a : α} :
    (if p then throw e else x) = .ok a ↔ ¬p ∧ x = .ok a := by
  by_cases hp : p <;> simp [hp, throw_ne_ok]

/-- The same if more was to come after the failure. -/
theorem ite_throw_bind_eq_ok {p : Prop} [Decidable p] {e : ε} {f : α → Except ε β}
    {x : Except ε β} {b : β} :
    (if p then throw e >>= f else x) = .ok b ↔ ¬p ∧ x = .ok b :=
  ite_throw_eq_ok

/-- A check has one result. -/
theorem exists_eq_ok_unit {x : Except ε Unit} : (∃ u, x = .ok u) ↔ x = .ok () :=
  ⟨fun ⟨_, h⟩ => h, fun h => ⟨_, h⟩⟩

/-- What is done to a result does not change a failure. -/
theorem map_eq_error_iff {x : Except ε α} {f : α → β} {e : ε} :
    x.map f = .error e ↔ x = .error e := by
  cases x <;> simp [Except.map]

/-- Nor does it make one. -/
theorem exists_map_eq_ok_iff {x : Except ε α} {f : α → β} :
    (∃ b, x.map f = .ok b) ↔ ∃ a, x = .ok a := by
  cases x <;> simp [Except.map]

/-- What is done to a failure does not change a result. -/
theorem mapError_eq_ok {x : Except ε α} {f : ε → ε'} {a : α} :
    x.mapError f = .ok a ↔ x = .ok a := by
  cases x with
  | error e => exact ⟨nofun, nofun⟩
  | ok b => exact ⟨fun h => congrArg _ (Except.ok.inj h), fun h => congrArg _ (Except.ok.inj h)⟩

/-- What holds of each step of a loop holds of the loop: it has the result of one that cannot
fail. -/
theorem eq_foldl_of_foldlM_eq_ok {f : β → α → Except ε β} {g : β → α → β}
    (hstep : ∀ b a b', f b a = .ok b' → b' = g b a) {l : List α} {b b' : β}
    (h : l.foldlM f b = .ok b') : b' = l.foldl g b := by
  induction l generalizing b with
  | nil => exact (Except.ok.inj h).symm
  | cons a l ih =>
    rw [List.foldlM_cons] at h
    obtain ⟨mid, hmid, hrest⟩ := bind_eq_ok.1 h
    rw [List.foldl_cons, ← hstep b a mid hmid]
    exact ih hrest

/-- A loop whose steps go along with those of one that cannot fail goes along with it to its end. -/
theorem foldlM_hom_eq_ok {f : β → α → Except ε β} {g : β → α → β} (φ : β → β) {l : List α}
    (hstep : ∀ b, ∀ a ∈ l, f (φ b) a = .ok (φ (g b a))) (b : β) :
    l.foldlM f (φ b) = .ok (φ (l.foldl g b)) := by
  induction l generalizing b with
  | nil => rfl
  | cons a l ih =>
    rw [List.foldlM_cons, hstep b a List.mem_cons_self]
    exact ih (fun b c hc => hstep b c (List.mem_cons_of_mem a hc)) (g b a)

end NotebookLayout
