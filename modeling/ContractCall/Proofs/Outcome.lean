/-!
# Outcomes

What sequences and traversals of checks end with, for a value or an error in place of one
(`Except`).

* `bind_eq_ok_iff`, `bind_eq_error_iff`: a sequence of two.
* `forM_eq_error_iff`: a traversal ends with the error of the first element that has one.
* `mapM_map_eq_ok`: a reader of elements that undoes a writer undoes it on lists.
-/

namespace ContractCall

variable {ε α β : Type}

/-- A sequence of two checks succeeds if both do. -/
theorem bind_eq_ok_iff {x : Except ε α} {f : α → Except ε β} {b : β} :
    (x >>= f) = .ok b ↔ ∃ v, x = .ok v ∧ f v = .ok b := by
  cases x <;> simp [bind, Except.bind]

/-- A sequence of two checks fails with the first error. -/
theorem bind_eq_error_iff {x : Except ε α} {f : α → Except ε β} {e : ε} :
    (x >>= f) = .error e ↔ x = .error e ∨ ∃ v, x = .ok v ∧ f v = .error e := by
  cases x <;> simp [bind, Except.bind]

theorem map_eq_ok_iff {x : Except ε α} {f : α → β} {b : β} :
    x.map f = .ok b ↔ ∃ v, x = .ok v ∧ f v = b := by
  cases x <;> simp [Except.map]

@[simp] theorem ok_bind (v : α) (f : α → Except ε β) : (Except.ok v >>= f) = f v := rfl

@[simp] theorem map_ok (v : α) (f : α → β) : (Except.ok v : Except ε α).map f = .ok (f v) := rfl

/-- A traversal fails with the error of the first element that has one. -/
theorem forM_eq_error_iff {f : α → Except ε Unit} {l : List α} {e : ε} :
    l.forM f = .error e ↔ ∃ before x after, l = before ++ x :: after ∧
      (∀ b ∈ before, f b = .ok ()) ∧ f x = .error e := by
  induction l with
  | nil => exact ⟨nofun, by rintro ⟨before, x, after, h, -⟩; cases before <;> cases h⟩
  | cons y l ih =>
    have hc : (y :: l).forM f = (f y >>= fun _ => l.forM f) := rfl
    rw [hc, bind_eq_error_iff, ih]
    constructor
    · rintro (hy | ⟨_, hy, before, x, after, rfl, hb, hx⟩)
      · exact ⟨[], y, l, rfl, nofun, hy⟩
      · exact ⟨y :: before, x, after, rfl, List.forall_mem_cons.mpr ⟨hy, hb⟩, hx⟩
    · rintro ⟨before, x, after, h, hb, hx⟩
      cases before with
      | nil => cases h; exact .inl hx
      | cons z before =>
        cases h
        obtain ⟨hz, hb⟩ := List.forall_mem_cons.mp hb
        exact .inr ⟨(), hz, before, x, after, rfl, hb, hx⟩

/-- Elements that are read back as what was written are read back in a list. -/
theorem mapM_map_eq_ok {write : α → β} {read : β → Except ε α} {l : List α}
    (h : ∀ x ∈ l, read (write x) = .ok x) : (l.map write).mapM read = .ok l := by
  induction l with
  | nil => rfl
  | cons x l ih =>
    obtain ⟨hx, hl⟩ := List.forall_mem_cons.mp h
    rw [List.map_cons, List.mapM_cons, hx, ok_bind, ih hl]
    rfl

end ContractCall
