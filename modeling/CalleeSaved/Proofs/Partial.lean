import Mathlib.Logic.Basic

/-!
# Computations that can fail

Facts about `Option` and `Except` that know nothing of the tool.

**Failure.**  `Fails` is a computation that ends in an error.  A chain of computations fails exactly
when one of them does: `fails_bind_iff`, `fails_mapM_iff`.

**Items.**  A list is read item by item: `exists_mem_of_mapM`, `exists_item_of_mapM`,
`mapM_map_flatten`.
-/

namespace CalleeSaved
namespace Partial

variable {α β γ ε δ : Type}

section Failure

/-- The computation ends in an error. -/
def Fails (x : Except ε α) : Prop :=
  ∃ error, x = .error error

@[simp] theorem fails_error (error : ε) : Fails (.error error : Except ε α) :=
  ⟨error, rfl⟩

@[simp] theorem not_fails_ok (value : α) : ¬ Fails (.ok value : Except ε α) := by
  rintro ⟨error, ⟨⟩⟩

theorem not_fails_iff
    {x : Except ε α} :
    ¬ Fails x ↔ ∃ value, x = .ok value := by
  cases x <;> simp

@[simp] theorem fails_map_iff (f : α → β) (x : Except ε α) : Fails (x.map f) ↔ Fails x := by
  cases x <;> simp [Except.map]

@[simp] theorem fails_mapError_iff
    (f : ε → δ)
    (x : Except ε α) :
    Fails (x.mapError f) ↔ Fails x := by
  cases x with
  | error error =>
      exact iff_of_true ⟨f error, rfl⟩ ⟨error, rfl⟩
  | ok value =>
      exact iff_of_false (not_fails_ok value) (not_fails_ok value)

/-- What comes after a computation may look at its value, but not for whether it fails. -/
theorem fails_bind_iff
    {x : Except ε α}
    {f : α → Except ε β}
    {P : Prop}
    (h : ∀ value, x = .ok value → (Fails (f value) ↔ P)) :
    Fails (x >>= f) ↔ Fails x ∨ P := by
  cases x with
  | error error =>
      simp [bind, Except.bind]
  | ok value =>
      simpa [bind, Except.bind] using h value rfl

@[simp] theorem fails_bind_pure_iff
    (x : Except ε α)
    (f : α → β) :
    Fails (x >>= fun value => pure (f value)) ↔ Fails x := by
  cases x <;> simp [bind, Except.bind, pure, Except.pure]

theorem exists_map_ok
    {items : List (Except ε α)}
    (h : ∀ item ∈ items, ¬ Fails item) :
    ∃ values : List α, items = values.map .ok := by
  induction items with
  | nil =>
      exact ⟨[], rfl⟩
  | cons item rest ih =>
      obtain ⟨hitem, hrest⟩ := List.forall_mem_cons.mp h
      obtain ⟨value, rfl⟩ := not_fails_iff.mp hitem
      obtain ⟨values, rfl⟩ := ih hrest
      exact ⟨value :: values, rfl⟩

theorem bind_eq_error_iff
    {x : Except ε α}
    {f : α → Except ε β}
    {error : ε} :
    x >>= f = .error error ↔
      x = .error error ∨ ∃ value, x = .ok value ∧ f value = .error error := by
  cases x <;> simp [bind, Except.bind]

theorem bind_eq_ok_iff
    {x : Except ε α}
    {f : α → Except ε β}
    {value : β} :
    x >>= f = .ok value ↔ ∃ first, x = .ok first ∧ f first = .ok value := by
  cases x <;> simp [bind, Except.bind]

theorem map_eq_ok_iff
    {x : Except ε α}
    {f : α → β}
    {value : β} :
    x.map f = .ok value ↔ ∃ first, x = .ok first ∧ f first = value := by
  cases x <;> simp [Except.map]

theorem fails_mapM_iff
    {f : α → Except ε β}
    {items : List α} :
    Fails (items.mapM f) ↔ ∃ item ∈ items, Fails (f item) := by
  induction items with
  | nil =>
      simp [pure, Except.pure]
  | cons item rest ih =>
      rw [List.mapM_cons, fails_bind_iff fun value _ => fails_bind_pure_iff _ (value :: ·), ih]
      simp

theorem toOption_eq_some_iff
    {x : Except ε α}
    {value : α} :
    x.toOption = some value ↔ x = .ok value := by
  cases x <;> simp [Except.toOption]

theorem exists_item_of_mapM_error
    {f : α → Except ε β}
    {items : List α}
    {error : ε}
    (h : items.mapM f = .error error) :
    ∃ item ∈ items, f item = .error error := by
  induction items with
  | nil =>
      cases h
  | cons item rest ih =>
      rw [List.mapM_cons] at h
      rcases bind_eq_error_iff.mp h with hitem | ⟨value, -, h⟩
      · exact ⟨item, List.mem_cons_self, hitem⟩
      · rcases bind_eq_error_iff.mp h with hrest | ⟨values, -, ⟨⟩⟩
        obtain ⟨other, hother, herror⟩ := ih hrest
        exact ⟨other, List.mem_cons_of_mem _ hother, herror⟩

end Failure

section Items

theorem exists_mem_of_mapM
    {read : α → Option β}
    {items : List α}
    {values : List β}
    (h : items.mapM read = some values) :
    ∀ item ∈ items, ∃ value ∈ values, read item = some value := by
  induction items generalizing values with
  | nil =>
      simp
  | cons item rest ih =>
      rw [List.mapM_cons] at h
      obtain ⟨value, hvalue, hbind⟩ := Option.bind_eq_some_iff.mp h
      obtain ⟨later, hlater, hpure⟩ := Option.bind_eq_some_iff.mp hbind
      obtain rfl : value :: later = values := Option.some.inj hpure
      intro other hother
      rcases List.mem_cons.mp hother with rfl | hother
      · exact ⟨value, List.mem_cons_self, hvalue⟩
      · obtain ⟨found, hfound, hread⟩ := ih hlater other hother
        exact ⟨found, List.mem_cons_of_mem _ hfound, hread⟩

theorem exists_item_of_mapM
    {read : α → Except ε β}
    {items : List α}
    {values : List β}
    (h : items.mapM read = .ok values) :
    ∀ value ∈ values, ∃ item ∈ items, read item = .ok value := by
  induction items generalizing values with
  | nil =>
      obtain rfl : [] = values := Except.ok.inj h
      simp
  | cons item rest ih =>
      rw [List.mapM_cons] at h
      obtain ⟨first, hfirst, hbind⟩ := bind_eq_ok_iff.mp h
      obtain ⟨later, hlater, hpure⟩ := bind_eq_ok_iff.mp hbind
      obtain rfl : first :: later = values := Except.ok.inj hpure
      intro value hvalue
      rcases List.mem_cons.mp hvalue with rfl | hvalue
      · exact ⟨item, List.mem_cons_self, hfirst⟩
      · obtain ⟨other, hother, hread⟩ := ih hlater value hvalue
        exact ⟨other, List.mem_cons_of_mem _ hother, hread⟩

theorem mapM_map_flatten
    (read : α → Option β)
    (one : β → List γ)
    (items : List α) :
    (items.mapM fun item => (read item).map one).map List.flatten =
      (items.mapM read).map (List.flatMap one) := by
  induction items with
  | nil =>
      rfl
  | cons item rest ih =>
      rw [List.mapM_cons, List.mapM_cons]
      cases read item with
      | none =>
          rfl
      | some value =>
          cases hrest : rest.mapM read with
          | none =>
              have hparts : (rest.mapM fun item => (read item).map one) = none := by
                simpa [hrest] using ih
              simp [hparts]
          | some values =>
              rw [hrest] at ih
              obtain ⟨parts, hparts, hflat⟩ := Option.map_eq_some_iff.mp ih
              simp [hparts, hflat]

/-- Reading without the reasons of failures. -/
theorem toOption_mapM
    (read : α → Except ε β)
    (items : List α) :
    (items.mapM read).toOption = items.mapM fun item => (read item).toOption := by
  induction items with
  | nil =>
      rfl
  | cons item rest ih =>
      rw [List.mapM_cons, List.mapM_cons, ← ih]
      cases read item with
      | error error =>
          rfl
      | ok value =>
          cases rest.mapM read <;> rfl

end Items

end Partial
end CalleeSaved
