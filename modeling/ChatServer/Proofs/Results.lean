/-!
Results of steps that may fail: what a result without a fault says of the steps behind it.
-/

namespace ChatServer

/-- What is left when the fault of a result is forgotten is the value that it returned. -/
theorem eq_ok_of_toOption {ε α : Type} {result : Except ε α} {value : α}
    (found : result.toOption = some value)
    : result = .ok value := by
  cases result with
  | error fault => cases found
  | ok other => rw [Option.some.inj found]

/-- What comes out of two steps comes out of the second one. -/
theorem eq_ok_of_bind {ε α β : Type} {first : Except ε α} {next : α → Except ε β} {result : β}
    (whole : (first >>= next) = .ok result)
    : ∃ middle, first = .ok middle ∧ next middle = .ok result := by
  cases first with
  | error fault => cases whole
  | ok middle => exact ⟨middle, rfl, whole⟩

/-- What is checked for a whole list without a fault is checked for each of its items. -/
theorem ok_of_forM {ε α : Type} {check : α → Except ε Unit} {items : List α}
    (passed : items.forM check = .ok ())
    : ∀ item ∈ items, check item = .ok () := by
  induction items with
  | nil => exact List.forall_mem_nil _
  | cons first rest ih =>
      obtain ⟨_, here, passed⟩ := eq_ok_of_bind passed
      exact List.forall_mem_cons.mpr ⟨here, ih passed⟩

end ChatServer
