/-!
Cutting a text, or any other list, at a separator. `fields` cuts at every occurrence, and joining
its result with the separator gives the text back; `cut?` cuts at the first occurrence only.
-/

namespace ChatServer.Text

variable {α : Type} [DecidableEq α]

/-- The pieces of a text between the occurrences of `sep`: always one more than there are
occurrences. -/
def fields (sep : α) : List α → List (List α)
  | [] => [[]]
  | c :: cs =>
    if c = sep then
      [] :: fields sep cs
    else
      match fields sep cs with
      | [] => [[c]]
      | piece :: pieces => (c :: piece) :: pieces

/-- What stands before and after the first `sep`, if there is one. -/
def cut? (sep : α) : List α → Option (List α × List α)
  | [] => none
  | c :: cs =>
    if c = sep then some ([], cs) else (cut? sep cs).map fun (before, after) => (c :: before, after)

/-- The pieces with `sep` written between them. -/
def joinWith (sep : α) : List (List α) → List α
  | [] => []
  | [piece] => piece
  | piece :: next :: pieces => piece ++ sep :: joinWith sep (next :: pieces)

theorem fields_ne_nil (sep : α) (cs : List α) : fields sep cs ≠ [] := by
  cases cs with
  | nil => simp [fields]
  | cons c cs =>
    rw [fields]
    split
    · simp
    · split <;> simp

/-- Cutting loses nothing: the pieces joined again are the text. -/
theorem joinWith_fields (sep : α) (cs : List α) : joinWith sep (fields sep cs) = cs := by
  induction cs with
  | nil => rfl
  | cons c cs ih =>
    rw [fields]
    split
    next same =>
      subst same
      cases found : fields c cs with
      | nil => exact absurd found (fields_ne_nil c cs)
      | cons piece pieces => rw [found] at ih; simp [joinWith, ih]
    next =>
      cases found : fields sep cs with
      | nil => exact absurd found (fields_ne_nil sep cs)
      | cons piece pieces =>
        rw [found] at ih
        cases pieces with
        | nil => simpa [joinWith] using ih
        | cons next pieces => simpa [joinWith] using ih

/-- A cut gives the text back around the separator, and nothing before the cut is one. -/
theorem eq_append_of_cut? {sep : α} {cs before after : List α}
    (h : cut? sep cs = some (before, after))
    : cs = before ++ sep :: after ∧ sep ∉ before := by
  induction cs generalizing before with
  | nil => simp [cut?] at h
  | cons c cs ih =>
    rw [cut?] at h
    split at h
    next same => simp only [Option.some.injEq, Prod.mk.injEq] at h; simp [← h.1, ← h.2, same]
    next other =>
      obtain ⟨⟨rest, tail⟩, found, same⟩ := Option.map_eq_some_iff.1 h
      simp only [Prod.mk.injEq] at same
      obtain ⟨rfl, rfl⟩ := same
      have step := ih found
      exact ⟨by simp [step.1], by simp [step.2, Ne.symm other]⟩

end ChatServer.Text
