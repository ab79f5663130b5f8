import Mathlib.Data.List.TakeWhile
import ChatServer.Proofs.Text.Normalization

/-! Blanks around pieces of a text, and the pieces between separators. Trimming takes away the
blanks at both ends and nothing else, and cutting gives back the pieces that were joined.
-/

namespace ChatServer.Text

-----------------------------------------------------------------------------------------
-- Blanks
-----------------------------------------------------------------------------------------

/-- There are only blanks in the text. -/
def IsBlankText (cs : List Char) : Prop :=
  ∀ c ∈ cs, isBlank c = true

theorem isBlankText_nil : IsBlankText [] :=
  List.forall_mem_nil _

/-- A character that is not blank is in no text of blanks. -/
theorem IsBlankText.not_mem {cs : List Char} (blank : IsBlankText cs) {c : Char}
    (solid : isBlank c = false)
    : c ∉ cs := by
  intro member
  rw [blank c member] at solid
  cases solid

theorem IsBlankText.reverse {cs : List Char} (blank : IsBlankText cs) : IsBlankText cs.reverse :=
  fun c member => blank c (List.mem_reverse.mp member)

/-- Nothing is left of a text of blanks. -/
theorem IsBlankText.trim_eq_nil {cs : List Char} (blank : IsBlankText cs) : trim cs = [] := by
  have none : trimStart cs = [] := List.dropWhile_eq_nil_iff.mpr blank
  rw [trim, none]
  rfl

/-- Whether the first or the last character of a text is not blank can be computed. -/
theorem solid_of_all {ending : Option Char} (solid : ending.all (!isBlank ·) = true)
    : ∀ c ∈ ending, isBlank c = false := by
  rintro c rfl
  simpa using solid

/-- What is trimmed away around a text with solid ends are the blanks around it. -/
theorem trim_between {before core after : List Char} (blank : IsBlankText before)
    (solid : HasSolidEnds core) (blankAfter : IsBlankText after)
    : trim (before ++ core ++ after) = core := by
  cases core with
  | nil =>
      rw [List.append_nil]
      exact IsBlankText.trim_eq_nil (List.forall_mem_append.mpr ⟨blank, blankAfter⟩)
  | cons c core =>
      have start : trimStart (before ++ c :: core ++ after) = c :: core ++ after := by
        rw [trimStart, List.append_assoc, List.dropWhile_append_of_pos blank]
        exact dropBlanks_of_head? fun d first => solid.first d first
      rw [trim, start, trimEnd, List.reverse_append,
        List.dropWhile_append_of_pos blankAfter.reverse, dropBlanks_of_head?, List.reverse_reverse]
      rw [List.head?_reverse]
      exact solid.last

/-- A text is what trimming leaves of it, between blanks. -/
theorem exists_blanks_trim (cs : List Char)
    : ∃ before after, IsBlankText before ∧ IsBlankText after ∧ cs = before ++ trim cs ++ after := by
  have ahead : IsBlankText (cs.takeWhile isBlank) := fun _ member => List.mem_takeWhile_imp member
  have behind : IsBlankText ((trimStart cs).reverse.takeWhile isBlank) :=
    fun _ member => List.mem_takeWhile_imp member
  have ending : trimStart cs
      = trim cs ++ ((trimStart cs).reverse.takeWhile isBlank).reverse := by
    rw [trim, trimEnd, ← List.reverse_append, List.takeWhile_append_dropWhile,
      List.reverse_reverse]
  refine ⟨_, _, ahead, behind.reverse, ?_⟩
  rw [List.append_assoc, ← ending, trimStart, List.takeWhile_append_dropWhile]

/-- A text of which trimming leaves nothing is blank. -/
theorem isBlankText_of_trim_eq_nil {cs : List Char} (none : trim cs = []) : IsBlankText cs := by
  obtain ⟨before, after, blank, blankAfter, whole⟩ := exists_blanks_trim cs
  rw [whole, none, List.append_nil]
  exact List.forall_mem_append.mpr ⟨blank, blankAfter⟩

/-- A text has solid ends around a character that is not blank, if its first part does not start
and its second part does not end with a blank.
-/
theorem hasSolidEnds_around {front back : List Char} {c : Char} (solid : isBlank c = false)
    (first : ∀ d ∈ front.head?, isBlank d = false) (last : ∀ d ∈ back.getLast?, isBlank d = false)
    : HasSolidEnds (front ++ c :: back) where
  first d member := by
    cases front with
    | nil =>
        obtain rfl : c = d := by simpa using member
        exact solid
    | cons e front => exact first d (by simpa using member)
  last d member := by
    rcases List.eq_nil_or_concat back with rfl | ⟨back, e, rfl⟩
    · obtain rfl : c = d := by simpa using member
      exact solid
    · exact last d (by simpa [List.getLast?_append, List.getLast?_cons] using member)

-----------------------------------------------------------------------------------------
-- Pieces
-----------------------------------------------------------------------------------------

variable {α : Type} [DecidableEq α]

theorem fields_of_not_mem {sep : α} {piece : List α} (whole : sep ∉ piece)
    : fields sep piece = [piece] := by
  induction piece with
  | nil => rfl
  | cons c piece ih =>
      obtain ⟨other, rest⟩ := not_or.mp (fun either => whole (List.mem_cons.mpr either))
      rw [fields, if_neg (Ne.symm other), ih rest]

theorem fields_append {sep : α} {piece : List α} (whole : sep ∉ piece) (rest : List α)
    : fields sep (piece ++ sep :: rest) = piece :: fields sep rest := by
  induction piece with
  | nil => rw [List.nil_append, fields, if_pos rfl]
  | cons c piece ih =>
      obtain ⟨other, whole⟩ := not_or.mp (fun either => whole (List.mem_cons.mpr either))
      rw [List.cons_append, fields, if_neg (Ne.symm other), ih whole]

/-- A text is cut at the first separator. -/
theorem cut?_append {sep : α} {before : List α} (whole : sep ∉ before) (after : List α)
    : cut? sep (before ++ sep :: after) = some (before, after) := by
  induction before with
  | nil => rw [List.nil_append, cut?, if_pos rfl]
  | cons c before ih =>
      obtain ⟨other, whole⟩ := not_or.mp (fun either => whole (List.mem_cons.mpr either))
      rw [List.cons_append, cut?, if_neg (Ne.symm other), ih whole]
      rfl

/-- A text is cut unless it is without the separator. -/
theorem cut?_eq_none_iff {sep : α} {cs : List α} : cut? sep cs = none ↔ sep ∉ cs := by
  induction cs with
  | nil => simp [cut?]
  | cons c cs ih =>
      rw [cut?, List.mem_cons, not_or, ← ih]
      split
      next same => simp [same]
      next other => simp [Ne.symm other]

/-- Pieces that are joined are found again, if none of them holds the separator. -/
theorem fields_joinWith {sep : α} {pieces : List (List α)} (some : pieces ≠ [])
    (whole : ∀ piece ∈ pieces, sep ∉ piece)
    : fields sep (joinWith sep pieces) = pieces := by
  induction pieces with
  | nil => exact absurd rfl some
  | cons piece pieces ih =>
      obtain ⟨here, rest⟩ := List.forall_mem_cons.mp whole
      cases pieces with
      | nil => exact fields_of_not_mem here
      | cons next pieces => rw [joinWith, fields_append here, ih (List.cons_ne_nil _ _) rest]

/-- No piece holds the separator. -/
theorem not_mem_of_mem_fields {sep : α} {cs piece : List α} (member : piece ∈ fields sep cs)
    : sep ∉ piece := by
  induction cs generalizing piece with
  | nil =>
      rw [List.mem_singleton.mp member]
      exact List.not_mem_nil
  | cons c cs ih =>
      rw [fields] at member
      split at member
      next =>
        rcases List.mem_cons.mp member with rfl | later
        · exact List.not_mem_nil
        · exact ih later
      next other =>
        split at member
        next found => exact absurd found (fields_ne_nil sep cs)
        next first pieces found =>
          rw [found] at ih
          rcases List.mem_cons.mp member with rfl | later
          · intro inside
            rcases List.mem_cons.mp inside with same | inside
            · exact other same.symm
            · exact ih List.mem_cons_self inside
          · exact ih (List.mem_cons_of_mem first later)

end ChatServer.Text
