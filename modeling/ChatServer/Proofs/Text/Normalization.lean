import ChatServer.Identity

/-! Normalizing settles an identity: an identity that is normalized again stays as it is. No
lower-case form has another one, and none is blank, so neither lower-casing nor trimming finds
anything left to do.
-/

namespace ChatServer.Text

-----------------------------------------------------------------------------------------
-- Lower-case forms in the table
-----------------------------------------------------------------------------------------

/-- The lower-case form of a code point of a run. -/
def CaseRun.image (run : CaseRun) (n : Nat) : Nat :=
  (n + run.offset).toNat

/-- The blank code points, the surrogates, and the capital that has a lower-case form of two
characters.
-/
def barredRuns : List CaseRun := [
    ⟨0x09, 0x0D, 1, 0⟩, ⟨0x20, 0x20, 1, 0⟩, ⟨0x85, 0x85, 1, 0⟩, ⟨0xA0, 0xA0, 1, 0⟩,
    ⟨0x130, 0x130, 1, 0⟩, ⟨0x1680, 0x1680, 1, 0⟩, ⟨0x2000, 0x200A, 1, 0⟩, ⟨0x2028, 0x2029, 1, 0⟩,
    ⟨0x202F, 0x202F, 1, 0⟩, ⟨0x205F, 0x205F, 1, 0⟩, ⟨0x3000, 0x3000, 1, 0⟩, ⟨0xD800, 0xDFFF, 1, 0⟩
  ]

/-- Do the images from `low` to `high` stay clear of a run, by where they lie or by their parity? -/
def CaseRun.isClearOf (low high : Nat) (alternating : Bool) (other : CaseRun) : Bool :=
  high < other.first || other.last < low
    || alternating && other.step == 2 && (low + other.first) % 2 == 1

/-- Are the images of a run code points that no run moves and none bars? -/
def CaseRun.isFinal (run : CaseRun) : Bool :=
  0 ≤ run.first + run.offset && run.image run.last < 0x110000
    && (barredRuns ++ caseRuns).all
        (CaseRun.isClearOf (run.image run.first) (run.image run.last)
          (run.first == run.last || run.step == 2))

def areRunsFinal : Bool :=
  caseRuns.all CaseRun.isFinal

theorem areRunsFinal_eq_true : areRunsFinal = true := by
  decide +kernel

theorem CaseRun.covers_iff {run : CaseRun} {n : Nat}
    : run.covers n = true
      ↔ (run.first ≤ n ∧ n ≤ run.last) ∧ (n - run.first) % run.step = 0 := by
  simp only [covers, Bool.and_eq_true, decide_eq_true_eq, beq_iff_eq]

/-- The image of a covered code point lies outside of a run that the images stay clear of. -/
theorem CaseRun.not_covers_image {run other : CaseRun} {n : Nat} (covered : run.covers n = true)
    (proper : 0 ≤ run.first + run.offset)
    (clear : isClearOf (run.image run.first) (run.image run.last)
      (run.first == run.last || run.step == 2) other = true)
    : ¬ other.covers (run.image n) = true := by
  rw [covers_iff] at covered ⊢
  obtain ⟨⟨low, high⟩, even⟩ := covered
  simp only [isClearOf, Bool.or_eq_true, Bool.and_eq_true, decide_eq_true_eq, beq_iff_eq]
    at clear
  simp only [image] at clear ⊢
  rintro ⟨⟨low', high'⟩, even'⟩
  rcases clear with (below | above) | ⟨⟨alternating, two⟩, odd⟩
  · omega
  · omega
  · -- Both runs go in steps of two, and the images have the other parity.
    rw [two] at even'
    rcases alternating with single | twice
    · omega
    · rw [twice] at even
      omega

/-- The image of a covered code point is a character that is not barred and has no lower-case form
but itself.
-/
theorem CaseRun.image_final {run : CaseRun} (member : run ∈ caseRuns) {n : Nat}
    (covered : run.covers n = true)
    : (run.image n).isValidChar ∧ (∀ other ∈ barredRuns, ¬ other.covers (run.image n) = true)
      ∧ lowerCodePoint (run.image n) = run.image n := by
  have final : run.isFinal = true := List.all_eq_true.mp areRunsFinal_eq_true run member
  simp only [isFinal, Bool.and_eq_true, decide_eq_true_eq, List.all_eq_true,
    List.mem_append] at final
  obtain ⟨⟨proper, bound⟩, clear⟩ := final
  have outside : ∀ other, other ∈ barredRuns ∨ other ∈ caseRuns →
      ¬ other.covers (run.image n) = true :=
    fun other either => not_covers_image covered proper (clear other either)
  refine ⟨?_, fun other barred => outside other (.inl barred), ?_⟩
  · have surrogates := outside ⟨0xD800, 0xDFFF, 1, 0⟩ (.inl (by simp [barredRuns]))
    rw [covers_iff] at covered surrogates
    have small : run.image n ≤ run.image run.last := by
      simp only [image]
      omega
    simp only [Nat.mod_one, and_true] at surrogates
    simp only [Nat.isValidChar]
    omega
  · have none : caseRuns.find? (·.covers (run.image n)) = none :=
      List.find?_eq_none.mpr fun other moved => outside other (.inr moved)
    rw [lowerCodePoint, none]

-----------------------------------------------------------------------------------------
-- Lower-case forms of characters
-----------------------------------------------------------------------------------------

/-- Lower-casing leaves the character as it is, wherever it stands. -/
def IsSettled (c : Char) : Prop :=
  lowerAlone c = [c] ∧ c ≠ capitalSigma

/-- A character is settled if its code point stays as it is and it is none of the two capitals that
are cased otherwise.
-/
theorem isSettled_of_still {c : Char} (still : lowerCodePoint c.toNat = c.toNat)
    (dotless : c ≠ 'İ') (other : c ≠ capitalSigma)
    : IsSettled c :=
  ⟨by rw [lowerAlone, if_neg dotless, still, Char.ofNat_toNat], other⟩

theorem isBlank_eq_false_of_barred {c : Char}
    (clear : ∀ run ∈ barredRuns, ¬ run.covers c.toNat = true)
    : isBlank c = false := by
  simp only [barredRuns, List.forall_mem_cons, CaseRun.covers_iff, Nat.mod_one,
    and_true] at clear
  rw [Bool.eq_false_iff]
  simp only [isBlank, ne_eq, Bool.or_eq_true, Bool.and_eq_true, decide_eq_true_eq, beq_iff_eq]
  omega

theorem toNat_ofNat_of_isValidChar {n : Nat} (valid : n.isValidChar)
    : (Char.ofNat n).toNat = n := by
  rw [Char.ofNat, dif_pos valid]
  rfl

/-- The lower-case forms of a character are settled, and none is blank unless the character is. -/
theorem lowerAlone_settled (c : Char)
    : lowerAlone c ≠ []
      ∧ ∀ d ∈ lowerAlone c, IsSettled d ∧ (isBlank c = false → isBlank d = false) := by
  by_cases dotted : c = 'İ'
  · have small : IsSettled 'i' :=
      isSettled_of_still (by decide +kernel) (by decide) (by decide)
    have dot : IsSettled '\u0307' :=
      isSettled_of_still (by decide +kernel) (by decide) (by decide)
    rw [lowerAlone, if_pos dotted]
    refine ⟨List.cons_ne_nil _ _, fun d member => ?_⟩
    rcases List.mem_cons.mp member with rfl | member
    · exact ⟨small, fun _ => by decide⟩
    · obtain rfl := List.mem_singleton.mp member
      exact ⟨dot, fun _ => by decide⟩
  · have alone : lowerAlone c = [Char.ofNat (lowerCodePoint c.toNat)] := by
      rw [lowerAlone, if_neg dotted]
    refine ⟨by simp [alone], fun d member => ?_⟩
    rw [alone, List.mem_singleton] at member
    subst member
    cases found : caseRuns.find? (·.covers c.toNat) with
    | none =>
        have still : lowerCodePoint c.toNat = c.toNat := by rw [lowerCodePoint, found]
        rw [still, Char.ofNat_toNat]
        refine ⟨isSettled_of_still still dotted ?_, id⟩
        rintro rfl
        exact absurd still (by decide +kernel)
    | some run =>
        have moved : lowerCodePoint c.toNat = run.image c.toNat := by
          rw [lowerCodePoint, found]
          rfl
        have covered : run.covers c.toNat = true :=
          List.find?_some (p := (CaseRun.covers · c.toNat)) found
        obtain ⟨valid, clear, still⟩ :=
          CaseRun.image_final (List.mem_of_find?_eq_some found) covered
        have code : (Char.ofNat (run.image c.toNat)).toNat = run.image c.toNat :=
          toNat_ofNat_of_isValidChar valid
        rw [moved]
        refine ⟨isSettled_of_still (by rw [code, still]) ?_ ?_,
          fun _ => isBlank_eq_false_of_barred ?_⟩
        · intro same
          have barred := clear ⟨0x130, 0x130, 1, 0⟩ (by simp [barredRuns])
          rw [← code, same] at barred
          exact barred (by decide)
        · intro same
          rw [← code, same] at still
          exact absurd still (by decide +kernel)
        · rw [code]
          exact clear

/-- The same where the character stands between others. -/
theorem lowerBetween_settled (before : List Char) (c : Char) (after : List Char)
    : lowerBetween before c after ≠ []
      ∧ ∀ d ∈ lowerBetween before c after,
          IsSettled d ∧ (isBlank c = false → isBlank d = false) := by
  have alone {form : Char} (still : lowerCodePoint form.toNat = form.toNat)
      (dotless : form ≠ 'İ') (other : form ≠ capitalSigma) (visible : isBlank form = false)
      : ∀ d ∈ [form], IsSettled d ∧ (isBlank c = false → isBlank d = false) := by
    intro d member
    obtain rfl := List.mem_singleton.mp member
    exact ⟨isSettled_of_still still dotless other, fun _ => visible⟩
  unfold lowerBetween
  split
  next =>
    split
    next => refine ⟨List.cons_ne_nil _ _, alone ?_ ?_ ?_ ?_⟩ <;> decide +kernel
    next => refine ⟨List.cons_ne_nil _ _, alone ?_ ?_ ?_ ?_⟩ <;> decide +kernel
  next => exact lowerAlone_settled c

-----------------------------------------------------------------------------------------
-- Lower-casing a text twice
-----------------------------------------------------------------------------------------

/-- A text of settled characters is its own lower-case form. -/
theorem lowercase_of_settled {cs : List Char} (settled : ∀ c ∈ cs, IsSettled c)
    : lowercase cs = cs := by
  rw [lowercase, lowercaseAfter_eq_flatMap fun sigma => (settled _ sigma).2 rfl]
  induction cs with
  | nil => rfl
  | cons c cs ih =>
      rw [List.flatMap_cons, (settled c List.mem_cons_self).1,
        ih fun d member => settled d (List.mem_cons_of_mem c member)]
      rfl

theorem lowercaseAfter_settled (before cs : List Char)
    : ∀ d ∈ lowercaseAfter before cs, IsSettled d := by
  induction cs generalizing before with
  | nil => simp [lowercaseAfter]
  | cons c after ih =>
      intro d member
      rcases List.mem_append.mp member with here | later
      · exact ((lowerBetween_settled before c after).2 d here).1
      · exact ih (c :: before) d later

theorem lowercase_lowercase (cs : List Char) : lowercase (lowercase cs) = lowercase cs :=
  lowercase_of_settled (lowercaseAfter_settled [] cs)

-----------------------------------------------------------------------------------------
-- The ends of a text
-----------------------------------------------------------------------------------------

/-- Neither end of the text is blank. -/
structure HasSolidEnds (cs : List Char) : Prop where
  first : ∀ c ∈ cs.head?, isBlank c = false
  last : ∀ c ∈ cs.getLast?, isBlank c = false

/-- What is left behind the blanks that a text starts with starts with no blank. -/
theorem head?_dropBlanks {cs : List Char} {c : Char} (first : c ∈ (cs.dropWhile isBlank).head?)
    : isBlank c = false := by
  have not := List.head?_dropWhile_not isBlank cs
  rw [Option.mem_def.mp first] at not
  exact not

theorem dropBlanks_of_head? {cs : List Char} (solid : ∀ c ∈ cs.head?, isBlank c = false)
    : cs.dropWhile isBlank = cs := by
  cases cs with
  | nil => rfl
  | cons c cs => rw [List.dropWhile_cons_of_neg (by simp [solid c rfl])]

/-- Trimming leaves no blank at either end. -/
theorem solidEnds_trim (cs : List Char) : HasSolidEnds (trim cs) where
  first c first := by
    have kept : trim cs <+: trimStart cs := by
      rw [← List.reverse_suffix, trim, trimEnd, List.reverse_reverse]
      exact List.dropWhile_suffix isBlank
    obtain ⟨rest, whole⟩ := kept
    have start : c ∈ (trimStart cs).head? := by
      rw [← whole, List.head?_append, Option.mem_def.mp first]
      rfl
    exact head?_dropBlanks start
  last c last := by
    rw [trim, trimEnd, List.getLast?_reverse] at last
    exact head?_dropBlanks last

theorem trim_of_solidEnds {cs : List Char} (solid : HasSolidEnds cs) : trim cs = cs := by
  rw [trim, trimStart, dropBlanks_of_head? solid.first, trimEnd, dropBlanks_of_head?,
    List.reverse_reverse]
  rw [List.head?_reverse]
  exact solid.last

/-- The lower-case form of a text ends with the form of its last character. -/
theorem lowercaseAfter_concat (before front : List Char) (c : Char)
    : ∃ more nearer, lowercaseAfter before (front ++ [c]) = more ++ lowerBetween nearer c [] := by
  induction front generalizing before with
  | nil => exact ⟨[], before, List.append_nil _⟩
  | cons b front ih =>
      obtain ⟨more, nearer, ending⟩ := ih (b :: before)
      refine ⟨lowerBetween before b (front ++ [c]) ++ more, nearer, ?_⟩
      rw [List.cons_append, lowercaseAfter, ending, List.append_assoc]

/-- Lower-casing makes no end blank: the ends of the result are forms of the ends of the text. -/
theorem HasSolidEnds.lowercase {cs : List Char} (solid : HasSolidEnds cs)
    : HasSolidEnds (lowercase cs) where
  first d first := by
    cases cs with
    | nil => cases first
    | cons c after =>
        obtain ⟨some, forms⟩ := lowerBetween_settled [] c after
        apply (forms d ?_).2 (solid.first c rfl)
        obtain ⟨e, rest, shape⟩ := List.exists_cons_of_ne_nil some
        rw [Text.lowercase, lowercaseAfter, shape] at first
        rw [shape, ← Option.mem_some.mp first]
        exact List.mem_cons_self
  last d last := by
    rcases List.eq_nil_or_concat cs with rfl | ⟨front, c, whole⟩
    · cases last
    · rw [List.concat_eq_append] at whole
      subst whole
      obtain ⟨more, nearer, ending⟩ := lowercaseAfter_concat [] front c
      obtain ⟨some, forms⟩ := lowerBetween_settled nearer c []
      apply (forms d ?_).2 (solid.last c List.getLast?_concat)
      rw [Text.lowercase, ending, List.getLast?_append, List.getLast?_eq_some_getLast some] at last
      rw [← Option.mem_some.mp last]
      exact List.getLast_mem some

end ChatServer.Text

namespace ChatServer.Identity

/-- An identity that is normalized again stays as it is. -/
@[simp] theorem normalize_normalize (s : String) : normalize (normalize s) = normalize s := by
  rw [normalize, normalize, String.toList_ofList]
  congr 1
  have solid := (Text.solidEnds_trim s.toList).lowercase
  rw [normalizeChars, normalizeChars, Text.trim_of_solidEnds solid, Text.lowercase_lowercase]

end ChatServer.Identity
