import ChatServer.Proofs.Text.Normalization

/-! Texts that differ in case. Lower-casing a whole text differs from lower-casing its characters
one by one in the capital sigmas that end a word, and in nothing else. Which letters end a word does
not depend on their case. So two texts that are the same when their characters are lower-cased one
by one are one identity exactly if at the end of no word one of them has a capital sigma and the
other a small one.
-/

namespace ChatServer.Text

-----------------------------------------------------------------------------------------
-- The case of lower-case forms
-----------------------------------------------------------------------------------------

/-- A cased letter that casing does not look through. -/
def showsCase (c : Char) : Bool :=
  isCased c && !isCaseIgnorable c

/-- Ranges without marks that casing looks through, in which all code points with a lower-case form
and all these forms lie.
-/
def unmarkedRanges : List (Nat × Nat) := [
    (0x41, 0x5A), (0x61, 0x7A), (0xC0, 0x29E), (0x370, 0x373), (0x376, 0x377), (0x37B, 0x37F),
    (0x386, 0x386), (0x388, 0x481), (0x48A, 0x556), (0x561, 0x586), (0x10A0, 0x10FA),
    (0x10FD, 0x10FF), (0x13A0, 0x13FD), (0x1C89, 0x1CBF), (0x1D79, 0x1D8E), (0x1E00, 0x1FBC),
    (0x1FC3, 0x1FCC), (0x1FD0, 0x1FDB), (0x1FE0, 0x1FEC), (0x1FF3, 0x1FFC), (0x2126, 0x2C76),
    (0x2C7E, 0x2CEE), (0x2CF2, 0x2D2D), (0xA640, 0xA66D), (0xA680, 0xA69B), (0xA722, 0xA76F),
    (0xA779, 0xA787), (0xA78B, 0xA7DC), (0xA7F5, 0xA7F6), (0xAB53, 0xAB53), (0xAB70, 0xABBF),
    (0xFF21, 0xFF3A), (0xFF41, 0xFF5A), (0x10400, 0x105BC), (0x10C80, 0x10CF2),
    (0x10D50, 0x10D65), (0x10D70, 0x10D85), (0x118A0, 0x118DF), (0x16E40, 0x16ED3),
    (0x1E900, 0x1E943)
  ]

theorem unmarkedRanges_apart
    : ∀ range ∈ unmarkedRanges, ∀ other ∈ caseIgnorableRanges,
        range.2 < other.1 ∨ other.2 < range.1 := by
  -- Put with `Nat.blt`, which is computed and not decided: there are thousands of pairs.
  have apart : unmarkedRanges.all (fun range => caseIgnorableRanges.all fun other =>
      range.2.blt other.1 || other.2.blt range.1) = true := by
    decide +kernel
  simpa [List.all_eq_true, Nat.blt_eq] using apart

/-- Do the code points from `low` to `high` lie in one of the ranges? -/
def isWithin (ranges : List (Nat × Nat)) (low high : Nat) : Bool :=
  ranges.any fun range => range.1.ble low && high.ble range.2

theorem exists_of_isWithin {ranges : List (Nat × Nat)} {low high n : Nat}
    (within : isWithin ranges low high = true) (above : low ≤ n) (below : n ≤ high)
    : ∃ range ∈ ranges, range.1 ≤ n ∧ n ≤ range.2 := by
  simp only [isWithin, List.any_eq_true, Bool.and_eq_true, Nat.ble_eq] at within
  obtain ⟨range, member, start, stop⟩ := within
  exact ⟨range, member, Nat.le_trans start above, Nat.le_trans below stop⟩

/-- Are the code points of a run and their images all cased letters that casing does not look
through?
-/
def CaseRun.showsCase (run : CaseRun) : Bool :=
  -- Between its code points a run may have others without case, so these are looked at each.
  let points := (List.range' run.first (run.last + 1 - run.first)).filter run.covers
  (isWithin casedRanges run.first run.last || points.all (inRanges casedRanges))
    && isWithin unmarkedRanges run.first run.last
    && isWithin casedRanges (run.image run.first) (run.image run.last)
    && isWithin unmarkedRanges (run.image run.first) (run.image run.last)

theorem CaseRun.showsCase_of_mem : ∀ run ∈ caseRuns, run.showsCase = true := by
  decide +kernel

theorem inRanges_of_isWithin {ranges : List (Nat × Nat)} {low high n : Nat}
    (within : isWithin ranges low high = true) (above : low ≤ n) (below : n ≤ high)
    : inRanges ranges n = true := by
  obtain ⟨range, member, start, stop⟩ := exists_of_isWithin within above below
  simp only [inRanges, List.any_eq_true, Bool.and_eq_true, decide_eq_true_eq]
  exact ⟨range, member, start, stop⟩

theorem inRanges_eq_false_of_isWithin {low high n : Nat}
    (within : isWithin unmarkedRanges low high = true) (above : low ≤ n) (below : n ≤ high)
    : inRanges caseIgnorableRanges n = false := by
  obtain ⟨range, member, start, stop⟩ := exists_of_isWithin within above below
  simp only [inRanges, List.any_eq_false, Bool.and_eq_true, decide_eq_true_eq]
  rintro other ignorable ⟨start', stop'⟩
  rcases unmarkedRanges_apart range member other ignorable with past | short <;> omega

/-- A code point of a run is a cased letter that casing does not look through, and so is its image.
-/
theorem CaseRun.ranges_of_covers {run : CaseRun} (member : run ∈ caseRuns) {n : Nat}
    (covered : run.covers n = true)
    : (inRanges casedRanges n = true ∧ inRanges caseIgnorableRanges n = false)
      ∧ inRanges casedRanges (run.image n) = true
      ∧ inRanges caseIgnorableRanges (run.image n) = false := by
  have shows := showsCase_of_mem run member
  simp only [showsCase, Bool.and_eq_true, Bool.or_eq_true, List.all_eq_true] at shows
  obtain ⟨⟨⟨cased, clear⟩, casedImage⟩, clearImage⟩ := shows
  obtain ⟨⟨low, high⟩, _⟩ := covers_iff.mp covered
  have lowImage : run.image run.first ≤ run.image n := by simp only [image]; omega
  have highImage : run.image n ≤ run.image run.last := by simp only [image]; omega
  refine ⟨⟨?_, inRanges_eq_false_of_isWithin clear low high⟩,
    inRanges_of_isWithin casedImage lowImage highImage,
    inRanges_eq_false_of_isWithin clearImage lowImage highImage⟩
  rcases cased with whole | each
  · exact inRanges_of_isWithin whole low high
  · refine each n (List.mem_filter.mpr ⟨?_, covered⟩)
    exact List.mem_range'_1.mpr ⟨low, by omega⟩

/-- A character is its own lower-case form, or both are cased letters that casing does not look
through, or it is the one with a form of two characters.
-/
theorem lowerAlone_cases (c : Char)
    : lowerAlone c = [c]
      ∨ (∃ d, lowerAlone c = [d] ∧ showsCase c = true ∧ showsCase d = true)
      ∨ c = 'İ' := by
  by_cases dotted : c = 'İ'
  · exact .inr (.inr dotted)
  rw [lowerAlone, if_neg dotted]
  cases found : caseRuns.find? (·.covers c.toNat) with
  | none =>
      left
      rw [lowerCodePoint, found, Char.ofNat_toNat]
  | some run =>
      right; left
      have member := List.mem_of_find?_eq_some found
      have covered : run.covers c.toNat = true :=
        List.find?_some (p := (CaseRun.covers · c.toNat)) found
      obtain ⟨own, image⟩ := CaseRun.ranges_of_covers member covered
      have moved : lowerCodePoint c.toNat = run.image c.toNat := by
        rw [lowerCodePoint, found]
        rfl
      have code : (Char.ofNat (run.image c.toNat)).toNat = run.image c.toNat :=
        toNat_ofNat_of_isValidChar (CaseRun.image_final member covered).1
      refine ⟨_, rfl, ?_, ?_⟩
      · simp [showsCase, isCased, isCaseIgnorable, own]
      · simp [showsCase, isCased, isCaseIgnorable, moved, code, image]

/-- Which case the nearest letter has, for a text with a character in front. -/
theorem facesCased_cons (c : Char) (cs : List Char)
    : facesCased (c :: cs) = if isCaseIgnorable c then facesCased cs else isCased c := by
  rw [facesCased, List.find?_cons]
  cases isCaseIgnorable c <;> rfl

theorem facesCased_of_showsCase {c : Char} (shows : showsCase c = true) (cs : List Char)
    : facesCased (c :: cs) = true := by
  simp only [showsCase, Bool.and_eq_true, Bool.not_eq_true'] at shows
  rw [facesCased_cons, shows.2, shows.1]
  rfl

/-- Lower-casing a character does not change what a letter faces, on either side of it. -/
theorem facesCased_lowerAlone_append (c : Char) {rest lowered : List Char}
    (same : facesCased lowered = facesCased rest)
    : facesCased (lowerAlone c ++ lowered) = facesCased (c :: rest)
      ∧ facesCased ((lowerAlone c).reverse ++ lowered) = facesCased (c :: rest) := by
  rcases lowerAlone_cases c with alone | ⟨d, form, own, other⟩ | rfl
  · simp [alone, facesCased_cons, same]
  · simp [form, facesCased_of_showsCase own, facesCased_of_showsCase other]
  · have forms : lowerAlone 'İ' = ['i', '\u0307'] := if_pos rfl
    have dot : isCaseIgnorable '\u0307' = true := by decide +kernel
    have capital : showsCase 'İ' = true := by decide +kernel
    have small : showsCase 'i' = true := by decide +kernel
    simp [forms, facesCased_of_showsCase capital, facesCased_of_showsCase small,
      facesCased_cons '\u0307', dot]

-----------------------------------------------------------------------------------------
-- Lower-casing character by character
-----------------------------------------------------------------------------------------

/-- The lower-case form of a text whose characters are looked at one by one. -/
def lowerEach (cs : List Char) : List Char :=
  cs.flatMap lowerAlone

theorem facesCased_lowerEach (cs : List Char) : facesCased (lowerEach cs) = facesCased cs := by
  induction cs with
  | nil => rfl
  | cons c cs ih => exact (facesCased_lowerAlone_append c ih).1

/-- The same characters, each with whether it is the form of a capital sigma. -/
def lowerMarked (cs : List Char) : List (Char × Bool) :=
  cs.flatMap fun c => (lowerAlone c).map (·, c == capitalSigma)

theorem map_fst_lowerMarked (cs : List Char) : (lowerMarked cs).map (·.1) = lowerEach cs := by
  simp [lowerMarked, lowerEach, List.map_flatMap, Function.comp_def]

theorem lowerAlone_capitalSigma : lowerAlone capitalSigma = ['σ'] := by
  decide +kernel

/-- A marked character is a small sigma. -/
theorem eq_sigma_of_mem_lowerMarked {cs : List Char} {c : Char}
    (marked : (c, true) ∈ lowerMarked cs)
    : c = 'σ' := by
  obtain ⟨d, _, form⟩ := List.mem_flatMap.mp marked
  obtain ⟨e, member, same⟩ := List.mem_map.mp form
  obtain ⟨rfl, capital⟩ := Prod.mk.inj same
  rw [eq_of_beq capital, lowerAlone_capitalSigma] at member
  exact List.mem_singleton.mp member

/-- A text without a capital sigma has no marks. -/
theorem lowerMarked_of_not_mem {cs : List Char} (none : capitalSigma ∉ cs)
    : lowerMarked cs = (lowerEach cs).map (·, false) := by
  induction cs with
  | nil => rfl
  | cons c cs ih =>
      have other : c ≠ capitalSigma := fun same => none (same ▸ List.mem_cons_self)
      rw [lowerMarked, List.flatMap_cons, ← lowerMarked, beq_eq_false_iff_ne.mpr other,
        ih fun member => none (List.mem_cons_of_mem c member), ← List.map_append]
      rfl

/-- Gives the final form to every marked letter that ends a word. The text before is given
backwards.
-/
def closeAfter (before : List Char) : List (Char × Bool) → List Char
  | [] => []
  | (c, capital) :: rest =>
    (if capital && endsWord before (rest.map (·.1)) then 'ς' else c)
      :: closeAfter (c :: before) rest

/-- Nothing happens to characters without marks. -/
theorem closeAfter_append_of_unmarked (before cs : List Char) (rest : List (Char × Bool))
    : closeAfter before (cs.map (·, false) ++ rest) = cs ++ closeAfter (cs.reverse ++ before) rest
    := by
  induction cs generalizing before with
  | nil => rfl
  | cons c cs ih => simp [closeAfter, ih]

/-- Lower-casing a text is lower-casing it character by character and closing its words, by
induction on the text: the letters before a character stay cased or not.
-/
theorem lowercaseAfter_eq_closeAfter {before lowered : List Char}
    (same : facesCased lowered = facesCased before) (cs : List Char)
    : lowercaseAfter before cs = closeAfter lowered (lowerMarked cs) := by
  induction cs generalizing before lowered with
  | nil => rfl
  | cons c after ih =>
      have next := ih (facesCased_lowerAlone_append c same).2
      have ends : endsWord lowered (lowerEach after) = endsWord before after := by
        rw [endsWord, endsWord, facesCased_lowerEach, same]
      rw [lowercaseAfter, lowerBetween, lowerMarked, List.flatMap_cons, ← lowerMarked]
      split
      next sigma =>
        subst sigma
        rw [lowerAlone_capitalSigma] at next ⊢
        rw [beq_self_eq_true, List.map_singleton, List.singleton_append, closeAfter,
          map_fst_lowerMarked, ends, Bool.true_and, next]
        split <;> rfl
      next other =>
        rw [beq_eq_false_iff_ne.mpr other, closeAfter_append_of_unmarked, next]

/-- A letter at a place of a text ends a word. -/
def EndsWordAt (cs : List Char) (place : Nat) : Prop :=
  endsWord (cs.take place).reverse (cs.drop (place + 1)) = true

instance (cs : List Char) (place : Nat) : Decidable (EndsWordAt cs place) :=
  inferInstanceAs (Decidable (_ = true))

/-- What stands at a place of a closed text. -/
theorem getElem?_closeAfter (before : List Char) (marks : List (Char × Bool)) (place : Nat)
    : (closeAfter before.reverse marks)[place]?
      = marks[place]?.map fun (c, capital) =>
          if capital ∧ EndsWordAt (before ++ marks.map (·.1)) (before.length + place) then 'ς'
          else c := by
  induction marks generalizing before place with
  | nil => rfl
  | cons mark rest ih =>
      obtain ⟨c, capital⟩ := mark
      cases place with
      | zero => simp [closeAfter, EndsWordAt]
      | succ place =>
          have next := ih (before ++ [c]) place
          rw [List.reverse_append, List.reverse_singleton, List.singleton_append] at next
          simp only [closeAfter, List.getElem?_cons_succ, next, List.append_assoc, List.map_cons,
            List.singleton_append, List.length_append, List.length_singleton, Nat.add_assoc,
            Nat.add_comm 1]

/-- What stands at a place of a text in lower case: the final form where the capital sigma ends a
word, and otherwise the form of the character on its own.
-/
theorem getElem?_lowercase (cs : List Char) (place : Nat)
    : (lowercase cs)[place]?
      = (lowerMarked cs)[place]?.map fun (c, capital) =>
          if capital ∧ EndsWordAt (lowerEach cs) place then 'ς' else c := by
  have closed := getElem?_closeAfter [] (lowerMarked cs) place
  rw [List.nil_append, map_fst_lowerMarked, List.length_nil, Nat.zero_add] at closed
  rw [lowercase, lowercaseAfter_eq_closeAfter rfl]
  exact closed

/-- Marked or not, texts that are the same character by character have the same one at a place. -/
theorem fst_lowerMarked_eq {first second : List Char} (alike : lowerEach first = lowerEach second)
    (place : Nat)
    : (lowerMarked first)[place]?.map (·.1) = (lowerMarked second)[place]?.map (·.1) := by
  rw [← List.getElem?_map, ← List.getElem?_map, map_fst_lowerMarked, map_fst_lowerMarked, alike]

/-- Texts that are the same character by character are the same in lower case exactly if, wherever a
letter ends a word, it comes from a capital sigma in both of them or in none.
-/
theorem lowercase_eq_iff {first second : List Char} (alike : lowerEach first = lowerEach second)
    : lowercase first = lowercase second
      ↔ ∀ place, EndsWordAt (lowerEach first) place →
          (lowerMarked first)[place]? = (lowerMarked second)[place]? := by
  constructor
  · -- A place where only one letter is marked would show the final sigma in one text only.
    intro same place ends
    have letters := fst_lowerMarked_eq alike place
    have closed := congrArg (·[place]?) same
    simp only [getElem?_lowercase, ← alike, ends, and_true] at closed
    cases one : (lowerMarked first)[place]? with
    | none =>
        rw [one] at letters
        exact (Option.map_eq_none_iff.mp letters.symm).symm
    | some mark =>
        obtain ⟨c, capital⟩ := mark
        rw [one] at letters closed
        obtain ⟨⟨_, other⟩, two, rfl⟩ := Option.map_eq_some_iff.mp letters.symm
        rw [two] at closed ⊢
        simp only [Option.map_some, Option.some.injEq] at closed
        cases capital <;> cases other
        case false.false | true.true => rfl
        case true.false =>
            obtain rfl := eq_sigma_of_mem_lowerMarked (List.mem_of_getElem? one)
            exact absurd closed (by decide)
        case false.true =>
            obtain rfl := eq_sigma_of_mem_lowerMarked (List.mem_of_getElem? two)
            exact absurd closed (by decide)
  · intro marks
    refine List.ext_getElem? fun place => ?_
    rw [getElem?_lowercase, getElem?_lowercase, ← alike]
    by_cases ends : EndsWordAt (lowerEach first) place
    · rw [marks place ends]
    · simpa only [ends, and_false, if_false] using fst_lowerMarked_eq alike place

/-- The small sigma for the final one. -/
def unfinal (c : Char) : Char :=
  if c = 'ς' then 'σ' else c

/-- But for the forms of the small sigma a text is lower-cased character by character. -/
theorem map_unfinal_lowercase (cs : List Char)
    : (lowercase cs).map unfinal = (lowerEach cs).map unfinal := by
  refine List.ext_getElem? fun place => ?_
  rw [List.getElem?_map, List.getElem?_map, getElem?_lowercase, ← map_fst_lowerMarked,
    List.getElem?_map, Option.map_map, Option.map_map]
  cases found : (lowerMarked cs)[place]? with
  | none => rfl
  | some mark =>
      obtain ⟨c, capital⟩ := mark
      simp only [Option.map_some, Function.comp_apply]
      split
      next closed =>
        have marked : (c, true) ∈ lowerMarked cs := closed.1 ▸ List.mem_of_getElem? found
        rw [eq_sigma_of_mem_lowerMarked marked]
        rfl
      next => rfl

-----------------------------------------------------------------------------------------
-- Blanks
-----------------------------------------------------------------------------------------

/-- A blank is its own lower-case form. -/
theorem lowerAlone_of_isBlank {c : Char} (blank : isBlank c = true) : lowerAlone c = [c] := by
  have still : ∀ n ∈ [0x09, 0x0A, 0x0B, 0x0C, 0x0D, 0x20, 0x85, 0xA0, 0x1680, 0x2000, 0x2001,
      0x2002, 0x2003, 0x2004, 0x2005, 0x2006, 0x2007, 0x2008, 0x2009, 0x200A, 0x2028, 0x2029,
      0x202F, 0x205F, 0x3000], lowerCodePoint n = n := by
    decide +kernel
  have other : c ≠ 'İ' := by
    rintro rfl
    exact absurd blank (by decide)
  have code : lowerCodePoint c.toNat = c.toNat := by
    apply still
    simp only [isBlank, Bool.or_eq_true, Bool.and_eq_true, decide_eq_true_eq, beq_iff_eq] at blank
    simp only [List.mem_cons, List.not_mem_nil, or_false]
    omega
  rw [lowerAlone, if_neg other, code, Char.ofNat_toNat]

/-- Lower-casing the characters one by one leaves the blanks at the start of a text what they are,
and makes no others, whether the forms are taken forwards or backwards.
-/
theorem dropBlanks_flatMap {form : Char → List Char}
    (forms : ∀ c, (form c).Perm (lowerAlone c)) (cs : List Char)
    : (cs.flatMap form).dropWhile isBlank = (cs.dropWhile isBlank).flatMap form := by
  induction cs with
  | nil => rfl
  | cons c cs ih =>
      rw [List.flatMap_cons]
      cases blank : isBlank c with
      | true =>
          have alone : form c = [c] :=
            List.perm_singleton.mp (lowerAlone_of_isBlank blank ▸ forms c)
          rw [alone, List.singleton_append, List.dropWhile_cons_of_pos blank,
            List.dropWhile_cons_of_pos blank, ih]
      | false =>
          obtain ⟨some, visible⟩ := lowerAlone_settled c
          obtain ⟨d, more, shape⟩ := List.exists_cons_of_ne_nil
            fun none => some (List.nil_perm.mp (none ▸ forms c))
          have first : isBlank d = false :=
            (visible d ((forms c).subset (shape ▸ List.mem_cons_self))).2 blank
          rw [List.dropWhile_cons_of_neg (by simp [blank]), List.flatMap_cons, shape,
            List.cons_append, List.dropWhile_cons_of_neg (by simp [first])]

/-- It does not matter whether a text is trimmed before or after. -/
theorem lowerEach_trim (cs : List Char) : lowerEach (trim cs) = trim (lowerEach cs) := by
  have backwards (text : List Char)
      : (lowerEach text).reverse = text.reverse.flatMap fun c => (lowerAlone c).reverse :=
    List.reverse_flatMap
  have start (text : List Char) : trimStart (lowerEach text) = lowerEach (trimStart text) :=
    dropBlanks_flatMap (fun _ => .refl _) text
  have stop (text : List Char) : trimEnd (lowerEach text) = lowerEach (trimEnd text) := by
    rw [trimEnd, backwards, dropBlanks_flatMap fun c => List.reverse_perm _, trimEnd,
      ← List.reverse_reverse (lowerEach _), backwards, List.reverse_reverse]
  rw [trim, trim, start, stop]

theorem mem_of_mem_trim {c : Char} {cs : List Char} (member : c ∈ trim cs) : c ∈ cs := by
  rw [trim, trimEnd, List.mem_reverse] at member
  have kept := List.mem_reverse.mp ((List.dropWhile_sublist isBlank).mem member)
  exact (List.dropWhile_sublist isBlank).mem kept

end ChatServer.Text

namespace ChatServer.Identity

/-- The characters of a text are the same, looked at one by one without regard to case. -/
def IsCaseVariant (s t : String) : Prop :=
  Text.lowerEach s.toList = Text.lowerEach t.toList

/-- Wherever a letter ends a word of the one text, without the blanks around it, it comes from a
capital sigma in both texts or in none.
-/
def HaveSameFinals (s t : String) : Prop :=
  ∀ place, Text.EndsWordAt (Text.lowerEach (Text.trim s.toList)) place →
    (Text.lowerMarked (Text.trim s.toList))[place]?
      = (Text.lowerMarked (Text.trim t.toList))[place]?

section

variable {s t : String}

theorem IsCaseVariant.trim (variants : IsCaseVariant s t)
    : Text.lowerEach (Text.trim s.toList) = Text.lowerEach (Text.trim t.toList) := by
  rw [Text.lowerEach_trim, Text.lowerEach_trim, variants]

/-- Case variants are one identity exactly if they have the same finals. -/
theorem IsCaseVariant.normalize_eq_iff (variants : IsCaseVariant s t)
    : normalize s = normalize t ↔ HaveSameFinals s t := by
  rw [HaveSameFinals, ← Text.lowercase_eq_iff variants.trim]
  exact ⟨fun same => String.ofList_injective same, congrArg String.ofList⟩

/-- The identities of case variants differ at most in the forms of the small sigma. -/
theorem IsCaseVariant.map_unfinal (variants : IsCaseVariant s t)
    : (normalize s).toList.map Text.unfinal = (normalize t).toList.map Text.unfinal := by
  rw [normalize, normalize, String.toList_ofList, String.toList_ofList, normalizeChars,
    normalizeChars, Text.map_unfinal_lowercase, Text.map_unfinal_lowercase, variants.trim]

/-- Case variants without a capital sigma have the same finals. -/
theorem IsCaseVariant.haveSameFinals (variants : IsCaseVariant s t)
    (first : Text.capitalSigma ∉ s.toList) (second : Text.capitalSigma ∉ t.toList)
    : HaveSameFinals s t := by
  have inside {text : String} (none : Text.capitalSigma ∉ text.toList)
      : Text.capitalSigma ∉ Text.trim text.toList :=
    fun member => none (Text.mem_of_mem_trim member)
  intro place _
  rw [Text.lowerMarked_of_not_mem (inside first), Text.lowerMarked_of_not_mem (inside second),
    variants.trim]

end

end ChatServer.Identity
