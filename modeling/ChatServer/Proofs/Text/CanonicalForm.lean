import ChatServer.Proofs.Text.CaseVariants
import ChatServer.Proofs.Text.Pieces

/-! The canonical form of an identity. It is what stands between the blanks of a text, with every
character in the lower-case form that Unicode gives it at its place. Normalizing it changes nothing,
and since neither trimming nor lower-casing looks past an `@`, the parts before and after it are
normalized each on its own: if both are left in the canonical form, both were there before.
-/

namespace ChatServer.Text

-----------------------------------------------------------------------------------------
-- The full mapping to lower case
-----------------------------------------------------------------------------------------

/-- Behind the marks that casing looks through, if there are any, comes a cased letter. -/
def FacesLetter (cs : List Char) : Prop :=
  ∃ marks letter rest, cs = marks ++ letter :: rest ∧ (∀ mark ∈ marks, isCaseIgnorable mark = true)
    ∧ isCaseIgnorable letter = false ∧ isCased letter = true

/-- The form that the full mapping of Unicode gives to a character between two texts. -/
inductive IsLowerForm (front back : List Char) : Char → List Char → Prop
  | dotted : IsLowerForm front back 'İ' ['i', '\u0307']
  | final (before : FacesLetter front.reverse) (behind : ¬ FacesLetter back)
    : IsLowerForm front back capitalSigma ['ς']
  | common (inside : FacesLetter front.reverse → FacesLetter back)
    : IsLowerForm front back capitalSigma ['σ']
  | simple {c form : Char} (dotless : c ≠ 'İ') (other : c ≠ capitalSigma)
      (mapped : form.toNat = lowerCodePoint c.toNat)
    : IsLowerForm front back c [form]

/-- There is a form for each character of a text that follows `front`. -/
def AreLowerForms (front cs : List Char) (forms : List (List Char)) : Prop :=
  forms.length = cs.length
    ∧ ∀ before c back, cs = before ++ c :: back →
        ∃ form, forms[before.length]? = some form ∧ IsLowerForm (front ++ before) back c form

/-- The text is another one with each character in its lower-case form. -/
def IsLowercaseOf (lowered cs : List Char) : Prop :=
  ∃ forms, AreLowerForms [] cs forms ∧ lowered = forms.flatten

theorem facesCased_iff_facesLetter (cs : List Char) : facesCased cs = true ↔ FacesLetter cs := by
  rw [facesCased]
  constructor
  · intro faces
    cases found : cs.find? (!isCaseIgnorable ·) with
    | none =>
        rw [found] at faces
        cases faces
    | some letter =>
        rw [found] at faces
        obtain ⟨seen, marks, rest, whole, ignored⟩ := List.find?_eq_some_iff_append.mp found
        exact ⟨marks, letter, rest, whole, by simpa using ignored, by simpa using seen, faces⟩
  · rintro ⟨marks, letter, rest, rfl, ignored, seen, cased⟩
    have found : (marks ++ letter :: rest).find? (!isCaseIgnorable ·) = some letter :=
      List.find?_eq_some_iff_append.mpr
        ⟨by simpa using seen, marks, rest, rfl, by simpa using ignored⟩
    rw [found]
    exact cased

/-- The simple lower-case form of a character is a character. -/
theorem toNat_ofNat_lowerCodePoint (c : Char)
    : (Char.ofNat (lowerCodePoint c.toNat)).toNat = lowerCodePoint c.toNat := by
  cases found : caseRuns.find? (·.covers c.toNat) with
  | none => rw [lowerCodePoint, found, Char.ofNat_toNat]
  | some run =>
      have covered : run.covers c.toNat = true :=
        List.find?_some (p := (CaseRun.covers · c.toNat)) found
      rw [lowerCodePoint, found]
      exact toNat_ofNat_of_isValidChar
        (CaseRun.image_final (List.mem_of_find?_eq_some found) covered).1

theorem endsWord_iff {before after : List Char}
    : endsWord before after = true ↔ FacesLetter before ∧ ¬ FacesLetter after := by
  rw [endsWord, Bool.and_eq_true, Bool.not_eq_true', ← Bool.not_eq_true,
    facesCased_iff_facesLetter, facesCased_iff_facesLetter]

theorem isLowerForm_lowerBetween (front : List Char) (c : Char) (back : List Char)
    : IsLowerForm front back c (lowerBetween front.reverse c back) := by
  rw [lowerBetween]
  split
  next sigma =>
    subst sigma
    split
    next final =>
      obtain ⟨before, behind⟩ := endsWord_iff.mp final
      exact .final before behind
    next inside => exact .common (not_and_not_right.mp (mt endsWord_iff.mpr inside))
  next other =>
    rw [lowerAlone]
    split
    next dotted =>
      subst dotted
      exact .dotted
    next dotless => exact .simple dotless other (toNat_ofNat_lowerCodePoint c)

/-- Every character has one form at its place. -/
theorem isLowerForm_iff {front back form : List Char} {c : Char}
    : IsLowerForm front back c form ↔ form = lowerBetween front.reverse c back := by
  constructor
  · intro own
    cases own with
    | dotted =>
        rw [lowerBetween, if_neg (by decide), lowerAlone, if_pos rfl]
    | final before behind =>
        rw [lowerBetween, if_pos rfl, if_pos (endsWord_iff.mpr ⟨before, behind⟩)]
    | common inside =>
        rw [lowerBetween, if_pos rfl,
          if_neg (mt endsWord_iff.mp (not_and_not_right.mpr inside))]
    | simple dotless other mapped =>
        rw [lowerBetween, if_neg other, lowerAlone, if_neg dotless, ← mapped, Char.ofNat_toNat]
  · rintro rfl
    exact isLowerForm_lowerBetween front c back

theorem areLowerForms_nil_iff {front : List Char} {forms : List (List Char)}
    : AreLowerForms front [] forms ↔ forms = [] := by
  simp [AreLowerForms]

theorem areLowerForms_cons_iff {front after : List Char} {c : Char} {forms : List (List Char)}
    : AreLowerForms front (c :: after) forms
      ↔ ∃ form rest, forms = form :: rest ∧ IsLowerForm front after c form
          ∧ AreLowerForms (front ++ [c]) after rest := by
  constructor
  · rintro ⟨count, each⟩
    obtain ⟨form, rest, rfl⟩ := List.exists_cons_of_length_eq_add_one count
    obtain ⟨_, first, own⟩ := each [] c after rfl
    obtain rfl := Option.some.inj first
    rw [List.append_nil] at own
    refine ⟨_, rest, rfl, own, Nat.succ.inj count, fun before d back split => ?_⟩
    have later := each (c :: before) d back (by rw [split, List.cons_append])
    rw [List.append_cons front c before] at later
    exact later
  · rintro ⟨form, rest, rfl, own, count, each⟩
    refine ⟨congrArg Nat.succ count, fun before d back split => ?_⟩
    -- The text is split at its first character, or the rest of it is.
    cases before with
    | nil =>
        obtain ⟨rfl, rfl⟩ := List.cons.inj split
        rw [List.append_nil]
        exact ⟨form, rfl, own⟩
    | cons b before =>
        obtain ⟨rfl, later⟩ := List.cons.inj split
        rw [List.append_cons front c before]
        exact each before d back later

/-- Lower-casing the rest of a text gives each of its characters its form, by induction on the rest.
-/
theorem exists_areLowerForms_iff {front cs lowered : List Char}
    : (∃ forms, AreLowerForms front cs forms ∧ lowered = forms.flatten)
      ↔ lowered = lowercaseAfter front.reverse cs := by
  induction cs generalizing front lowered with
  | nil =>
      simp only [areLowerForms_nil_iff, exists_eq_left, lowercaseAfter, List.flatten_nil]
  | cons c after ih =>
      have next (rest : List Char)
          : (∃ forms, AreLowerForms (front ++ [c]) after forms ∧ rest = forms.flatten)
            ↔ rest = lowercaseAfter (c :: front.reverse) after := by
        rw [ih, List.reverse_append, List.reverse_singleton, List.singleton_append]
      constructor
      · rintro ⟨_, forms, rfl⟩
        obtain ⟨form, rest, rfl, own, later⟩ := areLowerForms_cons_iff.mp forms
        rw [lowercaseAfter, List.flatten_cons, isLowerForm_iff.mp own,
          (next _).mp ⟨rest, later, rfl⟩]
      · rintro rfl
        obtain ⟨rest, later, same⟩ := (next _).mpr rfl
        refine ⟨_, areLowerForms_cons_iff.mpr ⟨_, rest, rfl, isLowerForm_iff.mpr rfl, later⟩, ?_⟩
        rw [lowercaseAfter, List.flatten_cons, same]

theorem isLowercaseOf_iff {lowered cs : List Char}
    : IsLowercaseOf lowered cs ↔ lowered = lowercase cs :=
  exists_areLowerForms_iff

-----------------------------------------------------------------------------------------
-- Characters that casing neither changes nor looks past
-----------------------------------------------------------------------------------------

/-- The form of a character depends on nothing around it but whether a word ends there. -/
theorem lowerBetween_eq_of_endsWord_eq (c : Char) {before before' after after' : List Char}
    (same : endsWord before after = endsWord before' after')
    : lowerBetween before c after = lowerBetween before' c after' := by
  unfold lowerBetween
  rw [same]

/-- The character is neither a cased letter nor a mark that casing looks through. -/
def IsCaseless (c : Char) : Prop :=
  isCased c = false ∧ isCaseIgnorable c = false

namespace IsCaseless

variable {c : Char} (caseless : IsCaseless c)

include caseless

theorem showsCase_eq_false : showsCase c = false := by
  rw [showsCase, caseless.1, Bool.false_and]

theorem ne_of_isCased {letter : Char} (cased : isCased letter = true) : c ≠ letter := by
  rintro rfl
  rw [caseless.1] at cased
  cases cased

theorem lowerAlone_eq : lowerAlone c = [c] := by
  rcases lowerAlone_cases c with alone | ⟨d, _, shows, _⟩ | dotted
  · exact alone
  · rw [caseless.showsCase_eq_false] at shows
    cases shows
  · exact absurd dotted (caseless.ne_of_isCased (by decide +kernel))

/-- A caseless character is the lower-case form of no other one. -/
theorem eq_of_mem_lowerAlone {d : Char} (member : c ∈ lowerAlone d) : c = d := by
  rcases lowerAlone_cases d with alone | ⟨e, form, _, shows⟩ | rfl
  · rw [alone] at member
    exact List.mem_singleton.mp member
  · rw [form] at member
    obtain rfl := List.mem_singleton.mp member
    rw [caseless.showsCase_eq_false] at shows
    cases shows
  · have forms : lowerAlone 'İ' = ['i', '\u0307'] := if_pos rfl
    rw [forms, List.mem_cons, List.mem_singleton] at member
    rcases member with letter | rfl
    · exact absurd letter (caseless.ne_of_isCased (by decide +kernel))
    · exact absurd caseless.2 (by decide +kernel)

theorem eq_of_mem_lowerBetween {before after : List Char} {d : Char}
    (member : c ∈ lowerBetween before d after)
    : c = d := by
  rw [lowerBetween] at member
  split at member
  next =>
    -- Both forms of the sigma are cased.
    split at member
    next =>
      have final := List.mem_singleton.mp member
      exact absurd final (caseless.ne_of_isCased (by decide +kernel))
    next =>
      have common := List.mem_singleton.mp member
      exact absurd common (caseless.ne_of_isCased (by decide +kernel))
  next => exact caseless.eq_of_mem_lowerAlone member

/-- Lower-casing brings no caseless character into a text. -/
theorem mem_of_mem_lowercaseAfter {before cs : List Char} (member : c ∈ lowercaseAfter before cs)
    : c ∈ cs := by
  induction cs generalizing before with
  | nil => exact member
  | cons d after ih =>
      rcases List.mem_append.mp member with here | later
      · obtain rfl := caseless.eq_of_mem_lowerBetween here
        exact List.mem_cons_self
      · exact List.mem_cons_of_mem d (ih later)

/-- No letter faces anything past a caseless character. -/
theorem facesCased_append (cs rest : List Char) : facesCased (cs ++ c :: rest) = facesCased cs := by
  induction cs with
  | nil =>
      rw [List.nil_append, facesCased_cons, caseless.1, caseless.2]
      rfl
  | cons d cs ih => rw [List.cons_append, facesCased_cons, facesCased_cons, ih]

/-- What comes before a caseless character has no influence on what comes after it. -/
theorem lowercaseAfter_past (before rest cs : List Char)
    : lowercaseAfter (before ++ c :: rest) cs = lowercaseAfter before cs := by
  induction cs generalizing before with
  | nil => rfl
  | cons d after ih =>
      have ends : endsWord (before ++ c :: rest) after = endsWord before after := by
        rw [endsWord, endsWord, caseless.facesCased_append]
      rw [lowercaseAfter, lowercaseAfter, lowerBetween_eq_of_endsWord_eq d ends,
        ← List.cons_append, ih]

/-- The parts of a text around a caseless character are lower-cased each on its own, by induction on
the first part.
-/
theorem lowercaseAfter_append (before front back : List Char)
    : lowercaseAfter before (front ++ c :: back)
      = lowercaseAfter before front ++ c :: lowercase back := by
  induction front generalizing before with
  | nil =>
      have own : lowerBetween before c back = [c] := by
        rw [lowerBetween, if_neg (caseless.ne_of_isCased (by decide +kernel)),
          caseless.lowerAlone_eq]
      have rest : lowercaseAfter (c :: before) back = lowercase back :=
        caseless.lowercaseAfter_past [] before back
      calc lowercaseAfter before (c :: back)
          = lowerBetween before c back ++ lowercaseAfter (c :: before) back := rfl
        _ = [c] ++ lowercase back := by rw [own, rest]
  | cons d front ih =>
      have ends : endsWord before (front ++ c :: back) = endsWord before front := by
        rw [endsWord, endsWord, caseless.facesCased_append]
      rw [List.cons_append, lowercaseAfter, lowercaseAfter, lowerBetween_eq_of_endsWord_eq d ends,
        ih, List.append_assoc]

/-- Cutting a text in lower case is cutting the text and lower-casing the parts. -/
theorem cut?_lowercase (cs : List Char)
    : cut? c (lowercase cs) = (cut? c cs).map (Prod.map lowercase lowercase) := by
  cases found : cut? c cs with
  | none =>
      exact cut?_eq_none_iff.mpr
        (mt caseless.mem_of_mem_lowercaseAfter (cut?_eq_none_iff.mp found))
  | some parts =>
      obtain ⟨rfl, first⟩ := eq_append_of_cut? found
      rw [lowercase, caseless.lowercaseAfter_append]
      exact cut?_append (mt caseless.mem_of_mem_lowercaseAfter first) _

end IsCaseless

theorem isCaseless_at : IsCaseless '@' := by
  constructor <;> decide +kernel

theorem lowercase_eq_nil_iff {cs : List Char} : lowercase cs = [] ↔ cs = [] := by
  cases cs with
  | nil => simp [lowercase, lowercaseAfter]
  | cons c after =>
      simp [lowercase, lowercaseAfter, (lowerBetween_settled [] c after).1]

-----------------------------------------------------------------------------------------
-- Trimming around a separator
-----------------------------------------------------------------------------------------

theorem trimStart_eq_nil_iff {cs : List Char} : trimStart cs = [] ↔ IsBlankText cs :=
  List.dropWhile_eq_nil_iff

theorem trimEnd_eq_nil_iff {cs : List Char} : trimEnd cs = [] ↔ IsBlankText cs := by
  rw [trimEnd, List.reverse_eq_nil_iff, List.dropWhile_eq_nil_iff]
  simp only [List.mem_reverse, IsBlankText]

section

variable {c : Char} (solid : isBlank c = false)

include solid

/-- Blanks are dropped only up to a character that is none. -/
theorem dropBlanks_append (front back : List Char)
    : (front ++ c :: back).dropWhile isBlank = front.dropWhile isBlank ++ c :: back := by
  rw [List.dropWhile_append]
  split
  next none =>
    rw [List.isEmpty_iff.mp none, List.dropWhile_cons_of_neg (by simp [solid]), List.nil_append]
  next => rfl

/-- Around a character that is no blank, the one part is trimmed at its start and the other one at
its end.
-/
theorem trim_append (front back : List Char)
    : trim (front ++ c :: back) = trimStart front ++ c :: trimEnd back := by
  have start : trimStart (front ++ c :: back) = trimStart front ++ c :: back :=
    dropBlanks_append solid front back
  have stop (text : List Char) : trimEnd (text ++ c :: back) = text ++ c :: trimEnd back := by
    simp [trimEnd, dropBlanks_append solid]
  rw [trim, start, stop]

/-- Cutting a trimmed text is cutting the text and trimming the parts at their outer ends. -/
theorem cut?_trim (cs : List Char)
    : cut? c (trim cs) = (cut? c cs).map (Prod.map trimStart trimEnd) := by
  cases found : cut? c cs with
  | none => exact cut?_eq_none_iff.mpr (mt mem_of_mem_trim (cut?_eq_none_iff.mp found))
  | some parts =>
      obtain ⟨rfl, first⟩ := eq_append_of_cut? found
      rw [trim_append solid]
      exact cut?_append (mt (List.dropWhile_sublist isBlank).mem first) _

end

end ChatServer.Text

namespace ChatServer.Identity

open Text

/-- The identity is what stands between the blanks of a text, in lower case. -/
def IsSpellingOf (identity s : String) : Prop :=
  ∃ before core after, s.toList = before ++ core ++ after
    ∧ IsBlankText before ∧ IsBlankText after ∧ HasSolidEnds core
    ∧ IsLowercaseOf identity.toList core

/-- Normalizing finds the one identity that a text spells. -/
theorem isSpellingOf_iff {identity s : String}
    : IsSpellingOf identity s ↔ identity = normalize s := by
  constructor
  · rintro ⟨before, core, after, whole, blank, blankAfter, solid, lowered⟩
    rw [normalize, normalizeChars, whole, trim_between blank solid blankAfter,
      ← isLowercaseOf_iff.mp lowered, String.ofList_toList]
  · rintro rfl
    obtain ⟨before, after, blank, blankAfter, whole⟩ := exists_blanks_trim s.toList
    refine ⟨before, trim s.toList, after, whole, blank, blankAfter, solidEnds_trim s.toList, ?_⟩
    rw [normalize, String.toList_ofList]
    exact isLowercaseOf_iff.mpr rfl

theorem solidEnds_normalize (s : String) : HasSolidEnds (normalize s).toList := by
  rw [normalize, String.toList_ofList]
  exact (solidEnds_trim s.toList).lowercase

/-- The parts around the first `@` are normalized each on its own. -/
theorem cut?_normalize (s : String)
    : cut? '@' (normalize s).toList
      = (cut? '@' s.toList).map fun (name, host) =>
          (lowercase (trimStart name), lowercase (trimEnd host)) := by
  rw [normalize, String.toList_ofList, normalizeChars, isCaseless_at.cut?_lowercase,
    cut?_trim (by decide), Option.map_map]
  rfl

theorem looksLikeEmail_iff {s : String}
    : looksLikeEmail s = true
      ↔ ∃ name host, cut? '@' s.toList = some (name, host) ∧ name ≠ [] ∧ host ≠ [] := by
  rw [looksLikeEmail]
  cases cut? '@' s.toList with
  | none => simp
  | some parts =>
      obtain ⟨name, host⟩ := parts
      simp [and_assoc]

/-- The canonical form looks like an email address if the text has more than blanks on both sides of
its first `@`.
-/
theorem looksLikeEmail_normalize_iff {s : String}
    : looksLikeEmail (normalize s) = true
      ↔ ∃ name host, cut? '@' s.toList = some (name, host)
          ∧ ¬ IsBlankText name ∧ ¬ IsBlankText host := by
  rw [looksLikeEmail_iff, cut?_normalize]
  cases cut? '@' s.toList with
  | none => simp
  | some parts =>
      obtain ⟨name, host⟩ := parts
      simp [and_assoc, lowercase_eq_nil_iff, trimStart_eq_nil_iff, trimEnd_eq_nil_iff]

/-- A text passes, and its canonical form does not, if there are only blanks before the `@`. -/
example : looksLikeEmail " @x" = true ∧ looksLikeEmail (normalize " @x") = false := by
  decide +kernel

/-- Normalizing is settled: what it makes of a text is the text between its blanks in lower case, is
normalized already, has no blank at either end, and passes for an email address only if the text
does.
-/
theorem normalize_canonical (s : String)
    : (∀ identity, IsSpellingOf identity s ↔ identity = normalize s)
      ∧ normalize (normalize s) = normalize s
      ∧ HasSolidEnds (normalize s).toList
      ∧ (looksLikeEmail (normalize s) = true → looksLikeEmail s = true) := by
  refine ⟨fun _ => isSpellingOf_iff, normalize_normalize s, solidEnds_normalize s, fun looks => ?_⟩
  obtain ⟨name, host, found, left, right⟩ := looksLikeEmail_normalize_iff.mp looks
  refine looksLikeEmail_iff.mpr ⟨name, host, found, ?_, ?_⟩
  · rintro rfl
    exact left isBlankText_nil
  · rintro rfl
    exact right isBlankText_nil

/-- A padded address in capitals, with sigmas and a dotted I. -/
theorem normalize_canonical_of_capitals
    : let s := " ΣΟΦΙΑΣ@İ.x\n"
      normalize s = "σοφιας@i\u0307.x" ∧ looksLikeEmail (normalize s) = true
      ∧ looksLikeEmail s = true := by
  intro s
  have looks : looksLikeEmail (normalize s) = true := by decide +kernel
  exact ⟨by decide +kernel, looks, (normalize_canonical s).2.2.2 looks⟩

end ChatServer.Identity
