import ChatServer.Net.Address
import ChatServer.Proofs.Text.Pieces

/-! Different addresses have different texts. A number is told by its digits and a row of numbers by
what stands between the separators. Where zero groups are left out of an address of version 6, the
two colons say where, and the number of groups that are left says how many.
-/

namespace ChatServer.Net

-----------------------------------------------------------------------------------------
-- Digits
-----------------------------------------------------------------------------------------

section Digits

variable {base : Nat}

/-- A character that is no digit is in no number, by induction on the number. -/
theorem not_mem_toDigits (large : 1 < base) {c : Char} (other : ∀ d, Nat.digitChar d ≠ c) (n : Nat)
    : c ∉ Nat.toDigits base n := by
  induction n using Nat.strongRecOn with
  | ind n ih =>
      rw [Nat.toDigits_eq_if large]
      split
      next => exact fun member => other _ (List.mem_singleton.mp member).symm
      next long =>
        intro member
        rcases List.mem_append.mp member with front | last
        · exact ih (n / base) (Nat.div_lt_self (by omega) large) front
        · exact other _ (List.mem_singleton.mp last).symm

theorem digitChar_injective {d e : Nat} (small : d < 16) (smallToo : e < 16)
    (same : Nat.digitChar d = Nat.digitChar e)
    : d = e := by
  have all : ∀ i j : Fin 16, Nat.digitChar i = Nat.digitChar j → i = j := by decide
  exact congrArg Fin.val (all ⟨d, small⟩ ⟨e, smallToo⟩ same)

/-- Numbers with the same digits are the same, by induction on the number without its last digit.
-/
theorem toDigits_injective (large : 1 < base) (small : base ≤ 16) {n m : Nat}
    (same : Nat.toDigits base n = Nat.toDigits base m)
    : n = m := by
  induction n using Nat.strongRecOn generalizing m with
  | ind n ih =>
      have some (k : Nat) : 0 < (Nat.toDigits base k).length := Nat.length_toDigits_pos
      have below (k : Nat) : k % base < 16 := by
        have := Nat.mod_lt k (by omega : base > 0)
        omega
      rw [Nat.toDigits_eq_if large, Nat.toDigits_eq_if large (n := m)] at same
      split at same <;> split at same
      next => exact digitChar_injective (by omega) (by omega) (List.cons.inj same).1
      next =>
        have lengths := congrArg List.length same
        have := some (m / base)
        simp only [List.length_append, List.length_singleton] at lengths
        omega
      next =>
        have lengths := congrArg List.length same
        have := some (n / base)
        simp only [List.length_append, List.length_singleton] at lengths
        omega
      next =>
        obtain ⟨front, last⟩ := List.append_inj' same rfl
        have quotients := ih (n / base) (Nat.div_lt_self (by omega) large) front
        have remainders := digitChar_injective (below n) (below m) (List.cons.inj last).1
        rw [← Nat.div_add_mod n base, ← Nat.div_add_mod m base, quotients, remainders]

/-- Rows of numbers are told apart by what is written of them with a separator that is no digit. -/
theorem numbers_injective (large : 1 < base) (small : base ≤ 16) {sep : Char}
    (other : ∀ d, Nat.digitChar d ≠ sep) {ns ms : List Nat} (some : ns ≠ []) (someToo : ms ≠ [])
    (same : [sep].intercalate (ns.map (Nat.toDigits base))
      = [sep].intercalate (ms.map (Nat.toDigits base)))
    : ns = ms := by
  have whole (ks : List Nat) : ∀ piece ∈ ks.map (Nat.toDigits base), sep ∉ piece := by
    intro piece member
    obtain ⟨k, _, rfl⟩ := List.mem_map.mp member
    exact not_mem_toDigits large other k
  have pieces := congrArg (List.splitOn sep) same
  rw [List.splitOn_intercalate sep (whole ns) (mt List.map_eq_nil_iff.mp some),
    List.splitOn_intercalate sep (whole ms) (mt List.map_eq_nil_iff.mp someToo)] at pieces
  exact (List.map_inj_right fun _ _ => toDigits_injective large small).mp pieces

end Digits

theorem digitChar_ne_dot (d : Nat) : Nat.digitChar d ≠ '.' := by
  simp

theorem digitChar_ne_colon (d : Nat) : Nat.digitChar d ≠ ':' := by
  simp

-----------------------------------------------------------------------------------------
-- Pieces between separators
-----------------------------------------------------------------------------------------

theorem not_mem_intercalate {c sep : Char} (other : c ≠ sep) {pieces : List (List Char)}
    (without : ∀ piece ∈ pieces, c ∉ piece)
    : c ∉ [sep].intercalate pieces := by
  induction pieces with
  | nil => exact List.not_mem_nil
  | cons piece pieces ih =>
      obtain ⟨here, later⟩ := List.forall_mem_cons.mp without
      cases pieces with
      | nil => rwa [List.intercalate_singleton]
      | cons next pieces =>
          rw [List.intercalate_cons_cons]
          simp only [List.mem_append, List.mem_singleton, not_or]
          exact ⟨⟨here, other⟩, ih later⟩

theorem intercalate_append {sep : List Char} {front back : List (List Char)} (some : front ≠ [])
    (someToo : back ≠ [])
    : sep.intercalate (front ++ back) = sep.intercalate front ++ sep ++ sep.intercalate back := by
  induction front with
  | nil => exact absurd rfl some
  | cons piece front ih =>
      cases front with
      | nil =>
          rw [List.singleton_append, List.intercalate_cons_of_ne_nil someToo,
            List.intercalate_singleton]
      | cons next front =>
          rw [List.cons_append, List.intercalate_cons_of_ne_nil (by simp),
            ih (List.cons_ne_nil _ _), List.intercalate_cons_cons]
          simp only [List.append_assoc]

-----------------------------------------------------------------------------------------
-- Four numbers between dots
-----------------------------------------------------------------------------------------

theorem dotted_injective {a b c d a' b' c' d' : Nat} (same : dotted a b c d = dotted a' b' c' d')
    : [a, b, c, d] = [a', b', c', d'] :=
  numbers_injective (by decide) (by decide) digitChar_ne_dot (List.cons_ne_nil _ _)
    (List.cons_ne_nil _ _) same

theorem dot_mem_dotted (a b c d : Nat) : '.' ∈ dotted a b c d := by
  simp [dotted]

theorem colon_not_mem_dotted (a b c d : Nat) : ':' ∉ dotted a b c d := by
  refine not_mem_intercalate (by decide) fun piece member => ?_
  obtain ⟨n, _, rfl⟩ := List.mem_map.mp member
  exact not_mem_toDigits (by decide) digitChar_ne_colon n

-----------------------------------------------------------------------------------------
-- Groups
-----------------------------------------------------------------------------------------

/-- Groups as they are written. -/
def hexGroups (groups : List Nat) : List (List Char) :=
  groups.map (Nat.toDigits 16)

/-- The pieces that groups at one end of a text make: an empty one if there are no groups. -/
def endPieces (groups : List Nat) : List (List Char) :=
  if groups = [] then [[]] else hexGroups groups

/-- The pieces between the colons of a text of groups: the groups, all of them or without a run of
zeros, which an empty piece stands for.
-/
inductive ShownAs : List Nat → List (List Char) → Prop where
  | whole (groups : List Nat) : ShownAs groups (hexGroups groups)
  | shortened (front back : List Nat) (zeros : Nat)
    : ShownAs (front ++ List.replicate zeros 0 ++ back) (endPieces front ++ [] :: endPieces back)

theorem hexGroups_injective {groups others : List Nat} (same : hexGroups groups = hexGroups others)
    : groups = others :=
  (List.map_inj_right fun _ _ => toDigits_injective (by decide) (by decide)).mp same

/-- No group is written as nothing. -/
theorem nil_not_mem_hexGroups (groups : List Nat) : [] ∉ hexGroups groups := by
  intro member
  obtain ⟨_, _, none⟩ := List.mem_map.mp member
  exact Nat.toDigits_ne_nil none

theorem endPieces_ne_nil (groups : List Nat) : endPieces groups ≠ [] := by
  unfold endPieces
  split
  next => exact List.cons_ne_nil _ _
  next some => exact mt List.map_eq_nil_iff.mp some

/-- A text does not begin with an empty piece and with a group. -/
theorem hexGroups_append_ne_nil_cons {front : List Nat} (some : front ≠ [])
    (rest others : List (List Char))
    : hexGroups front ++ rest ≠ [] :: others := by
  obtain ⟨group, front, rfl⟩ := List.exists_cons_of_ne_nil some
  exact fun same => Nat.toDigits_ne_nil (List.cons.inj same).1

theorem endPieces_injective {groups others : List Nat} (same : endPieces groups = endPieces others)
    : groups = others := by
  unfold endPieces at same
  split at same <;> split at same
  next none noneToo => rw [none, noneToo]
  next => exact absurd (same ▸ List.mem_singleton_self []) (nil_not_mem_hexGroups others)
  next => exact absurd (same ▸ List.mem_singleton_self []) (nil_not_mem_hexGroups groups)
  next => exact hexGroups_injective same

/-- The first empty piece that stands behind a piece is where zeros have been left out. -/
theorem endPieces_append_injective {front frontToo : List Nat} {rest restToo : List (List Char)}
    (same : endPieces front ++ [] :: rest = endPieces frontToo ++ [] :: restToo)
    : front = frontToo ∧ rest = restToo := by
  unfold endPieces at same
  split at same <;> split at same
  next none noneToo =>
    rw [none, noneToo]
    exact ⟨rfl, (List.cons.inj (List.cons.inj same).2).2⟩
  next _ some => exact absurd same.symm (hexGroups_append_ne_nil_cons some _ _)
  next some _ => exact absurd same (hexGroups_append_ne_nil_cons some _ _)
  next =>
    have cut := congrArg (Text.cut? []) same
    rw [Text.cut?_append (nil_not_mem_hexGroups front),
      Text.cut?_append (nil_not_mem_hexGroups frontToo)] at cut
    obtain ⟨fronts, rests⟩ := Prod.mk.inj (Option.some.inj cut)
    exact ⟨hexGroups_injective fronts, rests⟩

/-- As many groups as are written with the same pieces are the same. -/
theorem ShownAs.unique {groups others : List Nat} {pieces piecesToo : List (List Char)}
    (one : ShownAs groups pieces) (other : ShownAs others piecesToo) (same : pieces = piecesToo)
    (length : groups.length = others.length)
    : groups = others := by
  have empty (front back : List Nat) : [] ∈ endPieces front ++ [] :: endPieces back :=
    List.mem_append_right _ List.mem_cons_self
  cases one with
  | whole =>
      cases other with
      | whole => exact hexGroups_injective same
      | shortened front back => exact absurd (same ▸ empty front back) (nil_not_mem_hexGroups _)
  | shortened front back zeros =>
      cases other with
      | whole => exact absurd (same ▸ empty front back) (nil_not_mem_hexGroups _)
      | shortened frontToo backToo zerosToo =>
          obtain ⟨rfl, backs⟩ := endPieces_append_injective same
          obtain rfl := endPieces_injective backs
          simp only [List.length_append, List.length_replicate] at length
          obtain rfl : zeros = zerosToo := by omega
          rfl

/-- A character that is no digit is in no piece. -/
theorem ShownAs.not_mem {groups : List Nat} {pieces : List (List Char)} (h : ShownAs groups pieces)
    {c : Char} (other : ∀ d, Nat.digitChar d ≠ c)
    : ∀ piece ∈ pieces, c ∉ piece := by
  have inGroups (groups : List Nat) : ∀ piece ∈ hexGroups groups, c ∉ piece := by
    intro piece member
    obtain ⟨group, _, rfl⟩ := List.mem_map.mp member
    exact not_mem_toDigits (by decide) other group
  have atEnd (groups : List Nat) : ∀ piece ∈ endPieces groups, c ∉ piece := by
    unfold endPieces
    split
    next => exact List.forall_mem_singleton.mpr List.not_mem_nil
    next => exact inGroups groups
  cases h with
  | whole => exact inGroups groups
  | shortened front back =>
      exact List.forall_mem_append.mpr
        ⟨atEnd front, List.forall_mem_cons.mpr ⟨List.not_mem_nil, atEnd back⟩⟩

-----------------------------------------------------------------------------------------
-- Texts of groups
-----------------------------------------------------------------------------------------

theorem colons_eq (groups : List Nat) : colons groups = [':'].intercalate (endPieces groups) := by
  unfold endPieces
  split
  next none =>
    rw [none]
    rfl
  next => rfl

theorem replicate_zerosAhead (groups : List Nat)
    : ∃ back, groups = List.replicate (zerosAhead groups) 0 ++ back := by
  have zeros : groups.takeWhile (· = 0) = List.replicate (zerosAhead groups) 0 := by
    refine List.eq_replicate_iff.mpr ⟨rfl, fun group member => ?_⟩
    simpa using List.mem_takeWhile_imp member
  exact ⟨groups.dropWhile (· = 0), by rw [← zeros, List.takeWhile_append_dropWhile]⟩

/-- What is found as the longest run of zeros is a run of zeros at its place, by induction on the
groups: it begins with the first of them or is found behind it.
-/
theorem longestZeros_run (start : Nat) (groups : List Nat)
    : ∃ front back, groups = front ++ List.replicate (longestZeros start groups).2 0 ++ back
      ∧ (longestZeros start groups).1 = start + front.length := by
  induction groups generalizing start with
  | nil => exact ⟨[], [], rfl, rfl⟩
  | cons group groups ih =>
      rw [longestZeros]
      split
      next =>
        obtain ⟨back, run⟩ := replicate_zerosAhead (group :: groups)
        exact ⟨[], back, run, rfl⟩
      next =>
        obtain ⟨front, back, run, place⟩ := ih (start + 1)
        refine ⟨group :: front, back, congrArg (group :: ·) run, ?_⟩
        rw [place, List.length_cons]
        omega

/-- The text of some groups is what their pieces make with colons. -/
theorem shownAs_compressed {groups : List Nat} (some : groups ≠ [])
    : ∃ pieces, ShownAs groups pieces ∧ pieces ≠ []
      ∧ compressed groups = [':'].intercalate pieces := by
  obtain ⟨front, back, run, place⟩ := longestZeros_run 0 groups
  rw [Nat.zero_add] at place
  unfold compressed
  dsimp only
  split
  next => exact ⟨_, .whole groups, mt List.map_eq_nil_iff.mp some, rfl⟩
  next =>
    generalize (longestZeros 0 groups).2 = zeros at run
    rw [place]
    subst run
    refine ⟨_, .shortened front back zeros, by simp, ?_⟩
    have shown : (front ++ List.replicate zeros 0 ++ back).take front.length = front := by simp
    have left : (front ++ List.replicate zeros 0 ++ back).drop (front.length + zeros) = back := by
      simp
    rw [shown, left, colons_eq, colons_eq, intercalate_append (endPieces_ne_nil _) (by simp),
      List.intercalate_cons_of_ne_nil (endPieces_ne_nil _)]
    simp

theorem compressed_injective {groups others : List Nat} (some : groups ≠ [])
    (length : groups.length = others.length) (same : compressed groups = compressed others)
    : groups = others := by
  have someToo : others ≠ [] := by
    rintro rfl
    exact some (List.length_eq_zero_iff.mp length)
  obtain ⟨pieces, shown, filled, text⟩ := shownAs_compressed some
  obtain ⟨piecesToo, shownToo, filledToo, textToo⟩ := shownAs_compressed someToo
  refine shown.unique shownToo ?_ length
  rw [text, textToo] at same
  have split := congrArg (List.splitOn ':') same
  rwa [List.splitOn_intercalate ':' (shown.not_mem digitChar_ne_colon) filled,
    List.splitOn_intercalate ':' (shownToo.not_mem digitChar_ne_colon) filledToo] at split

theorem dot_not_mem_compressed {groups : List Nat} (some : groups ≠ [])
    : '.' ∉ compressed groups := by
  obtain ⟨pieces, shown, _, text⟩ := shownAs_compressed some
  rw [text]
  exact not_mem_intercalate (by decide) (shown.not_mem digitChar_ne_dot)

-----------------------------------------------------------------------------------------
-- Addresses
-----------------------------------------------------------------------------------------

namespace Address

/-- An address of version 4 inside one of version 6. -/
def mapped (a b c d : Nat) : Address :=
  .v6 [0, 0, 0, 0, 0, 0xFFFF, a * 256 + b, c * 256 + d]

/-- The numbers of the address fit into the bits that it has for them. -/
def IsProper : Address → Prop
  | v4 a b c d => ∀ n ∈ [a, b, c, d], n < UInt8.size
  | v6 groups => groups.length = 8 ∧ ∀ group ∈ groups, group < UInt16.size

instance (address : Address) : Decidable address.IsProper :=
  match address with
  | v4 _ _ _ _ => inferInstanceAs (Decidable (∀ _ ∈ _, _))
  | v6 _ => inferInstanceAs (Decidable (_ ∧ _))

/-- The ways in which the groups of an address are shown: with dots or without them. -/
inductive Shows (groups : List Nat) : List Char → Prop where
  | dots (high low : Nat) (inside : groups = [0, 0, 0, 0, 0, 0xFFFF, high, low])
    : Shows groups
        ("::ffff:".toList ++ dotted (high / 256) (high % 256) (low / 256) (low % 256))
  | plain : Shows groups (compressed groups)

theorem shows_toChars (groups : List Nat) : Shows groups (v6 groups).toChars := by
  unfold toChars
  split
  next found => cases found
  next high low found => exact .dots high low (v6.inj found)
  next found =>
    obtain rfl := v6.inj found
    exact .plain

/-- What is shown of groups is no address of version 4. -/
theorem Shows.colon_or_no_dot {groups : List Nat} {text : List Char} (h : Shows groups text)
    (some : groups ≠ [])
    : ':' ∈ text ∨ '.' ∉ text := by
  cases h with
  | dots => exact .inl (List.mem_append_left _ (by decide))
  | plain => exact .inr (dot_not_mem_compressed some)

/-- As many groups are told apart by what is shown of them. -/
theorem Shows.unique {groups others : List Nat} {text textToo : List Char} (one : Shows groups text)
    (other : Shows others textToo) (same : text = textToo) (some : groups ≠ [])
    (length : groups.length = others.length)
    : groups = others := by
  have someToo : others ≠ [] := by
    rintro rfl
    exact some (List.length_eq_zero_iff.mp length)
  cases one with
  | dots high low inside =>
      cases other with
      | dots highToo lowToo insideToo =>
          have numbers := dotted_injective (List.append_cancel_left same)
          obtain ⟨rfl, rfl⟩ : high = highToo ∧ low = lowToo := by
            simp only [List.cons.injEq] at numbers
            omega
          rw [inside, insideToo]
      | plain =>
          have dot : '.' ∈ compressed others :=
            same ▸ List.mem_append_right _ (dot_mem_dotted _ _ _ _)
          exact absurd dot (dot_not_mem_compressed someToo)
  | plain =>
      cases other with
      | dots =>
          have dot : '.' ∈ compressed groups :=
            same ▸ List.mem_append_right _ (dot_mem_dotted _ _ _ _)
          exact absurd dot (dot_not_mem_compressed some)
      | plain => exact compressed_injective some length same

/-- The versions do not share a text. -/
theorem dotted_ne_toChars (a b c d : Nat) {groups : List Nat} (some : groups ≠ [])
    : dotted a b c d ≠ (v6 groups).toChars := by
  intro same
  rcases (shows_toChars groups).colon_or_no_dot some with colon | noDot
  · exact colon_not_mem_dotted a b c d (same ▸ colon)
  · exact noDot (same ▸ dot_mem_dotted a b c d)

/-- Different addresses have different texts. -/
theorem render_injective {address other : Address} (proper : address.IsProper)
    (properToo : other.IsProper) (same : address.render = other.render)
    : address = other := by
  have filled {groups : List Nat} (proper : (v6 groups).IsProper) : groups ≠ [] := by
    rintro rfl
    exact absurd proper.1 (by decide)
  replace same : address.toChars = other.toChars := String.ofList_injective same
  cases address with
  | v4 a b c d =>
      cases other with
      | v4 =>
          have numbers := dotted_injective same
          simp only [List.cons.injEq] at numbers
          rw [v4.injEq]
          exact ⟨numbers.1, numbers.2.1, numbers.2.2.1, numbers.2.2.2.1⟩
      | v6 => exact absurd same (dotted_ne_toChars _ _ _ _ (filled properToo))
  | v6 groups =>
      cases other with
      | v4 => exact absurd same.symm (dotted_ne_toChars _ _ _ _ (filled proper))
      | v6 =>
          exact congrArg v6 ((shows_toChars _).unique (shows_toChars _) same (filled proper)
            (proper.1.trans properToo.1.symm))

end Address

end ChatServer.Net
