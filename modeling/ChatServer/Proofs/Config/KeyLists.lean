import ChatServer.Proofs.Text.Pieces
import ChatServer.Proofs.Token.Keys

/-! Lists of keys as texts. A key can stand in a list if its id and its secret can be told apart
from each other and from their neighbors; then it is read back from every way of writing it down,
whatever blanks stand around it, and nothing else is ever read.
-/

namespace ChatServer.Config

-----------------------------------------------------------------------------------------
-- What can be written down
-----------------------------------------------------------------------------------------

/-- The id ends at the first colon and the secret at the next comma, and the blanks around both of
them belong to neither. A secret may be empty, hold colons and blanks, and start with a blank.
-/
structure IsListable (key : SigningKey) : Prop where
  named : key.id ≠ ""
  solid : Text.HasSolidEnds key.id.toList
  colon : ':' ∉ key.id.toList
  comma : ',' ∉ key.id.toList
  secretComma : ',' ∉ key.secret.reveal.toList
  secretEnd : ∀ c ∈ key.secret.reveal.toList.getLast?, Text.isBlank c = false

/-- There are keys, each under an id of its own, and each can be listed. -/
structure IsKeyList (keys : List SigningKey) : Prop where
  some : keys ≠ []
  distinct : HasDistinctIds keys
  listable : ∀ key ∈ keys, IsListable key

/-- The piece of a text says the key, with blanks around the whole and behind the id. -/
def IsEntryOf (key : SigningKey) (piece : List Char) : Prop :=
  ∃ before between after, Text.IsBlankText before ∧ Text.IsBlankText between
    ∧ Text.IsBlankText after
    ∧ piece = before ++ (key.id.toList ++ between ++ ':' :: key.secret.reveal.toList) ++ after

/-- The pieces of a text say the keys, in order; other pieces are blank. -/
inductive Lists : List (List Char) → List SigningKey → Prop
  | nil : Lists [] []
  | blank {piece pieces keys} (blank : Text.IsBlankText piece) (rest : Lists pieces keys)
    : Lists (piece :: pieces) keys
  | entry {key piece pieces keys} (entry : IsEntryOf key piece) (rest : Lists pieces keys)
    : Lists (piece :: pieces) (key :: keys)

/-- A key as it is written without blanks. -/
def writeEntry (key : SigningKey) : List Char :=
  key.id.toList ++ ':' :: key.secret.reveal.toList

/-- A list of keys as it is written without blanks. -/
def writeKeys (keys : List SigningKey) : String :=
  .ofList (Text.joinWith ',' (keys.map writeEntry))

-----------------------------------------------------------------------------------------
-- One entry
-----------------------------------------------------------------------------------------

/-- The piece that is written for a key comes down to the key's id, with blanks behind it, and its
secret.
-/
theorem IsListable.trim_piece {key : SigningKey} (listable : IsListable key)
    {before between after : List Char} (blank : Text.IsBlankText before)
    (blankAfter : Text.IsBlankText after)
    : Text.trim
        (before ++ (key.id.toList ++ between ++ ':' :: key.secret.reveal.toList) ++ after)
      = key.id.toList ++ between ++ ':' :: key.secret.reveal.toList := by
  refine Text.trim_between blank (Text.hasSolidEnds_around (by decide) ?_ listable.secretEnd)
    blankAfter
  intro c first
  obtain ⟨d, rest, whole⟩ := List.exists_cons_of_ne_nil
    (mt String.toList_eq_nil_iff.mp listable.named)
  rw [whole] at first
  exact listable.solid.first c (by rwa [whole])

/-- A key that can be listed is read from every piece that says it. -/
theorem IsEntryOf.parseKey {key : SigningKey} {piece : List Char} (entry : IsEntryOf key piece)
    (listable : IsListable key)
    : (Text.trim piece).isEmpty = false ∧ Config.parseKey (Text.trim piece) = .ok key := by
  obtain ⟨before, between, after, blank, blankBetween, blankAfter, rfl⟩ := entry
  rw [listable.trim_piece blank blankAfter]
  have colon : ':' ∉ key.id.toList ++ between :=
    List.not_mem_append listable.colon (blankBetween.not_mem (by decide))
  have id : Text.trim (key.id.toList ++ between) = key.id.toList :=
    Text.trim_between Text.isBlankText_nil listable.solid blankBetween
  have named : key.id.toList.isEmpty = false :=
    List.isEmpty_eq_false_iff.mpr (mt String.toList_eq_nil_iff.mp listable.named)
  refine ⟨by simp, ?_⟩
  rw [Config.parseKey, Text.cut?_append colon]
  simp only [id, named, Bool.false_eq_true, if_false, String.ofList_toList]

/-- What is read from a piece between commas can be listed, and the piece says it. -/
theorem isEntryOf_of_parseKey {key : SigningKey} {piece : List Char} (whole : ',' ∉ piece)
    (parsed : parseKey (Text.trim piece) = .ok key)
    : IsListable key ∧ IsEntryOf key piece := by
  have named := id_ne_empty_of_parseKey parsed
  unfold parseKey at parsed
  split at parsed
  next => cases parsed
  next id secret cut =>
    split at parsed
    next => cases parsed
    next =>
      cases parsed
      obtain ⟨core, colon⟩ := Text.eq_append_of_cut? cut
      obtain ⟨before, after, blank, blankAfter, around⟩ := Text.exists_blanks_trim piece
      obtain ⟨ahead, between, blankAhead, blankBetween, inside⟩ := Text.exists_blanks_trim id
      have solid := Text.solidEnds_trim piece
      rw [core] at solid around
      -- Where a character must not stand in the piece, it does not stand in the id or the secret.
      rw [around] at whole
      simp only [List.mem_append, List.mem_cons, not_or] at whole
      obtain ⟨⟨_, idComma, _, secretComma⟩, _⟩ := whole
      rw [inside] at idComma colon
      simp only [List.mem_append, not_or] at idComma colon
      constructor
      · exact {
          named
          solid := by simpa using Text.solidEnds_trim id
          colon := by simpa using colon.1.2
          comma := by simpa using idComma.1.2
          secretComma := by simpa using secretComma
          secretEnd := fun c last => solid.last c (by
            rw [String.toList_ofList] at last
            simp [List.getLast?_cons, Option.mem_def.mp last])
        }
      · have noneAhead : ahead = [] := by
          -- The piece has been trimmed, so it does not start with blanks that its id could have.
          cases ahead with
          | nil => rfl
          | cons c ahead =>
              have visible := solid.first c (by rw [inside]; rfl)
              rw [blankAhead c List.mem_cons_self] at visible
              cases visible
        refine ⟨before, between, after, blank, blankBetween, blankAfter, ?_⟩
        rw [noneAhead, List.nil_append] at inside
        rw [String.toList_ofList, String.toList_ofList, ← inside, ← around]

-----------------------------------------------------------------------------------------
-- All entries
-----------------------------------------------------------------------------------------

/-- A key is added behind keys that do not have its id. -/
theorem addKey_of_fresh {keys : List SigningKey} {entry : List Char} {key : SigningKey}
    (parsed : parseKey entry = .ok key) (fresh : key.id ∉ keys.map (·.id))
    : addKey keys entry = .ok (keys ++ [key]) := by
  have other : keys.any (·.id == key.id) = false := by
    rw [List.any_eq_false]
    intro earlier member same
    exact fresh (List.mem_map.mpr ⟨earlier, member, beq_iff_eq.mp same⟩)
  rw [addKey, parsed]
  change (if keys.any (·.id == key.id) then _ else _) = _
  rw [other]
  rfl

/-- The entries among pieces of a text: what is left of them when they are trimmed. -/
def entriesAmong (pieces : List (List Char)) : List (List Char) :=
  (pieces.map Text.trim).filter (!·.isEmpty)

theorem entriesAmong_of_blank {piece : List Char} (blank : Text.IsBlankText piece)
    (pieces : List (List Char))
    : entriesAmong (piece :: pieces) = entriesAmong pieces := by
  simp [entriesAmong, blank.trim_eq_nil]

theorem entriesAmong_of_entry {piece : List Char} (entry : (Text.trim piece).isEmpty = false)
    (pieces : List (List Char))
    : entriesAmong (piece :: pieces) = Text.trim piece :: entriesAmong pieces := by
  simp [entriesAmong, entry]

/-- Keys that are listed are added one after the other, by induction on the pieces that say them.
-/
theorem Lists.foldlM_addKey {pieces : List (List Char)} {keys : List SigningKey}
    (lists : Lists pieces keys) (listable : ∀ key ∈ keys, IsListable key)
    {earlier : List SigningKey} (distinct : HasDistinctIds (earlier ++ keys))
    : (entriesAmong pieces).foldlM addKey earlier = .ok (earlier ++ keys) := by
  induction lists generalizing earlier with
  | nil => rw [List.append_nil]; rfl
  | blank blank _ ih => rw [entriesAmong_of_blank blank, ih listable distinct]
  | @entry key piece pieces keys entry _ ih =>
      obtain ⟨here, later⟩ := List.forall_mem_cons.mp listable
      obtain ⟨nonempty, parsed⟩ := entry.parseKey here
      have fresh : key.id ∉ earlier.map (·.id) := by
        unfold HasDistinctIds at distinct
        rw [List.map_append, List.nodup_append] at distinct
        exact fun member => distinct.2.2 key.id member key.id List.mem_cons_self rfl
      have append : earlier ++ key :: keys = earlier ++ [key] ++ keys := by simp
      rw [append] at distinct ⊢
      rw [entriesAmong_of_entry nonempty, List.foldlM_cons, addKey_of_fresh parsed fresh]
      exact ih later distinct

/-- Whatever keys come of pieces between commas, the pieces say them, by induction on the pieces.
-/
theorem lists_of_foldlM_addKey {pieces : List (List Char)} (whole : ∀ piece ∈ pieces, ',' ∉ piece)
    {earlier keys : List SigningKey}
    (folded : (entriesAmong pieces).foldlM addKey earlier = .ok keys)
    : ∃ more, keys = earlier ++ more ∧ Lists pieces more ∧ ∀ key ∈ more, IsListable key := by
  induction pieces generalizing earlier with
  | nil =>
      cases folded
      exact ⟨[], (List.append_nil _).symm, .nil, List.forall_mem_nil _⟩
  | cons piece pieces ih =>
      obtain ⟨here, later⟩ := List.forall_mem_cons.mp whole
      cases nonempty : (Text.trim piece).isEmpty with
      | true =>
          have blank := Text.isBlankText_of_trim_eq_nil (List.isEmpty_iff.mp nonempty)
          rw [entriesAmong_of_blank blank] at folded
          obtain ⟨more, same, lists, listable⟩ := ih later folded
          exact ⟨more, same, .blank blank lists, listable⟩
      | false =>
          rw [entriesAmong_of_entry nonempty] at folded
          obtain ⟨middle, added, folded⟩ := eq_ok_of_bind folded
          obtain ⟨key, parsed, rfl, _⟩ := addKey_eq_ok added
          obtain ⟨listable, entry⟩ := isEntryOf_of_parseKey here parsed
          obtain ⟨more, same, lists, others⟩ := ih later folded
          refine ⟨key :: more, by simp [same], .entry entry lists, ?_⟩
          exact List.forall_mem_cons.mpr ⟨listable, others⟩

-----------------------------------------------------------------------------------------
-- Whole texts
-----------------------------------------------------------------------------------------

/-- No comma stands in what says a key that can be listed. -/
theorem IsEntryOf.not_mem_comma {key : SigningKey} {piece : List Char} (entry : IsEntryOf key piece)
    (listable : IsListable key)
    : ',' ∉ piece := by
  obtain ⟨before, between, after, blank, blankBetween, blankAfter, rfl⟩ := entry
  have solid : Text.isBlank ',' = false := by decide
  simp [blank.not_mem solid, blankBetween.not_mem solid, blankAfter.not_mem solid, listable.comma,
    listable.secretComma]

theorem Lists.not_mem_comma {pieces : List (List Char)} {keys : List SigningKey}
    (lists : Lists pieces keys) (listable : ∀ key ∈ keys, IsListable key)
    : ∀ piece ∈ pieces, ',' ∉ piece := by
  induction lists with
  | nil => exact List.forall_mem_nil _
  | blank blank _ ih =>
      exact List.forall_mem_cons.mpr ⟨blank.not_mem (by decide), ih listable⟩
  | entry entry _ ih =>
      obtain ⟨here, later⟩ := List.forall_mem_cons.mp listable
      exact List.forall_mem_cons.mpr ⟨entry.not_mem_comma here, ih later⟩

/-- A list of keys is read from every text whose pieces say it. -/
theorem Lists.parseKeys {pieces : List (List Char)} {keys : List SigningKey}
    (lists : Lists pieces keys) (proper : IsKeyList keys)
    : Config.parseKeys (.ofList (Text.joinWith ',' pieces)) = .ok keys := by
  have some : pieces ≠ [] := by
    rintro rfl
    cases lists
    exact proper.some rfl
  have entries : keyEntries (Text.joinWith ',' pieces) = entriesAmong pieces := by
    rw [keyEntries, Text.fields_joinWith some (lists.not_mem_comma proper.listable), entriesAmong]
  have folded : (entriesAmong pieces).foldlM addKey [] = .ok keys :=
    lists.foldlM_addKey proper.listable proper.distinct
  rw [Config.parseKeys, String.toList_ofList, entries, folded]
  change (if keys.isEmpty then _ else _) = _
  rw [List.isEmpty_eq_false_iff.mpr proper.some]
  rfl

/-- What is read is a list of keys, and the pieces of the text say it. -/
theorem lists_of_parseKeys {text : String} {keys : List SigningKey}
    (parsed : parseKeys text = .ok keys)
    : IsKeyList keys ∧ Lists (Text.fields ',' text.toList) keys := by
  obtain ⟨distinct, _⟩ := parseKeys_sound parsed
  obtain ⟨read, folded, parsed⟩ := eq_ok_of_bind parsed
  split at parsed
  next => cases parsed
  next some =>
    cases parsed
    obtain ⟨more, rfl, lists, listable⟩ :=
      lists_of_foldlM_addKey (fun _ member => Text.not_mem_of_mem_fields member) folded
    exact ⟨⟨fun none => some (List.isEmpty_iff.mpr none), distinct, listable⟩, lists⟩

/-- What is written without blanks says the keys. -/
theorem lists_map_writeEntry (keys : List SigningKey) : Lists (keys.map writeEntry) keys := by
  induction keys with
  | nil => exact .nil
  | cons key keys ih =>
      refine .entry ⟨[], [], [], Text.isBlankText_nil, Text.isBlankText_nil, Text.isBlankText_nil,
        ?_⟩ ih
      simp [writeEntry]

/-- Lists of keys come back from texts. A list of keys is read, in its order, from any text that is
made of its entries between commas, with blanks around the entries and their ids and with blank
entries among them. Conversely, whatever is read is such a list and the text is such a text of it,
so that writing it and reading it again gives the same keys.
-/
theorem keys_round_trip (keys : List SigningKey)
    : (IsKeyList keys → ∀ pieces, Lists pieces keys →
        parseKeys (.ofList (Text.joinWith ',' pieces)) = .ok keys)
      ∧ ∀ text, parseKeys text = .ok keys →
          IsKeyList keys ∧ Lists (Text.fields ',' text.toList) keys
            ∧ parseKeys (writeKeys keys) = .ok keys := by
  refine ⟨fun proper _ lists => lists.parseKeys proper, fun text parsed => ?_⟩
  obtain ⟨proper, lists⟩ := lists_of_parseKeys parsed
  exact ⟨proper, lists, (lists_map_writeEntry keys).parseKeys proper⟩

/-- A secret with a blank in front and a colon inside, and an empty one, listed with blanks around
the first entry and behind its id, and with two blank entries before the second.
-/
theorem keys_round_trip_of_spaced_list
    : let keys : List SigningKey := [⟨"k1", ⟨" a:b c"⟩⟩, ⟨"k 2", ⟨""⟩⟩]
      let pieces := [" k1\t: a:b c ".toList, [], "\u3000".toList, "k 2:".toList]
      IsKeyList keys ∧ Lists pieces keys
        ∧ parseKeys (.ofList (Text.joinWith ',' pieces)) = .ok keys
        ∧ writeKeys keys = "k1: a:b c,k 2:"
        ∧ parseKeys (writeKeys keys) = .ok keys := by
  intro keys pieces
  have first : IsListable ⟨"k1", ⟨" a:b c"⟩⟩ :=
    ⟨by decide, ⟨Text.solid_of_all (by decide), Text.solid_of_all (by decide)⟩, by decide,
      by decide, by decide, Text.solid_of_all (by decide)⟩
  have second : IsListable ⟨"k 2", ⟨""⟩⟩ :=
    ⟨by decide, ⟨Text.solid_of_all (by decide), Text.solid_of_all (by decide)⟩, by decide,
      by decide, by decide, Text.solid_of_all (by decide)⟩
  have proper : IsKeyList keys := {
    some := List.cons_ne_nil _ _
    distinct := (by decide : ["k1", "k 2"].Nodup)
    listable := List.forall_mem_cons.mpr ⟨first, List.forall_mem_singleton.mpr second⟩
  }
  have blank (c : Char) (isBlank : Text.isBlank c = true) : Text.IsBlankText [c] :=
    List.forall_mem_singleton.mpr isBlank
  have lists : Lists pieces keys :=
    .entry ⟨_, _, _, blank ' ' (by decide), blank '\t' (by decide), blank ' ' (by decide),
        by decide⟩
      (.blank Text.isBlankText_nil (.blank (blank '\u3000' (by decide))
        (.entry ⟨[], [], [], Text.isBlankText_nil, Text.isBlankText_nil, Text.isBlankText_nil,
          by decide⟩ .nil)))
  obtain ⟨reads, comesBack⟩ := keys_round_trip keys
  have read := reads proper pieces lists
  exact ⟨proper, lists, read, by decide +kernel, (comesBack _ read).2.2⟩

end ChatServer.Config
