import ChatServer.Store.Collaborators
import Mathlib.Logic.Function.Defs

/-! Identifiers of messages. Different identifiers are shown differently, and as long as the source
of identifiers does not repeat itself, no two stored messages have the same one, whatever the store
in memory is used for.
-/

namespace ChatServer

-----------------------------------------------------------------------------------------
-- How identifiers are shown
-----------------------------------------------------------------------------------------

namespace Uuid

/-- Different numbers below sixteen have different digits. -/
theorem digit_inj {m n : Nat} (hm : m < 16) (hn : n < 16)
    (same : Char.ofNat (Text.hexByte m).toNat = Char.ofNat (Text.hexByte n).toNat)
    : m = n := by
  have all : ∀ m n : Fin 16,
      Char.ofNat (Text.hexByte m).toNat = Char.ofNat (Text.hexByte n).toNat → m = n := by
    decide
  exact congrArg Fin.val (all ⟨m, hm⟩ ⟨n, hn⟩ same)

/-- Identifiers with the same digits are the same, bit by bit: each bit is one of a digit. -/
theorem simple_injective : Function.Injective simple := by
  intro first second same
  have digits : first.digits = second.digits := String.ofList_injective same
  have digit (i : Nat) (h : i < 32)
      : (first.bits.toNat >>> (4 * (31 - i))) % 2 ^ 4
        = (second.bits.toNat >>> (4 * (31 - i))) % 2 ^ 4 := by
    have shown := List.map_inj_left.mp digits i (List.mem_range.mpr h)
    exact digit_inj (Nat.mod_lt _ (by decide)) (Nat.mod_lt _ (by decide)) shown
  have bits : first.bits.toNat = second.bits.toNat := by
    apply Nat.eq_of_testBit_eq
    intro j
    by_cases small : j < 128
    · have bit := congrArg (·.testBit (j % 4)) (digit (31 - j / 4) (by omega))
      have place : 4 * (31 - (31 - j / 4)) + j % 4 = j := by omega
      have inside : j % 4 < 4 := Nat.mod_lt _ (by decide)
      simpa only [Nat.testBit_mod_two_pow, Nat.testBit_shiftRight, place, inside, decide_true,
        Bool.true_and] using bit
    · have wide := Nat.pow_le_pow_right (Nat.le_succ 1) (Nat.not_lt.mp small)
      rw [Nat.testBit_lt_two_pow (Nat.lt_of_lt_of_le first.bits.isLt wide),
        Nat.testBit_lt_two_pow (Nat.lt_of_lt_of_le second.bits.isLt wide)]
  cases first
  cases second
  exact congrArg mk (BitVec.eq_of_toNat_eq bits)

end Uuid

-----------------------------------------------------------------------------------------
-- What happens to the store
-----------------------------------------------------------------------------------------

namespace Store

/-- What a use of the store in memory does to it. -/
inductive Used (store : Store) : Store → Prop where
  | looked : Used store store
  | created (email passwordHash : String) (now : Instant)
    : Used store (store.createUser email passwordHash now).2
  | persisted (sender recipient content : String) (sentAt : Instant)
    : Used store (store.persist sender recipient content sentAt).2

/-- The identifiers up to a limit are drawn without repetition, and no message has one that is still
to be drawn.
-/
structure IdsFresh (limit : Nat) (store : Store) : Prop where
  draws : ∀ m n, m < limit → n < limit → store.ids.draw m = store.ids.draw n → m = n
  distinct : (store.messages.map (·.id)).Nodup
  unused
    : ∀ message ∈ store.messages, ∀ n, store.ids.used ≤ n → n < limit →
        store.ids.draw n ≠ message.id

/-- A store without messages, whose source of identifiers does not repeat itself. -/
theorem IdsFresh.empty {limit : Nat} {ids : IdSource}
    (draws : ∀ m n, m < limit → n < limit → ids.draw m = ids.draw n → m = n)
    (users : Table String User)
    : IdsFresh limit { users, ids } where
  draws := draws
  distinct := List.nodup_nil
  unused := nofun

/-- Identifiers are only ever used up. -/
theorem Used.ids {before after : Store} (used : Used before after)
    : before.ids.used ≤ after.ids.used := by
  cases used with
  | looked => exact Nat.le_refl _
  | created email passwordHash now =>
      rw [createUser]
      split
      next => exact Nat.le_refl _
      next => exact Nat.le_succ _
  | persisted sender recipient content sentAt => exact Nat.le_succ _

/-- Messages are only ever added, at the end. -/
theorem Used.messages {before after : Store} (used : Used before after)
    : ∃ added, after.messages = before.messages ++ added := by
  cases used with
  | looked => exact ⟨[], (List.append_nil _).symm⟩
  | created email passwordHash now =>
      refine ⟨[], ?_⟩
      rw [List.append_nil, createUser]
      split <;> rfl
  | persisted sender recipient content sentAt => exact ⟨[_], rfl⟩

/-- No use takes a message out of the store. -/
theorem Used.grows {before after : Store} (used : Used before after)
    : ∀ message ∈ before.messages, message ∈ after.messages := by
  intro message member
  obtain ⟨added, adds⟩ := used.messages
  rw [adds]
  exact List.mem_append_left added member

/-- Identifiers stay fresh: a new one has not been given before. -/
theorem IdsFresh.used {limit : Nat} {before after : Store} (h : before.IdsFresh limit)
    (used : Used before after) (bound : after.ids.used ≤ limit)
    : after.IdsFresh limit := by
  cases used with
  | looked => exact h
  | created email passwordHash now =>
      rw [createUser]
      split
      next => exact h
      next =>
        refine { h with unused := fun message member n later => ?_ }
        exact h.unused message member n (Nat.le_of_succ_le later)
  | persisted sender recipient content sentAt =>
      have inside : before.ids.used < limit := bound
      refine ⟨h.draws, ?_, ?_⟩
      · have absent : before.ids.draw before.ids.used ∉ before.messages.map (·.id) := by
          intro member
          obtain ⟨message, stored, same⟩ := List.mem_map.mp member
          exact h.unused message stored _ (Nat.le_refl _) inside same.symm
        simp only [persist, IdSource.next, List.map_append, List.map_cons, List.map_nil]
        exact (List.perm_append_singleton _ _).nodup_iff.mpr
          (List.nodup_cons.mpr ⟨absent, h.distinct⟩)
      · intro message member n later small
        rcases List.mem_append.mp member with old | new
        · exact h.unused message old n (Nat.le_of_succ_le later) small
        · obtain rfl := List.mem_singleton.mp new
          intro same
          have drawn : n = before.ids.used := h.draws n _ small inside same
          change before.ids.used + 1 ≤ n at later
          omega

/-- A stored message is the only one that is shown with its identifier. -/
theorem IdsFresh.only {limit : Nat} {store : Store} (h : store.IdsFresh limit)
    {message : StoredMessage} (member : message ∈ store.messages)
    : store.messages.filter (·.id.simple = message.id.simple) = [message] := by
  obtain ⟨front, back, split⟩ := List.append_of_mem member
  have ids : (message.id :: (front ++ back).map (·.id)).Nodup := by
    have perm : store.messages.Perm (message :: (front ++ back)) := split ▸ List.perm_middle
    exact (perm.map (·.id)).nodup_iff.mp h.distinct
  have others : ∀ other ∈ front ++ back,
      ¬ decide (other.id.simple = message.id.simple) = true := by
    intro other among shown
    have same := Uuid.simple_injective (of_decide_eq_true shown)
    exact (List.nodup_cons.mp ids).1 (same ▸ List.mem_map_of_mem among)
  have none := List.filter_eq_nil_iff.mpr others
  rw [List.filter_append, List.append_eq_nil_iff] at none
  rw [split, List.filter_append, List.filter_cons_of_pos (by simp), none.1, none.2]
  rfl

end Store

end ChatServer
