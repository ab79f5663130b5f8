import ChatServer.Proofs.Live.Reached

/-! Sessions come to rest. Every turn uses up work that came in, so letting sessions take turns for
as long as there was work to do leaves none that could take another.
-/

namespace ChatServer.Live

namespace World

variable {σ : Type} {services : Services σ} {world next : World σ} {number : Nat}

/-- The work of sessions together does not depend on their order. -/
theorem foldr_work_of_perm {first second : List (Nat × Session)} (perm : first.Perm second)
    : first.foldr (fun (_, session) n => session.work + n) 0
      = second.foldr (fun (_, session) n => session.work + n) 0 := by
  refine perm.foldr_eq' ?_ 0
  intro one _ other _ n
  exact Nat.add_left_comm _ _ n

/-- A turn replaces its session by one with less to do. -/
theorem less_work_of_turn (taken : world.turn services number = some next)
    : ∃ session session', world.sessions.get? number = some session
        ∧ next.sessions = world.sessions.set number session'
        ∧ session'.work < session.work := by
  obtain ⟨session, channel, found, _, turned⟩ := turned_of_turn taken
  refine ⟨session, ?_⟩
  cases turned.outcome with
  | stays calm _ _ _ less =>
      exact ⟨_, found, by rw [setSession, calm.sessions], less⟩
  | @ends base input stage ending running shorter calm ended =>
      refine ⟨_, found, by rw [setSession, calm.sessions]; rfl, ?_⟩
      have left := Session.work_of_hasEnded ended { session with input }
      have before := Session.work_of_running running
      simp only at left
      omega
  | spreads _ less => exact ⟨_, found, sessions_spread _ _ _, less⟩

/-- A turn lessens the work of a world, since all other sessions stay as they are. -/
theorem work_lt_of_turn (distinct : world.sessions.Distinct)
    (taken : world.turn services number = some next)
    : next.work < world.work := by
  obtain ⟨session, session', found, sessions, less⟩ := less_work_of_turn taken
  have before := foldr_work_of_perm (Table.perm_of_get? distinct found)
  have after := foldr_work_of_perm (Table.set_perm distinct number session')
  rw [work, work, sessions, before, after]
  exact Nat.add_lt_add_right less _

/-- No session can take a turn. -/
def AtRest (services : Services σ) (world : World σ) : Prop :=
  ∀ number, world.turn services number = none

theorem atRest_of_turnOfAny (none : world.turnOfAny services = none)
    : world.AtRest services := by
  intro number
  cases found : world.sessions.get? number with
  | none => simp [turn, found]
  | some session =>
      exact List.findSome?_eq_none_iff.mp none number (Table.mem_keys_iff.mpr ⟨session, found⟩)

end World

variable {σ : Type} {services : Services σ} {world : World σ} {others : List Nat}

/-- With as many turns as there is work to do, a world comes to rest, by induction on the turns. -/
theorem Reached.runFor (reached : Reached services others world) {n : Nat}
    (enough : world.work ≤ n)
    : Reached services others (world.runFor services n)
      ∧ (world.runFor services n).AtRest services := by
  induction n generalizing world with
  | zero =>
      refine ⟨reached, fun number => ?_⟩
      cases taken : world.turn services number with
      | none => exact taken
      | some next =>
          -- A turn would use up work, of which there is none left.
          have less := World.work_lt_of_turn reached.sound.distinct taken
          omega
  | succ n ih =>
      unfold World.runFor
      split
      next next taken =>
        obtain ⟨number, _, taken⟩ := List.exists_of_findSome?_eq_some taken
        have less := World.work_lt_of_turn reached.sound.distinct taken
        exact ih (reached.turn taken) (by omega)
      next none => exact ⟨reached, World.atRest_of_turnOfAny none⟩

/-- Sessions that take turns until all wait come to rest. -/
theorem Reached.settle (reached : Reached services others world)
    : Reached services others (world.settle services)
      ∧ (world.settle services).AtRest services :=
  reached.runFor (Nat.le_refl _)

end ChatServer.Live
