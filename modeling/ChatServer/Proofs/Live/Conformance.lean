import ChatServer.Proofs.Live.Protocol

/-! Every run of a session conforms to its protocol. What has been called so far and what is left
make up the protocol for all that has come in, turn by turn, and a session that may go on does so
until it has ended or has to wait for something to come in.
-/

namespace ChatServer.Live

variable {σ : Type}

/-- A run of one session: turns that nothing hinders, and between them something comes in, the
input ends, or anything else happens that leaves the session alone. A run counts the turns and
keeps what has come in and what has been called.
-/
inductive Run (services : Services σ) (number : Nat) (start : World σ)
    : Nat → List Inbound → List Call → World σ → Prop where
  | start : Run services number start 0 [] [] start
  | turn {n items calls world next} (before : Run services number start n items calls world)
    (free : world.isUnhindered number = true) (taken : world.turn services number = some next)
    : Run services number start (n + 1) items (calls ++ world.callsOf services number) next
  | fed {n items calls world} (before : Run services number start n items calls world)
    (inbound : List Inbound) (unended : ∀ session, world.sessions.get? number = some session →
      session.inputEnded = false)
    : Run services number start n (items ++ inbound) calls (world.feed number inbound)
  | inputEnded {n items calls world} (before : Run services number start n items calls world)
    : Run services number start n items calls (world.endInput number)
  | other {n items calls world next} (before : Run services number start n items calls world)
    (apart : next.sessions.get? number = world.sessions.get? number)
    : Run services number start n items calls next

/-- A session has conformed to the protocol so far: whatever is left of it completes what has been
called to the calls of the protocol, and its turns have used up work that came in.
-/
structure Conforming (identity : String) (n : Nat) (items : List Inbound) (calls : List Call)
    (session : Session) : Prop where
  named : session.identity = Identity.normalize identity
  prompt : ∀ message recipient, session.stage ≠ .waiting message recipient
  plan
    : ∀ future, (session.inputEnded = true → future = []) →
        ∀ plan, Remaining session future plan →
          ∃ served, served.map Served.item = items ++ future
            ∧ protocol (Identity.normalize identity) served = (calls ++ plan.1, plan.2)
  bound : n + session.work ≤ 6 * items.length + 2

namespace Conforming

variable {identity : String} {n : Nat} {items : List Inbound} {calls more : List Call}
  {session session' : Session}

/-- A new session has everything before it. -/
theorem opened (identity : String) (connection : Nat) (reports : Bool)
    : Conforming identity 0 [] [] ⟨Identity.normalize identity, connection, reports, [], false,
        .receiving⟩ where
  named := rfl
  prompt _ _ := by simp
  plan future _ plan left := by simpa [Remaining] using left
  bound := by simp [Session.work]

theorem goesOn (h : Conforming identity n items calls session)
    (how : GoesOn session more session')
    : Conforming identity (n + 1) items (calls ++ more) session' := by
  refine ⟨?_, ?_, ?_, ?_⟩
  · cases how <;> exact h.named
  · intro message recipient
    cases how <;> simp
  · intro future final plan left
    have kept : session'.inputEnded = session.inputEnded := by cases how <;> rfl
    obtain ⟨served, same, planned⟩ := h.plan future (kept ▸ final) _ (how.remaining left)
    exact ⟨served, same, by rw [planned, List.append_assoc]⟩
  · have less := how.work_lt
    have bound := h.bound
    omega

theorem ends (h : Conforming identity n items calls session) {ending : Ending}
    (how : EndsWith session more ending) {input : List Inbound}
    (shorter : input.length ≤ session.input.length) {stage : Stage}
    (ended : stage.HasEnded ending)
    : Conforming identity (n + 1) items (calls ++ more) { session with input, stage } := by
  refine ⟨h.named, ?_, ?_, ?_⟩
  · intro message recipient
    rcases ended with rfl | ⟨status, rfl⟩ <;> simp
  · intro future final plan left
    have nothing : plan = ([], ending) := by
      rcases ended with rfl | ⟨status, rfl⟩ <;> exact left
    obtain ⟨served, same, planned⟩ := h.plan future final _ (how.remaining final)
    exact ⟨served, same, by rw [planned, nothing, List.append_nil]⟩
  · -- A session that has ended has one turn left at most, and it had two or more before.
    have left := Session.work_of_hasEnded ended { session with input }
    have running : session.isRunning = true := by
      cases how <;> simp_all [Session.isRunning, Session.ending?]
    have before := Session.work_of_running running
    have bound := h.bound
    simp only at left
    omega

/-- A report does not matter to the protocol. -/
theorem reported (h : Conforming identity n items calls session) {ending : Ending}
    {status : Status} (stage : session.stage = .reporting ending status)
    : Conforming identity (n + 1) items calls { session with stage := .ended ending } where
  named := h.named
  prompt _ _ := by simp
  plan future final plan left := by
    apply h.plan future final plan
    simp only [Remaining, stage]
    exact left
  bound := by
    have bound := h.bound
    simp only [Session.work, stage] at bound ⊢
    omega

theorem fed (h : Conforming identity n items calls session) (inbound : List Inbound)
    (unended : session.inputEnded = false)
    : Conforming identity n (items ++ inbound) calls
        { session with input := session.input ++ inbound } where
  named := h.named
  prompt := h.prompt
  plan future _ plan left := by
    have later : Remaining session (inbound ++ future) plan := by
      simpa only [Remaining, List.append_assoc] using left
    rw [List.append_assoc]
    exact h.plan (inbound ++ future) (by simp [unended]) plan later
  bound := by
    have bound := h.bound
    simp only [Session.work, List.length_append] at bound ⊢
    omega

theorem inputEnded (h : Conforming identity n items calls session)
    : Conforming identity n items calls { session with inputEnded := true } where
  named := h.named
  prompt := h.prompt
  plan future final plan left := h.plan future (fun _ => final rfl) plan left
  bound := h.bound

end Conforming

-----------------------------------------------------------------------------------------
-- Turns and runs
-----------------------------------------------------------------------------------------

namespace World

variable {services : Services σ} {world next : World σ} {number : Nat} {session : Session}

/-- A turn of a session that has ended is a report, and makes no call. -/
theorem turn_of_ended (found : world.sessions.get? number = some session)
    (ended : session.isRunning = false) (taken : world.turn services number = some next)
    : ∃ ending status,
        session.stage = .reporting ending status
        ∧ world.callsOf services number = []
        ∧ next.sessions.get? number = some { session with stage := .ended ending } := by
  obtain ⟨session, channel, again, mailbox, turned⟩ := turned_of_turn taken
  obtain rfl := Option.some.inj (found.symm.trans again)
  cases turned with
  | evicted _ watching =>
      cases stage : session.stage <;>
        simp_all [Session.isRunning, Session.ending?, Stage.isWatchful]
  | outboundCloses acknowledging _ =>
      cases stage : session.stage <;>
        simp_all [Session.isRunning, Session.ending?, Stage.isAcknowledging]
  | inputEnds stage _ _ | inputFails stage _ | takes stage _ | checks stage | stores stage
  | acknowledges stage _ | waits stage _ | fills stage | spreads stage =>
      simp [Session.isRunning, Session.ending?, stage] at ended
  | @reportCloses ending status stage =>
      refine ⟨ending, status, stage, ?_, get?_setSession _ number _⟩
      simp only [callsOf, found, stage]
  | @reports ending status stage =>
      refine ⟨ending, status, stage, ?_, get?_setSession _ number _⟩
      simp only [callsOf, found, stage]

/-- A turn keeps a session conforming, by cases on whether it is still running. -/
theorem conforming_turn {identity : String} {n : Nat} {items : List Inbound} {calls : List Call}
    (found : world.sessions.get? number = some session)
    (h : Conforming identity n items calls session) (free : world.isUnhindered number = true)
    (taken : world.turn services number = some next)
    : ∃ session', next.sessions.get? number = some session'
        ∧ Conforming identity (n + 1) items (calls ++ world.callsOf services number) session' := by
  cases running : session.isRunning with
  | true =>
      cases turn_performed found running h.prompt free taken with
      | goesOn how => exact ⟨_, get?_setSession _ number _, h.goesOn how⟩
      | @ends input ending how shorter =>
          obtain ⟨base, stage, _, ended, same⟩ := finish_eq (world.called services number) number
            { session with input } ending
          rw [same]
          exact ⟨_, get?_setSession _ number _, h.ends how shorter ended⟩
  | false =>
      obtain ⟨ending, status, stage, none, after⟩ := turn_of_ended found running taken
      rw [none, List.append_nil]
      exact ⟨_, after, h.reported stage⟩

/-- A running session that is not hindered takes a turn, unless it waits for something to come
in.
-/
theorem turn_or_idle (services : Services σ) (found : world.sessions.get? number = some session)
    (running : session.isRunning = true) (prompt : ∀ message recipient,
      session.stage ≠ .waiting message recipient)
    (free : world.isUnhindered number = true)
    : (session.stage = .receiving ∧ session.input = [] ∧ session.inputEnded = false)
      ∨ ∃ next, world.turn services number = some next := by
  cases mailbox : world.endpoints.channel? number with
  | none => simp [isUnhindered, found, mailbox] at free
  | some channel =>
      cases taken : world.turn services number with
      | some next => exact .inr ⟨next, rfl⟩
      | none =>
          rcases (rest_of_turn_none found mailbox running taken).2 with idle | ⟨_, _, waiting⟩
          · exact .inl idle
          · exact absurd waiting (prompt _ _)

end World

/-- A run keeps its session conforming, by induction on the run. -/
theorem Run.conforming {services : Services σ} {world final : World σ} {number capacity n : Nat}
    {identity : String} {reports : Bool} {items : List Inbound} {calls : List Call}
    (run : Run services number (world.openSession number identity capacity reports) n items calls
      final)
    : ∃ session, final.sessions.get? number = some session
        ∧ Conforming identity n items calls session := by
  induction run with
  | start =>
      exact ⟨_, World.get?_setSession _ number _, .opened identity _ reports⟩
  | turn _ free taken ih =>
      obtain ⟨session, found, h⟩ := ih
      exact World.conforming_turn found h free taken
  | fed _ inbound unended ih =>
      obtain ⟨session, found, h⟩ := ih
      refine ⟨_, ?_, h.fed inbound (unended session found)⟩
      rw [World.feed, found]
      simp only [unended session found, Bool.false_eq_true, if_false]
      exact World.get?_setSession _ number _
  | inputEnded _ ih =>
      obtain ⟨session, found, h⟩ := ih
      refine ⟨_, ?_, h.inputEnded⟩
      rw [World.endInput, found]
      exact World.get?_setSession _ number _
  | other _ apart ih =>
      obtain ⟨session, found, h⟩ := ih
      exact ⟨session, apart.trans found, h⟩

/-- Every run of a session is its protocol. The calls that it has made are the first ones of the
protocol for what has come in, with the answers that they got; once it has ended, they are all of
them, and it has ended as the protocol has it: well exactly if everything was carried out. The
calls are made on the world as they say. And a session is never stuck: its turns are bounded by
what has come in, and it only ever waits for more.
-/
theorem run_follows_protocol {services : Services σ} {world final : World σ}
    {number capacity n : Nat} {identity : String} {reports : Bool} {items : List Inbound}
    {calls : List Call}
    (run : Run services number (world.openSession number identity capacity reports) n items calls
      final)
    : ∃ session served,
        final.sessions.get? number = some session
        ∧ served.map Served.item = items
        ∧ let plan := protocol (Identity.normalize identity) served
          calls <+: plan.1
            ∧ (∀ ending, session.ending? = some ending → calls = plan.1 ∧ ending = plan.2)
            ∧ (plan.2 = .closed ↔ ∀ one ∈ served, one.isCarriedOut = true)
            ∧ n ≤ 6 * items.length + 2
            ∧ (session.isRunning = true → final.isUnhindered number = true →
              (session.stage = .receiving ∧ session.input = [] ∧ session.inputEnded = false)
              ∨ ∃ next, final.turn services number = some next
                  ∧ World.Performed services final number session next) := by
  obtain ⟨session, found, h⟩ := run.conforming
  obtain ⟨plan, left⟩ := Remaining.exists session []
  obtain ⟨served, same, planned⟩ := h.plan [] (fun _ => rfl) plan left
  rw [List.append_nil] at same
  refine ⟨session, served, found, same, ?_, ?_, protocol_closed_iff, ?_, ?_⟩
  · rw [planned]
    exact List.prefix_append calls plan.1
  · intro ending ended
    have nothing : plan = ([], ending) := by
      unfold Session.ending? at ended
      split at ended
      next stage => cases ended; simpa only [Remaining, stage] using left
      next stage => cases ended; simpa only [Remaining, stage] using left
      next => cases ended
    rw [planned, nothing, List.append_nil]
    exact ⟨rfl, rfl⟩
  · have bound := h.bound
    omega
  · intro running free
    rcases World.turn_or_idle services found running h.prompt free with idle | ⟨next, taken⟩
    · exact .inl idle
    · exact .inr ⟨next, taken, World.turn_performed found running h.prompt free taken⟩

/-- Can a session take some turns one right after the other, with nothing to hinder it? -/
def World.canTake (services : Services σ) (number : Nat) : Nat → World σ → Bool
  | 0, _ => true
  | turns + 1, world =>
    world.isUnhindered number && (world.turn services number).any (canTake services number turns)

/-- The world after some turns of a session. -/
def World.takeTurns (services : Services σ) (number : Nat) : Nat → World σ → World σ
  | 0, world => world
  | turns + 1, world =>
    takeTurns services number turns ((world.turn services number).getD world)

/-- Turns of a session right after one another go on with a run. -/
theorem Run.turns {services : Services σ} {start world : World σ} {number n : Nat}
    {items : List Inbound} {calls : List Call} (turns : Nat)
    (run : Run services number start n items calls world)
    (able : world.canTake services number turns = true)
    : ∃ more, Run services number start (n + turns) items more
        (world.takeTurns services number turns) := by
  induction turns generalizing n calls world with
  | zero => exact ⟨calls, run⟩
  | succ turns ih =>
      simp only [World.canTake, Bool.and_eq_true, Option.any_eq_true] at able
      obtain ⟨free, next, taken, able⟩ := able
      obtain ⟨more, later⟩ := ih (run.turn free taken) able
      refine ⟨more, ?_⟩
      rw [World.takeTurns, taken, Option.getD_some, Nat.add_comm turns 1, ← Nat.add_assoc]
      exact later

/-- A session that carries out one request and ends with its input, after six turns. -/
theorem run_follows_protocol_of_one_request
    : let services : Services Backend := ⟨.fixed ["b"], .recording⟩
      let world : World Backend := { backend := {}, now := ⟨0, 0⟩ }
      let items : List Inbound := [.ok ⟨" B", "hello"⟩]
      ∃ calls final,
        Run services 1 (world.openSession 1 "A" 4 true) 6 items calls final
        ∧ ∃ session served,
            final.sessions.get? 1 = some session
            ∧ session.ending? = some .closed
            ∧ served.map Served.item = items
            ∧ calls = (protocol (Identity.normalize "A") served).1 := by
  intro services world items
  let opened := world.openSession 1 "A" 4 true
  have unended : ∀ session, opened.sessions.get? 1 = some session →
      session.inputEnded = false := by
    intro session found
    cases found.symm.trans (World.get?_setSession _ 1 _)
    rfl
  have fed : Run services 1 opened 0 items [] (opened.feed 1 items) :=
    Run.start.fed items unended
  have able : ((opened.feed 1 items).endInput 1).canTake services 1 6 = true := by
    decide +kernel
  obtain ⟨calls, run⟩ := fed.inputEnded.turns 6 able
  obtain ⟨session, served, found, same, _, ended, _⟩ := run_follows_protocol run
  have closed : ((((opened.feed 1 items).endInput 1).takeTurns services 1 6).sessions.get? 1).map
      Session.ending? = some (some .closed) := by
    decide +kernel
  rw [found, Option.map_some] at closed
  have closed := Option.some.inj closed
  exact ⟨calls, _, run, session, served, found, closed, same, (ended _ closed).1⟩

end ChatServer.Live
