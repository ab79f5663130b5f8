import ChatServer.Proofs.Live.Presence
import ChatServer.Proofs.Text.Normalization

/-! Chronicles: runs with a record of every step, the world before it and the world after it. What
a session has done is read off the record. Anybody may remove a connection here, but the mailbox of
a session is connected by nobody but the session.
-/

namespace ChatServer.Live

variable {σ : Type}

/-- What happens in a step: a turn of a session, something that comes in for one, a message of
somebody who is no session, or anything else.
-/
inductive Event where
  | turn (number : Nat)
  | fed (number : Nat) (inbound : List Inbound)
  | sent (recipient : String) (message : Delivery)
  | other

structure Entry (σ : Type) where
  event : Event
  before : World σ
  after : World σ

/-- The steps that are possible in a world. Sessions take turns, clients send, read and go away,
other sinks come, go and change at will, anybody sends to or removes connections, and the rest of
the service uses the collaborators' state in its own ways.
-/
inductive Occurs (services : Services σ) (elsewhere : σ → σ → Prop) (world : World σ)
    : Event → World σ → Prop where
  | turn {number : Nat} {next : World σ} (taken : world.turn services number = some next)
    : Occurs services elsewhere world (.turn number) next
  | opened (identity : String) (capacity : Nat) (reports : Bool)
    : Occurs services elsewhere world .other
        (world.openSession world.freshNumber identity capacity reports)
  | fed {number : Nat} {session : Session} (found : world.sessions.get? number = some session)
    (goesOn : session.inputEnded = false) (inbound : List Inbound)
    : Occurs services elsewhere world (.fed number inbound) (world.feed number inbound)
  | inputEnded (number : Nat) : Occurs services elsewhere world .other (world.endInput number)
  | took (number : Nat) : Occurs services elsewhere world .other (world.take number).2
  | closed (number : Nat) : Occurs services elsewhere world .other (world.closeMailbox number)
  | placed (endpoint : Endpoint)
    : Occurs services elsewhere world .other
        (world.setEndpoints (world.endpoints.set world.freshNumber endpoint))
  | altered {number : Nat} {old : Endpoint} (foreign : world.sessions.get? number = none)
    (there : world.endpoints.get? number = some old) (endpoint : Endpoint)
    : Occurs services elsewhere world .other
        (world.setEndpoints (world.endpoints.set number endpoint))
  | connected {number : Nat} {old : Endpoint} (foreign : world.sessions.get? number = none)
    (there : world.endpoints.get? number = some old) (identity : String)
    : Occurs services elsewhere world .other
        { world with exchange := (world.exchange.register identity number).2 }
  | disconnected (identity : String) (id : Nat)
    : Occurs services elsewhere world .other
        { world with exchange := (world.exchange.unregister identity id).2 }
  | sent (recipient : String) (message : Delivery)
    : Occurs services elsewhere world (.sent recipient message) (world.spread recipient message)
  | elsewhere {backend : σ} (used : elsewhere world.backend backend) (now : Instant)
    : Occurs services elsewhere world .other { world with backend, now }

/-- The runs from a state of the collaborators, without connections and sessions, with the record
of their steps.
-/
inductive Chronicle (services : Services σ) (elsewhere : σ → σ → Prop) (start : σ)
    : List (Entry σ) → World σ → Prop where
  | start (now : Instant) : Chronicle services elsewhere start [] { backend := start, now }
  | goesOn {history : List (Entry σ)} {world next : World σ} {event : Event}
    (told : Chronicle services elsewhere start history world)
    (occurs : Occurs services elsewhere world event next)
    : Chronicle services elsewhere start (history ++ [⟨event, world, next⟩]) next

section

variable {services : Services σ} {elsewhere : σ → σ → Prop} {start : σ}

/-- The last step of a record leads to its world, and what was recorded before is a record. -/
theorem Chronicle.of_concat {past : List (Entry σ)} {entry : Entry σ} {world : World σ}
    (told : Chronicle services elsewhere start (past ++ [entry]) world)
    : Chronicle services elsewhere start past entry.before
      ∧ Occurs services elsewhere entry.before entry.event entry.after := by
  generalize whole : past ++ [entry] = history at told
  cases told with
  | start => exact absurd whole (List.concat_ne_nil entry past)
  | goesOn told occurs =>
      obtain ⟨rfl, last⟩ := List.append_inj' whole rfl
      obtain rfl := List.singleton_inj.mp last
      exact ⟨told, occurs⟩

/-- Every step of a record was possible after what was recorded before it, by induction on what
was recorded later.
-/
theorem Chronicle.split {past later : List (Entry σ)} {entry : Entry σ} {world : World σ}
    (told : Chronicle services elsewhere start (past ++ entry :: later) world)
    : Chronicle services elsewhere start past entry.before
      ∧ Occurs services elsewhere entry.before entry.event entry.after := by
  generalize whole : past ++ entry :: later = history at told
  induction told generalizing later with
  | start => exact absurd whole (by simp)
  | @goesOn history world next event told occurs ih =>
      rcases List.eq_nil_or_concat later with rfl | ⟨front, last, rfl⟩
      · exact (whole ▸ told.goesOn occurs).of_concat
      · rw [List.concat_eq_append, ← List.cons_append, ← List.append_assoc] at whole
        exact ih (List.append_inj' whole rfl).1

/-- The record of turns of sessions, in an order that is given. A session that waits is left out. -/
def World.recordOf (services : Services σ) : List Nat → World σ → List (Entry σ)
  | [], _ => []
  | number :: rest, world =>
    match world.turn services number with
    | some next => ⟨.turn number, world, next⟩ :: recordOf services rest next
    | none => recordOf services rest world

/-- The world after turns of sessions. -/
def World.afterTurns (services : Services σ) : List Nat → World σ → World σ
  | [], world => world
  | number :: rest, world => afterTurns services rest ((world.turn services number).getD world)

theorem World.turn_of_mem_recordOf {numbers : List Nat} {world : World σ} {entry : Entry σ}
    (member : entry ∈ world.recordOf services numbers)
    : ∃ number, entry.event = .turn number := by
  induction numbers generalizing world with
  | nil => cases member
  | cons number rest ih =>
      rw [World.recordOf] at member
      split at member
      next next taken =>
        rcases List.mem_cons.mp member with rfl | later
        · exact ⟨number, rfl⟩
        · exact ih later
      next => exact ih member

/-- A record goes on with turns of its sessions, by induction on them. -/
theorem Chronicle.turns {history : List (Entry σ)} {world : World σ}
    (told : Chronicle services elsewhere start history world) (numbers : List Nat)
    : Chronicle services elsewhere start (history ++ world.recordOf services numbers)
        (world.afterTurns services numbers) := by
  induction numbers generalizing history world with
  | nil => exact (List.append_nil history).symm ▸ told
  | cons number rest ih =>
      rw [World.recordOf, World.afterTurns]
      cases taken : world.turn services number with
      | none => exact ih told
      | some next =>
          have later := ih (told.goesOn (.turn taken))
          rwa [List.append_assoc] at later

end

-----------------------------------------------------------------------------------------
-- Tidy worlds
-----------------------------------------------------------------------------------------

/-- Endpoints are numbered in order, every session has its mailbox, every connection leads to an
endpoint, and only the session's own connection leads to its mailbox.
-/
structure Tidy (world : World σ) : Prop where
  coherent : world.exchange.registry.Coherent
  numbered : ∀ number ∈ world.endpoints.keys, number ≤ world.endpoints.size
  mailbox
    : ∀ {number session}, world.sessions.get? number = some session →
        (world.endpoints.channel? number).isSome = true
  normal
    : ∀ {number session}, world.sessions.get? number = some session →
        Identity.normalize session.identity = session.identity
  leads
    : ∀ {identity id sink}, world.exchange.registry.sink? identity id = some sink →
        sink ∈ world.endpoints.keys
  own
    : ∀ {identity id sink session}, world.exchange.registry.sink? identity id = some sink →
        world.sessions.get? sink = some session →
        id = session.connection ∧ Identity.normalize identity = session.identity

theorem Tidy.start (backend : σ) (now : Instant) : Tidy ({ backend, now } : World σ) where
  coherent := .empty
  numbered := by simp [World.endpoints, Table.keys]
  mailbox found := by cases found
  normal found := by cases found
  leads found := by cases found
  own found := by cases found

/-- The number of a session is one of an endpoint. -/
theorem Tidy.mem_keys {world : World σ} (h : Tidy world) {number : Nat} {session : Session}
    (found : world.sessions.get? number = some session)
    : number ∈ world.endpoints.keys := by
  obtain ⟨channel, mailbox⟩ := Option.isSome_iff_exists.mp (h.mailbox found)
  exact Table.mem_keys_iff.mpr ⟨_, Endpoints.get?_of_channel? mailbox⟩

/-- No endpoint has the next number. -/
theorem Tidy.freshNumber_not_mem {world : World σ} (h : Tidy world)
    : world.freshNumber ∉ world.endpoints.keys := by
  intro member
  have small := h.numbered _ member
  rw [World.freshNumber] at small
  omega

theorem Tidy.freshNumber_absent {world : World σ} (h : Tidy world)
    : world.sessions.get? world.freshNumber = none := by
  cases found : world.sessions.get? world.freshNumber with
  | none => rfl
  | some session => exact absurd (h.mem_keys found) h.freshNumber_not_mem

/-- A step that adds no connection keeps a world tidy if no session comes or changes its identity
or its connection.
-/
theorem Tidy.shrinks {before after : World σ} (h : Tidy before) (step : Shrinks before after)
    (sessions : ∀ {number session'}, after.sessions.get? number = some session' →
      ∃ session, before.sessions.get? number = some session
        ∧ session'.identity = session.identity ∧ session'.connection = session.connection)
    : Tidy after where
  coherent := step.coherent
  numbered := by
    rw [step.alike.keys, step.alike.size]
    exact h.numbered
  mailbox {number session'} found := by
    obtain ⟨session, old, _⟩ := sessions found
    rw [step.alike.mailbox]
    exact h.mailbox old
  normal {number session'} found := by
    obtain ⟨session, old, identity, _⟩ := sessions found
    rw [identity]
    exact h.normal old
  leads held := by
    rw [step.alike.keys]
    exact h.leads (step.sink? held)
  own {identity id sink session'} held found := by
    obtain ⟨session, old, identity, connection⟩ := sessions found
    rw [identity, connection]
    exact h.own (step.sink? held) old

/-- A step that adds no connection and leaves all sessions as they are. -/
theorem Tidy.shrinks_of_same {before after : World σ} (h : Tidy before)
    (step : Shrinks before after) (same : after.sessions = before.sessions)
    : Tidy after := by
  refine h.shrinks step fun {number session} found => ⟨session, ?_, rfl, rfl⟩
  rw [← same]
  exact found

theorem Tidy.calm {before after : World σ} (h : Tidy before) (calm : World.Calm before after)
    : Tidy after :=
  h.shrinks_of_same (calm.shrinks h.coherent) calm.sessions

/-- One session is replaced by one with the same identity and connection. -/
theorem Tidy.replaces {before after : World σ} (h : Tidy before) (step : Shrinks before after)
    {number : Nat} {session session' : Session}
    (found : before.sessions.get? number = some session)
    (sessions : after.sessions = before.sessions.set number session')
    (identity : session'.identity = session.identity)
    (connection : session'.connection = session.connection)
    : Tidy after := by
  refine h.shrinks step ?_
  intro other session'' again
  rw [sessions, Table.get?_set] at again
  split at again
  next same =>
    subst same
    obtain rfl := Option.some.inj again
    exact ⟨session, found, identity, connection⟩
  next => exact ⟨session'', again, rfl, rfl⟩

/-- A turn adds no connection and replaces its session by one with the same identity and
connection, by cases on its outcome.
-/
theorem World.shrinks_of_turn {services : Services σ} {world next : World σ} {number : Nat}
    (coherent : world.exchange.registry.Coherent)
    (taken : world.turn services number = some next)
    : ∃ session session', world.sessions.get? number = some session
        ∧ Shrinks world next
        ∧ next.sessions = world.sessions.set number session'
        ∧ session'.identity = session.identity
        ∧ session'.connection = session.connection := by
  obtain ⟨session, channel, found, _, turned⟩ := turned_of_turn taken
  refine ⟨session, ?_⟩
  cases turned.outcome with
  | @stays base session' calm identity connection _ _ =>
      have step := calm.shrinks coherent
      refine ⟨session', found, ⟨step.coherent, step.next, step.sink?, step.alike, step.marks⟩, ?_,
        identity, connection⟩
      rw [setSession, calm.sessions]
  | @ends base input stage ending _ _ calm _ =>
      have removal := Shrinks.unregister coherent session.identity session.connection
      have step := calm.shrinks removal.coherent
      refine ⟨{ session with input, stage }, found, ⟨step.coherent, step.next.trans removal.next,
        fun held => removal.sink? (step.sink? held), removal.alike.trans step.alike,
        fun marked => step.marks (removal.marks marked)⟩, ?_, rfl, rfl⟩
      rw [setSession, calm.sessions]
      rfl
  | @spreads recipient message _ _ =>
      have kept : (world.setSession number
          { session with stage := .receiving }).exchange.registry.Coherent := coherent
      have step := Shrinks.spread kept recipient message
      exact ⟨_, found, ⟨step.coherent, step.next, step.sink?, step.alike, step.marks⟩,
        sessions_spread _ _ _, rfl, rfl⟩

/-- An endpoint that is no session's may be put in or altered. -/
theorem Tidy.setEndpoint {world : World σ} (h : Tidy world) {number : Nat}
    (foreign : world.sessions.get? number = none)
    (small : number ≤ world.endpoints.size + 1) (endpoint : Endpoint)
    : Tidy (world.setEndpoints (world.endpoints.set number endpoint)) := by
  have member {other : Nat} (old : other ∈ world.endpoints.keys)
      : other ∈ (world.endpoints.set number endpoint).keys := by
    rw [Table.keys_set]
    split
    next => exact old
    next => exact List.mem_append_left _ old
  refine { h with numbered := ?_, mailbox := ?_, leads := fun held => member (h.leads held) }
  · intro other member
    change other ∈ (world.endpoints.set number endpoint).keys at member
    change other ≤ (world.endpoints.set number endpoint).size
    rw [Table.size_set]
    rw [Table.keys_set] at member
    split at member
    next present =>
      rw [if_pos present]
      exact h.numbered other member
    next absent =>
      rw [if_neg absent]
      rcases List.mem_append.mp member with old | new
      · exact Nat.le_succ_of_le (h.numbered other old)
      · rw [List.mem_singleton.mp new]
        exact small
  · intro other session found
    have differ : other ≠ number := fun same => by
      have found : world.sessions.get? other = some session := found
      rw [same, foreign] at found
      cases found
    change (Endpoints.channel? (world.endpoints.set number endpoint) other).isSome = true
    rw [Endpoints.channel?_set, if_neg differ]
    exact h.mailbox found

/-- A sink that is no session's mailbox may be connected. -/
theorem Tidy.connected {world : World σ} (h : Tidy world) {number : Nat}
    (foreign : world.sessions.get? number = none) (there : number ∈ world.endpoints.keys)
    (identity : String)
    : Tidy { world with exchange := (world.exchange.register identity number).2 } := by
  have either {other : String} {id sink : Nat}
      (held : (world.exchange.registry.register identity number).2.sink? other id = some sink)
      : sink = number ∨ world.exchange.registry.sink? other id = some sink := by
    rw [Registry.sink?_register] at held
    split at held
    next => exact .inl (Option.some.inj held).symm
    next => exact .inr held
  refine { h with coherent := h.coherent.register identity number, leads := ?_, own := ?_ }
  · intro other id sink held
    rcases either held with rfl | old
    · exact there
    · exact h.leads old
  · intro other id sink session held found
    rcases either held with rfl | old
    · exact absurd (foreign.symm.trans found) nofun
    · exact h.own old found

/-- A new session may be registered with a mailbox that nothing leads to. -/
theorem Tidy.registered {world : World σ} (h : Tidy world) {number : Nat}
    (mailbox : (world.endpoints.channel? number).isSome = true)
    (unconnected : ∀ {identity id}, world.exchange.registry.sink? identity id ≠ some number)
    {identity : String} (normal : Identity.normalize identity = identity) (reports : Bool)
    : Tidy (World.setSession { world with exchange := (world.exchange.register identity number).2 }
        number { identity, connection := world.exchange.registry.next, reports }) := by
  let session : Session := { identity, connection := world.exchange.registry.next, reports }
  have sessions : ∀ {other session'},
      (world.sessions.set number session).get? other = some session' →
      (other = number ∧ session' = session)
        ∨ (other ≠ number ∧ world.sessions.get? other = some session') := by
    intro other session' found
    rw [Table.get?_set] at found
    split at found
    next same => exact .inl ⟨same, (Option.some.inj found).symm⟩
    next differ => exact .inr ⟨differ, found⟩
  have connections : ∀ {other id sink},
      (world.exchange.registry.register identity number).2.sink? other id = some sink →
      (sink = number ∧ Identity.normalize other = identity ∧ id = session.connection)
        ∨ (sink ≠ number ∧ world.exchange.registry.sink? other id = some sink) := by
    intro other id sink held
    rw [Registry.sink?_register, normal] at held
    split at held
    next new => exact .inl ⟨(Option.some.inj held).symm, new⟩
    next => exact .inr ⟨fun same => unconnected (same ▸ held), held⟩
  refine {
    coherent := h.coherent.register identity number
    numbered := h.numbered
    mailbox := ?_
    normal := ?_
    leads := ?_
    own := ?_
  }
  · intro other session' found
    rcases sessions found with ⟨rfl, _⟩ | ⟨_, old⟩
    · exact mailbox
    · exact h.mailbox old
  · intro other session' found
    rcases sessions found with ⟨_, rfl⟩ | ⟨_, old⟩
    · exact normal
    · exact h.normal old
  · intro other id sink held
    rcases connections held with ⟨rfl, _⟩ | ⟨_, old⟩
    · obtain ⟨channel, there⟩ := Option.isSome_iff_exists.mp mailbox
      exact Table.mem_keys_iff.mpr ⟨_, Endpoints.get?_of_channel? there⟩
    · exact h.leads old
  · intro other id sink session' held found
    rcases connections held with ⟨rfl, named, given⟩ | ⟨differ, old⟩ <;>
      rcases sessions found with ⟨same, rfl⟩ | ⟨apart, oldSession⟩
    · exact ⟨given, named⟩
    · exact absurd rfl apart
    · exact absurd same differ
    · exact h.own old oldSession

/-- A session may be opened with a mailbox of its own. -/
theorem Tidy.opened {world : World σ} (h : Tidy world) (identity : String) (capacity : Nat)
    (reports : Bool)
    : Tidy (world.openSession world.freshNumber identity capacity reports) := by
  have placed := h.setEndpoint h.freshNumber_absent (Nat.le_refl _) (.mailbox { capacity } false)
  have mailbox : (Endpoints.channel? (world.endpoints.set world.freshNumber
      (.mailbox { capacity } false)) world.freshNumber).isSome = true := by
    rw [Endpoints.channel?_set, if_pos rfl]
    rfl
  have tidy := placed.registered mailbox (fun held => h.freshNumber_not_mem (h.leads held))
    (Identity.normalize_normalize identity) reports
  exact tidy.calm ⟨rfl, rfl, .refl _, fun _ => rfl⟩

/-- A session may be replaced by one with the same identity and connection. -/
theorem Tidy.setSession {world : World σ} (h : Tidy world) {number : Nat} {session : Session}
    (found : world.sessions.get? number = some session) (session' : Session)
    (identity : session'.identity = session.identity)
    (connection : session'.connection = session.connection)
    : Tidy (world.setSession number session') :=
  h.replaces ⟨h.coherent, rfl, id, .refl world.endpoints, id⟩ found rfl identity connection

/-- What comes in for a session is added to its input. -/
theorem World.feed_eq {world : World σ} {number : Nat} {session : Session}
    (found : world.sessions.get? number = some session) (goesOn : session.inputEnded = false)
    (inbound : List Inbound)
    : world.feed number inbound
      = world.setSession number { session with input := session.input ++ inbound } := by
  rw [feed, found]
  simp only [goesOn]
  rfl

/-- Taking an item out of a mailbox is calm. -/
theorem World.calm_take (world : World σ) (number : Nat) : Calm world (world.take number).2 := by
  unfold take
  split
  next => exact .updateChannel world number _
  next => exact .refl world

/-- Every step keeps a world tidy, by cases on the step. -/
theorem Occurs.tidy {services : Services σ} {elsewhere : σ → σ → Prop} {world next : World σ}
    {event : Event} (h : Tidy world) (occurs : Occurs services elsewhere world event next)
    : Tidy next := by
  cases occurs with
  | turn taken =>
      obtain ⟨session, session', found, step, sessions, identity, connection⟩ :=
        World.shrinks_of_turn h.coherent taken
      exact h.replaces step found sessions identity connection
  | opened identity capacity reports => exact h.opened identity capacity reports
  | @fed number session found goesOn inbound =>
      rw [World.feed_eq found goesOn]
      exact h.setSession found _ rfl rfl
  | inputEnded number =>
      unfold World.endInput
      split
      next session found => exact h.setSession found _ rfl rfl
      next => exact h
  | took number => exact h.calm (world.calm_take number)
  | closed number => exact h.calm (.updateChannel world number Channel.close)
  | placed endpoint => exact h.setEndpoint h.freshNumber_absent (Nat.le_refl _) endpoint
  | altered foreign there endpoint =>
      have known := h.numbered _ (Table.mem_keys_iff.mpr ⟨_, there⟩)
      exact h.setEndpoint foreign (Nat.le_succ_of_le known) endpoint
  | connected foreign there identity =>
      exact h.connected foreign (Table.mem_keys_iff.mpr ⟨_, there⟩) identity
  | disconnected identity id =>
      have removed := h.shrinks_of_same (.unregister h.coherent identity id) rfl
      exact removed.calm (.unregister world identity id)
  | sent recipient message =>
      exact h.shrinks_of_same (.spread h.coherent recipient message)
        (world.sessions_spread recipient message)
  | elsewhere _ now => exact h.calm ⟨rfl, rfl, .refl _, fun _ => rfl⟩

/-- A session that is there after a step was there before, with the same identity, or has just been
opened, by cases on the step.
-/
theorem Occurs.opened_or_kept {services : Services σ} {elsewhere : σ → σ → Prop}
    {world next : World σ} {event : Event} (h : Tidy world)
    (occurs : Occurs services elsewhere world event next) {number : Nat} {session : Session}
    (found : next.sessions.get? number = some session)
    : (∃ identity capacity reports,
        number = world.freshNumber
        ∧ next = world.openSession number identity capacity reports)
      ∨ ∃ old, world.sessions.get? number = some old ∧ session.identity = old.identity := by
  have kept {turning : Nat} {old new : Session}
      (there : world.sessions.get? turning = some old)
      (held : (world.sessions.set turning new).get? number = some session)
      (identity : new.identity = old.identity)
      : ∃ old, world.sessions.get? number = some old ∧ session.identity = old.identity := by
    rw [Table.get?_set] at held
    split at held
    next same =>
      obtain rfl := Option.some.inj held
      exact ⟨old, same ▸ there, identity⟩
    next => exact ⟨session, held, rfl⟩
  cases occurs with
  | turn taken =>
      obtain ⟨old, new, there, _, sessions, identity, _⟩ :=
        World.shrinks_of_turn h.coherent taken
      exact .inr (kept there (sessions ▸ found) identity)
  | opened identity capacity reports =>
      by_cases same : number = world.freshNumber
      · exact .inl ⟨identity, capacity, reports, same, same ▸ rfl⟩
      · refine .inr ⟨session, ?_, rfl⟩
        exact ((Table.get?_set _ _ _ _).trans (if_neg same)).symm.trans found
  | fed there goesOn inbound =>
      rw [World.feed_eq there goesOn] at found
      exact .inr (kept there found rfl)
  | inputEnded other =>
      unfold World.endInput at found
      split at found
      next old there => exact .inr (kept there found rfl)
      next => exact .inr ⟨session, found, rfl⟩
  | took other => exact .inr ⟨session, (world.calm_take other).sessions ▸ found, rfl⟩
  | closed | placed | altered | connected | disconnected | elsewhere =>
      exact .inr ⟨session, found, rfl⟩
  | sent recipient message =>
      rw [World.sessions_spread] at found
      exact .inr ⟨session, found, rfl⟩

/-- A session that is there before a step is there afterwards, with the same identity, by cases on
the step.
-/
theorem Occurs.keeps {services : Services σ} {elsewhere : σ → σ → Prop} {world next : World σ}
    {event : Event} (h : Tidy world) (occurs : Occurs services elsewhere world event next)
    {number : Nat} {session : Session} (found : world.sessions.get? number = some session)
    : ∃ later, next.sessions.get? number = some later ∧ later.identity = session.identity := by
  have replaced {turning : Nat} {old new : Session}
      (there : world.sessions.get? turning = some old) (identity : new.identity = old.identity)
      : ∃ later, (world.sessions.set turning new).get? number = some later
          ∧ later.identity = session.identity := by
    rw [Table.get?_set]
    split
    next same =>
      obtain rfl := Option.some.inj (found.symm.trans (same ▸ there))
      exact ⟨new, rfl, identity⟩
    next => exact ⟨session, found, rfl⟩
  cases occurs with
  | turn taken =>
      obtain ⟨old, new, there, _, sessions, identity, _⟩ :=
        World.shrinks_of_turn h.coherent taken
      rw [sessions]
      exact replaced there identity
  | opened identity capacity reports =>
      have differ : number ≠ world.freshNumber := fun same => by
        rw [same, h.freshNumber_absent] at found
        cases found
      exact ⟨session, ((Table.get?_set _ _ _ _).trans (if_neg differ)).trans found, rfl⟩
  | fed there goesOn inbound =>
      rw [World.feed_eq there goesOn]
      exact replaced there rfl
  | inputEnded other =>
      unfold World.endInput
      split
      next old there => exact replaced there rfl
      next => exact ⟨session, found, rfl⟩
  | took other => exact ⟨session, (world.calm_take other).sessions ▸ found, rfl⟩
  | closed | placed | altered | connected | disconnected | elsewhere => exact ⟨session, found, rfl⟩
  | sent recipient message =>
      rw [World.sessions_spread]
      exact ⟨session, found, rfl⟩

/-- Every world of a record is tidy, by induction on the record. -/
theorem Chronicle.tidy {services : Services σ} {elsewhere : σ → σ → Prop} {start : σ}
    {history : List (Entry σ)} {world : World σ}
    (told : Chronicle services elsewhere start history world)
    : Tidy world := by
  induction told with
  | start now => exact .start start now
  | goesOn _ occurs ih => exact occurs.tidy ih

end ChatServer.Live
