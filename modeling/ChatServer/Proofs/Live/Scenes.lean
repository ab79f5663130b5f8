import ChatServer.Proofs.Live.Courses
import ChatServer.Proofs.Live.Dispatches

/-! Scenes from one step to the next. Any session may go on, any fan-out may come to its next sink,
and any session on its way out may come further, in any order, while everything else happens that
can happen in a world. What fan-outs under way have found may be out of date, but it has been true,
and the connection of a session that is out is gone for good.
-/

namespace ChatServer.Live

variable {σ : Type}

/-- What happens in a step: something that a session does, a step of a fan-out, a message of
somebody who is no session, or anything else.
-/
inductive Act where
  /-- A session looks for its mark and finds none. -/
  | passes (number : Nat)
  /-- A session that has found no mark has to wait. -/
  | rests (number : Nat)
  /-- A session goes on. -/
  | goesOn (number : Nat)
  /-- A fan-out comes one step further. -/
  | advances (errand : Errand)
  /-- A session on its way out removes its connection. -/
  | departs (number : Nat)
  /-- A session that is out lets its client know. -/
  | concludes (number : Nat)
  | sends (recipient : String) (message : Delivery)
  | other

/-- The session whose stage or whose way out an act is about. -/
def Act.mover? : Act → Option Nat
  | goesOn number | departs number | concludes number => some number
  | _ => none

/-- The steps that are possible in a scene. -/
inductive Happens (services : Services σ) (elsewhere : σ → σ → Prop) (scene : Scene σ)
    : Act → Scene σ → Prop where
  | passes {number : Nat} (free : scene.isFree number = true)
    (unmarked : scene.world.endpoints.isEvicted number = false)
    : Happens services elsewhere scene (.passes number)
        { scene with passed := number :: scene.passed }
  | rests {number : Nat} (free : scene.isFree number = true) (passed : number ∈ scene.passed)
    (none : scene.world.course services number false = none)
    : Happens services elsewhere scene (.rests number) (scene.acted number)
  | goesOn {number : Nat} {course : Course σ} (free : scene.isFree number = true)
    (taken : scene.world.course services number (scene.finds number) = some course)
    : Happens services elsewhere scene (.goesOn number) (scene.follow number course)
  | advances {front back : List Errand} {errand : Errand}
    (underWay : scene.errands = front ++ errand :: back)
    : Happens services elsewhere scene (.advances errand) (scene.advance front errand back)
  | departs {number : Nat} {session : Session} {ending : Ending}
    (leaving : scene.departures.get? number = some { ending })
    (found : scene.world.sessions.get? number = some session)
    : Happens services elsewhere scene (.departs number) (scene.depart number session ending)
  | concludes {number : Nat} {session : Session} {ending : Ending}
    (out : scene.departures.get? number = some { ending, removed := true })
    (found : scene.world.sessions.get? number = some session)
    : Happens services elsewhere scene (.concludes number) (scene.conclude number session ending)
  | sends (recipient : String) (message : Delivery)
    : Happens services elsewhere scene (.sends recipient message)
        (scene.send none recipient message)
  | aside {event : Event} {next : World σ}
    (occurs : Occurs services elsewhere scene.world event next) (apart : event.isAside = true)
    : Happens services elsewhere scene .other { scene with world := next }

structure Scene.Step (σ : Type) where
  act : Act
  before : Scene σ
  after : Scene σ

/-- The runs from a scene, with the record of their steps. -/
inductive Runs (services : Services σ) (elsewhere : σ → σ → Prop) (origin : Scene σ)
    : List (Scene.Step σ) → Scene σ → Prop where
  | start : Runs services elsewhere origin [] origin
  | goesOn {record : List (Scene.Step σ)} {scene next : Scene σ} {act : Act}
    (run : Runs services elsewhere origin record scene)
    (happens : Happens services elsewhere scene act next)
    : Runs services elsewhere origin (record ++ [⟨act, scene, next⟩]) next

variable {services : Services σ} {elsewhere : σ → σ → Prop}

-----------------------------------------------------------------------------------------
-- From one world to a later one
-----------------------------------------------------------------------------------------

/-- What a later world has kept: numbers of connections and of endpoints are not used again, what is
gone stays gone, what is marked stays marked, and a session keeps its connection.
-/
structure Later (before after : World σ) : Prop where
  tidy : Tidy after
  next : before.exchange.registry.next ≤ after.exchange.registry.next
  keys : ∀ number ∈ before.endpoints.keys, number ∈ after.endpoints.keys
  gone
    : ∀ {id}, id < before.exchange.registry.next → id ∉ before.exchange.registry.ids →
        id ∉ after.exchange.registry.ids
  unconnected
    : ∀ {number session}, before.sessions.get? number = some session →
        before.IsUnconnected number → after.IsUnconnected number
  marked
    : ∀ {number session}, before.sessions.get? number = some session →
        before.endpoints.isEvicted number = true → after.endpoints.isEvicted number = true
  sessions
    : ∀ {number session'}, after.sessions.get? number = some session' →
        (∃ session, before.sessions.get? number = some session
          ∧ session'.connection = session.connection)
        ∨ (number ∉ before.endpoints.keys ∧ session'.stage = .receiving)

/-- A step that adds no connection leads to a later world if the sessions keep their connections. -/
theorem Shrinks.later {before after : World σ} (h : Tidy before) (step : Shrinks before after)
    (sessions : ∀ {number session'}, after.sessions.get? number = some session' →
      ∃ session, before.sessions.get? number = some session
        ∧ session'.identity = session.identity ∧ session'.connection = session.connection)
    : Later before after where
  tidy := h.shrinks step sessions
  next := Nat.le_of_eq step.next.symm
  keys number member := step.alike.keys ▸ member
  gone _ absent member := absent (step.mem_ids h.coherent member)
  unconnected _ unconnected _ _ held := unconnected _ _ (step.sink? held)
  marked _ := step.marks
  sessions found := by
    obtain ⟨session, old, _, connection⟩ := sessions found
    exact .inl ⟨session, old, connection⟩

theorem Shrinks.later_of_same {before after : World σ} (h : Tidy before)
    (step : Shrinks before after) (same : after.sessions = before.sessions)
    : Later before after :=
  step.later h fun {_ session} found => ⟨session, same ▸ found, rfl, rfl⟩

/-- One session may be replaced in the course of the step. -/
theorem Shrinks.later_setSession {before base : World σ} (h : Tidy before)
    (step : Shrinks before base) (same : base.sessions = before.sessions) {number : Nat}
    {session session' : Session} (found : before.sessions.get? number = some session)
    (identity : session'.identity = session.identity)
    (connection : session'.connection = session.connection)
    : Later before (base.setSession number session') := by
  have replaced : Shrinks before (base.setSession number session') :=
    ⟨step.coherent, step.next, step.sink?, step.alike, step.marks⟩
  refine replaced.later h fun {other session''} again => ?_
  rw [World.setSession, Table.get?_set, same] at again
  split at again
  next here =>
    obtain rfl := Option.some.inj again
    exact ⟨session, here ▸ found, identity, connection⟩
  next => exact ⟨session'', again, rfl, rfl⟩

/-- Endpoints stay in every step, by cases on the step. -/
theorem Occurs.mem_keys {world next : World σ} {event : Event} (h : Tidy world)
    (occurs : Occurs services elsewhere world event next) {number : Nat}
    (member : number ∈ world.endpoints.keys)
    : number ∈ next.endpoints.keys := by
  have added {other : Nat} {endpoint : Endpoint}
      : number ∈ (world.endpoints.set other endpoint).keys := by
    rw [Table.keys_set]
    split
    next => exact member
    next => exact List.mem_append_left _ member
  have alike (same : Endpoints.Alike world.endpoints next.endpoints)
      : number ∈ next.endpoints.keys := by
    rwa [same.keys]
  cases occurs with
  | turn taken =>
      obtain ⟨_, _, _, step, _⟩ := World.shrinks_of_turn h.coherent taken
      exact alike step.alike
  | sent recipient message => exact alike (Shrinks.spread h.coherent recipient message).alike
  | fed there goesOn inbound =>
      rw [World.feed_eq there goesOn]
      exact member
  | inputEnded ending =>
      unfold World.endInput
      split <;> exact member
  | took reading => exact alike (world.calm_take reading).alike
  | closed closing => exact alike (.updateChannel world.endpoints closing Channel.close)
  | opened | placed | altered => exact added
  | connected | elsewhere => exact member
  | disconnected identity id =>
      rw [World.endpoints, Exchange.outside_unregister]
      exact member

/-- Every step that is no turn leads to a later world. -/
theorem Occurs.later {world next : World σ} {event : Event} (h : Tidy world)
    (occurs : Occurs services elsewhere world event next) (apart : event.isAside = true)
    : Later world next where
  tidy := occurs.tidy h
  next := (occurs.addsOneAtMost h).next
  keys _ member := occurs.mem_keys h member
  gone := occurs.gone h
  unconnected found := occurs.unconnected h found
  marked found := occurs.stays_marked h found
  sessions {number session'} found := by
    cases before : world.sessions.get? number with
    | none =>
        refine .inr ⟨?_, occurs.receiving_of_absent h before found⟩
        rcases occurs.opened_or_kept h found with ⟨_, _, _, rfl, _⟩ | ⟨old, there, _⟩
        · exact h.freshNumber_not_mem
        · cases before.symm.trans there
    | some session =>
        obtain ⟨again, there, undisturbed⟩ :=
          occurs.undisturbed h before (Event.ne_turn apart number)
        obtain rfl := Option.some.inj (found.symm.trans there)
        exact .inl ⟨session, rfl, undisturbed.connection⟩

-----------------------------------------------------------------------------------------
-- Steps lead to later worlds
-----------------------------------------------------------------------------------------

/-- The world that a session leaves behind when it begins to end. -/
def World.departing (world : World σ) (number : Nat) (ending : Ending) : World σ :=
  (world.updateMetrics (countEnding ending)).updateChannel number Channel.withdraw

theorem World.Calm.departing (world : World σ) (backend : σ) (number : Nat) (ending : Ending)
    : Calm world (({ world with backend } : World σ).departing number ending) := by
  have counted : Calm world (({ world with backend } : World σ).updateMetrics
      (countEnding ending)) := ⟨rfl, rfl, .refl _, fun _ => rfl⟩
  exact counted.trans (.updateChannel _ number Channel.withdraw)

namespace Scene

variable {scene : Scene σ} {number : Nat} {session : Session}

/-- A session that is free to go on is not on its way out. -/
theorem staying_of_isFree (free : scene.isFree number = true)
    : scene.departures.get? number = none := by
  simp only [isFree, Bool.and_eq_true, Option.isNone_iff_eq_none] at free
  exact free.1

theorem endpoints_depart (scene : Scene σ) (number : Nat) (session : Session) (ending : Ending)
    : (scene.depart number session ending).world.endpoints = scene.world.endpoints :=
  Exchange.outside_unregister _ _ _

/-- What a session says when it concludes is no message. -/
theorem contents_conclude (scene : Scene σ) (number : Nat) (session : Session) (ending : Ending)
    (other : Nat)
    : (scene.conclude number session ending).world.endpoints.contents other
      = scene.world.endpoints.contents other := by
  simp only [conclude]
  split
  next => exact World.contents_report _ _ _ _ _ other
  next => rfl

theorem backend_conclude (scene : Scene σ) (number : Nat) (session : Session) (ending : Ending)
    : (scene.conclude number session ending).world.backend = scene.world.backend := by
  simp only [conclude]
  split
  next => exact World.backend_report _ _ _ _ _
  next => rfl

/-- A session that concludes is replaced by one that has ended, and all else is calm. -/
theorem conclude_eq (scene : Scene σ) (number : Nat) (session : Session) (ending : Ending)
    : ∃ base stage, World.Calm scene.world base ∧ Stage.HasEnded stage ending
        ∧ (scene.conclude number session ending).world
          = base.setSession number { session with stage } := by
  simp only [conclude]
  split
  next status _ _ => exact World.report_eq scene.world number session ending status
  next => exact ⟨scene.world, .ended ending, .refl _, .inl rfl, rfl⟩

end Scene

/-- Every step leads to a later world, by cases on the step. -/
theorem Happens.later {scene next : Scene σ} {act : Act} (h : Tidy scene.world)
    (happens : Happens services elsewhere scene act next)
    : Later scene.world next.world := by
  have same : Later scene.world scene.world :=
    Shrinks.later_of_same h ((World.Calm.refl scene.world).shrinks h.coherent) rfl
  cases happens with
  | passes | rests | sends => exact same
  | @goesOn number _ _ taken =>
      obtain ⟨session, channel, found, _, leads⟩ := World.leads_of_course taken
      cases leads with
      | goesOn calm _ _ identity connection =>
          exact Shrinks.later_setSession h (calm.shrinks h.coherent) calm.sessions found identity
            connection
      | delivers =>
          have calm := World.Calm.refl scene.world
          exact Shrinks.later_setSession h (calm.shrinks h.coherent) rfl found rfl rfl
      | ends _ backend _ ending =>
          have calm := World.Calm.departing scene.world backend number ending
          exact Shrinks.later_setSession h (calm.shrinks h.coherent) calm.sessions found rfl rfl
  | @advances front back errand underWay =>
      have advances := scene.world.exchange.advances endpointOps errand.dispatch
      exact Shrinks.later_of_same h (advances.shrinks h.coherent) rfl
  | @departs number session ending leaving found =>
      exact Shrinks.later_of_same h (.disconnect h.coherent _ _) rfl
  | @concludes number session ending out found =>
      obtain ⟨base, stage, calm, _, concluded⟩ := scene.conclude_eq number session ending
      rw [concluded]
      exact Shrinks.later_setSession h (calm.shrinks h.coherent) calm.sessions found rfl rfl
  | aside occurs apart => exact occurs.later h apart

-----------------------------------------------------------------------------------------
-- What a step leaves alone
-----------------------------------------------------------------------------------------

/-- A session that does not move itself is undisturbed, and so is its way out. -/
theorem Happens.undisturbed {scene next : Scene σ} {act : Act} (h : Tidy scene.world)
    (happens : Happens services elsewhere scene act next) {number : Nat} {session : Session}
    (found : scene.world.sessions.get? number = some session) (other : act.mover? ≠ some number)
    : ∃ session', next.world.sessions.get? number = some session'
        ∧ session.Undisturbed session' := by
  have kept : next.world.sessions = scene.world.sessions →
      ∃ session', next.world.sessions.get? number = some session' ∧ session.Undisturbed session' :=
    fun same => ⟨session, same ▸ found, .refl session⟩
  have apart {base : World σ} {mover : Nat} (differ : number ≠ mover) (moved : Session)
      (same : base.sessions = scene.world.sessions)
      : (base.setSession mover moved).sessions.get? number = some session := by
    refine (Table.get?_set _ _ _ _).trans ?_
    rw [if_neg differ, same, found]
  cases happens with
  | passes | rests | sends | advances | departs => exact kept rfl
  | @goesOn mover _ _ taken =>
      have differ : number ≠ mover := fun same => other (same ▸ rfl)
      obtain ⟨turner, channel, _, _, leads⟩ := World.leads_of_course taken
      refine ⟨session, ?_, .refl session⟩
      cases leads with
      | goesOn calm => exact apart differ _ calm.sessions
      | delivers => exact apart differ _ rfl
      | ends _ backend _ ending =>
          exact apart differ _ (World.Calm.departing scene.world backend mover ending).sessions
  | @concludes mover leaver ending =>
      have differ : number ≠ mover := fun same => other (same ▸ rfl)
      obtain ⟨base, stage, calm, _, concluded⟩ := scene.conclude_eq mover leaver ending
      rw [concluded]
      exact ⟨session, apart differ _ calm.sessions, .refl session⟩
  | aside occurs aside => exact occurs.undisturbed h found (Event.ne_turn aside number)

theorem Happens.departures {scene next : Scene σ} {act : Act}
    (happens : Happens services elsewhere scene act next) {number : Nat}
    (other : act.mover? ≠ some number)
    : next.departures.get? number = scene.departures.get? number := by
  cases happens with
  | passes | rests | sends | advances | aside => rfl
  | @goesOn mover course =>
      have differ : number ≠ mover := fun same => other (same ▸ rfl)
      cases course with
      | goesOn | delivers => rfl
      | ends => exact (Table.get?_set _ _ _ _).trans (if_neg differ)
  | @departs mover =>
      have differ : number ≠ mover := fun same => other (same ▸ rfl)
      exact (Table.get?_set _ _ _ _).trans (if_neg differ)
  | @concludes mover =>
      have differ : number ≠ mover := fun same => other (same ▸ rfl)
      exact (Table.get?_erase _ _ _).trans (if_neg differ)

/-- A report is no concern of any mailbox but the session's own. -/
theorem World.channel?_report_of_ne (world : World σ) {number other : Nat} (differ : other ≠ number)
    (session : Session) (ending : Ending) (status : Status)
    : (world.report number session ending status).endpoints.channel? other
      = world.endpoints.channel? other := by
  have apart (change : Channel Item → Channel Item)
      : (world.endpoints.updateChannel number change).channel? other
        = world.endpoints.channel? other := by
    rw [Endpoints.channel?_updateChannel, if_neg differ]
  unfold report
  split
  next =>
    split
    next => rfl
    next => split <;> exact apart _
  next => rfl

/-- All that a step does to the mailbox of a session that does not move itself is to handle it. -/
theorem Happens.handled {scene next : Scene σ} {act : Act} (h : Tidy scene.world)
    (happens : Happens services elsewhere scene act next) {number : Nat} {session : Session}
    (found : scene.world.sessions.get? number = some session) {channel : Channel Item}
    (mailbox : scene.world.endpoints.channel? number = some channel)
    (other : act.mover? ≠ some number)
    : ∃ channel', next.world.endpoints.channel? number = some channel'
        ∧ channel.Handled channel' := by
  have same (untouched : next.world.endpoints.channel? number
      = scene.world.endpoints.channel? number)
      : ∃ channel', next.world.endpoints.channel? number = some channel'
          ∧ channel.Handled channel' :=
    ⟨channel, untouched.trans mailbox, .receives (.none channel)⟩
  cases happens with
  | passes | rests | sends => exact same rfl
  | @goesOn mover _ _ taken =>
      have differ : number ≠ mover := fun same => other (same ▸ rfl)
      obtain ⟨_, _, _, _, leads⟩ := World.leads_of_course taken
      apply same
      cases leads with
      | goesOn _ _ apart => exact apart differ
      | delivers => rfl
      | ends => exact (Endpoints.channel?_updateChannel _ _ _ _).trans (if_neg differ)
  | @advances _ _ errand =>
      obtain ⟨channel', there, received⟩ :=
        (scene.world.exchange.advances endpointOps errand.dispatch).receives mailbox
      exact ⟨channel', there, .receives received⟩
  | departs => exact same (congrArg (Endpoints.channel? · number) (scene.endpoints_depart _ _ _))
  | @concludes mover leaver ending =>
      have differ : number ≠ mover := fun same => other (same ▸ rfl)
      apply same
      simp only [Scene.conclude]
      split
      next => exact World.channel?_report_of_ne _ differ _ _ _
      next => rfl
  | aside occurs aside => exact occurs.handled h aside found mailbox

-----------------------------------------------------------------------------------------
-- Orderly scenes
-----------------------------------------------------------------------------------------

/-- What a fan-out under way knows has been true: the connections that it has found were given, and
one that leads to a session is the session's own. A sink is told when its connection is gone.
-/
structure Dispatch.Traced (world : World σ) (dispatch : Dispatch Nat) : Prop where
  known
    : ∀ {id sink}, (id, sink) ∈ dispatch.known →
        id < world.exchange.registry.next
        ∧ sink ∈ world.endpoints.keys
        ∧ ∀ {session}, world.sessions.get? sink = some session → id = session.connection
  told
    : ∀ {failure failures}, dispatch.phase = .telling failure failures →
        failure.id ∉ world.exchange.registry.ids

/-- A scene in which fan-outs know what has been true, and in which no connection leads to a session
that is out.
-/
structure Orderly (scene : Scene σ) : Prop where
  tidy : Tidy scene.world
  traced : ∀ errand ∈ scene.errands, errand.dispatch.Traced scene.world
  leaving
    : ∀ {number departure}, scene.departures.get? number = some departure →
        ∃ session, scene.world.sessions.get? number = some session ∧ session.stage = .receiving
  out
    : ∀ {number ending}, scene.departures.get? number = some { ending, removed := true } →
        scene.world.IsUnconnected number
  ended
    : ∀ {number session}, scene.world.sessions.get? number = some session →
        session.isRunning = false → scene.world.IsUnconnected number

theorem Orderly.start (backend : σ) (now : Instant)
    : Orderly ({ world := { backend, now } } : Scene σ) where
  tidy := .start backend now
  traced := nofun
  leaving found := by cases found
  out found := by cases found
  ended found := by cases found

namespace Dispatch.Traced

variable {dispatch : Dispatch Nat}

/-- What a fan-out has found stays true of it in a later world. -/
theorem later {before after : World σ} (traced : dispatch.Traced before)
    (later : Later before after)
    : dispatch.Traced after where
  known {id sink} member := by
    obtain ⟨given, there, own⟩ := traced.known member
    refine ⟨Nat.lt_of_lt_of_le given later.next, later.keys _ there, fun {session'} found => ?_⟩
    rcases later.sessions found with ⟨session, old, connection⟩ | ⟨absent, _⟩
    · exact (own old).trans connection.symm
    · exact absurd there absent
  told {failure failures} phase := by
    have known : (failure.id, failure.sink) ∈ dispatch.known := by
      simp [Dispatch.known, phase, Phase.targets, Phase.failures]
    exact later.gone (traced.known known).1 (traced.told phase)

/-- A fan-out finds the connections that there are when it begins. -/
theorem begun {world : World σ} (h : Tidy world) {recipient : String} {message : Delivery}
    (begun : world.exchange.dispatch? recipient message = some dispatch)
    : dispatch.Traced world := by
  simp only [Exchange.dispatch?] at begun
  split at begun
  next => cases begun
  next =>
    obtain rfl := Option.some.inj begun
    refine ⟨fun {id sink} member => ?_, fun phase => by cases phase⟩
    simp only [Dispatch.known, Phase.targets, Phase.failures, List.append_nil, List.map_nil]
      at member
    have held : world.exchange.registry.sink? recipient id = some sink :=
      Table.get?_of_mem (h.coherent.connectionsOf_distinct recipient) member
    exact ⟨h.coherent.lt_next held, h.leads held, fun found => (h.own held found).1⟩

/-- So does one that goes a step further. -/
theorem advance {world : World σ} (h : Tidy world) (traced : dispatch.Traced world)
    {rest : Dispatch Nat} {after : Exchange Nat Endpoints}
    (advances : world.exchange.Advances endpointOps dispatch (some rest) after)
    : rest.Traced { world with exchange := after } := by
  have step := Shrinks.later_of_same h (advances.shrinks h.coherent) rfl
  obtain ⟨_, known⟩ := Dispatch.known_of_advances advances
  exact ⟨fun member => (traced.later step).known (known member),
    advances.gone_of_telling h.coherent⟩

end Dispatch.Traced

namespace Orderly

variable {scene next : Scene σ} {act : Act}

/-- What the fan-outs know of stays true, also of those that have just begun. -/
theorem happens_traced (h : Orderly scene) (happens : Happens services elsewhere scene act next)
    : ∀ errand ∈ next.errands, errand.dispatch.Traced next.world := by
  have later := happens.later h.tidy
  have old {errand : Errand} (member : errand ∈ scene.errands)
      : errand.dispatch.Traced next.world :=
    (h.traced errand member).later later
  have begun {sender? : Option Nat} {recipient : String} {message : Delivery} {errand : Errand}
      (member : errand ∈ (next.world.exchange.dispatch? recipient message).toList.map
        (Errand.mk sender?))
      : errand.dispatch.Traced next.world := by
    obtain ⟨dispatch, begun, rfl⟩ := List.mem_map.mp member
    exact .begun later.tidy (Option.mem_toList.mp begun)
  intro errand member
  cases happens with
  | passes | rests | departs | concludes | aside => exact old member
  | @goesOn number course =>
      cases course with
      | goesOn | ends => exact old member
      | delivers =>
          rcases List.mem_append.mp member with before | new
          · exact old before
          · exact begun new
  | sends =>
      rcases List.mem_append.mp member with before | new
      · exact old before
      · exact begun new
  | @advances front back moving underWay =>
      have among {errand : Errand} (member : errand ∈ front ++ moving :: back)
          : errand ∈ scene.errands :=
        underWay ▸ member
      rcases List.mem_append.mp member with member | after
      · rcases List.mem_append.mp member with before | moved
        · exact old (among (List.mem_append_left _ before))
        · obtain ⟨rest, left, rfl⟩ := List.mem_map.mp moved
          have advances := scene.world.exchange.advances endpointOps moving.dispatch
          have left : (scene.world.exchange.advance endpointOps moving.dispatch).1 = some rest :=
            Option.mem_toList.mp left
          rw [left] at advances
          have traced := h.traced moving (among (List.mem_append_right _ List.mem_cons_self))
          exact traced.advance h.tidy advances
      · exact old (among (List.mem_append_right _ (List.mem_cons_of_mem _ after)))

/-- After its own connection has been removed, no connection leads to a session. -/
theorem unconnected_of_depart (h : Tidy scene.world) {number : Nat} {session : Session}
    (found : scene.world.sessions.get? number = some session) (ending : Ending)
    : (scene.depart number session ending).world.IsUnconnected number := by
  intro identity id held
  have same : (scene.depart number session ending).world.exchange.registry
      = (scene.world.exchange.registry.unregister session.identity session.connection).2 :=
    Exchange.registry_unregister _ _ _
  rw [same, Registry.sink?_unregister] at held
  split at held
  next => cases held
  next differ =>
    obtain ⟨connection, named⟩ := h.own held found
    exact differ ⟨named.trans (h.normal found).symm, connection⟩

/-- What a session does by itself leaves its scene orderly, as far as the session goes. -/
structure Settled (next : Scene σ) (number : Nat) : Prop where
  leaving
    : ∀ {departure}, next.departures.get? number = some departure →
        ∃ session, next.world.sessions.get? number = some session ∧ session.stage = .receiving
  out
    : ∀ {ending}, next.departures.get? number = some { ending, removed := true } →
        next.world.IsUnconnected number
  ended
    : ∀ {session}, next.world.sessions.get? number = some session →
        session.isRunning = false → next.world.IsUnconnected number

/-- A session that moves by itself is settled afterwards, by cases on its move. -/
theorem settled_of_mover (h : Orderly scene) (happens : Happens services elsewhere scene act next)
    {number : Nat} (own : act.mover? = some number)
    : Settled next number := by
  have later := happens.later h.tidy
  cases happens with
  | passes | rests | advances | sends | aside => cases own
  | @goesOn mover course free taken =>
      obtain rfl := Option.some.inj own
      obtain ⟨session, channel, found, _, leads⟩ := World.leads_of_course taken
      have staying {departure : Departure} : scene.departures.get? mover ≠ some departure := by
        rw [Scene.staying_of_isFree free]
        exact (Option.some_ne_none departure).symm
      cases leads with
      | @goesOn base _ _ _ _ _ _ _ moved =>
          refine ⟨fun leaving => absurd leaving staying, fun leaving => absurd leaving staying,
            fun {after} there ended => later.unconnected found (h.ended found ?_)⟩
          obtain rfl := Option.some.inj ((World.get?_setSession base mover _).symm.trans there)
          exact moved.isRunning.symm.trans ended
      | delivers =>
          refine ⟨fun leaving => absurd leaving staying, fun leaving => absurd leaving staying,
            fun {after} there ended => ?_⟩
          have there : (scene.world.enter mover session .receiving).sessions.get? mover
              = some after := there
          obtain rfl := Option.some.inj ((World.get?_setSession _ mover _).symm.trans there)
          cases ended
      | ends running backend input ending =>
          have marked : (scene.departures.set mover { ending }).get? mover = some { ending } := by
            rw [Table.get?_set, if_pos rfl]
          have there := World.get?_setSession
            (({ scene.world with backend } : World σ).departing mover ending) mover
            { session with input, stage := .receiving }
          refine ⟨fun _ => ⟨_, there, rfl⟩, fun out => ?_, fun {after} found ended => ?_⟩
          · cases marked.symm.trans out
          · obtain rfl := Option.some.inj (there.symm.trans found)
            cases ended
  | @departs mover session ending leaving found =>
      obtain rfl := Option.some.inj own
      obtain ⟨session', there, stage⟩ := h.leaving leaving
      have unconnected := unconnected_of_depart h.tidy found ending
      exact ⟨fun _ => ⟨session', there, stage⟩, fun _ => unconnected, fun _ _ => unconnected⟩
  | @concludes mover session ending out found =>
      obtain rfl := Option.some.inj own
      have gone {departure : Departure}
          : (scene.departures.erase mover).get? mover ≠ some departure := by
        rw [Table.get?_erase, if_pos rfl]
        exact (Option.some_ne_none departure).symm
      exact ⟨fun leaving => absurd leaving gone, fun leaving => absurd leaving gone,
        fun _ _ => later.unconnected found (h.out out)⟩

/-- Every step keeps a scene orderly. -/
theorem happens (h : Orderly scene) (happens : Happens services elsewhere scene act next)
    : Orderly next := by
  have later := happens.later h.tidy
  have settled (number : Nat) : Settled next number := by
    by_cases own : act.mover? = some number
    · exact h.settled_of_mover happens own
    · have departures := happens.departures own
      refine ⟨fun leaving => ?_, fun out => ?_, fun {session'} there ended => ?_⟩
      · obtain ⟨session, found, stage⟩ := h.leaving (departures ▸ leaving)
        obtain ⟨session', there, undisturbed⟩ := happens.undisturbed h.tidy found own
        exact ⟨session', there, undisturbed.stage.trans stage⟩
      · have out := departures ▸ out
        obtain ⟨session, found, _⟩ := h.leaving out
        exact later.unconnected found (h.out out)
      · rcases later.sessions there with ⟨session, found, _⟩ | ⟨_, stage⟩
        · obtain ⟨again, same, undisturbed⟩ := happens.undisturbed h.tidy found own
          obtain rfl := Option.some.inj (there.symm.trans same)
          exact later.unconnected found (h.ended found (undisturbed.isRunning ▸ ended))
        · rw [Session.isRunning, Session.ending?, stage] at ended
          cases ended
  exact {
    tidy := later.tidy
    traced := h.happens_traced happens
    leaving := (settled _).leaving
    out := (settled _).out
    ended := (settled _).ended
  }

end Orderly

-----------------------------------------------------------------------------------------
-- Runs
-----------------------------------------------------------------------------------------

/-- What every step keeps in orderly scenes holds throughout a run, by induction on the run. -/
theorem Runs.throughout {origin scene : Scene σ} {record : List (Scene.Step σ)}
    (run : Runs services elsewhere origin record scene) (h : Orderly origin)
    {P : List (Scene.Step σ) → Scene σ → Prop} (starts : P [] origin)
    (goesOn : ∀ {record scene act next}, Orderly scene →
      Happens services elsewhere scene act next → P record scene →
      P (record ++ [⟨act, scene, next⟩]) next)
    : Orderly scene ∧ P record scene := by
  induction run with
  | start => exact ⟨h, starts⟩
  | goesOn _ happens ih => exact ⟨ih.1.happens happens, goesOn ih.1 happens ih.2⟩

/-- A run may go on from where another one has come to, by induction on the later one. -/
theorem Runs.trans {origin scene last : Scene σ} {record later : List (Scene.Step σ)}
    (run : Runs services elsewhere origin record scene)
    (goesOn : Runs services elsewhere scene later last)
    : Runs services elsewhere origin (record ++ later) last := by
  induction goesOn with
  | start => exact (List.append_nil record).symm ▸ run
  | goesOn _ happens ih =>
      rw [← List.append_assoc]
      exact ih.goesOn happens

theorem Happens.runs {scene next : Scene σ} {act : Act}
    (happens : Happens services elsewhere scene act next)
    : Runs services elsewhere scene [⟨act, scene, next⟩] next :=
  .goesOn .start happens

theorem Runs.orderly {origin scene : Scene σ} {record : List (Scene.Step σ)}
    (run : Runs services elsewhere origin record scene) (h : Orderly origin)
    : Orderly scene :=
  (run.throughout h (P := fun _ _ => True) trivial fun _ _ _ => trivial).1

-----------------------------------------------------------------------------------------
-- Runs that are given move by move
-----------------------------------------------------------------------------------------

/-- What somebody in a scene may do next. -/
inductive Move where
  | opens (identity : String) (capacity : Nat)
  | feeds (number : Nat) (inbound : List Inbound)
  | takes (number : Nat)
  | sends (recipient : String) (message : Delivery)
  /-- A session goes on. -/
  | goesOn (number : Nat)
  /-- A session on its way out comes further. -/
  | leaves (number : Nat)
  /-- The fan-out at a place among those under way comes one step further. -/
  | advances (place : Nat)

namespace Scene

/-- Makes a move, if it is possible. -/
def move? (services : Services σ) (scene : Scene σ) : Move → Option (Act × Scene σ)
  | .opens identity capacity =>
    let world := scene.world.openSession scene.world.freshNumber identity capacity true
    some (.other, { scene with world })
  | .feeds number inbound => do
    let session ← scene.world.sessions.get? number
    if session.inputEnded then none
    else some (.other, { scene with world := scene.world.feed number inbound })
  | .takes number => some (.other, { scene with world := (scene.world.take number).2 })
  | .sends recipient message =>
    some (.sends recipient message, scene.send none recipient message)
  | .goesOn number => do
    let course ← scene.world.course services number (scene.finds number)
    if scene.isFree number then some (.goesOn number, scene.follow number course) else none
  | .leaves number => do
    let departure ← scene.departures.get? number
    let session ← scene.world.sessions.get? number
    if departure.removed then
      some (.concludes number, scene.conclude number session departure.ending)
    else some (.departs number, scene.depart number session departure.ending)
  | .advances place => do
    let errand ← scene.errands[place]?
    some (.advances errand,
      scene.advance (scene.errands.take place) errand (scene.errands.drop (place + 1)))

/-- The record of moves that are made one after the other. One that is not possible is left out. -/
def recordOf (services : Services σ) : List Move → Scene σ → List (Scene.Step σ)
  | [], _ => []
  | move :: rest, scene =>
    match scene.move? services move with
    | some (act, next) => ⟨act, scene, next⟩ :: recordOf services rest next
    | none => recordOf services rest scene

end Scene

end ChatServer.Live
