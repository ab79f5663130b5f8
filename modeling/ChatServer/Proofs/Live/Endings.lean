import ChatServer.Proofs.Live.Census
import ChatServer.Proofs.Live.Scenes

/-! Endings: what a client finds in its mailbox, from the first item to the last. There are messages
for as long as its session goes on. When the session has ended and its status has found room, the
status stands behind all of them. A fan-out that had found the mailbox before its connection was
removed may still put its message in behind the status, but a response ends with its status, so that
nobody reads that any more. The stream closes when the session has ended and the last fan-out has
let go of it.
-/

namespace ChatServer.Live

variable {σ : Type} {services : Services σ} {elsewhere : σ → σ → Prop}

-----------------------------------------------------------------------------------------
-- Responses
-----------------------------------------------------------------------------------------

/-- What stands behind all messages in the mailbox of a session: nothing before its end and after a
clean one, and the status of a failure. A client learns nothing of what broke off but that it did.
-/
def Session.farewell (session : Session) : List Item :=
  match session.stage with
  | .ended (.failed status) => [.failure status]
  | .ended .brokenOff => [.failure ⟨.internal, "Internal server error"⟩]
  | _ => []

theorem Session.farewell_of_running {session : Session} (running : session.isRunning = true)
    : session.farewell = [] := by
  cases stage : session.stage <;>
    simp_all [farewell, isRunning, ending?]

theorem Session.farewell_of_reporting {session : Session} {ending : Ending} {status : Status}
    (stage : session.stage = .reporting ending status)
    : session.farewell = [] := by
  rw [farewell, stage]

/-- The status that a client gets to know is what stands behind all messages. -/
theorem Session.farewell_of_ended (session : Session) (ending : Ending)
    : Session.farewell { session with stage := .ended ending }
      = ending.status?.toList.map .failure := by
  cases ending <;> rfl

-----------------------------------------------------------------------------------------
-- What a session does to its own mailbox
-----------------------------------------------------------------------------------------

/-- The last that a session that reports does on its way out: without a status, or without a client,
nothing more is put into its mailbox; otherwise the status is, at once or as soon as there is room.
-/
inductive Concluded (session : Session) (channel : Channel Item) (ending : Ending)
    : Session → Channel Item → Prop where
  | silently (nothing : ending.status? = none ∨ channel.isOpen = false)
    : Concluded session channel ending { session with stage := .ended ending } channel
  | told {status : Status} (given : ending.status? = some status) (room : channel.hasRoom = true)
    : Concluded session channel ending { session with stage := .ended ending }
        (channel.enqueue (.failure status))
  | inLine {status : Status} (given : ending.status? = some status)
    (there : channel.isOpen = true) (full : channel.hasRoom = false)
    : Concluded session channel ending { session with stage := .reporting ending status }
        channel.await

/-- A session and the channel of its mailbox, as a world has them. -/
def World.Holds (world : World σ) (number : Nat) (session : Session) (channel : Channel Item)
    : Prop :=
  world.sessions.get? number = some session ∧ world.endpoints.channel? number = some channel

theorem World.holds_setSession {world : World σ} {number : Nat} {channel : Channel Item}
    (mailbox : world.endpoints.channel? number = some channel) (session : Session)
    : (world.setSession number session).Holds number session channel :=
  ⟨world.get?_setSession number session, mailbox⟩

theorem World.holds_updateChannel {world : World σ} {number : Nat} {channel : Channel Item}
    (mailbox : world.endpoints.channel? number = some channel)
    (change : Channel Item → Channel Item) (session : Session)
    : ((world.updateChannel number change).setSession number session).Holds number session
        (change channel) := by
  refine holds_setSession ?_ session
  refine (Endpoints.channel?_updateChannel _ _ _ _).trans ?_
  rw [if_pos rfl, mailbox, Option.map_some]

/-- A session that is out concludes, by cases on the status and on the room that there is for it. -/
theorem Scene.concluded {scene : Scene σ} {number : Nat} {session : Session}
    {channel : Channel Item} (mailbox : scene.world.endpoints.channel? number = some channel)
    (reports : session.reports = true) (ending : Ending)
    : ∃ session' channel',
        (scene.conclude number session ending).world.Holds number session' channel'
        ∧ Concluded session channel ending session' channel' := by
  simp only [conclude]
  split
  next status _ given =>
    simp only [World.report, mailbox]
    split
    next gone =>
      have gone : channel.isOpen = false := by simpa using gone
      exact ⟨_, _, World.holds_setSession mailbox _, .silently (.inr gone)⟩
    next there =>
      have there : channel.isOpen = true := by simpa using there
      split
      next room => exact ⟨_, _, World.holds_updateChannel mailbox _ _, .told given room⟩
      next full =>
        have full : channel.hasRoom = false := by simpa using full
        exact ⟨_, _, World.holds_updateChannel mailbox _ _, .inLine given there full⟩
  next nothing =>
    refine ⟨_, _, World.holds_setSession mailbox _, .silently (.inl ?_)⟩
    cases given : ending.status? with
    | none => rfl
    | some status => exact absurd given (nothing status reports)

-----------------------------------------------------------------------------------------
-- What a client reads
-----------------------------------------------------------------------------------------

/-- What a client has taken out of a channel from one state of it to the next: the first item, if
that is gone while the client is still there.
-/
def Channel.takenUntil (before after : Channel Item) : List Item :=
  if after.isOpen && after.queue.length + 1 == before.queue.length then before.queue.take 1
  else []

/-- What the client has taken out of the mailbox of a number in a step. -/
def Scene.Step.taken (step : Scene.Step σ) (number : Nat) : List Item :=
  match step.before.world.endpoints.channel? number, step.after.world.endpoints.channel? number with
  | some before, some after => before.takenUntil after
  | _, _ => []

/-- What the client has taken out of the mailbox of a number in a record. -/
def itemsRead (number : Nat) (record : List (Scene.Step σ)) : List Item :=
  record.flatMap (·.taken number)

/-- A channel that has not become shorter has had nothing taken out. -/
theorem Channel.takenUntil_of_le {before after : Channel Item}
    (longer : before.queue.length ≤ after.queue.length)
    : before.takenUntil after = [] := by
  rw [takenUntil, if_neg]
  simp only [Bool.and_eq_true, beq_iff_eq, not_and]
  omega

theorem Channel.takenUntil_pop {channel : Channel Item} (there : channel.isOpen = true)
    : channel.takenUntil channel.pop.2 = channel.pop.1.toList := by
  unfold takenUntil pop
  split
  next nothing => simp [nothing]
  next item queue found => simp [found, there]

theorem Channel.takenUntil_close (channel : Channel Item)
    : channel.takenUntil channel.close = [] :=
  rfl

/-- What has been read from a channel and what still waits there are messages, and behind them what
the session says at its end, and behind that messages that came too late. Of a client that has gone
this is true of what it has read until then.
-/
def Finds (farewell : List Item) (channel : Channel Item) (read : List Item) : Prop :=
  ∃ messages late : List Delivery,
    (farewell = [] → late = [])
    ∧ read ++ channel.queue <+: messages.map .message ++ farewell ++ late.map .message
    ∧ (channel.isOpen = true →
      read ++ channel.queue = messages.map .message ++ farewell ++ late.map .message)

namespace Finds

variable {farewell read : List Item} {channel after : Channel Item}

/-- As long as nothing is said, there are messages only. -/
theorem messages (h : Finds [] channel read)
    : ∃ messages : List Delivery,
        read ++ channel.queue <+: messages.map .message
        ∧ (channel.isOpen = true → read ++ channel.queue = messages.map .message) := by
  obtain ⟨messages, late, none, first, whole⟩ := h
  obtain rfl := none rfl
  simp only [List.append_nil, List.map_nil] at first whole
  exact ⟨messages, first, whole⟩

/-- Messages and a farewell are put in behind other messages. -/
theorem puts (h : Finds [] channel read) (there : channel.isOpen = true) (added : List Delivery)
    (queue : after.queue = channel.queue ++ (added.map .message ++ farewell))
    : Finds farewell after read := by
  obtain ⟨messages, _, whole⟩ := h.messages
  have items : read ++ after.queue
      = (messages ++ added).map .message ++ farewell ++ ([] : List Delivery).map .message := by
    rw [queue, ← List.append_assoc, whole there, List.map_append, List.map_nil, List.append_nil,
      List.append_assoc]
  exact ⟨messages ++ added, [], fun _ => rfl, items ▸ List.prefix_rfl, fun _ => items⟩

/-- Messages come behind other messages, or too late. -/
theorem receives (h : Finds farewell channel read) (there : channel.isOpen = true)
    (added : List Delivery) (queue : after.queue = channel.queue ++ added.map .message)
    : Finds farewell after read := by
  by_cases silent : farewell = []
  · subst silent
    exact h.puts there added (by rw [queue, List.append_nil])
  · obtain ⟨messages, late, _, _, whole⟩ := h
    have items : read ++ after.queue
        = messages.map .message ++ farewell ++ (late ++ added).map .message := by
      rw [queue, ← List.append_assoc, whole there, List.map_append]
      exact List.append_assoc ..
    exact ⟨messages, late ++ added, fun none => absurd none silent, items ▸ List.prefix_rfl,
      fun _ => items⟩

/-- Whoever has gone away misses the farewell. -/
theorem misses (h : Finds [] channel read) (gone : after.isOpen = false)
    (queue : after.queue = channel.queue)
    : Finds farewell after read := by
  obtain ⟨messages, first, _⟩ := h.messages
  refine ⟨messages, [], fun _ => rfl, ?_, fun there => by cases gone.symm.trans there⟩
  rw [queue, List.append_assoc]
  exact first.trans (List.prefix_append _ _)

theorem of_same (h : Finds farewell channel read) (queue : after.queue = channel.queue)
    (isOpen : after.isOpen = channel.isOpen)
    : Finds farewell after read := by
  rw [Finds, queue, isOpen]
  exact h

/-- Reading moves the first item from what waits to what has been read. -/
theorem pop (h : Finds farewell channel read)
    (emptied : channel.isOpen = false → channel.queue = [])
    : Finds farewell channel.pop.2 (read ++ channel.takenUntil channel.pop.2) := by
  cases there : channel.isOpen with
  | true =>
      rw [Channel.takenUntil_pop there]
      unfold Channel.pop
      split
      next => rwa [Option.toList_none, List.append_nil]
      next item queue found =>
        obtain ⟨messages, late, none, first, whole⟩ := h
        rw [found] at first whole
        refine ⟨messages, late, none, ?_, fun _ => ?_⟩
        · simpa using first
        · simpa using whole there
  | false =>
      have same : channel.pop.2 = channel := by
        unfold Channel.pop
        rw [emptied there]
      rwa [same, Channel.takenUntil_of_le (Nat.le_refl _), List.append_nil]

/-- Whoever goes away loses what it has not read. -/
theorem close (h : Finds farewell channel read) : Finds farewell channel.close read := by
  obtain ⟨messages, late, none, first, _⟩ := h
  refine ⟨messages, late, none, ?_, fun there => by cases there⟩
  rw [Channel.close, List.append_nil]
  exact (List.prefix_append _ _).trans first

end Finds

-----------------------------------------------------------------------------------------
-- Sessions and their mailboxes
-----------------------------------------------------------------------------------------

/-- How a session stands with its mailbox and with what its client has read. Only a session in line
for room has a place in the channel or waits for one, and then there is something to read.
-/
structure InService (session : Session) (channel : Channel Item) (read : List Item) : Prop where
  reports : session.reports = true
  roomy : 0 < channel.capacity
  items : Finds session.farewell channel read
  emptied : channel.isOpen = false → channel.queue = []
  free : channel.isOpen = true → session.stage.isInLine = false → channel.owner = .idle
  inLine
    : channel.isOpen = true → session.stage.isInLine = true →
        channel.owner = .granted ∨ (channel.owner = .waiting ∧ channel.queue ≠ [])
  status
    : ∀ {ending status}, session.stage = .reporting ending status → ending.status? = some status

/-- A channel without room for a sender that has no place in it has something to read. -/
theorem Channel.queue_ne_nil_of_full {ι : Type} {channel : Channel ι} (roomy : 0 < channel.capacity)
    (there : channel.isOpen = true) (full : channel.hasRoom = false)
    (idle : channel.owner = .idle)
    : channel.queue ≠ [] := by
  intro nothing
  simp [hasRoom, there, taken, nothing, idle, Turn.places] at full
  omega

namespace InService

variable {session session' : Session} {channel channel' : Channel Item} {read : List Item}

/-- Of a session, only its stage and whether it reports matter here. -/
theorem of_stage (h : InService session channel read) (stage : session'.stage = session.stage)
    (reports : session'.reports = session.reports)
    : InService session' channel read where
  reports := reports.trans h.reports
  roomy := h.roomy
  items := by
    rw [Session.farewell, stage]
    exact h.items
  emptied := h.emptied
  free there free := h.free there (stage ▸ free)
  inLine there waits := h.inLine there (stage ▸ waits)
  status reporting := h.status (stage.symm.trans reporting)

/-- A running session may go from one stage to another, if it waits for no room at either. -/
theorem goesOn (h : InService session channel read) (reports : session'.reports = session.reports)
    (running : session.isRunning = true) (free : session.stage.isInLine = false)
    (stillRunning : session'.isRunning = true) (stillFree : session'.stage.isInLine = false)
    : InService session' channel read where
  reports := reports.trans h.reports
  roomy := h.roomy
  items := by
    rw [Session.farewell_of_running stillRunning]
    exact Session.farewell_of_running running ▸ h.items
  emptied := h.emptied
  free there _ := h.free there free
  inLine _ waits := by cases stillFree.symm.trans waits
  status stage := by
    rw [stage] at stillFree
    cases stillFree

/-- Messages may come in at any time. -/
theorem receives (h : InService session channel read) (received : channel.Receives channel')
    : InService session channel' read ∧ channel.takenUntil channel' = [] := by
  obtain ⟨added, rfl, possible⟩ := received
  refine ⟨⟨h.reports, h.roomy, ?_, fun gone => ?_, h.free, fun there waits => ?_, h.status⟩,
    Channel.takenUntil_of_le (by simp)⟩
  · by_cases nothing : added = []
    · exact h.items.of_same (by rw [nothing]; exact List.append_nil _) rfl
    · exact h.items.receives (possible nothing) added rfl
  · have nothing : added = [] := by
      by_contra some
      cases (possible some).symm.trans gone
    rw [nothing]
    exact (List.append_nil _).trans (h.emptied gone)
  · refine (h.inLine there waits).imp_right (And.imp_right fun some => ?_)
    exact List.append_ne_nil_of_left_ne_nil some _

/-- What the client takes out is what it has read, and makes room for a session in line. -/
theorem popped (h : InService session channel read)
    : InService session channel.pop.2 (read ++ channel.takenUntil channel.pop.2) := by
  have items := h.items.pop h.emptied
  unfold Channel.pop at items ⊢
  split at items
  next => exact ⟨h.reports, h.roomy, items, h.emptied, h.free, h.inLine, h.status⟩
  next item queue found =>
    have there : channel.isOpen = true := by
      by_contra gone
      rw [h.emptied (by simpa using gone)] at found
      cases found
    refine ⟨h.reports, h.roomy, items, fun gone => ?_, fun _ free => ?_, fun _ waits => ?_,
      h.status⟩
    · cases there.symm.trans gone
    · rw [h.free there free]
      rfl
    · -- Whoever waited has the place now.
      left
      rcases h.inLine there waits with granted | ⟨waiting, _⟩
      · rw [granted]
        rfl
      · rw [waiting]
        rfl

/-- A session that begins to end gives up its place in line. -/
theorem withdraws (h : InService session channel read) (running : session.isRunning = true)
    (input : List Inbound)
    : InService { session with input, stage := .receiving } channel.withdraw read
      ∧ channel.takenUntil channel.withdraw = [] := by
  have items : Finds [] channel read := Session.farewell_of_running running ▸ h.items
  exact ⟨⟨h.reports, h.roomy, items.of_same rfl rfl, h.emptied, fun _ _ => rfl,
    fun _ waits => (by cases waits), fun stage => (by cases stage)⟩,
    Channel.takenUntil_of_le (Nat.le_refl _)⟩

/-- The last that a session does on its way out keeps its mailbox in service, by cases on how it
concludes.
-/
theorem concludes (h : InService session channel read) (stage : session.stage = .receiving)
    {ending : Ending} (concluded : Concluded session channel ending session' channel')
    : InService session' channel' read ∧ channel.takenUntil channel' = [] := by
  have running : session.isRunning = true := Session.isRunning_of_stage stage rfl
  have items : Finds [] channel read := Session.farewell_of_running running ▸ h.items
  have unread : channel.takenUntil channel = [] := Channel.takenUntil_of_le (Nat.le_refl _)
  cases concluded with
  | silently nothing =>
      refine ⟨⟨h.reports, h.roomy, ?_, h.emptied, fun there _ => h.free there (stage ▸ rfl),
        fun _ waits => (by cases waits), fun stage => (by cases stage)⟩, unread⟩
      rcases nothing with none | gone
      · rw [Session.farewell_of_ended, none]
        exact items
      · exact items.misses gone rfl
  | @told status given room =>
      have there : channel.isOpen = true := by
        simp only [Channel.hasRoom, Bool.and_eq_true] at room
        exact room.1
      refine ⟨⟨h.reports, h.roomy, ?_, fun gone => ?_, fun there _ => h.free there (stage ▸ rfl),
        fun _ waits => (by cases waits), fun stage => (by cases stage)⟩,
        Channel.takenUntil_of_le (by simp [Channel.enqueue])⟩
      · rw [Session.farewell_of_ended, given]
        exact items.puts there [] rfl
      · cases there.symm.trans gone
  | @inLine status given there full =>
      have waits : channel.queue ≠ [] :=
        Channel.queue_ne_nil_of_full h.roomy there full (h.free there (stage ▸ rfl))
      refine ⟨⟨h.reports, h.roomy, items.of_same rfl rfl, h.emptied, fun _ free => (by cases free),
        fun _ _ => .inr ⟨rfl, waits⟩, fun stage => ?_⟩, Channel.takenUntil_of_le (Nat.le_refl _)⟩
      cases stage
      exact given

/-- So does what a session does when it goes on by itself, by cases on that. -/
theorem moves (h : InService session channel read)
    (moved : Moved session channel session' channel')
    : InService session' channel' read ∧ channel.takenUntil channel' = [] := by
  have running {stage : Stage} (there : session.stage = stage)
      (going : ({ session with stage } : Session).isRunning = true)
      : Finds [] channel read :=
    Session.farewell_of_running (Session.isRunning_of_stage there going) ▸ h.items
  have unread : channel.takenUntil channel = [] := Channel.takenUntil_of_le (Nat.le_refl _)
  have longer (item : Item) : channel.takenUntil (channel.enqueue item) = [] :=
    Channel.takenUntil_of_le (by simp [Channel.enqueue])
  cases moved with
  | goesOn reports going free stillGoing stillFree =>
      exact ⟨h.goesOn reports going free stillGoing stillFree, unread⟩
  | @acknowledges message recipient stage room =>
      have there : channel.isOpen = true := by
        simp only [Channel.hasRoom, Bool.and_eq_true] at room
        exact room.1
      have items : Finds [] (channel.enqueue (.message message)) read :=
        (running stage rfl).puts there [message] rfl
      refine ⟨⟨h.reports, h.roomy, items, fun gone => ?_, fun _ _ => ?_,
        fun _ waits => (by cases waits), fun stage => (by cases stage)⟩, longer _⟩
      · cases there.symm.trans gone
      · exact h.free there (stage ▸ rfl)
  | getsInLine stage there full =>
      have waits := Channel.queue_ne_nil_of_full h.roomy there full (h.free there (stage ▸ rfl))
      exact ⟨⟨h.reports, h.roomy, (running stage rfl).of_same rfl rfl, h.emptied,
        fun _ free => (by cases free), fun _ _ => .inr ⟨rfl, waits⟩, fun stage => (by cases stage)⟩,
        unread⟩
  | @fills message recipient stage there granted =>
      have items : Finds [] (channel.fill (.message message)) read :=
        (running stage rfl).puts there [message] rfl
      refine ⟨⟨h.reports, h.roomy, items, fun gone => ?_, fun _ _ => rfl,
        fun _ waits => (by cases waits), fun stage => (by cases stage)⟩, longer _⟩
      cases there.symm.trans gone
  | leaves stage gone =>
      refine ⟨⟨h.reports, h.roomy, ?_, h.emptied, fun there => ?_, fun _ waits => (by cases waits),
        fun stage => (by cases stage)⟩, unread⟩
      · exact (Session.farewell_of_reporting stage ▸ h.items).misses gone rfl
      · cases gone.symm.trans there
  | @reports ending status stage there granted =>
      refine ⟨⟨h.reports, h.roomy, ?_, fun gone => ?_, fun _ _ => rfl,
        fun _ waits => (by cases waits), fun stage => (by cases stage)⟩, longer _⟩
      · rw [Session.farewell_of_ended, h.status stage]
        exact (Session.farewell_of_reporting stage ▸ h.items).puts there [] rfl
      · cases there.symm.trans gone

/-- What others do keeps a mailbox in service as well, and gives the client what it takes. -/
theorem handled (h : InService session channel read) (handled : channel.Handled channel')
    : InService session channel' (read ++ channel.takenUntil channel') := by
  cases handled with
  | receives received =>
      obtain ⟨serves, nothing⟩ := h.receives received
      rwa [nothing, List.append_nil]
  | popped => exact h.popped
  | closed =>
      rw [Channel.takenUntil_close, List.append_nil]
      exact ⟨h.reports, h.roomy, h.items.close, fun _ => rfl, fun there => (by cases there),
        fun there => (by cases there), h.status⟩

end InService

-----------------------------------------------------------------------------------------
-- The end of a stream
-----------------------------------------------------------------------------------------

/-- An endpoint is registered if and only if a connection leads there. -/
theorem World.isRegistered_iff {world : World σ} (coherent : world.exchange.registry.Coherent)
    {number : Nat}
    : world.isRegistered number = true ↔ ¬ world.IsUnconnected number := by
  simp only [isRegistered, List.any_eq_true, beq_iff_eq, IsUnconnected, not_forall, not_not]
  constructor
  · rintro ⟨entry, member, ⟨id, sink⟩, connection, rfl⟩
    refine ⟨entry.1, id, ?_⟩
    have distinct := coherent.connectionsOf_distinct entry.1
    rw [Registry.sink?]
    rw [coherent.connectionsOf_entry member] at distinct ⊢
    exact Table.get?_of_mem distinct connection
  · rintro ⟨identity, id, held⟩
    have key : Identity.normalize identity ∈ world.exchange.registry.connections.keys := by
      rw [coherent.mem_keys_iff, Identity.normalize_normalize]
      refine ⟨rfl, ?_⟩
      rw [Registry.isConnected_iff, Registry.connectionsOf_normalize]
      exact List.ne_nil_of_mem (Table.mem_of_get? held)
    obtain ⟨entry, member, named⟩ := List.mem_map.mp key
    refine ⟨entry, member, (id, number), ?_, rfl⟩
    rw [← coherent.connectionsOf_entry member, named, Registry.connectionsOf_normalize]
    exact Table.mem_of_get? held

/-- The stream of a session is open until the session has ended and has nothing left to report, and
as long as a fan-out holds on to its mailbox.
-/
theorem Orderly.isLive_iff {scene : Scene σ} (h : Orderly scene) {number : Nat} {session : Session}
    (found : scene.world.sessions.get? number = some session)
    : scene.isLive number = true
      ↔ (∀ ending, session.stage ≠ .ended ending)
        ∨ ∃ errand ∈ scene.errands, errand.dispatch.holds number = true := by
  have connected : scene.world.isRegistered number = true ↔ ¬ scene.world.IsUnconnected number :=
    World.isRegistered_iff h.tidy.coherent
  rw [Scene.isLive, Bool.or_eq_true, List.any_eq_true, World.isLive, found]
  refine or_congr_left ?_
  cases stage : session.stage with
  | ended ending =>
      have ended : session.isRunning = false := by
        rw [Session.isRunning, Session.ending?, stage]
        rfl
      have unregistered : scene.world.isRegistered number = false :=
        Bool.eq_false_iff.mpr fun registered => connected.mp registered (h.ended found ended)
      simp [unregistered, stage]
  | _ => simp [stage]

/-- How many steps the fan-outs under way still take at most. -/
def Scene.stepsLeft (scene : Scene σ) : Nat :=
  scene.errands.foldr (fun errand steps => errand.dispatch.left + steps) 0

/-- A step of the first fan-out leaves fewer steps. -/
theorem Scene.stepsLeft_advance {scene : Scene σ} {errand : Errand} {back : List Errand}
    (underWay : scene.errands = errand :: back)
    : (scene.advance [] errand back).stepsLeft < scene.stepsLeft := by
  have fewer := Dispatch.left_of_advances
    (scene.world.exchange.advances endpointOps errand.dispatch)
  rw [stepsLeft, stepsLeft, underWay, List.foldr_cons]
  simp only [advance]
  revert fewer
  cases (scene.world.exchange.advance endpointOps errand.dispatch).1 with
  | none => exact Nat.lt_add_of_pos_left
  | some rest => exact fun fewer => Nat.add_lt_add_right fewer _

/-- The fan-outs under way can always go on, and the stream of a session that has ended is closed
when they are done; by induction on the steps that they have left.
-/
theorem Orderly.closes {scene : Scene σ} (h : Orderly scene) {number : Nat} {session : Session}
    (found : scene.world.sessions.get? number = some session) {ending : Ending}
    (ended : session.stage = .ended ending)
    : ∃ record closed,
        Runs services elsewhere scene record closed
        ∧ (∀ step ∈ record, ∃ errand, step.act = .advances errand)
        ∧ closed.isLive number = false := by
  induction steps : scene.stepsLeft using Nat.strong_induction_on generalizing scene session with
  | _ left ih =>
      cases underWay : scene.errands with
      | nil =>
          refine ⟨[], scene, .start, nofun, Bool.eq_false_iff.mpr fun live => ?_⟩
          rcases (h.isLive_iff found).mp live with goesOn | ⟨errand, member, _⟩
          · exact goesOn ending ended
          · rw [underWay] at member
            cases member
      | cons errand back =>
          have happens : Happens services elsewhere scene (.advances errand)
              (scene.advance [] errand back) :=
            .advances underWay
          obtain ⟨session', there, undisturbed⟩ := happens.undisturbed h.tidy found nofun
          have nearer : (scene.advance [] errand back).stepsLeft < left :=
            steps ▸ Scene.stepsLeft_advance underWay
          obtain ⟨record, closed, run, fanouts, silent⟩ :=
            ih _ nearer (h.happens happens) there (undisturbed.stage.trans ended) rfl
          refine ⟨_, closed, happens.runs.trans run, fun step member => ?_, silent⟩
          rcases List.mem_cons.mp member with rfl | later
          · exact ⟨errand, rfl⟩
          · exact fanouts step later

/-- A session that cannot go on although its client has read everything waits for its client, or has
ended; by cases on where it is.
-/
theorem InService.rest {world : World σ} {number : Nat} {session : Session} {channel : Channel Item}
    {read : List Item} {evicted : Bool} (h : InService session channel read)
    (holds : world.Holds number session channel) (there : channel.isOpen = true)
    (nothing : channel.queue = []) (none : world.course services number evicted = none)
    : (session.stage = .receiving ∧ session.input = [] ∧ session.inputEnded = false)
      ∨ ∃ ending, session.stage = .ended ending := by
  obtain ⟨found, mailbox⟩ := holds
  simp only [World.course, found, mailbox, Option.bind_eq_bind, Option.bind_some] at none
  have granted (waits : session.stage.isInLine = true) : channel.owner = .granted :=
    (h.inLine there waits).resolve_right fun waiting => waiting.2 nothing
  cases stage : session.stage with
  | receiving =>
      simp only [stage] at none
      split at none
      next => cases none
      next =>
        split at none
        next input =>
          split at none
          next => cases none
          next goesOn => exact .inl ⟨rfl, input, by simpa using goesOn⟩
        next => cases none
        next => cases none
  | checking | storing | spreading => simp [stage] at none
  | acknowledging =>
      simp only [stage] at none
      split at none
      next => cases none
      next =>
        split at none
        next => cases none
        next => split at none <;> cases none
  | waiting =>
      simp only [stage] at none
      split at none
      next => cases none
      next => simp [there, granted (stage ▸ rfl)] at none
  | reporting => simp [stage, there, granted (stage ▸ rfl)] at none
  | ended ending => exact .inr ⟨ending, rfl⟩

theorem InService.opened {identity : String} {connection capacity : Nat}
    (possible : isCapacity capacity = true)
    : InService { identity, connection, reports := true } { capacity } [] where
  reports := rfl
  roomy := by
    simp only [isCapacity, Bool.and_eq_true, decide_eq_true_eq] at possible
    exact possible.1
  items := ⟨[], [], fun _ => rfl, List.prefix_rfl, fun _ => rfl⟩
  emptied gone := by cases gone
  free _ _ := rfl
  inLine _ waits := by cases waits
  status stage := by cases stage

/-- Every step keeps the mailbox of a session in service, by cases on whether the session moves
itself.
-/
theorem InService.step {scene next : Scene σ} {act : Act} {number : Nat} {session : Session}
    {channel : Channel Item} {record : List (Scene.Step σ)}
    (h : InService session channel (itemsRead number record)) (orderly : Orderly scene)
    (happens : Happens services elsewhere scene act next)
    (holds : scene.world.Holds number session channel)
    : ∃ session' channel',
        next.world.Holds number session' channel'
        ∧ InService session' channel' (itemsRead number (record ++ [⟨act, scene, next⟩])) := by
  obtain ⟨found, mailbox⟩ := holds
  have reads {channel' : Channel Item}
      (there : next.world.endpoints.channel? number = some channel')
      : itemsRead number (record ++ [⟨act, scene, next⟩])
        = itemsRead number record ++ channel.takenUntil channel' := by
    rw [itemsRead, List.flatMap_append, List.flatMap_singleton]
    simp only [Scene.Step.taken, mailbox, there]
    rfl
  -- Nothing is taken out by what a session does itself.
  have serves {session' : Session} {channel' : Channel Item}
      (after : next.world.Holds number session' channel')
      (served : InService session' channel' (itemsRead number record)
        ∧ channel.takenUntil channel' = [])
      : ∃ session' channel',
          next.world.Holds number session' channel'
          ∧ InService session' channel' (itemsRead number (record ++ [⟨act, scene, next⟩])) := by
    refine ⟨session', channel', after, ?_⟩
    rw [reads after.2, served.2, List.append_nil]
    exact served.1
  have unread : channel.takenUntil channel = [] := Channel.takenUntil_of_le (Nat.le_refl _)
  by_cases own : act.mover? = some number
  · cases happens with
    | passes | rests | advances | sends | aside => cases own
    | @goesOn mover course free taken =>
        obtain rfl := Option.some.inj own
        obtain ⟨again, same, there, mailbox', leads⟩ := World.leads_of_course taken
        obtain rfl := Option.some.inj (found.symm.trans there)
        obtain rfl := Option.some.inj (mailbox.symm.trans mailbox')
        cases leads with
        | goesOn _ after _ _ _ moved =>
            exact serves (World.holds_setSession after _) (h.moves moved)
        | @delivers message recipient stage =>
            have running : session.isRunning = true := Session.isRunning_of_stage stage rfl
            exact serves (World.holds_setSession mailbox _)
              ⟨h.goesOn rfl running (stage ▸ rfl) rfl rfl, unread⟩
        | ends running backend input ending =>
            exact serves (World.holds_updateChannel mailbox Channel.withdraw _)
              (h.withdraws running input)
    | @departs mover leaver ending =>
        obtain rfl := Option.some.inj own
        refine serves ⟨found, ?_⟩ ⟨h, unread⟩
        exact (congrArg (Endpoints.channel? · mover) (scene.endpoints_depart _ _ _)).trans mailbox
    | @concludes mover leaver ending out there =>
        obtain rfl := Option.some.inj own
        obtain rfl := Option.some.inj (found.symm.trans there)
        obtain ⟨again, same, stage⟩ := orderly.leaving out
        obtain rfl := Option.some.inj (found.symm.trans same)
        obtain ⟨session', channel', after, concluded⟩ :=
          Scene.concluded mailbox h.reports ending
        exact serves after (h.concludes stage concluded)
  · obtain ⟨channel', there, handled⟩ := happens.handled orderly.tidy found mailbox own
    obtain ⟨session', again, undisturbed⟩ := happens.undisturbed orderly.tidy found own
    refine ⟨session', channel', ⟨again, there⟩, ?_⟩
    rw [reads there]
    exact (h.handled handled).of_stage undisturbed.stage undisturbed.reports

end ChatServer.Live
