import ChatServer.Proofs.Live.Progress

/-! The books of a session: what has come in for it, what it has stored and what it has
acknowledged, read off a record. At every point of a record they balance, so that whatever clients
are shown is what has been stored for the requests that they sent.
-/

namespace ChatServer.Live

variable {σ : Type}

-----------------------------------------------------------------------------------------
-- What a record says
-----------------------------------------------------------------------------------------

namespace Entry

/-- The messages that have come to the sink of a number in a step. -/
def posted (entry : Entry σ) (number : Nat) : List Delivery :=
  (entry.after.endpoints.contents number).drop (entry.before.endpoints.contents number).length

def isTurnOf (entry : Entry σ) (number : Nat) : Bool :=
  match entry.event with
  | .turn turning => turning == number
  | _ => false

theorem isTurnOf_iff (entry : Entry σ) (number : Nat)
    : entry.isTurnOf number = true ↔ entry.event = .turn number := by
  unfold isTurnOf
  cases entry.event <;> simp

/-- Is a session about to acknowledge a message in a step? -/
def isAcknowledging (entry : Entry σ) (number : Nat) : Bool :=
  match entry.before.sessions.get? number with
  | some session => session.stage.isAcknowledging
  | none => false

/-- What comes in for a session in a step. -/
def arrived (entry : Entry σ) (number : Nat) : List Inbound :=
  match entry.event with
  | .fed fed inbound => if fed = number then inbound else []
  | _ => []

/-- The messages that a session stores in a step. -/
def stored (view : σ → Store) (entry : Entry σ) (number : Nat) : List StoredMessage :=
  if entry.isTurnOf number then
    (view entry.after.backend).messages.drop (view entry.before.backend).messages.length
  else []

/-- The messages that a session acknowledges to its client in a step. -/
def acked (entry : Entry σ) (number : Nat) : List Delivery :=
  if entry.isTurnOf number && entry.isAcknowledging number then entry.posted number else []

end Entry

/-- Everything that has come in for a session. -/
def arrivals (number : Nat) (history : List (Entry σ)) : List Inbound :=
  history.flatMap (·.arrived number)

/-- All messages that a session has stored, in the order in which it stored them. -/
def storedBy (view : σ → Store) (number : Nat) (history : List (Entry σ)) : List StoredMessage :=
  history.flatMap (·.stored view number)

/-- All messages that a session has acknowledged, in the order in which its client gets them. -/
def acks (number : Nat) (history : List (Entry σ)) : List Delivery :=
  history.flatMap (·.acked number)

-----------------------------------------------------------------------------------------
-- The ledger of a session
-----------------------------------------------------------------------------------------

/-- How what a session has taken from its input relates to the number of messages that it has
stored. A request is taken before its message is stored, and a session that has ended may have taken
more than it stored.
-/
def Stage.Took (stored : Nat) (taken : List Inbound) : Stage → Prop
  | .checking request | .storing request =>
    ∃ served, taken = served ++ [.ok request] ∧ served.length = stored
  | .reporting _ _ | .ended _ => True
  | _ => taken.length = stored

/-- The stored messages have been acknowledged, but for the last one. -/
def AllButLast (stored : List StoredMessage) (acks : List Delivery) (last : StoredMessage) : Prop :=
  ∃ front, stored = front ++ [last] ∧ acks = front.map shown

/-- How what a session has acknowledged relates to what it has stored. -/
def Stage.Acked (stored : List StoredMessage) (acks : List Delivery) : Stage → Prop
  | .receiving | .checking _ | .storing _ => acks = stored.map shown
  | .acknowledging message _ | .waiting message _ =>
    ∃ last, message = shown last ∧ AllButLast stored acks last
  | .spreading message _ =>
    acks = stored.map shown ∧ ∃ front last, stored = front ++ [last] ∧ message = shown last
  | .reporting _ _ | .ended _ => acks = stored.map shown ∨ ∃ last, AllButLast stored acks last

/-- Each message has been stored for the request that came in at its place. -/
def InPlace (identity : String) (items : List Inbound) (stored : List StoredMessage) : Prop :=
  ∀ (k : Nat) (message : StoredMessage), stored[k]? = some message →
    ∃ request, items[k]? = some (.ok request) ∧ Stems identity request message

/-- The requests stay at their places when more comes in. -/
theorem InPlace.append {identity : String} {items : List Inbound} {stored : List StoredMessage}
    (h : InPlace identity items stored) (more : List Inbound)
    : InPlace identity (items ++ more) stored := by
  intro k message place
  obtain ⟨request, found, stems⟩ := h k message place
  have inside := (List.getElem?_eq_some_iff.mp found).1
  exact ⟨request, (List.getElem?_append_left inside).trans found, stems⟩

/-- A message may be stored for the request that comes next. -/
theorem InPlace.concat {identity : String} {served : List Inbound} {stored : List StoredMessage}
    {request : Outgoing} (h : InPlace identity (served ++ [.ok request]) stored)
    (length : served.length = stored.length) {message : StoredMessage}
    (stems : Stems identity request message)
    : InPlace identity (served ++ [.ok request]) (stored ++ [message]) := by
  intro k other place
  by_cases inside : k < stored.length
  · rw [List.getElem?_append_left inside] at place
    exact h k other place
  · have bound := (List.getElem?_eq_some_iff.mp place).1
    rw [List.length_append, List.length_singleton] at bound
    obtain rfl : k = stored.length := by omega
    rw [List.getElem?_concat_length] at place
    obtain rfl := Option.some.inj place
    exact ⟨request, length ▸ List.getElem?_concat_length, stems⟩

/-- The books of a session balance: each message has been stored for the request that came in at its
place, and each but perhaps the last has been acknowledged at its place.
-/
structure Ledger (session : Session) (arrivals : List Inbound) (stored : List StoredMessage)
    (acks : List Delivery) : Prop where
  taken
    : ∃ taken : List Inbound,
        arrivals = taken ++ session.input
        ∧ session.stage.Took stored.length taken
        ∧ InPlace session.identity taken stored
  acked : session.stage.Acked stored acks

namespace Ledger

variable {session session' : Session} {arrivals : List Inbound} {stored : List StoredMessage}
  {acks : List Delivery}

/-- Nothing has been stored for a session that has just been opened. -/
theorem opened (identity : String) (connection : Nat) (reports : Bool)
    : Ledger { identity, connection, reports } [] [] [] :=
  ⟨⟨[], rfl, rfl, fun _ _ => nofun⟩, rfl⟩

theorem fed (h : Ledger session arrivals stored acks) (inbound : List Inbound)
    : Ledger { session with input := session.input ++ inbound } (arrivals ++ inbound) stored
        acks := by
  obtain ⟨taken, rfl, rest⟩ := h.taken
  exact ⟨⟨taken, List.append_assoc _ _ _, rest⟩, h.acked⟩

theorem inputEnded (h : Ledger session arrivals stored acks)
    : Ledger { session with inputEnded := true } arrivals stored acks :=
  ⟨h.taken, h.acked⟩

theorem inPlace (h : Ledger session arrivals stored acks)
    : InPlace session.identity arrivals stored := by
  obtain ⟨taken, rfl, _, stems⟩ := h.taken
  exact stems.append session.input

/-- The acknowledgements are of the stored messages in their order, but for the last one's, which
may be yet to come or lost.
-/
theorem acks_eq (h : Ledger session arrivals stored acks)
    : acks = stored.map shown
      ∨ ∃ front last, stored = front ++ [last]
        ∧ acks = front.map shown
        ∧ (session.isRunning = false ∨ ∃ recipient,
          session.stage = .acknowledging (shown last) recipient
          ∨ session.stage = .waiting (shown last) recipient) := by
  have acked := h.acked
  cases stage : session.stage with
  | receiving | checking | storing =>
      rw [stage] at acked
      exact .inl acked
  | acknowledging message recipient =>
      rw [stage] at acked
      obtain ⟨last, rfl, front, split, rest⟩ := acked
      exact .inr ⟨front, last, split, rest, .inr ⟨recipient, .inl rfl⟩⟩
  | waiting message recipient =>
      rw [stage] at acked
      obtain ⟨last, rfl, front, split, rest⟩ := acked
      exact .inr ⟨front, last, split, rest, .inr ⟨recipient, .inr rfl⟩⟩
  | spreading =>
      rw [stage] at acked
      exact .inl acked.1
  | reporting | ended =>
      have finished : session.isRunning = false := by
        rw [Session.isRunning, Session.ending?, stage]
        rfl
      rw [stage] at acked
      rcases acked with all | ⟨last, front, split, rest⟩
      · exact .inl all
      · exact .inr ⟨front, last, split, rest, .inl finished⟩

/-- A message in hand is the one that has been stored last. -/
theorem in_hand (h : Ledger session arrivals stored acks) {message : Delivery} {recipient : String}
    (stage : session.stage = .acknowledging message recipient
      ∨ session.stage = .waiting message recipient
      ∨ session.stage = .spreading message recipient)
    : ∃ front last, stored = front ++ [last] ∧ message = shown last := by
  have acked := h.acked
  rcases stage with stage | stage | stage <;> rw [stage] at acked
  · obtain ⟨last, same, front, split, _⟩ := acked
    exact ⟨front, last, split, same⟩
  · obtain ⟨last, same, front, split, _⟩ := acked
    exact ⟨front, last, split, same⟩
  · obtain ⟨_, front, last, split, same⟩ := acked
    exact ⟨front, last, split, same⟩

/-- A session may end anywhere, also with something taken that is no request. -/
theorem ends (h : Ledger session arrivals stored acks) {input : List Inbound} {stage : Stage}
    {ending : Ending} (ended : stage.HasEnded ending)
    (rest : input = session.input
      ∨ ∃ status, session.stage = .receiving ∧ session.input = .error status :: input)
    : Ledger { session with input, stage } arrivals stored acks := by
  obtain ⟨taken, rfl, _, stems⟩ := h.taken
  have took (taken : List Inbound) : stage.Took stored.length taken := by
    rcases ended with rfl | ⟨status, rfl⟩ <;> trivial
  have acked : stage.Acked stored acks := by
    have lost : acks = stored.map shown ∨ ∃ last, AllButLast stored acks last := by
      rcases h.acks_eq with all | ⟨front, last, split, rest, _⟩
      · exact .inl all
      · exact .inr ⟨last, front, split, rest⟩
    rcases ended with rfl | ⟨status, rfl⟩ <;> exact lost
  rcases rest with rfl | ⟨status, _, first⟩
  · exact ⟨⟨taken, rfl, took _, stems⟩, acked⟩
  · refine ⟨⟨taken ++ [.error status], ?_, took _, stems.append _⟩, acked⟩
    rw [first, List.append_assoc]
    rfl

/-- The books of a session still balance after a turn, by cases on what it does. -/
theorem progress (h : Ledger session arrivals stored acks) {number : Nat}
    {more : List StoredMessage} {posted : Nat → List Delivery}
    (progress : Progress number session session' more posted)
    : Ledger session' arrivals (stored ++ more)
        (acks ++ if session.stage.isAcknowledging then posted number else []) := by
  obtain ⟨taken, rfl, took, stems⟩ := h.taken
  have acked := h.acked
  cases progress with
  | @takes request input stage first =>
      rw [stage] at took acked
      simp only [stage, Stage.isAcknowledging, Bool.false_eq_true, if_false, List.append_nil]
      refine ⟨⟨taken ++ [.ok request], ?_, ⟨taken, rfl, took⟩, stems.append _⟩, acked⟩
      rw [first, List.append_assoc]
      rfl
  | finds stage =>
      rw [stage] at took acked
      simp only [stage, Stage.isAcknowledging, Bool.false_eq_true, if_false, List.append_nil]
      exact ⟨⟨taken, rfl, took, stems⟩, acked⟩
  | @stores request message stage stem =>
      rw [stage] at took acked
      simp only [stage, Stage.isAcknowledging, Bool.false_eq_true, if_false, List.append_nil]
      obtain ⟨served, rfl, length⟩ := took
      refine ⟨⟨_, rfl, ?_, stems.concat length stem⟩, message, rfl, stored, rfl, acked⟩
      simp only [Stage.Took, List.length_append, length]
      rfl
  | waits stage =>
      rw [stage] at took acked
      simp only [stage, Stage.isAcknowledging, if_true, List.append_nil]
      exact ⟨⟨taken, rfl, took, stems⟩, acked⟩
  | @acknowledges message recipient stage =>
      have before : taken.length = stored.length
          ∧ ∃ last, message = shown last ∧ AllButLast stored acks last := by
        rcases stage with stage | stage <;> rw [stage] at took acked <;> exact ⟨took, acked⟩
      have acknowledging : session.stage.isAcknowledging = true := by
        rcases stage with stage | stage <;> rw [stage] <;> rfl
      obtain ⟨length, last, rfl, front, rfl, rfl⟩ := before
      simp only [acknowledging, if_true, List.append_nil]
      refine ⟨⟨taken, rfl, length, stems⟩, ?_, front, last, rfl, rfl⟩
      rw [List.map_append]
      rfl
  | spreads stage copies =>
      rw [stage] at took acked
      simp only [stage, Stage.isAcknowledging, Bool.false_eq_true, if_false, List.append_nil]
      exact ⟨⟨taken, rfl, took, stems⟩, acked.1⟩
  | ends ended rest =>
      rw [List.append_nil, ite_self, List.append_nil]
      exact h.ends ended rest

end Ledger

-----------------------------------------------------------------------------------------
-- The books of all sessions
-----------------------------------------------------------------------------------------

/-- The books under a number balance with the session of the number, and are empty without one. -/
structure World.Booked (world : World σ) (number : Nat) (arrivals : List Inbound)
    (stored : List StoredMessage) (acks : List Delivery) : Prop where
  ledger
    : ∀ {session}, world.sessions.get? number = some session →
        Ledger session arrivals stored acks
  empty : world.sessions.get? number = none → arrivals = [] ∧ stored = [] ∧ acks = []

/-- What the books of a number say after one more step. -/
theorem books_concat (view : σ → Store) (number : Nat) (history : List (Entry σ))
    (entry : Entry σ)
    : arrivals number (history ++ [entry]) = arrivals number history ++ entry.arrived number
      ∧ storedBy view number (history ++ [entry])
        = storedBy view number history ++ entry.stored view number
      ∧ acks number (history ++ [entry]) = acks number history ++ entry.acked number := by
  simp [arrivals, storedBy, acks]

namespace World.Booked

variable {world next : World σ} {number : Nat} {arrivals : List Inbound}
  {stored : List StoredMessage} {acks : List Delivery}

/-- Nothing is booked for a number whose session is as it was. -/
theorem same (h : world.Booked number arrivals stored acks)
    (same : next.sessions.get? number = world.sessions.get? number)
    : next.Booked number (arrivals ++ []) (stored ++ []) (acks ++ []) := by
  simp only [List.append_nil]
  exact ⟨fun found => h.ledger (same ▸ found), fun absent => h.empty (same ▸ absent)⟩

theorem of_ledger {session : Session} (found : next.sessions.get? number = some session)
    (ledger : Ledger session arrivals stored acks)
    : next.Booked number arrivals stored acks where
  ledger again := Option.some.inj (found.symm.trans again) ▸ ledger
  empty absent := absurd (found.symm.trans absent) nofun

/-- A turn is booked under the number of its session. -/
theorem turn {services : Services σ} {view : σ → Store} (memory : services.StoresIn view)
    (tidy : Tidy world) (h : world.Booked number arrivals stored acks) {turning : Nat}
    (taken : world.turn services turning = some next)
    : let entry : Entry σ := ⟨.turn turning, world, next⟩
      next.Booked number (arrivals ++ entry.arrived number) (stored ++ entry.stored view number)
        (acks ++ entry.acked number) := by
  intro entry
  obtain ⟨session, _, found, _⟩ := World.turned_of_turn taken
  obtain ⟨session', more, posted, progress, advanced⟩ := progress_of_turn memory tidy found taken
  by_cases here : number = turning
  · subst here
    have turns : entry.isTurnOf number = true := beq_self_eq_true number
    have adds : entry.stored view number = more := by
      rw [Entry.stored, turns, advanced.messages]
      exact List.drop_left
    have posts : entry.posted number = posted number := by
      rw [Entry.posted, advanced.contents]
      exact List.drop_left
    have acknowledges : entry.isAcknowledging number = session.stage.isAcknowledging := by
      rw [Entry.isAcknowledging, found]
    have held : next.sessions.get? number = some session' := by
      rw [advanced.sessions, Table.get?_set, if_pos rfl]
    refine .of_ledger held ?_
    rw [adds, Entry.acked, turns, acknowledges, posts, Bool.true_and]
    exact (List.append_nil arrivals).symm ▸ (h.ledger found).progress progress
  · have elsewhere : entry.isTurnOf number = false := beq_false_of_ne (Ne.symm here)
    rw [Entry.stored, Entry.acked, elsewhere]
    refine h.same ?_
    rw [advanced.sessions, Table.get?_set, if_neg here]

/-- What comes in is booked under the number that it is for. -/
theorem fed (h : world.Booked number arrivals stored acks) {feeding : Nat} {session : Session}
    (found : world.sessions.get? feeding = some session) (goesOn : session.inputEnded = false)
    (inbound : List Inbound)
    : (world.feed feeding inbound).Booked number
        (arrivals ++ if feeding = number then inbound else []) (stored ++ []) (acks ++ []) := by
  rw [feed_eq found goesOn]
  by_cases here : number = feeding
  · subst here
    rw [if_pos rfl, List.append_nil, List.append_nil]
    exact .of_ledger (get?_setSession world number _) ((h.ledger found).fed inbound)
  · rw [if_neg (Ne.symm here)]
    exact h.same ((Table.get?_set _ _ _ _).trans (if_neg here))

/-- The end of its input changes nothing in the books of a session. -/
theorem inputEnded (h : world.Booked number arrivals stored acks) (ending : Nat)
    : (world.endInput ending).Booked number (arrivals ++ []) (stored ++ []) (acks ++ []) := by
  unfold endInput
  split
  next session found =>
    by_cases here : number = ending
    · subst here
      simp only [List.append_nil]
      exact .of_ledger (get?_setSession world number _) (h.ledger found).inputEnded
    · exact h.same ((Table.get?_set _ _ _ _).trans (if_neg here))
  next => exact h.same rfl

/-- A new session has empty books. -/
theorem opened (tidy : Tidy world) (h : world.Booked number arrivals stored acks)
    (identity : String) (capacity : Nat) (reports : Bool)
    : (world.openSession world.freshNumber identity capacity reports).Booked number
        (arrivals ++ []) (stored ++ []) (acks ++ []) := by
  by_cases here : number = world.freshNumber
  · subst here
    obtain ⟨rfl, rfl, rfl⟩ := h.empty tidy.freshNumber_absent
    exact .of_ledger (get?_setSession _ world.freshNumber _) (.opened _ _ reports)
  · exact h.same ((Table.get?_set _ _ _ _).trans (if_neg here))

end World.Booked

section

variable {services : Services σ} {view : σ → Store} {elsewhere : σ → σ → Prop} {start : σ}
  {history : List (Entry σ)} {world next : World σ}

/-- Every step is booked, by cases on the step. -/
theorem Occurs.booked (memory : services.StoresIn view) (tidy : Tidy world) {event : Event}
    (occurs : Occurs services elsewhere world event next) {number : Nat}
    {arrivals : List Inbound} {stored : List StoredMessage} {acks : List Delivery}
    (h : world.Booked number arrivals stored acks)
    : let entry : Entry σ := ⟨event, world, next⟩
      next.Booked number (arrivals ++ entry.arrived number) (stored ++ entry.stored view number)
        (acks ++ entry.acked number) := by
  cases occurs with
  | turn taken => exact h.turn memory tidy taken
  | opened identity capacity reports => exact h.opened tidy identity capacity reports
  | fed found goesOn inbound => exact h.fed found goesOn inbound
  | inputEnded number => exact h.inputEnded number
  | took other => exact h.same (congrArg (·.get? number) (world.calm_take other).sessions)
  | closed | placed | altered | connected | disconnected | elsewhere => exact h.same rfl
  | sent recipient message =>
      exact h.same (congrArg (·.get? number) (world.sessions_spread recipient message))

/-- The books of a record balance, by induction on the record. -/
theorem Chronicle.booked (memory : services.StoresIn view)
    (told : Chronicle services elsewhere start history world) (number : Nat)
    : world.Booked number (arrivals number history) (storedBy view number history)
        (acks number history) := by
  induction told with
  | start => exact ⟨nofun, fun _ => ⟨rfl, rfl, rfl⟩⟩
  | goesOn told occurs ih =>
      obtain ⟨arrives, stores, acknowledges⟩ := books_concat view number _ _
      rw [arrives, stores, acknowledges]
      exact occurs.booked memory told.tidy ih

-----------------------------------------------------------------------------------------
-- The store
-----------------------------------------------------------------------------------------

/-- What happens to the store in a step is a use of it, by cases on the step. -/
theorem Occurs.used (memory : services.StoresIn view) (tidy : Tidy world) {event : Event}
    (occurs : Occurs services (fun before after => (view before).Used (view after)) world event
      next)
    : (view world.backend).Used (view next.backend) := by
  cases occurs with
  | turn taken =>
      obtain ⟨session, _, found, _⟩ := World.turned_of_turn taken
      obtain ⟨_, _, _, _, advanced⟩ := progress_of_turn memory tidy found taken
      exact advanced.used
  | fed found goesOn inbound =>
      rw [World.feed_eq found goesOn]
      exact .looked
  | inputEnded other =>
      unfold World.endInput
      split <;> exact .looked
  | took other =>
      unfold World.take
      split <;> exact .looked
  | opened | closed | placed | altered | connected | disconnected | sent => exact .looked
  | elsewhere used now => exact used

/-- Identifiers stay fresh, by induction on the record. -/
theorem Chronicle.idsFresh (memory : services.StoresIn view) {limit : Nat}
    (fresh : (view start).IdsFresh limit)
    (told : Chronicle services (fun before after => (view before).Used (view after)) start history
      world)
    (bound : (view world.backend).ids.used ≤ limit)
    : (view world.backend).IdsFresh limit := by
  induction told with
  | start => exact fresh
  | goesOn told occurs ih =>
      have used := occurs.used memory told.tidy
      exact (ih (Nat.le_trans used.ids bound)).used used bound

/-- What a session has stored is in the store, in this order, by induction on the record. -/
theorem Chronicle.storedBy_sublist (memory : services.StoresIn view)
    (told : Chronicle services (fun before after => (view before).Used (view after)) start history
      world) (number : Nat)
    : (storedBy view number history).Sublist (view world.backend).messages := by
  induction told with
  | start => exact List.nil_sublist _
  | @goesOn history world next event told occurs ih =>
      obtain ⟨added, adds⟩ := (occurs.used memory told.tidy).messages
      have step : (Entry.stored view ⟨event, world, next⟩ number).Sublist added := by
        rw [Entry.stored]
        split
        next =>
          have new : (view next.backend).messages.drop (view world.backend).messages.length
              = added := by
            rw [adds]
            exact List.drop_left
          exact new.symm ▸ List.Sublist.refl _
        next => exact List.nil_sublist added
      rw [(books_concat view number history _).2.1, adds]
      exact ih.append step

-----------------------------------------------------------------------------------------
-- What is shown
-----------------------------------------------------------------------------------------

/-- What a turn gives to a sink is shown of a message that its session has stored before. -/
theorem Chronicle.posted (memory : services.StoresIn view)
    (told : Chronicle services elsewhere start history world) {number : Nat}
    (taken : world.turn services number = some next) (sink : Nat)
    : let entry : Entry σ := ⟨.turn number, world, next⟩
      next.endpoints.contents sink = world.endpoints.contents sink ++ entry.posted sink
      ∧ ∃ session, world.sessions.get? number = some session
        ∧ ∀ delivery ∈ entry.posted sink,
          ∃ (k : Nat) (request : Outgoing) (stored : StoredMessage),
            (arrivals number history)[k]? = some (.ok request)
            ∧ (storedBy view number history)[k]? = some stored
            ∧ Stems session.identity request stored
            ∧ delivery = shown stored := by
  intro entry
  obtain ⟨session, _, found, _⟩ := World.turned_of_turn taken
  obtain ⟨session', more, posted, progress, advanced⟩ :=
    progress_of_turn memory told.tidy found taken
  have posts : entry.posted sink = posted sink := by
    rw [Entry.posted, advanced.contents]
    exact List.drop_left
  rw [posts]
  refine ⟨advanced.contents sink, session, found, fun delivery given => ?_⟩
  have ledger := (told.booked memory number).ledger found
  obtain ⟨recipient, stage⟩ := progress.in_hand given
  obtain ⟨front, last, split, same⟩ := ledger.in_hand stage
  have place : (storedBy view number history)[front.length]? = some last := by
    rw [split]
    exact List.getElem?_concat_length
  obtain ⟨request, first, stems⟩ := ledger.inPlace _ _ place
  exact ⟨_, request, last, first, place, stems, same⟩

/-- What is shown is what is stored. A message that a session gives to a sink, as an acknowledgement
or as a delivery, is shown of the only message in the store that has its identifier; that one was
stored before, for a request that came in for the session. Each message that a session stores is for
the request at its place, and the acknowledgements are of the stored messages in their order, but
for the last one's, which may be yet to come or lost with the session.
-/
theorem shown_is_stored (memory : services.StoresIn view)
    (told : Chronicle services (fun before after => (view before).Used (view after)) start history
      world)
    (fresh : (view start).IdsFresh (view world.backend).ids.used)
    : (∀ past entry later, history = past ++ entry :: later →
        ∀ number, entry.event = .turn number → ∀ sink,
          entry.after.endpoints.contents sink
            = entry.before.endpoints.contents sink ++ entry.posted sink
          ∧ ∃ session, entry.before.sessions.get? number = some session
            ∧ ∀ delivery ∈ entry.posted sink,
              ∃ (k : Nat) (request : Outgoing) (stored : StoredMessage),
                (arrivals number past)[k]? = some (.ok request)
                ∧ (storedBy view number past)[k]? = some stored
                ∧ Stems session.identity request stored
                ∧ delivery = shown stored
                ∧ stored ∈ (view entry.before.backend).messages
                ∧ (view world.backend).messages.filter (·.id.simple = delivery.messageId)
                  = [stored])
      ∧ ∀ number session, world.sessions.get? number = some session →
          (storedBy view number history).Sublist (view world.backend).messages
          ∧ InPlace session.identity (arrivals number history) (storedBy view number history)
          ∧ (acks number history = (storedBy view number history).map shown
            ∨ ∃ front last,
              storedBy view number history = front ++ [last]
              ∧ acks number history = front.map shown
              ∧ (session.isRunning = false ∨ ∃ recipient,
                session.stage = .acknowledging (shown last) recipient
                ∨ session.stage = .waiting (shown last) recipient)) := by
  constructor
  · rintro past entry later rfl number turns sink
    obtain ⟨before, occurs⟩ := told.split
    obtain ⟨event, world', next⟩ := entry
    obtain rfl : event = .turn number := turns
    cases occurs with
    | turn taken =>
        obtain ⟨contents, session, found, posted⟩ := before.posted memory taken sink
        refine ⟨contents, session, found, fun delivery given => ?_⟩
        obtain ⟨k, request, stored, first, place, stems, rfl⟩ := posted delivery given
        have member := List.mem_of_getElem? place
        have early := (before.storedBy_sublist memory number).subset member
        have late : stored ∈ (view world.backend).messages := by
          apply (told.storedBy_sublist memory number).subset
          rw [storedBy, List.flatMap_append]
          exact List.mem_append_left _ member
        exact ⟨k, request, stored, first, place, stems, rfl, early,
          (told.idsFresh memory fresh (Nat.le_refl _)).only late⟩
  · intro number session found
    have ledger := (told.booked memory number).ledger found
    exact ⟨told.storedBy_sublist memory number, ledger.inPlace, ledger.acks_eq⟩

end

/-- A session that has stored, acknowledged and delivered one message for a registered user. -/
theorem shown_is_stored_of_one_message
    : let start : Backend := { store := (({} : Store).createUser "b@x" "hash" ⟨0, 0⟩).2 }
      ∃ history world message,
        Chronicle ⟨.memory, .memory⟩ (fun before after => before.store.Used after.store) start
          history world
        ∧ storedBy Backend.store 1 history = [message]
        ∧ acks 1 history = [shown message]
        ∧ Stems "a@x" ⟨" B@X", "hello"⟩ message := by
  intro start
  let fresh : World Backend := { backend := start, now := ⟨0, 0⟩ }
  let opened := fresh.openSession 1 "a@x" 4 false
  have told : Chronicle ⟨.memory, .memory⟩ (fun before after => before.store.Used after.store) start
      _ (opened.feed 1 [.ok ⟨" B@X", "hello"⟩]) :=
    ((Chronicle.start ⟨0, 0⟩).goesOn (.opened "a@x" 4 false)).goesOn
      (.fed (World.get?_setSession _ 1 _) rfl [.ok ⟨" B@X", "hello"⟩])
  -- It takes, asks, stores, acknowledges and delivers.
  have turns := told.turns [1, 1, 1, 1, 1]
  generalize record : _ ++ World.recordOf _ _ _ = history at turns
  generalize last : World.afterTurns _ _ _ = world at turns
  have used : world.backend.store.ids.used = 2 := by
    rw [← last]
    decide +kernel
  have draws : ∀ m n : Fin 2,
      (default : IdSource).draw m = (default : IdSource).draw n → m = n := by
    decide
  have drawn : start.store.IdsFresh 2 :=
    (Store.IdsFresh.empty
      (fun m n hm hn same => congrArg Fin.val (draws ⟨m, hm⟩ ⟨n, hn⟩ same)) {}).used
      (.created "b@x" "hash" ⟨0, 0⟩) (by decide)
  obtain ⟨_, books⟩ := shown_is_stored storesIn_memory turns (used.symm ▸ drawn)
  have one : (storedBy Backend.store 1 history).length = 1 := by
    rw [← record]
    decide +kernel
  obtain ⟨message, stored⟩ := List.length_eq_one_iff.mp one
  have there : (world.sessions.get? 1).map (fun session => (session.identity, session.stage))
      = some ("a@x", .receiving) := by
    rw [← last]
    decide +kernel
  obtain ⟨session, found, same⟩ := Option.map_eq_some_iff.mp there
  obtain ⟨identity, stage⟩ := Prod.mk.inj same
  obtain ⟨_, stems, acked⟩ := books 1 session found
  refine ⟨history, world, message, turns, stored, ?_, ?_⟩
  · rcases acked with all | ⟨front, last, _, _, finished | ⟨recipient, waits | waits⟩⟩
    · rw [all, stored]
      rfl
    · rw [Session.isRunning, Session.ending?, stage] at finished
      cases finished
    · cases stage.symm.trans waits
    · cases stage.symm.trans waits
  · obtain ⟨request, first, stem⟩ := stems 0 message (by rw [stored]; rfl)
    have came : arrivals 1 history = [.ok ⟨" B@X", "hello"⟩] := by
      rw [← record]
      rfl
    rw [came] at first
    cases first
    exact identity ▸ stem

end ChatServer.Live
