import ChatServer.Proofs.Live.Bystanders

/-! Traffic: what happens to the channel of a session's mailbox while the session does nothing. All
that anybody else can do is to put in messages, to take an item out, and to close the channel.
-/

namespace ChatServer.Live

variable {σ : Type} {services : Services σ} {elsewhere : σ → σ → Prop}

-----------------------------------------------------------------------------------------
-- Messages that are put in
-----------------------------------------------------------------------------------------

/-- Messages have been put in behind what waits in a channel. It takes an open channel. -/
def Channel.Receives (before after : Channel Item) : Prop :=
  ∃ added : List Delivery,
    after = { before with queue := before.queue ++ added.map .message }
    ∧ (added ≠ [] → before.isOpen = true)

theorem Channel.Receives.none (channel : Channel Item) : channel.Receives channel :=
  ⟨[], by rw [List.map_nil, List.append_nil], absurd rfl⟩

theorem Channel.receives_push (channel : Channel Item) (message : Delivery)
    : channel.Receives (channel.push (.message message)).2 := by
  unfold push
  split
  next => exact .none channel
  next closed =>
    split
    next => exact ⟨[message], rfl, fun _ => by simpa using closed⟩
    next => exact .none channel

namespace Endpoints

variable {endpoints : Endpoints} {number : Nat} {channel : Channel Item}

theorem channel?_updateChannel (endpoints : Endpoints) (number other : Nat)
    (change : Channel Item → Channel Item)
    : (endpoints.updateChannel number change).channel? other
      = if other = number then (endpoints.channel? other).map change
        else endpoints.channel? other := by
  cases mailbox : endpoints.channel? number with
  | none =>
      rw [updateChannel_of_none mailbox]
      split
      next here => rw [here, mailbox, Option.map_none]
      next => rfl
  | some channel =>
      rw [updateChannel_of_channel? mailbox, channel?_set]
      split
      next here => rw [here, mailbox, Option.map_some]
      next => rfl

/-- A delivery puts its message into the mailbox that it goes to, if it can. -/
theorem receives_deliver (mailbox : endpoints.channel? number = some channel) (target : Nat)
    (message : Delivery)
    : ∃ channel',
        Endpoints.channel? (endpointOps.deliver target message endpoints).2 number = some channel'
        ∧ channel.Receives channel' := by
  by_cases here : number = target
  · subst here
    refine ⟨_, ?_, channel.receives_push message⟩
    simp only [endpointOps, get?_of_channel? mailbox, Endpoint.deliver, channel?_set, if_true]
  · have untouched := channel?_deliver_of_ne endpoints here message
    exact ⟨channel, untouched.trans mailbox, .none channel⟩

/-- Telling an endpoint of its eviction leaves all channels as they are. -/
theorem channel?_evicted (endpoints : Endpoints) (target number : Nat)
    : Endpoints.channel? (endpointOps.evicted target endpoints) number
      = endpoints.channel? number := by
  simp only [endpointOps]
  split
  next endpoint held =>
    rw [channel?_set]
    split
    next here =>
      rw [here, channel?, held]
      cases endpoint <;> rfl
    next => rfl
  next => rfl

end Endpoints

-----------------------------------------------------------------------------------------
-- What others do to a mailbox
-----------------------------------------------------------------------------------------

/-- A client takes the first item out of the channel of its mailbox. -/
theorem World.take_of_channel? {world : World σ} {number : Nat} {channel : Channel Item}
    (mailbox : world.endpoints.channel? number = some channel)
    : world.take number = (channel.pop.1, world.updateChannel number fun _ => channel.pop.2) := by
  rw [take, mailbox]

/-- What can happen to the channel of a mailbox without its session. -/
inductive Channel.Handled (channel : Channel Item) : Channel Item → Prop where
  | receives {after : Channel Item} (received : channel.Receives after) : Handled channel after
  | popped : Handled channel channel.pop.2
  | closed : Handled channel channel.close

/-- Is a step of a world neither a turn nor a fan-out? -/
def Event.isAside : Event → Bool
  | turn _ | sent _ _ => false
  | fed _ _ | other => true

theorem Event.ne_turn {event : Event} (apart : event.isAside = true) (number : Nat)
    : event ≠ .turn number := by
  rintro rfl
  cases apart

/-- Steps that are neither turns nor fan-outs only handle the channels of mailboxes, by cases on the
step.
-/
theorem Occurs.handled {world next : World σ} {event : Event} (h : Tidy world)
    (occurs : Occurs services elsewhere world event next) (apart : event.isAside = true)
    {number : Nat} {session : Session} (found : world.sessions.get? number = some session)
    {channel : Channel Item} (mailbox : world.endpoints.channel? number = some channel)
    : ∃ channel',
        next.endpoints.channel? number = some channel' ∧ channel.Handled channel' := by
  have same (untouched : next.endpoints.channel? number = world.endpoints.channel? number)
      : ∃ channel',
          next.endpoints.channel? number = some channel' ∧ channel.Handled channel' :=
    ⟨channel, untouched.trans mailbox, .receives (.none channel)⟩
  have foreign {altered : Nat} {endpoint : Endpoint} (absent : world.sessions.get? altered = none)
      : Endpoints.channel? (world.endpoints.set altered endpoint) number
        = world.endpoints.channel? number := by
    have differ : number ≠ altered := fun same => by cases (same ▸ found).symm.trans absent
    rw [Endpoints.channel?_set, if_neg differ]
  cases occurs with
  | turn | sent => cases apart
  | opened identity capacity reports => exact same (foreign h.freshNumber_absent)
  | fed there goesOn inbound => exact same (by rw [World.feed_eq there goesOn]; rfl)
  | inputEnded ending =>
      apply same
      unfold World.endInput
      split <;> rfl
  | took reading =>
      by_cases here : number = reading
      · subst here
        refine ⟨channel.pop.2, ?_, .popped⟩
        rw [World.take_of_channel? mailbox]
        refine (Endpoints.channel?_updateChannel _ _ _ _).trans ?_
        rw [if_pos rfl, mailbox, Option.map_some]
      · apply same
        unfold World.take
        split
        next => exact (Endpoints.channel?_updateChannel _ _ _ _).trans (if_neg here)
        next => rfl
  | closed closing =>
      by_cases here : number = closing
      · subst here
        refine ⟨channel.close, ?_, .closed⟩
        refine (Endpoints.channel?_updateChannel _ _ _ _).trans ?_
        rw [if_pos rfl, mailbox, Option.map_some]
      · exact same ((Endpoints.channel?_updateChannel _ _ _ _).trans (if_neg here))
  | placed endpoint => exact same (foreign h.freshNumber_absent)
  | altered unknown there endpoint => exact same (foreign unknown)
  | connected | elsewhere => exact same rfl
  | disconnected identity id =>
      exact same (by rw [World.endpoints, Exchange.outside_unregister]; rfl)

end ChatServer.Live
