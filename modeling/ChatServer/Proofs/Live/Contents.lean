import ChatServer.Proofs.Live.Presence

/-! What sinks have been given. Deliveries and acknowledgements add messages behind those that are
there; nothing else that a turn does to the endpoints adds a message or takes one away.
-/

namespace ChatServer.Live

def Item.message? : Item → Option Delivery
  | message delivery => some delivery
  | failure _ => none

/-- The messages that wait in a channel. -/
def Channel.messages (channel : Channel Item) : List Delivery :=
  channel.queue.filterMap Item.message?

@[simp] theorem Channel.messages_enqueue (channel : Channel Item) (item : Item)
    : (channel.enqueue item).messages = channel.messages ++ item.message?.toList := by
  simp only [messages, enqueue, List.filterMap_append]
  cases item <;> rfl

/-- The messages that an endpoint holds. -/
def Endpoint.contents : Endpoint → List Delivery
  | recorder received => received
  | refuser _ _ => []
  | mailbox channel _ => channel.messages

/-- A delivery adds its message, or fails and adds nothing. -/
theorem Endpoint.contents_deliver (message : Delivery) (endpoint : Endpoint)
    : (endpoint.deliver message).2.contents
      = endpoint.contents ++ if (endpoint.deliver message).1.isSome then [] else [message] := by
  cases endpoint with
  | recorder received => rfl
  | refuser fault attempts => rfl
  | mailbox channel evicted =>
      simp only [deliver, contents]
      unfold Channel.push
      split
      next => exact (List.append_nil _).symm
      next =>
        split
        next => exact channel.messages_enqueue _
        next => exact (List.append_nil _).symm

@[simp] theorem Endpoint.contents_evict (endpoint : Endpoint)
    : endpoint.evict.contents = endpoint.contents := by
  cases endpoint <;> rfl

namespace Endpoints

/-- The messages that the endpoint of a number holds. -/
def contents (endpoints : Endpoints) (number : Nat) : List Delivery :=
  match endpoints.get? number with
  | some endpoint => endpoint.contents
  | none => []

theorem contents_of_get? {endpoints : Endpoints} {number : Nat} {endpoint : Endpoint}
    (found : endpoints.get? number = some endpoint)
    : endpoints.contents number = endpoint.contents := by
  rw [contents, found]

theorem contents_set (endpoints : Endpoints) (number other : Nat) (endpoint : Endpoint)
    : Endpoints.contents (endpoints.set number endpoint) other
      = if other = number then endpoint.contents else endpoints.contents other := by
  by_cases same : other = number
  · rw [if_pos same, contents, Table.get?_set, if_pos same]
  · rw [if_neg same, contents, Table.get?_set, if_neg same, contents]

/-- Putting an endpoint with the same contents in the place of an old one. -/
theorem contents_set_of_same {endpoints : Endpoints} {number : Nat} {old endpoint : Endpoint}
    (found : endpoints.get? number = some old) (same : endpoint.contents = old.contents)
    (other : Nat)
    : Endpoints.contents (endpoints.set number endpoint) other = endpoints.contents other := by
  rw [contents_set]
  split
  next here => rw [here, contents_of_get? found, same]
  next => rfl

-----------------------------------------------------------------------------------------
-- Channels
-----------------------------------------------------------------------------------------

/-- A change of a channel that adds messages, as seen by all endpoints. -/
theorem contents_updateChannel {endpoints : Endpoints} {number : Nat} {channel : Channel Item}
    (mailbox : endpoints.channel? number = some channel) {change : Channel Item → Channel Item}
    {added : List Delivery} (adds : (change channel).messages = channel.messages ++ added)
    (other : Nat)
    : (endpoints.updateChannel number change).contents other
      = endpoints.contents other ++ if other = number then added else [] := by
  have found := get?_of_channel? mailbox
  rw [updateChannel_of_channel? mailbox, contents_set]
  split
  next here => rw [here, contents_of_get? found, Endpoint.contents, Endpoint.contents, adds]
  next => rw [List.append_nil]

/-- A change that keeps the messages of every channel. -/
theorem contents_updateChannel_of_same (endpoints : Endpoints) (number : Nat)
    (change : Channel Item → Channel Item)
    (same : ∀ channel, (change channel).messages = channel.messages) (other : Nat)
    : (endpoints.updateChannel number change).contents other = endpoints.contents other := by
  cases mailbox : endpoints.channel? number with
  | none => rw [updateChannel_of_none mailbox]
  | some channel =>
      rw [contents_updateChannel mailbox ((same channel).trans (List.append_nil _).symm)]
      split <;> exact List.append_nil _

-----------------------------------------------------------------------------------------
-- Deliveries and evictions
-----------------------------------------------------------------------------------------

/-- Some copies of a message have been added, and nothing else. -/
def Copies (message : Delivery) (before after : List Delivery) : Prop :=
  ∃ added, after = before ++ added ∧ ∀ delivery ∈ added, delivery = message

theorem Copies.none (message : Delivery) (contents : List Delivery)
    : Copies message contents contents :=
  ⟨[], (List.append_nil _).symm, nofun⟩

theorem Copies.trans {message : Delivery} {before between after : List Delivery}
    (first : Copies message before between) (second : Copies message between after)
    : Copies message before after := by
  obtain ⟨added, rfl, allAdded⟩ := first
  obtain ⟨more, rfl, allMore⟩ := second
  refine ⟨added ++ more, List.append_assoc _ _ _, fun delivery member => ?_⟩
  rcases List.mem_append.mp member with early | late
  · exact allAdded delivery early
  · exact allMore delivery late

/-- A delivery adds its message to the endpoint that it is made to, unless it fails. -/
theorem contents_deliver (endpoints : Endpoints) (number : Nat) (message : Delivery) (other : Nat)
    : Endpoints.contents (endpointOps.deliver number message endpoints).2 other
      = endpoints.contents other
        ++ if other = number ∧ (endpointOps.deliver number message endpoints).1 = none
          then [message] else [] := by
  cases found : endpoints.get? number with
  | none => simp [endpointOps, found]
  | some endpoint =>
      simp only [endpointOps, found, contents_set]
      by_cases here : other = number
      · subst here
        rw [if_pos rfl, contents_of_get? found, endpoint.contents_deliver]
        cases (endpoint.deliver message).1 <;> simp
      · simp [here]

/-- A fan-out adds its message as often as an attempt to deliver it there does not fail, by
induction on the targets.
-/
theorem contents_deliverAll (message : Delivery) (targets : List (Nat × Nat))
    (endpoints : Endpoints) (other : Nat)
    : let delivered := Exchange.deliverAll endpointOps message targets endpoints
      Endpoints.contents delivered.2 other
        = endpoints.contents other
          ++ .replicate (delivered.1.countP fun attempt => attempt.sink = other && !attempt.failed)
            message := by
  induction targets generalizing endpoints with
  | nil => exact (List.append_nil _).symm
  | cons target rest ih =>
      simp only at ih
      simp only [Exchange.deliverAll, List.countP_cons, ih, contents_deliver, List.append_assoc]
      by_cases here : other = target.2
      · cases (endpointOps.deliver target.2 message endpoints).1 <;>
          simp [here, Exchange.Attempt.failed, List.replicate_succ]
      · simp [here, Ne.symm here]

/-- A fan-out adds copies of its message. -/
theorem copies_deliverAll (message : Delivery) (targets : List (Nat × Nat)) (endpoints : Endpoints)
    (other : Nat)
    : Copies message (endpoints.contents other)
        (Endpoints.contents (Exchange.deliverAll endpointOps message targets endpoints).2
          other) :=
  ⟨_, contents_deliverAll message targets endpoints other, fun _ => List.eq_of_mem_replicate⟩

theorem contents_evicted (endpoints : Endpoints) (number other : Nat)
    : Endpoints.contents (endpointOps.evicted number endpoints) other
      = endpoints.contents other := by
  simp only [endpointOps]
  split
  next endpoint found => exact contents_set_of_same found endpoint.contents_evict other
  next => rfl

/-- Evictions leave all messages where they are, by induction on the failures. -/
theorem contents_foldl_evicted (failures : List (Exchange.Attempt Nat)) (endpoints : Endpoints)
    (other : Nat)
    : Endpoints.contents
        (failures.foldl (fun endpoints failure => endpointOps.evicted failure.sink endpoints)
          endpoints) other
      = endpoints.contents other := by
  induction failures generalizing endpoints with
  | nil => rfl
  | cons failure rest ih => exact (ih _).trans (contents_evicted endpoints failure.sink other)

end Endpoints

namespace World

variable {σ : Type}

/-- Delivering a message to the connections of a recipient adds copies of it. -/
theorem copies_spread {world : World σ} (coherent : world.exchange.registry.Coherent)
    (recipient : String) (message : Delivery) (number : Nat)
    : Endpoints.Copies message (world.endpoints.contents number)
        ((world.spread recipient message).endpoints.contents number) := by
  rw [endpoints_spread_eq coherent, Endpoints.contents_foldl_evicted]
  exact Endpoints.copies_deliverAll message _ world.endpoints number

/-- A status that is reported is no message. -/
theorem contents_report (world : World σ) (number : Nat) (session : Session) (ending : Ending)
    (status : Status) (other : Nat)
    : (world.report number session ending status).endpoints.contents other
      = world.endpoints.contents other := by
  unfold report
  split
  next =>
    split
    next => rfl
    next =>
      split
      next =>
        refine Endpoints.contents_updateChannel_of_same world.endpoints number _ ?_ other
        intro channel
        rw [Channel.messages_enqueue]
        exact List.append_nil _
      next =>
        exact Endpoints.contents_updateChannel_of_same world.endpoints number Channel.await
          (fun _ => rfl) other
  next => rfl

/-- The end of a session adds no message and takes none away. -/
theorem contents_finish (world : World σ) (number : Nat) (session : Session) (ending : Ending)
    (other : Nat)
    : (world.finish number session ending).endpoints.contents other
      = world.endpoints.contents other := by
  have withdrawn := Endpoints.contents_updateChannel_of_same world.endpoints number
    Channel.withdraw (fun _ => rfl) other
  let counted := (world.updateMetrics (countEnding ending)).updateChannel number Channel.withdraw
  have outside : (counted.exchange.unregister session.identity session.connection).2.outside
      = world.endpoints.updateChannel number Channel.withdraw :=
    Exchange.outside_unregister counted.exchange session.identity session.connection
  rw [← withdrawn, ← outside]
  simp only [finish]
  split
  next => exact contents_report _ _ _ _ _ other
  next => rfl

@[simp] theorem backend_report (world : World σ) (number : Nat) (session : Session)
    (ending : Ending) (status : Status)
    : (world.report number session ending status).backend = world.backend := by
  unfold report
  split
  next =>
    split
    next => rfl
    next => split <;> rfl
  next => rfl

@[simp] theorem backend_finish (world : World σ) (number : Nat) (session : Session)
    (ending : Ending)
    : (world.finish number session ending).backend = world.backend := by
  simp only [finish]
  split
  next => exact backend_report _ _ _ _ _
  next => rfl

end World

end ChatServer.Live
