import ChatServer.Live.Endpoint
import ChatServer.Proofs.Live.Fanout

/-! Mailboxes among the endpoints. Nothing that is done to an endpoint makes it another kind of
endpoint, deliveries leave the marks of eviction alone, and a fan-out marks exactly the mailboxes
whose deliveries failed.
-/

namespace ChatServer.Live

namespace Endpoints

variable (endpoints : Endpoints)

@[simp] theorem channel?_set (number other : Nat) (endpoint : Endpoint)
    : Endpoints.channel? (endpoints.set number endpoint) other
      = if other = number then
          match endpoint with
          | .mailbox channel _ => some channel
          | _ => none
        else endpoints.channel? other := by
  unfold Endpoints.channel?
  rw [Table.get?_set]
  by_cases same : other = number
  · rw [if_pos same, if_pos same]
    cases endpoint <;> rfl
  · rw [if_neg same, if_neg same]

@[simp] theorem isEvicted_set (number other : Nat) (endpoint : Endpoint)
    : Endpoints.isEvicted (endpoints.set number endpoint) other
      = if other = number then
          match endpoint with
          | .mailbox _ evicted => evicted
          | _ => false
        else endpoints.isEvicted other := by
  unfold Endpoints.isEvicted
  rw [Table.get?_set]
  by_cases same : other = number
  · rw [if_pos same, if_pos same]
    cases endpoint <;> rfl
  · rw [if_neg same, if_neg same]

/-- A mailbox with its channel and its mark. -/
theorem get?_of_channel? {endpoints : Endpoints} {number : Nat} {channel : Channel Item}
    (found : endpoints.channel? number = some channel)
    : endpoints.get? number = some (.mailbox channel (endpoints.isEvicted number)) := by
  unfold channel? at found
  split at found
  next evicted held =>
    obtain rfl := Option.some.inj found
    rw [isEvicted, held]
  next => cases found

/-- Setting an endpoint that is there keeps the numbers. -/
theorem keys_set_of_present {endpoints : Endpoints} {number : Nat} {old : Endpoint}
    (present : endpoints.get? number = some old) (endpoint : Endpoint)
    : (endpoints.set number endpoint).keys = endpoints.keys := by
  rw [Table.keys_set, if_pos (Table.mem_keys_iff.mpr ⟨old, present⟩)]

/-- The endpoints after something has happened to them: they have the same numbers, and the same
ones of them are mailboxes.
-/
structure Alike (before after : Endpoints) : Prop where
  keys : after.keys = before.keys
  mailbox : ∀ number, (after.channel? number).isSome = (before.channel? number).isSome

theorem Alike.refl (endpoints : Endpoints) : Alike endpoints endpoints :=
  ⟨rfl, fun _ => rfl⟩

theorem Alike.size {before after : Endpoints} (alike : Alike before after)
    : after.size = before.size := by
  rw [← Table.length_keys, alike.keys, Table.length_keys]

theorem Alike.trans {before between after : Endpoints} (first : Alike before between)
    (second : Alike between after)
    : Alike before after :=
  ⟨second.keys.trans first.keys, fun number => (second.mailbox number).trans (first.mailbox number)⟩

/-- Putting an endpoint of the same kind in the place of an old one. -/
theorem Alike.set {endpoints : Endpoints} {number : Nat} {old endpoint : Endpoint}
    (present : endpoints.get? number = some old)
    (kind : (∃ channel evicted, endpoint = .mailbox channel evicted)
      ↔ ∃ channel evicted, old = .mailbox channel evicted)
    : Alike endpoints (endpoints.set number endpoint) := by
  refine ⟨keys_set_of_present present endpoint, fun other => ?_⟩
  rw [channel?_set]
  split
  next same =>
    subst same
    rw [channel?, present]
    cases endpoint <;> cases old <;> simp_all
  next => rfl

-----------------------------------------------------------------------------------------
-- Changing a channel
-----------------------------------------------------------------------------------------

variable {endpoints}

theorem updateChannel_of_channel? {number : Nat} {channel : Channel Item}
    (found : endpoints.channel? number = some channel) (change : Channel Item → Channel Item)
    : endpoints.updateChannel number change
      = endpoints.set number (.mailbox (change channel) (endpoints.isEvicted number)) := by
  rw [updateChannel, get?_of_channel? found]

theorem updateChannel_of_none {number : Nat} (absent : endpoints.channel? number = none)
    (change : Channel Item → Channel Item)
    : endpoints.updateChannel number change = endpoints := by
  unfold updateChannel
  split
  next channel evicted held => simp [channel?, held] at absent
  next => rfl

theorem isEvicted_updateChannel (endpoints : Endpoints) (number other : Nat)
    (change : Channel Item → Channel Item)
    : (endpoints.updateChannel number change).isEvicted other = endpoints.isEvicted other := by
  cases found : endpoints.channel? number with
  | none => rw [updateChannel_of_none found]
  | some channel =>
      rw [updateChannel_of_channel? found, isEvicted_set]
      split
      next same => rw [same]
      next => rfl

/-- Changing a channel keeps the endpoints alike. -/
theorem Alike.updateChannel (endpoints : Endpoints) (number : Nat)
    (change : Channel Item → Channel Item)
    : Alike endpoints (endpoints.updateChannel number change) := by
  cases found : endpoints.channel? number with
  | none =>
      rw [updateChannel_of_none found]
      exact .refl endpoints
  | some channel =>
      rw [updateChannel_of_channel? found]
      exact .set (get?_of_channel? found) (by simp)

-----------------------------------------------------------------------------------------
-- Deliveries and evictions
-----------------------------------------------------------------------------------------

/-- A delivery keeps the endpoints alike and their marks as they are. -/
theorem alike_deliver (endpoints : Endpoints) (number : Nat) (message : Delivery)
    : Alike endpoints (endpointOps.deliver number message endpoints).2
      ∧ ∀ other,
        (endpointOps.deliver number message endpoints).2.isEvicted other
          = endpoints.isEvicted other := by
  simp only [endpointOps]
  split
  next endpoint held =>
    constructor
    · exact .set held (by cases endpoint <;> simp [Endpoint.deliver])
    · intro other
      rw [isEvicted_set]
      split
      next same =>
        subst same
        rw [isEvicted, held]
        cases endpoint <;> rfl
      next => rfl
  next => exact ⟨.refl endpoints, fun _ => rfl⟩

/-- Telling an endpoint of its eviction marks it if it is a mailbox. -/
theorem alike_evicted (endpoints : Endpoints) (number : Nat)
    : Alike endpoints (endpointOps.evicted number endpoints)
      ∧ ∀ other,
        (endpointOps.evicted number endpoints).isEvicted other
          = (endpoints.isEvicted other
              || decide (other = number) && (endpoints.channel? other).isSome) := by
  simp only [endpointOps]
  split
  next endpoint held =>
    constructor
    · exact .set held (by cases endpoint <;> simp [Endpoint.evict])
    · intro other
      rw [isEvicted_set]
      split
      next same =>
        subst same
        rw [isEvicted, channel?, held]
        cases endpoint <;> simp [Endpoint.evict]
      next differ => simp [differ]
  next absent =>
    refine ⟨.refl endpoints, fun other => ?_⟩
    by_cases same : other = number
    · subst same
      simp [channel?, absent]
    · simp [same]

/-- The attempts of a fan-out keep the endpoints alike and their marks as they are. -/
theorem alike_deliverAll (message : Delivery) (targets : List (Nat × Nat)) (endpoints : Endpoints)
    : Alike endpoints (Exchange.deliverAll endpointOps message targets endpoints).2
      ∧ ∀ other,
        Endpoints.isEvicted (Exchange.deliverAll endpointOps message targets endpoints).2 other
          = endpoints.isEvicted other := by
  induction targets generalizing endpoints with
  | nil => exact ⟨.refl endpoints, fun _ => rfl⟩
  | cons target rest ih =>
      obtain ⟨alike, marks⟩ := alike_deliver endpoints target.2 message
      obtain ⟨restAlike, restMarks⟩ := ih (endpointOps.deliver target.2 message endpoints).2
      exact ⟨alike.trans restAlike, fun other => (restMarks other).trans (marks other)⟩

/-- Telling endpoints of their evictions, one after the other, marks the mailboxes among them. -/
theorem alike_foldl_evicted (failures : List (Exchange.Attempt Nat)) (endpoints : Endpoints)
    : Alike endpoints
        (failures.foldl (fun endpoints failure => endpointOps.evicted failure.sink endpoints)
          endpoints)
      ∧ ∀ other,
        Endpoints.isEvicted
            (failures.foldl (fun endpoints failure => endpointOps.evicted failure.sink endpoints)
              endpoints) other
          = (endpoints.isEvicted other
              || decide (other ∈ failures.map (·.sink)) && (endpoints.channel? other).isSome) := by
  induction failures generalizing endpoints with
  | nil => exact ⟨.refl endpoints, by simp⟩
  | cons failure rest ih =>
      obtain ⟨alike, marks⟩ := alike_evicted endpoints failure.sink
      obtain ⟨restAlike, restMarks⟩ := ih (endpointOps.evicted failure.sink endpoints)
      refine ⟨alike.trans restAlike, fun other => ?_⟩
      rw [List.foldl_cons, restMarks, marks, alike.mailbox]
      cases endpoints.isEvicted other <;> cases (endpoints.channel? other).isSome <;>
        simp

end Endpoints

end ChatServer.Live
