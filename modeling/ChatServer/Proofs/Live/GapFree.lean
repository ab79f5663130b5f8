import ChatServer.Proofs.Live.Observation
import Mathlib.Data.List.TakeWhile

/-! Fan-out without gaps. What a connection accepts in a run is what was sent to its identity while
it was there, in order and once each, and it stays there until it is removed or fails. So a
connection that is still there has missed nothing.
-/

namespace ChatServer.Live

variable {κ ω : Type}

-----------------------------------------------------------------------------------------
-- What a connection goes through
-----------------------------------------------------------------------------------------

/-- The message that a connection accepts in an event. -/
def SinkEvent.accepted? (id : Nat) : SinkEvent → Option Delivery
  | offered other message none => if other = id then some message else none
  | _ => none

/-- Does a connection refuse a message in an event? -/
def SinkEvent.isRefusal (id : Nat) : SinkEvent → Bool
  | offered other _ (some _) => other = id
  | _ => false

/-- The messages that a connection accepts in some events, in order. -/
def accepted (id : Nat) (events : List SinkEvent) : List Delivery :=
  events.filterMap (SinkEvent.accepted? id)

/-- A call on a registry with what it does to sinks. -/
structure Step (κ : Type) where
  operation : Operation κ
  events : List SinkEvent

namespace Step

/-- The message that a call sends to an identity in any spelling. -/
def sentTo? (identity : String) (step : Step κ) : Option Delivery :=
  match step.operation with
  | .send other message =>
    if Identity.normalize other = Identity.normalize identity then some message else none
  | _ => none

/-- Does a call remove a connection of an identity by its number? -/
def removes (identity : String) (id : Nat) (step : Step κ) : Bool :=
  match step.operation with
  | .unregister other number =>
    number = id && Identity.normalize other = Identity.normalize identity
  | _ => false

/-- Does a delivery to a connection fail in a call? -/
def fails (id : Nat) (step : Step κ) : Bool :=
  step.events.any (SinkEvent.isRefusal id)

/-- Does a connection of an identity end with a call? -/
def ends (identity : String) (id : Nat) (step : Step κ) : Bool :=
  step.removes identity id || step.fails id

end Step

/-- The events are about other connections. -/
def Quiet (id : Nat) (events : List SinkEvent) : Prop :=
  ∀ event ∈ events, event.id ≠ id

theorem Quiet.accepted {id : Nat} {events : List SinkEvent} (h : Quiet id events)
    : accepted id events = [] := by
  apply List.filterMap_eq_nil_iff.mpr
  intro event member
  have differ := h event member
  match event with
  | .offered other message none => exact if_neg differ
  | .offered other message (some fault) => rfl
  | .evicted other => rfl

theorem Quiet.no_refusal {id : Nat} {events : List SinkEvent} (h : Quiet id events)
    : events.any (SinkEvent.isRefusal id) = false := by
  apply List.any_eq_false.mpr
  intro event member
  have differ := h event member
  match event with
  | .offered other message none => simp [SinkEvent.isRefusal]
  | .offered other message (some fault) => simpa [SinkEvent.isRefusal, SinkEvent.id] using differ
  | .evicted other => simp [SinkEvent.isRefusal]

theorem Quiet.count_evicted {id : Nat} {events : List SinkEvent} (h : Quiet id events)
    : events.count (.evicted id) = 0 :=
  List.count_eq_zero.mpr fun member => h _ member rfl

theorem accepted_append (id : Nat) (first second : List SinkEvent)
    : accepted id (first ++ second) = accepted id first ++ accepted id second :=
  List.filterMap_append

namespace Exchange

-----------------------------------------------------------------------------------------
-- What one call does to sinks
-----------------------------------------------------------------------------------------

/-- What an attempt does to its sink. -/
def offer (message : Delivery) (attempt : Attempt (Tagged κ)) : SinkEvent :=
  .offered attempt.sink.id message attempt.fault?

/-- What a call does to sinks: every connection is offered the message, and then those that
failed are told.
-/
def eventsOf (ops : SinkOps κ ω) (exchange : Exchange (Tagged κ) (Watched ω))
    : Operation κ → List SinkEvent
  | .send identity message =>
    (exchange.attempts ops.watched identity message).1.map (offer message)
      ++ (exchange.failures ops.watched identity message).map fun failure =>
        .evicted failure.sink.id
  | _ => []

theorem deliverAll_events (ops : SinkOps κ ω) (message : Delivery)
    (targets : List (Nat × Tagged κ)) (outside : Watched ω)
    : (deliverAll ops.watched message targets outside).2.events
      = outside.events
        ++ (deliverAll ops.watched message targets outside).1.map (offer message) := by
  induction targets generalizing outside with
  | nil => simp [deliverAll]
  | cons target rest ih =>
      simp only [deliverAll, List.map_cons, ih]
      simp [SinkOps.watched, offer]

theorem foldl_evicted_events (ops : SinkOps κ ω) (failures : List (Attempt (Tagged κ)))
    (outside : Watched ω)
    : (failures.foldl (fun outside failure => ops.watched.evicted failure.sink outside)
        outside).events
      = outside.events ++ failures.map fun failure => .evicted failure.sink.id := by
  induction failures generalizing outside with
  | nil => simp
  | cons failure rest ih =>
      rw [List.foldl_cons, ih]
      simp [SinkOps.watched]

/-- Connections carry their numbers as tags, and all events so far are about numbers that have
been given.
-/
structure Tracked (exchange : Exchange (Tagged κ) (Watched ω)) : Prop where
  coherent : exchange.registry.Coherent
  tagged
    : ∀ identity id tagged, exchange.registry.sink? identity id = some tagged → tagged.id = id
  past : ∀ event ∈ exchange.outside.events, event.id < exchange.registry.next

/-- An unused registry is tracked. -/
theorem Tracked.unused (state : ω) : (unused state : Exchange (Tagged κ) (Watched ω)).Tracked where
  coherent := .empty
  tagged := by
    intro identity id tagged found
    simp [Exchange.unused, Registry.sink?, Registry.connectionsOf] at found
  past := by simp [Exchange.unused]

/-- A call adds its events to those before it. -/
theorem Tracked.events_watch {exchange : Exchange (Tagged κ) (Watched ω)}
    (h : exchange.Tracked) (ops : SinkOps κ ω) (operation : Operation κ)
    : (exchange.watch ops operation).outside.events
      = exchange.outside.events ++ exchange.eventsOf ops operation := by
  cases operation with
  | register identity sink => simp [watch, tag, perform, register, eventsOf]
  | unregister identity id =>
      simp only [watch, tag, perform, unregister, eventsOf, List.append_nil]
      split <;> rfl
  | send identity message =>
      have pruned := sendTo_pruned ops.watched h.coherent identity message
      rw [watch, tag, perform, pruned.outside, foldl_evicted_events, eventsOf, ← List.append_assoc]
      exact congrArg (· ++ _) (deliverAll_events ops message _ _)

/-- The connection of an attempt has the number of its tag. -/
theorem Tracked.tag_of_attempt {exchange : Exchange (Tagged κ) (Watched ω)}
    (h : exchange.Tracked) {ops : SinkOps κ ω} {identity : String} {message : Delivery}
    {attempt : Attempt (Tagged κ)}
    (member : attempt ∈ (exchange.attempts ops.watched identity message).1)
    : attempt.sink.id = attempt.id :=
  h.tagged identity _ _ (sink?_of_attempt h.coherent member)

/-- A call does something only to sinks that are connected to the identity it names. -/
theorem Tracked.sink?_of_event {exchange : Exchange (Tagged κ) (Watched ω)}
    (h : exchange.Tracked) {ops : SinkOps κ ω} {operation : Operation κ} {event : SinkEvent}
    (member : event ∈ exchange.eventsOf ops operation)
    : ∃ identity message tagged,
        operation = .send identity message
        ∧ exchange.registry.sink? identity event.id = some tagged := by
  cases operation with
  | register identity sink => simp [eventsOf] at member
  | unregister identity id => simp [eventsOf] at member
  | send identity message =>
      have attempted : ∀ attempt ∈ (exchange.attempts ops.watched identity message).1,
          exchange.registry.sink? identity attempt.sink.id = some attempt.sink := by
        intro attempt tried
        rw [h.tag_of_attempt tried]
        exact sink?_of_attempt h.coherent tried
      rcases List.mem_append.mp member with offered | told
      · obtain ⟨attempt, tried, rfl⟩ := List.mem_map.mp offered
        exact ⟨identity, message, attempt.sink, rfl, attempted attempt tried⟩
      · obtain ⟨attempt, failed, rfl⟩ := List.mem_map.mp told
        exact ⟨identity, message, attempt.sink, rfl, attempted attempt (mem_failures.mp failed).1⟩

-----------------------------------------------------------------------------------------
-- What one call does to the connections
-----------------------------------------------------------------------------------------

theorem sink?_watch_register (ops : SinkOps κ ω) (exchange : Exchange (Tagged κ) (Watched ω))
    (identity other : String) (sink : κ) (key : Nat)
    : (exchange.watch ops (.register identity sink)).registry.sink? other key
      = if Identity.normalize other = Identity.normalize identity
            ∧ key = exchange.registry.next then
          some ⟨exchange.registry.next, sink⟩
        else exchange.registry.sink? other key :=
  exchange.registry.sink?_register identity other _ key

theorem sink?_watch_unregister (ops : SinkOps κ ω) (exchange : Exchange (Tagged κ) (Watched ω))
    (identity other : String) (id key : Nat)
    : (exchange.watch ops (.unregister identity id)).registry.sink? other key
      = if Identity.normalize other = Identity.normalize identity ∧ key = id then none
        else exchange.registry.sink? other key := by
  rw [watch, tag, perform, registry_unregister, Registry.sink?_unregister]

theorem Tracked.sink?_watch_send {exchange : Exchange (Tagged κ) (Watched ω)}
    (h : exchange.Tracked) (ops : SinkOps κ ω) (identity other : String) (message : Delivery)
    (key : Nat)
    : (exchange.watch ops (.send identity message)).registry.sink? other key
      = if Identity.normalize other = Identity.normalize identity
            ∧ key ∈ (exchange.failures ops.watched identity message).map Attempt.id then none
        else exchange.registry.sink? other key :=
  (sendTo_pruned ops.watched h.coherent identity message).sink? other key

/-- A connection that is found after a call was found before it, unless the call has added it
under the next number.
-/
theorem Tracked.sink?_before {exchange : Exchange (Tagged κ) (Watched ω)} (h : exchange.Tracked)
    {ops : SinkOps κ ω} {operation : Operation κ} {identity : String} {id : Nat}
    {tagged : Tagged κ}
    (found : (exchange.watch ops operation).registry.sink? identity id = some tagged)
    : exchange.registry.sink? identity id = some tagged
      ∨ id = exchange.registry.next ∧ tagged.id = id := by
  cases operation with
  | register other sink =>
      rw [sink?_watch_register] at found
      split at found
      next here =>
        obtain rfl := Option.some.inj found
        exact .inr ⟨here.2, here.2.symm⟩
      next => exact .inl found
  | unregister other number =>
      rw [sink?_watch_unregister] at found
      split at found
      next => cases found
      next => exact .inl found
  | send other message =>
      rw [h.sink?_watch_send] at found
      split at found
      next => cases found
      next => exact .inl found

/-- Numbers are only ever given, never taken back. -/
theorem Tracked.next_le_watch {exchange : Exchange (Tagged κ) (Watched ω)} (h : exchange.Tracked)
    (ops : SinkOps κ ω) (operation : Operation κ)
    : exchange.registry.next ≤ (exchange.watch ops operation).registry.next := by
  cases operation with
  | register identity sink => exact Nat.le_succ _
  | unregister identity id =>
      apply Nat.le_of_eq
      rw [watch, tag, perform, registry_unregister, Registry.next_unregister]
  | send identity message =>
      exact Nat.le_of_eq (sendTo_pruned ops.watched h.coherent identity message).next.symm

/-- A call keeps a registry coherent. -/
theorem Tracked.coherent_watch {exchange : Exchange (Tagged κ) (Watched ω)} (h : exchange.Tracked)
    (ops : SinkOps κ ω) (operation : Operation κ)
    : (exchange.watch ops operation).registry.Coherent := by
  cases operation with
  | register identity sink => exact h.coherent.register identity _
  | unregister identity id =>
      rw [watch, tag, perform, registry_unregister]
      exact h.coherent.unregister identity id
  | send identity message => exact (sendTo_pruned ops.watched h.coherent identity message).coherent

/-- A call keeps a registry tracked. -/
theorem Tracked.watch {exchange : Exchange (Tagged κ) (Watched ω)} (h : exchange.Tracked)
    (ops : SinkOps κ ω) (operation : Operation κ)
    : (exchange.watch ops operation).Tracked := by
  refine {
    coherent := h.coherent_watch ops operation
    tagged := ?_
    past := ?_
  }
  · intro identity id tagged found
    rcases h.sink?_before found with before | ⟨_, new⟩
    · exact h.tagged identity id tagged before
    · exact new
  · intro event member
    refine Nat.lt_of_lt_of_le ?_ (h.next_le_watch ops operation)
    rw [h.events_watch] at member
    rcases List.mem_append.mp member with earlier | now
    · exact h.past event earlier
    · obtain ⟨_, _, _, _, found⟩ := h.sink?_of_event now
      exact h.coherent.lt_next found

-----------------------------------------------------------------------------------------
-- One call and one connection
-----------------------------------------------------------------------------------------

/-- A number that has been given and taken away never comes back, and nothing happens to it. -/
theorem Tracked.watch_of_absent {exchange : Exchange (Tagged κ) (Watched ω)} (h : exchange.Tracked)
    (ops : SinkOps κ ω) (operation : Operation κ) {id : Nat}
    (given : id < exchange.registry.next) (absent : id ∉ exchange.registry.ids)
    : Quiet id (exchange.eventsOf ops operation)
      ∧ id ∉ (exchange.watch ops operation).registry.ids := by
  have nobody : ∀ identity, exchange.registry.sink? identity id = none := by
    intro identity
    cases found : exchange.registry.sink? identity id with
    | none => rfl
    | some tagged => exact absurd (h.coherent.mem_ids_iff.mpr ⟨identity, tagged, found⟩) absent
  constructor
  · rintro event member rfl
    obtain ⟨identity, _, tagged, _, found⟩ := h.sink?_of_event member
    rw [nobody identity] at found
    cases found
  · intro member
    obtain ⟨identity, tagged, found⟩ :=
      (h.coherent_watch ops operation).mem_ids_iff.mp member
    rcases h.sink?_before found with before | ⟨new, _⟩
    · rw [nobody] at before
      cases before
    · exact Nat.ne_of_lt given new

/-- A connection that is there is tried once by a fan-out to its identity, among others. -/
theorem Tracked.attempts_split {exchange : Exchange (Tagged κ) (Watched ω)} (h : exchange.Tracked)
    (ops : SinkOps κ ω) {identity : String} (message : Delivery) {id : Nat} {tagged : Tagged κ}
    (found : exchange.registry.sink? identity id = some tagged)
    : ∃ fault? front back,
        (exchange.attempts ops.watched identity message).1
          = front ++ ⟨id, tagged, fault?⟩ :: back
        ∧ ∀ attempt ∈ front ++ back, attempt.sink.id ≠ id := by
  obtain ⟨⟨_, _, fault?⟩, tried, rfl, rfl⟩ := attempt_of_sink? ops.watched message found
  obtain ⟨front, back, split⟩ := List.append_of_mem tried
  refine ⟨fault?, front, back, split, ?_⟩
  intro attempt member
  -- No number is tried twice, so no other attempt has the tag of this one.
  have apart := attempts_nodup ops.watched h.coherent identity message
  simp only [split, List.map_append, List.map_cons] at apart
  have alone := (List.nodup_cons.mp (List.perm_middle.nodup_iff.mp apart)).1
  have inside : attempt ∈ (exchange.attempts ops.watched identity message).1 := by
    rw [split]
    rcases List.mem_append.mp member with before | after
    · exact List.mem_append_left _ before
    · exact List.mem_append_right _ (List.mem_cons_of_mem _ after)
  rw [h.tag_of_attempt inside]
  rintro rfl
  exact alone (by rw [← List.map_append]; exact List.mem_map_of_mem member)

/-- A call with the events that it causes. -/
def step (ops : SinkOps κ ω) (exchange : Exchange (Tagged κ) (Watched ω))
    (operation : Operation κ) : Step κ :=
  ⟨operation, exchange.eventsOf ops operation⟩

/-- What a call comes to for a connection of an identity that is there before it: either the
connection stays, and accepts what the call sends to its identity; or it ends with the call, and
is told so if the reason is a failed delivery.
-/
inductive Outcome (identity : String) (id : Nat) (tagged : Tagged κ) (step : Step κ)
    (after : Registry (Tagged κ)) : Prop
  | stays (lasting : step.ends identity id = false)
    (there : after.sink? identity id = some tagged)
    (taken : accepted id step.events = (step.sentTo? identity).toList)
    (untold : step.events.count (.evicted id) = 0)
  | goes (final : step.ends identity id = true)
    (gone : id ∉ after.ids)
    (nothing : accepted id step.events = [])
    (told : step.events.count (.evicted id) = if step.fails id then 1 else 0)

/-- A connection that was there for one identity and is not any more is gone altogether. -/
theorem Tracked.gone {exchange : Exchange (Tagged κ) (Watched ω)} (h : exchange.Tracked)
    (ops : SinkOps κ ω) {operation : Operation κ} {identity : String} {id : Nat}
    {tagged : Tagged κ} (found : exchange.registry.sink? identity id = some tagged)
    (absent : (exchange.watch ops operation).registry.sink? identity id = none)
    : id ∉ (exchange.watch ops operation).registry.ids := by
  intro member
  obtain ⟨other, held, there⟩ := (h.coherent_watch ops operation).mem_ids_iff.mp member
  rcases h.sink?_before there with before | ⟨new, _⟩
  · have named := h.coherent.identity_unique found before
    rw [Registry.sink?_congr named, there] at absent
    cases absent
  · exact Nat.ne_of_lt (h.coherent.lt_next found) new

theorem quiet_offers {id : Nat} (message : Delivery) {attempts : List (Attempt (Tagged κ))}
    (others : ∀ attempt ∈ attempts, attempt.sink.id ≠ id)
    : Quiet id (attempts.map (offer message)) := by
  intro event member
  obtain ⟨attempt, tried, rfl⟩ := List.mem_map.mp member
  exact others attempt tried

theorem quiet_evictions {id : Nat} {attempts : List (Attempt (Tagged κ))}
    (others : ∀ attempt ∈ attempts, attempt.sink.id ≠ id)
    : Quiet id ((attempts.filter Attempt.failed).map fun failure =>
        .evicted failure.sink.id) := by
  intro event member
  obtain ⟨attempt, failed, rfl⟩ := List.mem_map.mp member
  exact others attempt (List.mem_filter.mp failed).1

/-- The failed attempts of a fan-out, around one of its attempts. -/
theorem failures_of_split {ops : SinkOps κ ω} {exchange : Exchange (Tagged κ) (Watched ω)}
    {identity : String} {message : Delivery} {attempt : Attempt (Tagged κ)}
    {front back : List (Attempt (Tagged κ))}
    (split : (exchange.attempts ops.watched identity message).1 = front ++ attempt :: back)
    : exchange.failures ops.watched identity message
      = front.filter Attempt.failed
        ++ (if attempt.fault?.isSome then [attempt] else []) ++ back.filter Attempt.failed := by
  rw [failures, split, List.filter_append, List.filter_cons, List.append_assoc]
  rcases attempt with ⟨id, tagged, fault?⟩
  cases fault? <;> rfl

/-- What a fan-out does to a connection is what comes of the one attempt that is made on it: the
message is accepted, or the delivery fails and the sink is told.
-/
theorem step_of_split {ops : SinkOps κ ω} {exchange : Exchange (Tagged κ) (Watched ω)}
    {identity : String} {message : Delivery} {id : Nat} {tagged : Tagged κ}
    {fault? : Option DeliveryFault} {front back : List (Attempt (Tagged κ))}
    (named : tagged.id = id)
    (split : (exchange.attempts ops.watched identity message).1
      = front ++ ⟨id, tagged, fault?⟩ :: back)
    (others : ∀ attempt ∈ front ++ back, attempt.sink.id ≠ id)
    : (exchange.step ops (.send identity message)).fails id = fault?.isSome
      ∧ accepted id (exchange.step ops (.send identity message)).events
        = (if fault?.isSome then [] else [message])
      ∧ (exchange.step ops (.send identity message)).events.count (.evicted id)
        = if fault?.isSome then 1 else 0 := by
  have inFront := fun attempt member => others attempt (List.mem_append_left _ member)
  have inBack := fun attempt member => others attempt (List.mem_append_right _ member)
  have frontOffers := quiet_offers message inFront
  have backOffers := quiet_offers message inBack
  have frontEvictions := quiet_evictions inFront
  have backEvictions := quiet_evictions inBack
  have events : (exchange.step ops (.send identity message)).events
      = front.map (offer message) ++ .offered id message fault? :: back.map (offer message)
        ++ ((front.filter Attempt.failed).map (fun failure => .evicted failure.sink.id)
          ++ (if fault?.isSome then [.evicted id] else [])
          ++ (back.filter Attempt.failed).map fun failure => .evicted failure.sink.id) := by
    rw [step, eventsOf, failures_of_split split, split]
    cases fault? <;> simp [offer, named]
  rw [Step.fails, events]
  refine ⟨?_, ?_, ?_⟩
  · simp only [List.any_append, List.any_cons, frontOffers.no_refusal, backOffers.no_refusal,
      frontEvictions.no_refusal, backEvictions.no_refusal]
    cases fault? <;> simp [SinkEvent.isRefusal]
  · simp only [accepted_append, frontOffers.accepted, frontEvictions.accepted,
      backEvictions.accepted]
    rw [accepted, List.filterMap_cons, ← accepted, backOffers.accepted]
    cases fault? <;> simp [SinkEvent.accepted?, accepted]
  · simp only [List.count_append, List.count_cons, frontOffers.count_evicted,
      backOffers.count_evicted, frontEvictions.count_evicted, backEvictions.count_evicted]
    cases fault? <;> simp

/-- A connection is among the failed ones of a fan-out exactly if the one attempt on it failed. -/
theorem Tracked.mem_failures_of_split {exchange : Exchange (Tagged κ) (Watched ω)}
    (h : exchange.Tracked) {ops : SinkOps κ ω} {identity : String} {message : Delivery} {id : Nat}
    {tagged : Tagged κ} {fault? : Option DeliveryFault} {front back : List (Attempt (Tagged κ))}
    (split : (exchange.attempts ops.watched identity message).1
      = front ++ ⟨id, tagged, fault?⟩ :: back)
    (others : ∀ attempt ∈ front ++ back, attempt.sink.id ≠ id)
    : id ∈ (exchange.failures ops.watched identity message).map Attempt.id
      ↔ fault?.isSome = true := by
  constructor
  · intro member
    obtain ⟨attempt, among, rfl⟩ := List.mem_map.mp member
    obtain ⟨tried, failed⟩ := mem_failures.mp among
    have tag := h.tag_of_attempt tried
    rw [split] at tried
    rcases List.mem_append.mp tried with inFront | here
    · exact absurd tag (others attempt (List.mem_append_left _ inFront))
    · rcases List.mem_cons.mp here with itself | inBack
      · exact (congrArg (·.fault?.isSome) itself).symm.trans failed
      · exact absurd tag (others attempt (List.mem_append_right _ inBack))
  · intro failed
    refine List.mem_map.mpr ⟨⟨id, tagged, fault?⟩, mem_failures.mpr ⟨?_, failed⟩, rfl⟩
    rw [split]
    exact List.mem_append_right _ List.mem_cons_self

/-- A fan-out to the identity of a connection: what comes of it depends on the one attempt that
is made on the connection.
-/
theorem Tracked.outcome_of_split {exchange : Exchange (Tagged κ) (Watched ω)}
    (h : exchange.Tracked) (ops : SinkOps κ ω) {identity other : String} {message : Delivery}
    (same : Identity.normalize other = Identity.normalize identity) {id : Nat}
    {tagged : Tagged κ} (found : exchange.registry.sink? identity id = some tagged)
    {fault? : Option DeliveryFault} {front back : List (Attempt (Tagged κ))}
    (split : (exchange.attempts ops.watched other message).1
      = front ++ ⟨id, tagged, fault?⟩ :: back)
    (others : ∀ attempt ∈ front ++ back, attempt.sink.id ≠ id)
    : Outcome identity id tagged (exchange.step ops (.send other message))
        (exchange.watch ops (.send other message)).registry := by
  obtain ⟨refusal, taken, told⟩ := step_of_split (h.tagged identity id tagged found) split others
  have failing := h.mem_failures_of_split split others
  have kept : (exchange.step ops (.send other message)).removes identity id = false := rfl
  cases fault? with
  | none =>
      refine .stays (by rw [Step.ends, kept, refusal]; rfl) ?_ ?_ told
      · rw [h.sink?_watch_send, if_neg fun failed => Bool.false_ne_true (failing.mp failed.2),
          found]
      · rw [taken]
        simp [step, Step.sentTo?, same]
  | some fault =>
      refine .goes (by rw [Step.ends, kept, refusal]; rfl) ?_ taken (by rw [told, refusal])
      apply h.gone ops found
      rw [h.sink?_watch_send, if_pos ⟨same.symm, failing.mpr rfl⟩]

/-- One call and a connection that is there, by cases on the call. Only an unregistering of that
connection or a failed delivery ends it.
-/
theorem Tracked.watch_of_present {exchange : Exchange (Tagged κ) (Watched ω)}
    (h : exchange.Tracked) (ops : SinkOps κ ω) (operation : Operation κ) {identity : String}
    {id : Nat} {tagged : Tagged κ} (found : exchange.registry.sink? identity id = some tagged)
    : Outcome identity id tagged (exchange.step ops operation)
        (exchange.watch ops operation).registry := by
  cases operation with
  | register other sink =>
      have differ : id ≠ exchange.registry.next := Nat.ne_of_lt (h.coherent.lt_next found)
      refine .stays rfl ?_ rfl rfl
      rw [sink?_watch_register, if_neg fun new => differ new.2, found]
  | unregister other number =>
      by_cases removed : number = id ∧ Identity.normalize other = Identity.normalize identity
      · refine .goes ?_ (h.gone ops found ?_) rfl rfl
        · simp [step, Step.ends, Step.removes, removed]
        · rw [sink?_watch_unregister, if_pos ⟨removed.2.symm, removed.1.symm⟩]
      · refine .stays ?_ ?_ rfl rfl
        · have kept : (exchange.step ops (.unregister other number)).removes identity id
              = false := by
            simpa [step, Step.removes] using removed
          rw [Step.ends, kept]
          rfl
        · rw [sink?_watch_unregister,
            if_neg fun same => removed ⟨same.2.symm, same.1.symm⟩, found]
  | send other message =>
      by_cases same : Identity.normalize other = Identity.normalize identity
      · have spelled : exchange.registry.sink? other id = some tagged :=
          (Registry.sink?_congr same _ _).trans found
        obtain ⟨fault?, front, back, split, others⟩ := h.attempts_split ops message spelled
        exact h.outcome_of_split ops same found split others
      · have quiet : Quiet id (exchange.eventsOf ops (.send other message)) := by
          rintro event member rfl
          obtain ⟨_, _, held, named, there⟩ := h.sink?_of_event member
          cases named
          exact same (h.coherent.identity_unique there found)
        refine .stays ?_ ?_ ?_ quiet.count_evicted
        · simp [step, Step.ends, Step.removes, Step.fails, quiet.no_refusal]
        · rw [h.sink?_watch_send, if_neg fun named => same named.1.symm, found]
        · simp [step, Step.sentTo?, same, quiet.accepted]

-----------------------------------------------------------------------------------------
-- Runs
-----------------------------------------------------------------------------------------

/-- Makes calls on a watched registry, one after the other. -/
def watchAll (ops : SinkOps κ ω) (exchange : Exchange (Tagged κ) (Watched ω))
    (operations : List (Operation κ)) : Exchange (Tagged κ) (Watched ω) :=
  operations.foldl (watch ops) exchange

/-- The calls of a run with the events that each of them adds. -/
def history (ops : SinkOps κ ω) (exchange : Exchange (Tagged κ) (Watched ω))
    : List (Operation κ) → List (Step κ)
  | [] => []
  | operation :: rest =>
    let next := exchange.watch ops operation
    ⟨operation, next.outside.events.drop exchange.outside.events.length⟩ :: next.history ops rest

theorem Tracked.history_cons {exchange : Exchange (Tagged κ) (Watched ω)} (h : exchange.Tracked)
    (ops : SinkOps κ ω) (operation : Operation κ) (rest : List (Operation κ))
    : exchange.history ops (operation :: rest)
      = exchange.step ops operation :: (exchange.watch ops operation).history ops rest := by
  rw [history, h.events_watch, List.drop_left]
  rfl

/-- A run keeps a registry tracked. -/
theorem Tracked.watchAll {exchange : Exchange (Tagged κ) (Watched ω)} (h : exchange.Tracked)
    (ops : SinkOps κ ω) (operations : List (Operation κ))
    : (exchange.watchAll ops operations).Tracked := by
  induction operations generalizing exchange with
  | nil => exact h
  | cons operation rest ih => exact ih (h.watch ops operation)

/-- A run adds the events of its calls, in order. -/
theorem Tracked.events_watchAll {exchange : Exchange (Tagged κ) (Watched ω)} (h : exchange.Tracked)
    (ops : SinkOps κ ω) (operations : List (Operation κ))
    : (exchange.watchAll ops operations).outside.events
      = exchange.outside.events ++ (exchange.history ops operations).flatMap Step.events := by
  induction operations generalizing exchange with
  | nil => simp [Exchange.watchAll, history]
  | cons operation rest ih =>
      have tail := ih (h.watch ops operation)
      rw [h.history_cons, List.flatMap_cons, ← List.append_assoc]
      rw [h.events_watch] at tail
      exact tail

/-- Nothing happens any more to a connection that is gone, by induction on the run. -/
theorem Tracked.watchAll_of_absent {exchange : Exchange (Tagged κ) (Watched ω)}
    (h : exchange.Tracked) (ops : SinkOps κ ω) (operations : List (Operation κ)) {id : Nat}
    (given : id < exchange.registry.next) (absent : id ∉ exchange.registry.ids)
    : Quiet id ((exchange.history ops operations).flatMap Step.events)
      ∧ id ∉ (exchange.watchAll ops operations).registry.ids := by
  induction operations generalizing exchange with
  | nil => exact ⟨by simp [Quiet, history], absent⟩
  | cons operation rest ih =>
      obtain ⟨quiet, still⟩ := h.watch_of_absent ops operation given absent
      obtain ⟨later, final⟩ := ih (h.watch ops operation)
        (Nat.lt_of_lt_of_le given (h.next_le_watch ops operation)) still
      refine ⟨?_, final⟩
      rw [h.history_cons, List.flatMap_cons]
      intro event member
      rcases List.mem_append.mp member with now | after
      · exact quiet event now
      · exact later event after

/-- What a connection goes through in a run. It accepts what is sent to its identity before it
ends, is there at the end unless it has ended, and is told when it ends with a failed delivery.
-/
structure Lived (identity : String) (id : Nat) (tagged : Tagged κ) (later : List (Step κ))
    (final : Registry (Tagged κ)) : Prop where
  accepted
    : accepted id (later.flatMap Step.events)
      = (later.takeWhile (!·.ends identity id)).filterMap (Step.sentTo? identity)
  there : (∀ step ∈ later, step.ends identity id = false) → final.sink? identity id = some tagged
  gone : (∃ step ∈ later, step.ends identity id = true) → id ∉ final.ids
  told
    : (later.flatMap Step.events).count (.evicted id)
      = if (later.find? (·.ends identity id)).any (Step.fails id) then 1 else 0

/-- A connection that is there lives through any run so, by induction on the run. -/
theorem Tracked.watchAll_of_present {exchange : Exchange (Tagged κ) (Watched ω)}
    (h : exchange.Tracked) (ops : SinkOps κ ω) (operations : List (Operation κ))
    {identity : String} {id : Nat} {tagged : Tagged κ}
    (found : exchange.registry.sink? identity id = some tagged)
    : Lived identity id tagged (exchange.history ops operations)
        (exchange.watchAll ops operations).registry := by
  induction operations generalizing exchange with
  | nil => exact ⟨rfl, fun _ => found, by simp [history], rfl⟩
  | cons operation rest ih =>
      have after := h.watch ops operation
      rw [h.history_cons]
      cases h.watch_of_present ops operation found with
      | stays lasting there taken untold =>
          have tail := ih after there
          refine ⟨?_, ?_, ?_, ?_⟩
          · rw [List.flatMap_cons, accepted_append, taken, tail.accepted,
              List.takeWhile_cons_of_pos (by simp [lasting]), List.filterMap_cons]
            cases (exchange.step ops operation).sentTo? identity <;> rfl
          · exact fun all => tail.there fun step member => all step (List.mem_cons_of_mem _ member)
          · rintro ⟨step, member, final⟩
            rcases List.mem_cons.mp member with rfl | later
            · rw [lasting] at final
              cases final
            · exact tail.gone ⟨step, later, final⟩
          · rw [List.flatMap_cons, List.count_append, untold, tail.told, Nat.zero_add,
              List.find?_cons_of_neg (by simp [lasting])]
      | goes final gone nothing told =>
          have given := Nat.lt_of_lt_of_le (h.coherent.lt_next found)
            (h.next_le_watch ops operation)
          -- Its end is final: nothing in the rest of the run concerns the connection.
          obtain ⟨quiet, absent⟩ := after.watchAll_of_absent ops rest given gone
          refine ⟨?_, ?_, fun _ => absent, ?_⟩
          · rw [List.flatMap_cons, accepted_append, nothing, quiet.accepted,
              List.takeWhile_cons_of_neg (by simp [final])]
            rfl
          · intro all
            rw [all _ List.mem_cons_self] at final
            cases final
          · rw [List.flatMap_cons, List.count_append, told, quiet.count_evicted,
              List.find?_cons_of_pos final]
            rfl

/-- Watching a run disturbs nothing. -/
theorem plain_watchAll (ops : SinkOps κ ω) (exchange : Exchange (Tagged κ) (Watched ω))
    (operations : List (Operation κ))
    : (exchange.watchAll ops operations).plain
      = operations.foldl (perform ops) exchange.plain := by
  induction operations generalizing exchange with
  | nil => rfl
  | cons operation rest ih =>
      rw [watchAll, List.foldl_cons, List.foldl_cons, ← plain_watch]
      exact ih _

/-- Fan-out leaves no gap. In every run, a connection accepts exactly the messages that are sent
to its identity after it has been registered and before it is unregistered or a delivery to it
fails, in order and once each. It is there at the end if neither has happened, and then it has
missed nothing; its sink is told once if a failed delivery came first, and never otherwise. All
this is read off the run as it is without being watched, by the first conjunct.
-/
theorem fanout_gap_free (ops : SinkOps κ ω) (state : ω) (before after : List (Operation κ))
    (identity : String) (sink : κ)
    : let start := (unused state).watchAll ops before
      let id := (start.register identity ⟨start.registry.next, sink⟩).1
      let opened := start.watch ops (.register identity sink)
      let later := opened.history ops after
      let final := opened.watchAll ops after
      final.plain
          = (before ++ .register identity sink :: after).foldl (perform ops) { outside := state }
        ∧ accepted id final.outside.events
          = (later.takeWhile (!·.ends identity id)).filterMap (Step.sentTo? identity)
        ∧ (id ∈ final.registry.ids ↔ ∀ step ∈ later, step.ends identity id = false)
        ∧ (id ∈ final.registry.ids →
          final.registry.sink? identity id = some ⟨id, sink⟩
            ∧ accepted id final.outside.events = later.filterMap (Step.sentTo? identity))
        ∧ final.outside.events.count (.evicted id)
          = if (later.find? (·.ends identity id)).any (Step.fails id) then 1 else 0 := by
  intro start id opened later final
  have tracked : start.Tracked := (Tracked.unused state).watchAll ops before
  have found : opened.registry.sink? identity id = some ⟨id, sink⟩ := by
    rw [sink?_watch_register, if_pos ⟨rfl, rfl⟩]
    rfl
  have quiet : Quiet id opened.outside.events := fun event member =>
    Nat.ne_of_lt (tracked.past event member)
  have lived := (tracked.watch ops (.register identity sink)).watchAll_of_present ops after found
  have events : final.outside.events = opened.outside.events ++ later.flatMap Step.events :=
    (tracked.watch ops _).events_watchAll ops after
  have received : accepted id final.outside.events
      = (later.takeWhile (!·.ends identity id)).filterMap (Step.sentTo? identity) := by
    rw [events, accepted_append, quiet.accepted]
    exact lived.accepted
  have lasting : id ∈ final.registry.ids → ∀ step ∈ later, step.ends identity id = false := by
    intro there step member
    apply Bool.eq_false_iff.mpr
    intro ends
    exact lived.gone ⟨step, member, ends⟩ there
  refine ⟨?_, received, ⟨lasting, ?_⟩, ?_, ?_⟩
  · rw [List.foldl_append, List.foldl_cons, plain_watchAll, plain_watch, plain_watchAll]
    rfl
  · intro all
    exact ((tracked.watch ops _).watchAll ops after).coherent.mem_ids_iff.mpr
      ⟨identity, _, lived.there all⟩
  · intro there
    refine ⟨lived.there (lasting there), ?_⟩
    have whole : later.takeWhile (!·.ends identity id) = later :=
      List.takeWhile_eq_self_iff.mpr fun step member => by simp [lasting there step member]
    rw [received, whole]
  · rw [events, List.count_append, quiet.count_evicted, Nat.zero_add]
    exact lived.told

end Exchange

end ChatServer.Live
