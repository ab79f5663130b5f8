import ChatServer.Live.Endpoint
import ChatServer.Proofs.Live.GapFree
import Mathlib.Data.List.Nodup
import Mathlib.Data.List.Perm.Basic

/-! Accounting for a fan-out. What it answers, which connections it leaves and what it counts agree
with the attempts that the sinks have seen, of which there is one for each connection. It holds for
sinks that depend on each other in any way, and in whatever order the connections are tried.
-/

namespace ChatServer.Live

variable {κ ω : Type}

-----------------------------------------------------------------------------------------
-- The order of connections
-----------------------------------------------------------------------------------------

namespace Registry

/-- The registry with the connections of each identity in another order. -/
def arranged (arrange : Table Nat κ → Table Nat κ) (registry : Registry κ) : Registry κ :=
  { registry with connections := registry.connections.map arrange }

variable {arrange : Table Nat κ → Table Nat κ}

theorem connectionsOf_arranged (perm : ∀ table, (arrange table).entries.Perm table.entries)
    (registry : Registry κ) (identity : String)
    : ((registry.arranged arrange).connectionsOf identity).entries.Perm
        (registry.connectionsOf identity).entries := by
  simp only [connectionsOf, arranged, Table.get?_map]
  cases registry.connections.get? (Identity.normalize identity) with
  | none => exact .rfl
  | some connections => exact perm connections

theorem ids_arranged (perm : ∀ table, (arrange table).entries.Perm table.entries)
    (registry : Registry κ)
    : (registry.arranged arrange).ids.Perm registry.ids := by
  simp only [ids, arranged, Table.map, List.flatMap_map]
  exact List.Perm.flatMap_left _ fun entry _ => (perm entry.2).map Prod.fst

/-- The order of connections makes no difference to a registry. -/
theorem Coherent.arranged {registry : Registry κ} (h : registry.Coherent)
    (perm : ∀ table, (arrange table).entries.Perm table.entries)
    : (registry.arranged arrange).Coherent where
  identities := by
    rw [Registry.arranged, Table.Distinct, Table.keys_map]
    exact h.identities
  distinct := (ids_arranged perm registry).nodup_iff.mpr h.distinct
  inhabited := by
    intro entry member
    obtain ⟨old, held, rfl⟩ := List.mem_map.mp member
    exact fun nothing => h.inhabited old held (List.Perm.nil_eq (nothing ▸ perm old.2)).symm
  normal := by
    intro entry member
    obtain ⟨old, held, rfl⟩ := List.mem_map.mp member
    exact h.normal old held
  below := fun id member => h.below id ((ids_arranged perm registry).mem_iff.mp member)
  counted := h.counted.trans (ids_arranged perm registry).length_eq.symm

theorem sink?_arranged {registry : Registry κ} (h : registry.Coherent)
    (perm : ∀ table, (arrange table).entries.Perm table.entries) (identity : String) (id : Nat)
    : (registry.arranged arrange).sink? identity id = registry.sink? identity id :=
  Table.get?_eq_of_perm (h.connectionsOf_distinct identity)
    (connectionsOf_arranged perm registry identity) id

end Registry

namespace Exchange

/-- What a watched registry may come to be: by calls, by what others do to its sinks and count, and
by passing the connections of an identity in another order.
-/
inductive Arises (ops : SinkOps κ ω) : Exchange (Tagged κ) (Watched ω) → Prop where
  | starts (state : ω) : Arises ops (unused state)
  | calls {exchange : Exchange (Tagged κ) (Watched ω)} (arises : Arises ops exchange)
    (operation : Operation κ)
    : Arises ops (exchange.watch ops operation)
  | changes {exchange : Exchange (Tagged κ) (Watched ω)} (arises : Arises ops exchange)
    (state : ω) (metrics : Metrics)
    : Arises ops { exchange with outside := { exchange.outside with state }, metrics }
  | arranges {exchange : Exchange (Tagged κ) (Watched ω)} (arises : Arises ops exchange)
    {arrange : Table Nat (Tagged κ) → Table Nat (Tagged κ)}
    (perm : ∀ table, (arrange table).entries.Perm table.entries)
    : Arises ops { exchange with registry := exchange.registry.arranged arrange }

/-- A run of calls is one way, by induction on the calls. -/
theorem Arises.watchAll {ops : SinkOps κ ω} {exchange : Exchange (Tagged κ) (Watched ω)}
    (arises : exchange.Arises ops) (operations : List (Operation κ))
    : (exchange.watchAll ops operations).Arises ops := by
  induction operations generalizing exchange with
  | nil => exact arises
  | cons operation rest ih => exact ih (arises.calls operation)

/-- Whatever it has come to be is tracked, by induction on how. -/
theorem Arises.tracked {ops : SinkOps κ ω} {exchange : Exchange (Tagged κ) (Watched ω)}
    (arises : exchange.Arises ops)
    : exchange.Tracked := by
  induction arises with
  | starts state => exact .unused state
  | calls _ operation ih => exact ih.watch ops operation
  | changes _ _ _ ih => exact ⟨ih.coherent, ih.tagged, ih.past⟩
  | arranges _ perm ih =>
      refine ⟨ih.coherent.arranged perm, ?_, ih.past⟩
      intro identity id tagged found
      rw [Registry.sink?_arranged ih.coherent perm] at found
      exact ih.tagged identity id tagged found

-----------------------------------------------------------------------------------------
-- What is answered
-----------------------------------------------------------------------------------------

theorem answer_eq_ok_iff {attempts : List (Attempt κ)} {delivered : Nat}
    : answer attempts = .ok delivered
      ↔ (∀ attempt ∈ attempts, attempt.fault? = none) ∧ delivered = attempts.length := by
  cases found : attempts.findSome? Attempt.fault? with
  | some first =>
      obtain ⟨attempt, member, failed⟩ := List.exists_of_findSome?_eq_some found
      simp only [answer, found, reduceCtorEq, false_iff]
      rintro ⟨all, _⟩
      rw [all attempt member] at failed
      cases failed
  | none =>
      have all := List.findSome?_eq_none_iff.mp found
      have noFailure : attempts.filter Attempt.failed = [] := by
        apply List.filter_eq_nil_iff.mpr
        intro attempt member
        simp [Attempt.failed, all attempt member]
      simp only [answer, found, noFailure, List.length_nil, Nat.sub_zero, Except.ok.injEq]
      exact ⟨fun same => ⟨all, same.symm⟩, fun same => same.2.symm⟩

theorem answer_eq_failed_iff {attempts : List (Attempt κ)} {first : DeliveryFault}
    {failures number : Nat}
    : answer attempts = .error (.failed first failures number)
      ↔ attempts.findSome? Attempt.fault? = some first
        ∧ failures = attempts.countP Attempt.failed
        ∧ number = attempts.length := by
  rw [List.countP_eq_length_filter]
  cases found : attempts.findSome? Attempt.fault? with
  | none => simp [answer, found]
  | some fault =>
      simp only [answer, found, Except.error.injEq, SendError.failed.injEq, Option.some.injEq]
      exact and_congr_right fun _ => and_congr eq_comm eq_comm

theorem answer_ne_notConnected (attempts : List (Attempt κ))
    : answer attempts ≠ .error .notConnected := by
  unfold answer
  split
  next => exact nofun
  next => exact nofun

/-- A fan-out answers by its attempts, if there are any. -/
theorem fst_sendTo (ops : SinkOps κ ω) (exchange : Exchange κ ω) (identity : String)
    (message : Delivery)
    : (exchange.sendTo ops identity message).1
      = if exchange.registry.connectionCount identity = 0 then .error .notConnected
        else answer (exchange.attempts ops identity message).1 := by
  by_cases nobody : (exchange.registry.connectionsOf identity).entries = []
  · rw [sendTo_of_none nobody]
    exact (if_pos (List.length_eq_zero_iff.mpr nobody)).symm
  · rw [sendTo_of_some nobody]
    exact (if_neg fun zero => nobody (List.length_eq_zero_iff.mp zero)).symm

theorem sendTo_eq_notConnected_iff {ops : SinkOps κ ω} {exchange : Exchange κ ω}
    {identity : String} {message : Delivery}
    : (exchange.sendTo ops identity message).1 = .error .notConnected
      ↔ exchange.registry.connectionCount identity = 0 := by
  rw [fst_sendTo]
  split
  next none => exact iff_of_true rfl none
  next some => exact iff_of_false (answer_ne_notConnected _) some

theorem sendTo_eq_ok_iff {ops : SinkOps κ ω} {exchange : Exchange κ ω} {identity : String}
    {message : Delivery} {delivered : Nat}
    : (exchange.sendTo ops identity message).1 = .ok delivered
      ↔ delivered = exchange.registry.connectionCount identity
        ∧ 0 < delivered
        ∧ ∀ attempt ∈ (exchange.attempts ops identity message).1, attempt.fault? = none := by
  rw [fst_sendTo]
  split
  next none =>
    rw [none]
    exact iff_of_false nofun fun ⟨zero, positive, _⟩ => Nat.ne_of_gt positive zero
  next some =>
    rw [answer_eq_ok_iff, length_attempts]
    constructor
    · rintro ⟨all, rfl⟩
      exact ⟨rfl, Nat.pos_of_ne_zero some, all⟩
    · rintro ⟨rfl, _, all⟩
      exact ⟨all, rfl⟩

theorem sendTo_eq_failed_iff {ops : SinkOps κ ω} {exchange : Exchange κ ω} {identity : String}
    {message : Delivery} {first : DeliveryFault} {failures number : Nat}
    : (exchange.sendTo ops identity message).1 = .error (.failed first failures number)
      ↔ (exchange.attempts ops identity message).1.findSome? Attempt.fault? = some first
        ∧ failures = (exchange.attempts ops identity message).1.countP Attempt.failed
        ∧ number = exchange.registry.connectionCount identity := by
  rw [fst_sendTo]
  split
  next none =>
    have nobody := List.length_eq_zero_iff.mp none
    rw [attempts_of_none nobody]
    exact iff_of_false nofun nofun
  next some => rw [answer_eq_failed_iff, length_attempts]

-----------------------------------------------------------------------------------------
-- What is left
-----------------------------------------------------------------------------------------

theorem registry_evict (ops : SinkOps κ ω) (identity : String) (exchange : Exchange κ ω)
    (failure : Attempt κ)
    : (evict ops identity exchange failure).registry
      = (exchange.registry.unregister identity failure.id).2 := by
  rw [← registry_unregister, evict]
  rcases exchange.unregister identity failure.id with ⟨removed, left⟩
  cases removed <;> rfl

/-- Evicting takes the connections of the failures from one identity and nothing from others, by
induction on the failures.
-/
theorem connectionsOf_foldl_evict (ops : SinkOps κ ω) (identity other : String)
    (failures : List (Attempt κ)) (exchange : Exchange κ ω)
    : (failures.foldl (evict ops identity) exchange).registry.connectionsOf other
      = if Identity.normalize other = Identity.normalize identity then
          ⟨(exchange.registry.connectionsOf other).entries.filter
            (·.1 ∉ failures.map Attempt.id)⟩
        else exchange.registry.connectionsOf other := by
  induction failures generalizing exchange with
  | nil => simp
  | cons failure rest ih =>
      rw [List.foldl_cons, ih, registry_evict, Registry.connectionsOf_unregister]
      split
      next same =>
        rw [Registry.connectionsOf_congr same, Table.erase, List.filter_filter]
        refine congrArg Table.mk (List.filter_congr fun entry _ => ?_)
        simp [Bool.and_comm]
      next => rfl

/-- Adding and removing a connection touch the gauge of connections only. -/
theorem value_register {metric : Metric} (another : metric ≠ .activeConnections)
    (exchange : Exchange κ ω) (identity : String) (sink : κ)
    : (exchange.register identity sink).2.metrics.value metric = exchange.metrics.value metric := by
  simp [register, Metrics.value, Metrics.get?_set, another]

theorem value_unregister {metric : Metric} (another : metric ≠ .activeConnections)
    (exchange : Exchange κ ω) (identity : String) (id : Nat)
    : (exchange.unregister identity id).2.metrics.value metric
      = exchange.metrics.value metric := by
  rcases removal : exchange.registry.unregister identity id with ⟨removed, registry⟩
  cases removed with
  | false => simp [unregister, removal]
  | true => simp [unregister, removal, Metrics.value, Metrics.get?_set, another]

/-- So does evicting. -/
theorem value_evict (ops : SinkOps κ ω) (identity : String) {metric : Metric}
    (another : metric ≠ .activeConnections) (exchange : Exchange κ ω) (failure : Attempt κ)
    : (evict ops identity exchange failure).metrics.value metric
      = exchange.metrics.value metric := by
  refine Eq.trans ?_ (value_unregister another exchange identity failure.id)
  rw [evict]
  dsimp only
  split <;> rfl

theorem value_foldl_evict (ops : SinkOps κ ω) (identity : String) {metric : Metric}
    (another : metric ≠ .activeConnections) (failures : List (Attempt κ))
    (exchange : Exchange κ ω)
    : (failures.foldl (evict ops identity) exchange).metrics.value metric
      = exchange.metrics.value metric := by
  induction failures generalizing exchange with
  | nil => rfl
  | cons failure rest ih => exact (ih _).trans (value_evict ops identity another exchange failure)

/-- A connection is among the failed ones if the attempt on it failed. -/
theorem id_mem_failures_iff {ops : SinkOps κ ω} {exchange : Exchange κ ω}
    (h : exchange.registry.Coherent) {identity : String} {message : Delivery}
    {attempt : Attempt κ} (tried : attempt ∈ (exchange.attempts ops identity message).1)
    : attempt.id ∈ (exchange.failures ops identity message).map Attempt.id
      ↔ attempt.failed = true := by
  constructor
  · intro member
    obtain ⟨failure, among, same⟩ := List.mem_map.mp member
    obtain ⟨also, failed⟩ := mem_failures.mp among
    have once := attempts_nodup ops h identity message
    exact List.inj_on_of_nodup_map once also tried same ▸ failed
  · exact fun failed => List.mem_map_of_mem (mem_failures.mpr ⟨tried, failed⟩)

/-- A fan-out leaves the connections that took the message, and all those of others. -/
theorem connectionsOf_sendTo (ops : SinkOps κ ω) {exchange : Exchange κ ω}
    (h : exchange.registry.Coherent) (identity other : String) (message : Delivery)
    : (exchange.sendTo ops identity message).2.registry.connectionsOf other
      = if Identity.normalize other = Identity.normalize identity then
          ⟨((exchange.attempts ops identity message).1.filter (!·.failed)).map
            fun attempt => (attempt.id, attempt.sink)⟩
        else exchange.registry.connectionsOf other := by
  by_cases nobody : (exchange.registry.connectionsOf identity).entries = []
  · rw [sendTo_of_none nobody, attempts_of_none nobody]
    split
    next same => exact (Registry.connectionsOf_congr same _).trans (congrArg Table.mk nobody)
    next => rfl
  · rw [sendTo_of_some nobody, connectionsOf_foldl_evict]
    split
    next same =>
      refine congrArg Table.mk ?_
      change (exchange.registry.connectionsOf other).entries.filter _ = _
      rw [Registry.connectionsOf_congr same, ← attempts_targets ops exchange identity message,
        List.filter_map]
      refine congrArg (List.map _) (List.filter_congr fun attempt tried => ?_)
      simp only [Function.comp, decide_not, id_mem_failures_iff h tried, Bool.decide_eq_true]
    next => rfl

-----------------------------------------------------------------------------------------
-- What is counted
-----------------------------------------------------------------------------------------

theorem value_recordFanout (metrics : Metrics) (delivered failed : Nat) (metric : Metric)
    : (metrics.recordFanout delivered failed).value metric
      = metrics.value metric + (if metric = .fanoutDeliveries then delivered else 0)
        + if metric = .fanoutFailures then failed else 0 := by
  unfold Metrics.recordFanout
  split
  next => rw [Metrics.value_add, Metrics.value_add]
  next none =>
    obtain rfl : failed = 0 := Nat.eq_zero_of_not_pos none
    rw [Metrics.value_add, ite_self, Nat.add_zero]

/-- Attempts that did not fail are all but the failed ones, by induction on the attempts. -/
theorem countP_not_failed (attempts : List (Attempt κ))
    : attempts.countP (!·.failed) = attempts.length - attempts.countP Attempt.failed := by
  induction attempts with
  | nil => rfl
  | cons attempt rest ih =>
      have within : rest.countP Attempt.failed ≤ rest.length := List.countP_le_length
      rw [List.countP_cons, List.countP_cons, List.length_cons, ih]
      cases attempt.failed with
      | true => simp
      | false => simp only [Bool.not_false, if_true, Bool.false_eq_true, if_false]; omega

/-- A fan-out adds its attempts to the two counters. -/
theorem value_sendTo (ops : SinkOps κ ω) (exchange : Exchange κ ω) (identity : String)
    (message : Delivery) {metric : Metric} (another : metric ≠ .activeConnections)
    : (exchange.sendTo ops identity message).2.metrics.value metric
      = exchange.metrics.value metric
        + (if metric = .fanoutDeliveries then
            (exchange.attempts ops identity message).1.countP (!·.failed) else 0)
        + if metric = .fanoutFailures then
            (exchange.attempts ops identity message).1.countP Attempt.failed else 0 := by
  by_cases nobody : (exchange.registry.connectionsOf identity).entries = []
  · rw [sendTo_of_none nobody, attempts_of_none nobody]
    simp
  · rw [sendTo_of_some nobody, value_foldl_evict ops identity another, attempted,
      value_recordFanout, failures, ← List.countP_eq_length_filter, ← countP_not_failed]

-----------------------------------------------------------------------------------------
-- The account
-----------------------------------------------------------------------------------------

/-- The account of sending a message to an identity, by the attempts in their order: what its sinks
have seen, what is answered, which connections are left and what is counted.
-/
structure Accounts (before : Exchange (Tagged κ) (Watched ω)) (identity : String)
    (message : Delivery) (attempts : List (Attempt (Tagged κ)))
    (result : Except SendError Nat) (after : Exchange (Tagged κ) (Watched ω)) : Prop where
  /-- The message has been offered in the attempts, and after that the failed ones were told. -/
  seen
    : after.outside.events
      = before.outside.events
        ++ attempts.map (fun attempt => .offered attempt.id message attempt.fault?)
        ++ (attempts.filter Attempt.failed).map fun failure => .evicted failure.id
  everyone
    : (attempts.map fun attempt => (attempt.id, attempt.sink)).Perm
        (before.registry.connectionsOf identity).entries
  once : (attempts.map Attempt.id).Nodup
  notConnected
    : result = .error .notConnected ↔ before.registry.connectionCount identity = 0
  delivered
    : ∀ number,
        result = .ok number
        ↔ number = before.registry.connectionCount identity ∧ 0 < number
          ∧ ∀ attempt ∈ attempts, attempt.fault? = none
  failed
    : ∀ first failures number,
        result = .error (.failed first failures number)
        ↔ attempts.findSome? Attempt.fault? = some first
          ∧ failures = attempts.countP Attempt.failed
          ∧ number = before.registry.connectionCount identity
  gone
    : ∀ id,
        after.registry.sink? identity id
          = if ∃ attempt ∈ attempts, attempt.id = id ∧ attempt.failed then none
            else before.registry.sink? identity id
  left
    : after.registry.connectionCount identity
      = before.registry.connectionCount identity - attempts.countP Attempt.failed
  others
    : ∀ other, Identity.normalize other ≠ Identity.normalize identity →
        after.registry.connectionsOf other = before.registry.connectionsOf other
  deliveries
    : after.metrics.value .fanoutDeliveries
      = before.metrics.value .fanoutDeliveries + attempts.countP (!·.failed)
  failures
    : after.metrics.value .fanoutFailures
      = before.metrics.value .fanoutFailures + attempts.countP Attempt.failed

/-- A send to an identity accounts for every connection. In whatever way a registry has come to be,
and whatever its sinks do, there is an attempt on each connection of the identity and on no other,
and the answer, the connections that are left and the counters agree with these attempts. It is
the same send without being watched.
-/
theorem send_accounts_for_all {ops : SinkOps κ ω} {exchange : Exchange (Tagged κ) (Watched ω)}
    (arises : exchange.Arises ops) (identity : String) (message : Delivery)
    : let sent := exchange.sendTo ops.watched identity message
      exchange.plain.sendTo ops identity message = (sent.1, sent.2.plain)
        ∧ ∃ attempts, exchange.Accounts identity message attempts sent.1 sent.2 := by
  intro sent
  have h := arises.tracked
  have tag : ∀ attempt ∈ (exchange.attempts ops.watched identity message).1,
      attempt.sink.id = attempt.id := fun _ tried => h.tag_of_attempt tried
  refine ⟨sendTo_plain ops exchange identity message,
    (exchange.attempts ops.watched identity message).1, ?_⟩
  exact {
    seen := by
      refine (h.events_watch ops (.send identity message)).trans ?_
      rw [eventsOf, ← List.append_assoc]
      congr 1
      · exact congrArg _ (List.map_congr_left fun attempt tried => by rw [offer, tag attempt tried])
      · exact List.map_congr_left fun failure among => by
          rw [tag failure (mem_failures.mp among).1]
    everyone := .of_eq (attempts_targets ops.watched exchange identity message)
    once := attempts_nodup ops.watched h.coherent identity message
    notConnected := sendTo_eq_notConnected_iff
    delivered := fun _ => sendTo_eq_ok_iff
    failed := fun _ _ _ => sendTo_eq_failed_iff
    gone := by
      intro id
      have pruned := sendTo_pruned ops.watched h.coherent identity message
      refine (pruned.sink? identity id).trans (if_congr ?_ rfl rfl)
      rw [and_iff_right rfl, List.mem_map]
      constructor
      · rintro ⟨failure, among, same⟩
        obtain ⟨tried, failed⟩ := mem_failures.mp among
        exact ⟨failure, tried, same, failed⟩
      · rintro ⟨attempt, tried, same, failed⟩
        exact ⟨attempt, mem_failures.mpr ⟨tried, failed⟩, same⟩
    left := by
      rw [Registry.connectionCount, connectionsOf_sendTo ops.watched h.coherent, if_pos rfl,
        Table.size, List.length_map, ← List.countP_eq_length_filter, countP_not_failed,
        length_attempts]
    others := by
      intro other differ
      rw [connectionsOf_sendTo ops.watched h.coherent, if_neg differ]
    deliveries := value_sendTo ops.watched exchange identity message (by decide)
    failures := value_sendTo ops.watched exchange identity message (by decide)
  }

/-- Two connections of one identity on one mailbox with room for one message, tried in the reverse
order, and a connection of another identity: the later of the two finds the mailbox full.
-/
theorem send_accounts_for_all_of_shared_mailbox
    : let endpoints : Endpoints := ⟨[(1, .mailbox { capacity := 1 } false), (2, .recorder [])]⟩
      let message : Delivery := ⟨"m", "b@x", "hi", none⟩
      let start : Exchange (Tagged Nat) (Watched Endpoints) :=
        (unused endpoints).watchAll endpointOps
          [.register "A@x" 1, .register "b@x" 2, .register " a@X" 1]
      let exchange := { start with registry := start.registry.arranged fun table =>
        ⟨table.entries.reverse⟩ }
      let sent := exchange.sendTo endpointOps.watched "a@x" message
      exchange.Arises endpointOps
        ∧ sent.1 = .error (.failed .full 1 2)
        ∧ sent.2.registry.connectionCount "a@x" = 1
        ∧ sent.2.registry.ids = [3, 2]
        ∧ sent.2.registry.connectionsOf "b@x" = exchange.registry.connectionsOf "b@x"
        ∧ sent.2.metrics.value .fanoutFailures = 1 := by
  intro endpoints message start exchange sent
  have reversed : ∀ table : Table Nat (Tagged Nat),
      (Table.mk table.entries.reverse).entries.Perm table.entries := fun _ => List.reverse_perm _
  have run : start.Arises endpointOps := (Arises.starts endpoints).watchAll _
  have arises : exchange.Arises endpointOps := run.arranges reversed
  obtain ⟨_, attempts, account⟩ := send_accounts_for_all arises "a@x" message
  have result : sent.1 = .error (.failed .full 1 2) := by decide +kernel
  obtain ⟨_, failures, count⟩ := (account.failed _ _ _).mp result
  refine ⟨arises, result, ?_, by decide +kernel, account.others "b@x" (by decide +kernel), ?_⟩
  · rw [account.left, ← failures, ← count]
  · rw [account.failures, ← failures]
    rfl

end Exchange

end ChatServer.Live
