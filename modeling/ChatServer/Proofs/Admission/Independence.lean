import ChatServer.Proofs.Admission.Levels
import ChatServer.Rpc.Service

/-! Keys do not influence each other. All keys share one limiter, and a sweep looks at every entry
of it, but what is decided about a call depends on the entry of its own key and on the time alone. So
the answers that the calls under a key get are those they would get if nobody else had called.
-/

namespace ChatServer

namespace Admission.Limiter

variable {α : Type} [Quantity α]

-----------------------------------------------------------------------------------------
-- Sweeps entry by entry
-----------------------------------------------------------------------------------------

/-- Looks at one entry, and forgets its key if it has been silent for the idle window. -/
def visit (now : Nat) (limiter : Limiter α) (visited : String × Entry α) : Limiter α :=
  if isRecent limiter.limits now visited.2 then limiter
  else { limiter with entries := limiter.entries.erase visited.1 }

/-- Looks at some entries, one after the other. -/
def visitAll (limiter : Limiter α) (now : Nat) (order : List (String × Entry α)) : Limiter α :=
  order.foldl (visit now) limiter

omit [Quantity α] in
/-- Of the entries that are there, those are left that are not forgotten in their turn. -/
theorem visitAll_eq (limiter : Limiter α) (now : Nat) (order : List (String × Entry α))
    : limiter.visitAll now order
      = { limiter with
          entries := ⟨limiter.entries.entries.filter fun entry => order.all fun visited =>
            isRecent limiter.limits now visited.2 || entry.1 ≠ visited.1⟩ } := by
  induction order generalizing limiter with
  | nil => simp [visitAll]
  | cons visited order ih =>
      change (limiter.visit now visited).visitAll now order = _
      rw [ih, visit]
      split
      next recent => simp [recent]
      next silent => simp [Table.erase, List.filter_filter, silent, Bool.and_comm]

omit [Quantity α] in
/-- In whatever order a sweep looks at the entries, it leaves the same ones. -/
theorem visitAll_of_perm {limiter : Limiter α} (distinct : limiter.entries.Distinct) (now : Nat)
    {order : List (String × Entry α)} (complete : order.Perm limiter.entries.entries)
    : limiter.visitAll now order = limiter.sweep now := by
  rw [visitAll_eq, sweep]
  congr 2
  apply List.filter_congr
  intro entry member
  rw [Bool.eq_iff_iff, List.all_eq_true]
  constructor
  · intro survives
    simpa using survives entry (complete.mem_iff.mpr member)
  · intro recent visited here
    by_cases same : entry.1 = visited.1
    · have found := Table.get?_of_mem distinct member
      have again := Table.get?_of_mem distinct (complete.mem_iff.mp here)
      rw [same, again] at found
      simp [Option.some.inj found, recent]
    · simp [same]

end Admission.Limiter

namespace Rpc

open Admission

variable {σ : Type}

-----------------------------------------------------------------------------------------
-- Runs of a shared limiter
-----------------------------------------------------------------------------------------

/-- What happens to the limiter of the service: a call is decided about under a key, or under the
key that a request is limited under; the limiter is swept; time goes by.
-/
inductive Happening where
  | allow (key : String)
  | request (email : String) (peer : Option Net.Address)
  | sweep
  | wait (nanos : Nat)

/-- The key that a call is under. -/
def Happening.key? : Happening → Option String
  | allow key => some key
  | request email peer => some (Key.ofCall (some email) peer).render
  | sweep | wait _ => none

/-- Is the event no call under another key? -/
def Happening.isKept (key : String) (event : Happening) : Bool :=
  event.key?.all (· = key)

/-- The answer to a call. -/
inductive Answer where
  | decision (allowed : Bool)
  | outcome (result : Completion (Except Status Unit))

/-- Was the call let in? -/
def Answer.isYes : Answer → Bool
  | decision allowed => allowed
  | outcome (.returned (.ok ())) => true
  | outcome _ => false

/-- An answer with the key of the call that got it. -/
structure Response where
  key : String
  answer : Answer

/-- The limiter decides about a call under a key. -/
def State.allow (state : State σ) (key : String) : Bool × State σ :=
  let exchange := state.world.exchange
  let (allowed, limiter, metrics) := state.limiter.allowCounted state.ticks key exchange.metrics
  (allowed, { state with
    limiter
    world := { state.world with exchange := { exchange with metrics } } })

/-- The limiter is swept, entry by entry. -/
def State.visit (state : State σ) (order : List (String × Entry Float)) : State σ :=
  let exchange := state.world.exchange
  let limiter := state.limiter.visitAll state.ticks order
  let metrics := exchange.metrics.set .trackedKeys limiter.tracked
  { state with limiter, world := { state.world with exchange := { exchange with metrics } } }

/-- An event leads from a state to the next one, perhaps with a response. A sweep looks at the
entries in any order.
-/
inductive Happens (state : State σ) : Happening → Option Response → State σ → Prop
  | allow (key : String)
    : Happens state (.allow key) (some ⟨key, .decision (state.allow key).1⟩) (state.allow key).2
  | request (email : String) (peer : Option Net.Address)
    : Happens state (.request email peer)
        (some ⟨(Key.ofCall (some email) peer).render, .outcome (admission email peer state).1⟩)
        (admission email peer state).2
  | sweep {order : List (String × Entry Float)}
    (complete : order.Perm state.limiter.entries.entries)
    : Happens state .sweep none (state.visit order)
  | wait (nanos : Nat)
    : Happens state (.wait nanos) none { state with ticks := state.ticks + nanos }

/-- Events, one after the other, with the responses to the calls among them. -/
inductive Runs : State σ → List Happening → List Response → Prop
  | nil {state : State σ} : Runs state [] []
  | cons {state next : State σ} {event : Happening} {response? : Option Response}
      {events : List Happening} {responses : List Response} (first : Happens state event response? next)
      (rest : Runs next events responses)
    : Runs state (event :: events) (response?.toList ++ responses)

-----------------------------------------------------------------------------------------
-- Events
-----------------------------------------------------------------------------------------

/-- A request is admitted as the limiter decides about its key. -/
theorem admission_eq (email : String) (peer : Option Net.Address) (state : State σ)
    : let decided := state.allow (Key.ofCall (some email) peer).render
      admission email peer state
        = (if decided.1 then .returned (.ok ()) else .returned (.error Failure.rateLimited.status),
          decided.2) := by
  intro decided
  unfold admission
  dsimp only
  split
  next allowed => exact Prod.ext (if_pos allowed).symm rfl
  next refused => exact Prod.ext (if_neg refused).symm rfl

/-- A sweep that looks at every entry, in whatever order, is the sweep of the limiter. -/
theorem State.limiter_visit {state : State σ} (distinct : state.limiter.entries.Distinct)
    {order : List (String × Entry Float)} (complete : order.Perm state.limiter.entries.entries)
    : (state.visit order).limiter = state.limiter.sweep state.ticks :=
  Limiter.visitAll_of_perm distinct state.ticks complete

/-- Something can happen in every state. -/
theorem Happening.happens (state : State σ) (event : Happening)
    : ∃ response? next, Happens state event response? next := by
  cases event with
  | allow key => exact ⟨_, _, .allow key⟩
  | request email peer => exact ⟨_, _, .request email peer⟩
  | sweep => exact ⟨_, _, .sweep (.refl _)⟩
  | wait nanos => exact ⟨_, _, .wait nanos⟩

/-- What the decisions about calls under a key depend on is the same in both states. -/
structure State.AgreesUnder (key : String) (one other : State σ) : Prop where
  ticks : one.ticks = other.ticks
  limits : one.limiter.limits = other.limiter.limits
  entry : one.limiter.entries.get? key = other.limiter.entries.get? key
  distinct : one.limiter.entries.Distinct
  otherDistinct : other.limiter.entries.Distinct

namespace State.AgreesUnder

variable {key : String} {one other : State σ}

theorem bucketOf (agrees : one.AgreesUnder key other)
    : one.limiter.bucketOf one.ticks key = other.limiter.bucketOf other.ticks key := by
  rw [Limiter.bucketOf, Limiter.bucketOf, agrees.entry, agrees.limits, agrees.ticks]

/-- The decision about a call under the key is the same, and nothing comes between the states. -/
theorem allow (agrees : one.AgreesUnder key other)
    : (one.allow key).1 = (other.allow key).1
      ∧ (one.allow key).2.AgreesUnder key (other.allow key).2 := by
  have bucket := agrees.bucketOf
  have answer : (one.limiter.bucketOf one.ticks key).answer one.limiter.limits one.ticks
      = (other.limiter.bucketOf other.ticks key).answer other.limiter.limits other.ticks := by
    rw [bucket, agrees.limits, agrees.ticks]
  have decided := congrArg Prod.fst answer
  refine ⟨decided, agrees.ticks, agrees.limits, ?_, agrees.distinct.set key _,
    agrees.otherDistinct.set key _⟩
  change (one.limiter.allow one.ticks key).2.entries.get? key
    = (other.limiter.allow other.ticks key).2.entries.get? key
  rw [Limiter.get?_allow, Limiter.get?_allow, if_pos rfl, if_pos rfl, answer, agrees.ticks]

/-- A call under another key makes no difference under the key. -/
theorem allow_left (agrees : one.AgreesUnder key other) {caller : String} (differ : caller ≠ key)
    : (one.allow caller).2.AgreesUnder key other := by
  have kept : (one.allow caller).2.limiter.entries.get? key = one.limiter.entries.get? key :=
    (Limiter.get?_allow one.limiter one.ticks caller key).trans (if_neg differ.symm)
  exact ⟨agrees.ticks, agrees.limits, kept.trans agrees.entry, agrees.distinct.set caller _,
    agrees.otherDistinct⟩

/-- Sweeps that look at all their entries forget the key in both states or in neither. -/
theorem visit (agrees : one.AgreesUnder key other) {order others : List (String × Entry Float)}
    (complete : order.Perm one.limiter.entries.entries)
    (otherComplete : others.Perm other.limiter.entries.entries)
    : (one.visit order).AgreesUnder key (other.visit others) := by
  have here := limiter_visit agrees.distinct complete
  have there := limiter_visit agrees.otherDistinct otherComplete
  refine ⟨agrees.ticks, ?_, ?_, ?_, ?_⟩
  · rw [here, there]
    exact agrees.limits
  · rw [here, there, Limiter.get?_sweep agrees.distinct, Limiter.get?_sweep agrees.otherDistinct,
      agrees.entry, agrees.limits, agrees.ticks]
  · rw [here]
    exact Limiter.distinct_sweep agrees.distinct _
  · rw [there]
    exact Limiter.distinct_sweep agrees.otherDistinct _

/-- What is kept happens in both states alike. -/
theorem happens_both (agrees : one.AgreesUnder key other) {event : Happening}
    (kept : event.isKept key = true) {response? otherResponse? : Option Response}
    {next otherNext : State σ} (first : Happens one event response? next)
    (second : Happens other event otherResponse? otherNext)
    : response? = otherResponse? ∧ (∀ response ∈ response?, response.key = key)
      ∧ next.AgreesUnder key otherNext := by
  cases first with
  | allow caller =>
      cases second
      obtain rfl : caller = key := of_decide_eq_true kept
      obtain ⟨same, agrees⟩ := agrees.allow
      exact ⟨by rw [same], by simp, agrees⟩
  | request email peer =>
      cases second
      obtain rfl : (Key.ofCall (some email) peer).render = key := of_decide_eq_true kept
      obtain ⟨same, agrees⟩ := agrees.allow
      rw [admission_eq, admission_eq, same]
      exact ⟨rfl, by simp, agrees⟩
  | sweep complete =>
      cases second with
      | sweep otherComplete => exact ⟨rfl, by simp, agrees.visit complete otherComplete⟩
  | wait nanos =>
      cases second
      exact ⟨rfl, by simp, { agrees with ticks := congrArg (· + nanos) agrees.ticks }⟩

/-- What is not kept makes no difference under the key. -/
theorem happens_left (agrees : one.AgreesUnder key other) {event : Happening}
    (dropped : event.isKept key = false) {response? : Option Response} {next : State σ}
    (first : Happens one event response? next)
    : (∀ response ∈ response?, response.key ≠ key) ∧ next.AgreesUnder key other := by
  cases first with
  | allow caller =>
      have differ : caller ≠ key := of_decide_eq_false dropped
      exact ⟨by simpa using differ, agrees.allow_left differ⟩
  | request email peer =>
      have differ : (Key.ofCall (some email) peer).render ≠ key := of_decide_eq_false dropped
      rw [admission_eq]
      exact ⟨by simpa using differ, agrees.allow_left differ⟩
  | sweep => cases dropped
  | wait => cases dropped

/-- By induction on the events: each is kept and happens in both runs, or it is dropped from one
and makes no difference under the key.
-/
theorem runs (agrees : one.AgreesUnder key other) {events : List Happening}
    {responses others : List Response} (run : Runs one events responses)
    (alone : Runs other (events.filter (·.isKept key)) others)
    : others = responses.filter (·.key = key) := by
  induction run generalizing other others with
  | nil =>
      cases alone
      rfl
  | @cons state next event response? events responses first rest ih =>
      cases kept : event.isKept key with
      | true =>
          rw [List.filter_cons_of_pos kept] at alone
          cases alone with
          | cons second alone =>
              obtain ⟨rfl, own, agrees⟩ := agrees.happens_both kept first second
              have here : response?.toList.filter (·.key = key) = response?.toList :=
                List.filter_eq_self.mpr (by simpa using own)
              rw [ih agrees alone, List.filter_append, here]
      | false =>
          rw [List.filter_cons_of_neg (by simp [kept])] at alone
          obtain ⟨foreign, agrees⟩ := agrees.happens_left kept first
          have nowhere : response?.toList.filter (·.key = key) = [] :=
            List.filter_eq_nil_iff.mpr (by simpa using foreign)
          rw [ih agrees alone, List.filter_append, nowhere, List.nil_append]

end State.AgreesUnder

/-- Every list of events can happen. -/
theorem exists_runs (state : State σ) (events : List Happening)
    : ∃ responses, Runs state events responses := by
  induction events generalizing state with
  | nil => exact ⟨[], .nil⟩
  | cons event events ih =>
      obtain ⟨response?, next, first⟩ := event.happens state
      obtain ⟨responses, rest⟩ := ih next
      exact ⟨_, .cons first rest⟩

/-- Whatever is asked of the limiter under other keys, and in whatever order its sweeps look at the
entries: the calls under a key get the answers they get when all calls under other keys are left
out, while the sweeps and the time that goes by stay.
-/
theorem responses_without_others {state : State σ} (distinct : state.limiter.entries.Distinct)
    (key : String) (events : List Happening)
    : (∃ responses, Runs state events responses)
      ∧ (∃ others, Runs state (events.filter (·.isKept key)) others)
      ∧ ∀ responses others, Runs state events responses →
          Runs state (events.filter (·.isKept key)) others →
            responses.filter (·.key = key) = others := by
  refine ⟨exists_runs state events, exists_runs state _, ?_⟩
  intro responses others run alone
  have agrees : state.AgreesUnder key state := ⟨rfl, rfl, rfl, distinct, distinct⟩
  exact (agrees.runs run alone).symm

/-- A burst of one for two callers; the second call under the first key comes too early, and the
third after a sweep that has forgotten both.
-/
theorem responses_without_others_of_two_callers
    : let limits : Limits := ⟨60, 1, 2 * nanosPerSecond⟩
      let start : State Unit :=
        { world := { backend := (), now := ⟨1700000000, 0⟩ }, limiter := { limits } }
      let events := [.request " A@b" none, .allow "unknown", .allow "email:a@b",
        .wait (2 * nanosPerSecond), .sweep, .allow "unknown", .request "a@b" none]
      start.limiter.entries.Distinct
        ∧ ∃ responses, Runs start events responses
            ∧ Runs start (events.filter (·.isKept "email:a@b"))
                (responses.filter (·.key = "email:a@b"))
            ∧ (responses.filter (·.key = "email:a@b")).map (·.answer.isYes)
                = [true, false, true] := by
  intro limits start events
  have distinct : start.limiter.entries.Distinct := List.nodup_nil
  obtain ⟨_, ⟨others, alone⟩, same⟩ := responses_without_others distinct "email:a@b" events
  have run : Runs start events _ :=
    .cons (.request _ _) (.cons (.allow _) (.cons (.allow _) (.cons (.wait _)
      (.cons (.sweep (.refl _)) (.cons (.allow _) (.cons (.request _ _) .nil))))))
  refine ⟨distinct, _, run, ?_, by decide +kernel⟩
  rwa [same _ others run alone]

end Rpc

end ChatServer
