import ChatServer.Proofs.Live.Scenes
import Mathlib.Data.List.Perm.Subperm

/-! Evictions are final. A session that has been told of its eviction looks for its mark wherever it
could wait. So it takes nothing of what has come in for it, puts nothing into its mailbox but its
last status, and ends with the same failure whatever else is ready at the same time. No fan-out
finds its connection any more. But a fan-out that had found it before still comes to its mailbox,
and what such fan-outs owe it at its eviction is all that may come in afterwards.
-/

namespace ChatServer.Live

variable {σ : Type} {services : Services σ} {elsewhere : σ → σ → Prop}

-----------------------------------------------------------------------------------------
-- What comes into a mailbox
-----------------------------------------------------------------------------------------

namespace Scene.Step

/-- The messages that have come to the sink of a number in a step. -/
def posted (step : Scene.Step σ) (number : Nat) : List Delivery :=
  (step.after.world.endpoints.contents number).drop
    (step.before.world.endpoints.contents number).length

theorem posted_of_append {step : Scene.Step σ} {number : Nat} {given : List Delivery}
    (contents : step.after.world.endpoints.contents number
      = step.before.world.endpoints.contents number ++ given)
    : step.posted number = given := by
  rw [posted, contents, List.drop_left]

theorem posted_of_suffix {step : Scene.Step σ} {number : Nat}
    (contents : step.after.world.endpoints.contents number
      <:+ step.before.world.endpoints.contents number)
    : step.posted number = [] :=
  List.drop_eq_nil_of_le contents.length_le

/-- Does a session go on in a step? -/
def isTurnOf (step : Scene.Step σ) (number : Nat) : Bool :=
  match step.act with
  | .goesOn going => going == number
  | _ => false

theorem isTurnOf_iff (step : Scene.Step σ) (number : Nat)
    : step.isTurnOf number = true ↔ step.act = .goesOn number := by
  unfold isTurnOf
  cases step.act <;> simp

end Scene.Step

theorem Endpoints.contents_of_channel? {endpoints : Endpoints} {number : Nat}
    {channel : Channel Item} (mailbox : endpoints.channel? number = some channel)
    : endpoints.contents number = channel.messages := by
  rw [contents_of_get? (get?_of_channel? mailbox)]
  rfl

/-- A fan-out that begins owes nothing to a sink to which no connection leads. -/
theorem Scene.owed_send {scene : Scene σ} (coherent : scene.world.exchange.registry.Coherent)
    {number : Nat} (unconnected : scene.world.IsUnconnected number) (sender? : Option Nat)
    (recipient : String) (message : Delivery)
    : (scene.send sender? recipient message).owed number = scene.owed number := by
  have nothing : (scene.world.exchange.dispatch? recipient message).toList.flatMap (·.owed number)
      = [] := by
    rw [List.flatMap_eq_nil_iff]
    intro dispatch begun
    simp only [Exchange.dispatch?] at begun
    split at begun
    next => cases begun
    next =>
      obtain rfl := List.mem_singleton.mp begun
      simp only [Dispatch.owed, Phase.targets, List.map_eq_nil_iff, List.filter_eq_nil_iff]
      rintro ⟨id, sink⟩ held same
      obtain rfl : sink = number := by simpa using same
      exact unconnected recipient id
        (Table.get?_of_mem (coherent.connectionsOf_distinct recipient) held)
  rw [owed, send, List.flatMap_append, List.flatMap_map, nothing, List.append_nil]
  rfl

/-- A step that is not a session's own puts no more into its mailbox than fan-outs have owed it, if
no connection leads there; by cases on the step.
-/
theorem Happens.posts {scene next : Scene σ} {act : Act} (h : Tidy scene.world)
    (happens : Happens services elsewhere scene act next) {number : Nat} {session : Session}
    (found : scene.world.sessions.get? number = some session)
    (unconnected : scene.world.IsUnconnected number) (other : act ≠ .goesOn number)
    : let step : Scene.Step σ := ⟨act, scene, next⟩
      (step.posted number ++ next.owed number).Subperm (scene.owed number) := by
  intro step
  have aside (contents : next.world.endpoints.contents number
      <:+ scene.world.endpoints.contents number) (owed : next.owed number = scene.owed number)
      : (step.posted number ++ next.owed number).Subperm (scene.owed number) := by
    rw [Scene.Step.posted_of_suffix contents, List.nil_append, owed]
  have same {contents : List Delivery} (same : contents = scene.world.endpoints.contents number)
      : contents <:+ scene.world.endpoints.contents number :=
    same ▸ List.suffix_rfl
  cases happens with
  | passes | rests => exact aside List.suffix_rfl rfl
  | sends recipient message =>
      exact aside List.suffix_rfl (Scene.owed_send h.coherent unconnected none recipient message)
  | @goesOn mover _ _ taken =>
      have differ : number ≠ mover := fun same => other (same ▸ rfl)
      obtain ⟨channel, mailbox⟩ := Option.isSome_iff_exists.mp (h.mailbox found)
      have untouched {endpoints : Endpoints}
          (channel? : endpoints.channel? number = scene.world.endpoints.channel? number)
          : endpoints.contents number = scene.world.endpoints.contents number := by
        rw [Endpoints.contents_of_channel? mailbox,
          Endpoints.contents_of_channel? (channel?.trans mailbox)]
      obtain ⟨session, _, _, _, leads⟩ := World.leads_of_course taken
      cases leads with
      | goesOn _ _ apart => exact aside (same (untouched (apart differ))) rfl
      | @delivers message recipient =>
          let begun : Scene σ :=
            { scene.acted mover with world := scene.world.enter mover session .receiving }
          have coherent : begun.world.exchange.registry.Coherent := h.coherent
          exact aside List.suffix_rfl (begun.owed_send coherent unconnected _ recipient message)
      | ends =>
          have channel? := (Endpoints.channel?_updateChannel scene.world.endpoints mover number
            Channel.withdraw).trans (if_neg differ)
          exact aside (same (untouched channel?)) rfl
  | @advances front back errand underWay =>
      obtain ⟨given, contents, less⟩ :=
        (scene.world.exchange.advances endpointOps errand.dispatch).gives number
      let rest? := (scene.world.exchange.advance endpointOps errand.dispatch).1
      have before : scene.owed number = front.flatMap (·.dispatch.owed number)
          ++ (errand.dispatch.owed number ++ back.flatMap (·.dispatch.owed number)) := by
        rw [Scene.owed, underWay, List.flatMap_append, List.flatMap_cons]
      have after : (scene.advance front errand back).owed number
          = front.flatMap (·.dispatch.owed number) ++ (rest?.toList.flatMap (·.owed number)
            ++ back.flatMap (·.dispatch.owed number)) := by
        simp only [Scene.owed, Scene.advance, List.flatMap_append, List.flatMap_map,
          List.append_assoc]
        rfl
      have posted : step.posted number = given := Scene.Step.posted_of_append contents
      change (step.posted number ++ _).Subperm _
      rw [posted, before, after]
      refine List.perm_append_comm_assoc .. |>.subperm.trans ?_
      rw [List.subperm_append_left, ← List.append_assoc]
      exact (less.append_right _).subperm
  | departs =>
      refine aside (same ?_) rfl
      rw [Scene.endpoints_depart]
  | concludes => exact aside (same (scene.contents_conclude _ _ _ number)) rfl
  | aside occurs apart =>
      exact aside (occurs.contents_suffix h found unconnected (Event.ne_turn apart number)) rfl

-----------------------------------------------------------------------------------------
-- The eviction
-----------------------------------------------------------------------------------------

/-- Is a collaborator about to be called? -/
def Stage.isCalling : Stage → Bool
  | .checking _ | .storing _ => true
  | _ => false

/-- What an evicted session still does when it goes on. It begins to end, it begins to deliver the
message that it had acknowledged before the eviction, or it has ended already and reports its
status.
-/
inductive LastTurn (number : Nat) (session : Session) (step : Scene.Step σ) : Prop where
  | ends {last : Session} (found : step.before.world.sessions.get? number = some last)
    (running : last.isRunning = true)
    (ended : step.after = step.before.follow number (step.before.world.failing last .evicted))
  | delivers {last : Session} {message : Delivery} {recipient : String}
    (found : step.before.world.sessions.get? number = some last)
    (started : session.stage = .spreading message recipient)
    (delivered : step.after = step.before.follow number
      (.delivers (step.before.world.enter number last .receiving) recipient message))
  | reports {last : Session} (found : step.before.world.sessions.get? number = some last)
    (finished : last.isRunning = false) (errands : step.after.errands = step.before.errands)
    (aside : ∀ other,
      step.after.world.endpoints.contents other = step.before.world.endpoints.contents other)

/-- Where a session can be that has been evicted at a stage and has gone on so many times since,
and how it leaves if it does.
-/
inductive Stage.LeadsTo (stage : Stage) : Nat → Option Departure → Stage → Prop where
  | same : LeadsTo stage 0 none stage
  | delivered {turns : Nat} {message : Delivery} {recipient : String}
    (was : stage = .spreading message recipient) (once : turns ≤ 1)
    : LeadsTo stage turns none .receiving
  | leaving {turns : Nat} {departure : Departure}
    (evicted : departure.ending = .failed Failure.evicted.status)
    : LeadsTo stage turns (some departure) .receiving
  | finished {turns : Nat} {last : Stage} (ended : last.HasEnded (.failed Failure.evicted.status))
    : LeadsTo stage turns none last

/-- A session has been evicted and has gone on so many times since. No connection leads to it, it is
marked, it knows of nothing else, and it has taken nothing of its input.
-/
structure Doomed (number : Nat) (session : Session) (turns : Nat) (scene : Scene σ) : Prop where
  marked : scene.world.endpoints.isEvicted number = true
  unconnected : scene.world.IsUnconnected number
  unpassed : number ∉ scene.passed
  now
    : ∃ session', scene.world.sessions.get? number = some session'
        ∧ session.input <+: session'.input
        ∧ session.stage.LeadsTo turns (scene.departures.get? number) session'.stage

theorem Session.ending?_of_hasEnded {last : Session} {ending : Ending}
    (ended : last.stage.HasEnded ending)
    : last.ending? = some ending := by
  rw [ending?]
  rcases ended with stage | ⟨status, stage⟩ <;> rw [stage]

section

variable {world : World σ} {number : Nat} {last : Session} {channel : Channel Item}

/-- A session that finds its mark ends, wherever it looks for it. -/
theorem World.course_of_marked (found : world.sessions.get? number = some last)
    (mailbox : world.endpoints.channel? number = some channel)
    (watching : last.stage.isWatchful = true)
    : world.course services number true = some (world.failing last .evicted) := by
  simp only [course, found, mailbox, Option.bind_eq_bind, Option.bind_some]
  cases stage : last.stage with
  | receiving | acknowledging | waiting => rfl
  | checking | storing | spreading | reporting | ended =>
      rw [stage] at watching
      cases watching

/-- A session that has acknowledged a message delivers it, whatever it would find. -/
theorem World.course_of_spreading {message : Delivery} {recipient : String} {evicted : Bool}
    (found : world.sessions.get? number = some last)
    (mailbox : world.endpoints.channel? number = some channel)
    (stage : last.stage = .spreading message recipient)
    : world.course services number evicted
      = some (.delivers (world.enter number last .receiving) recipient message) := by
  simp only [course, found, mailbox, Option.bind_eq_bind, Option.bind_some, stage]

/-- A session that has ended goes on but to report, which gives no message to anybody. -/
theorem World.course_of_hasEnded {ending : Ending} {evicted : Bool} {course : Course σ}
    (found : world.sessions.get? number = some last)
    (mailbox : world.endpoints.channel? number = some channel)
    (ended : last.stage.HasEnded ending)
    (taken : world.course services number evicted = some course)
    : ∃ next, course = .goesOn next
        ∧ next.sessions.get? number = some { last with stage := .ended ending }
        ∧ next.backend = world.backend
        ∧ ∀ other, next.endpoints.contents other = world.endpoints.contents other := by
  simp only [World.course, found, mailbox, Option.bind_eq_bind, Option.bind_some] at taken
  rcases ended with stage | ⟨status, stage⟩
  · simp only [stage] at taken
    cases taken
  · simp only [stage] at taken
    split at taken
    next =>
      obtain rfl := Option.some.inj taken
      exact ⟨_, rfl, World.get?_setSession world number _, rfl, fun _ => rfl⟩
    next =>
      split at taken
      next =>
        obtain rfl := Option.some.inj taken
        refine ⟨_, rfl, World.get?_setSession _ number _, rfl, fun other => ?_⟩
        refine Endpoints.contents_updateChannel_of_same world.endpoints number
          (·.fill (.failure status)) (fun channel => ?_) other
        exact (Channel.messages_enqueue _ _).trans (List.append_nil _)
      next => cases taken

end

/-- A session that is marked and has not passed its mark never passes it. -/
theorem Happens.unpassed {scene next : Scene σ} {act : Act}
    (happens : Happens services elsewhere scene act next) {number : Nat}
    (marked : scene.world.endpoints.isEvicted number = true) (unpassed : number ∉ scene.passed)
    : number ∉ next.passed := by
  have fewer {mover : Nat} : number ∉ scene.passed.filter (· ≠ mover) :=
    fun member => unpassed (List.mem_of_mem_filter member)
  cases happens with
  | @passes mover _ unmarked =>
      have differ : number ≠ mover := by
        rintro rfl
        cases marked.symm.trans unmarked
      simpa using ⟨differ, unpassed⟩
  | rests => exact fewer
  | @goesOn mover course =>
      cases course with
      | goesOn | delivers | ends => exact fewer
  | advances | departs | concludes | sends | aside => exact unpassed

namespace Doomed

variable {number turns : Nat} {session : Session} {scene next : Scene σ} {act : Act}

/-- A doomed session finds its mark when it looks for it. -/
theorem finds (h : Doomed number session turns scene) : scene.finds number = true := by
  simp [Scene.finds, h.unpassed, h.marked]

/-- What a doomed session does when it goes on: it puts no message into its mailbox, has nobody owe
it one, calls no collaborator, and it is one of its last turns.
-/
structure Turns (number : Nat) (session : Session) (turns : Nat) (scene next : Scene σ) : Prop where
  now
    : ∃ session', next.world.sessions.get? number = some session'
        ∧ session.input <+: session'.input
        ∧ session.stage.LeadsTo (turns + 1) (next.departures.get? number) session'.stage
  contents : next.world.endpoints.contents number = scene.world.endpoints.contents number
  owed : next.owed number = scene.owed number
  backend : next.world.backend = scene.world.backend
  last : LastTurn number session ⟨.goesOn number, scene, next⟩

/-- A doomed session that looks for its mark begins to end. -/
theorem ends {last : Session} (found : scene.world.sessions.get? number = some last)
    (whole : session.input <+: last.input) (running : last.isRunning = true)
    : Turns number session turns scene
        (scene.follow number (scene.world.failing last .evicted)) where
  now := by
    refine ⟨{ last with stage := .receiving }, World.get?_setSession _ number _, whole, ?_⟩
    have leaving : (scene.departures.set number
        { ending := .failed Failure.evicted.status }).get? number
          = some { ending := .failed Failure.evicted.status } := by
      rw [Table.get?_set, if_pos rfl]
    exact leaving ▸ .leaving rfl
  contents :=
    Endpoints.contents_updateChannel_of_same scene.world.endpoints number Channel.withdraw
      (fun _ => rfl) number
  owed := rfl
  backend := rfl
  last := .ends found running rfl

/-- A doomed session that has acknowledged a message begins to deliver it. -/
theorem delivers (h : Doomed number session turns scene)
    (coherent : scene.world.exchange.registry.Coherent)
    (staying : scene.departures.get? number = none) {last : Session}
    (found : scene.world.sessions.get? number = some last)
    (whole : session.input <+: last.input) {message : Delivery} {recipient : String}
    (started : session.stage = .spreading message recipient) (first : turns = 0)
    : Turns number session turns scene (scene.follow number
        (.delivers (scene.world.enter number last .receiving) recipient message)) where
  now := by
    refine ⟨{ last with stage := .receiving }, World.get?_setSession _ number _, whole, ?_⟩
    have departures : (scene.follow number
        (.delivers (scene.world.enter number last .receiving) recipient message)).departures.get?
          number = none :=
      staying
    exact departures ▸ .delivered started (by omega)
  contents := rfl
  owed := by
    let begun : Scene σ :=
      { scene.acted number with world := scene.world.enter number last .receiving }
    have coherent : begun.world.exchange.registry.Coherent := coherent
    exact begun.owed_send coherent h.unconnected _ recipient message
  backend := rfl
  last := .delivers found started rfl

/-- Whenever a doomed session goes on, it is one of its last turns; by cases on where it was evicted
and where it is now.
-/
theorem turn (h : Doomed number session turns scene) (tidy : Tidy scene.world)
    (running : session.isRunning = true) (calling : session.stage.isCalling = false)
    {course : Course σ} (free : scene.isFree number = true)
    (taken : scene.world.course services number (scene.finds number) = some course)
    : Turns number session turns scene (scene.follow number course) := by
  obtain ⟨last, found, whole, leads⟩ := h.now
  obtain ⟨channel, mailbox⟩ := Option.isSome_iff_exists.mp (tidy.mailbox found)
  have staying := Scene.staying_of_isFree free
  rw [h.finds] at taken
  have watches (watching : last.stage.isWatchful = true) (going : last.isRunning = true)
      : Turns number session turns scene (scene.follow number course) := by
    rw [World.course_of_marked found mailbox watching] at taken
    exact Option.some.inj taken ▸ ends found whole going
  rw [staying] at leads
  generalize current : last.stage = stage at leads
  cases leads with
  | same =>
      cases stage : session.stage with
      | receiving | acknowledging | waiting =>
          rw [stage] at current
          exact watches (current ▸ rfl) (Session.isRunning_of_stage current rfl)
      | spreading message recipient =>
          rw [World.course_of_spreading found mailbox (current.trans stage)] at taken
          exact Option.some.inj taken ▸ h.delivers tidy.coherent staying found whole stage rfl
      | checking | storing =>
          rw [stage] at calling
          cases calling
      | reporting | ended =>
          rw [Session.isRunning, Session.ending?, stage] at running
          cases running
  | delivered => exact watches (current ▸ rfl) (Session.isRunning_of_stage current rfl)
  | finished ended =>
      rw [← current] at ended
      obtain ⟨next, rfl, there, backend, aside⟩ :=
        World.course_of_hasEnded found mailbox ended taken
      have finished : last.isRunning = false := by
        rw [Session.isRunning, Session.ending?_of_hasEnded ended]
        rfl
      have departures : (scene.follow number (.goesOn next)).departures.get? number = none :=
        staying
      refine ⟨⟨_, there, whole, departures ▸ .finished (.inl rfl)⟩, aside number, rfl, backend, ?_⟩
      exact .reports found finished rfl aside

/-- A doomed session that is on its way out ends in the one way that is left to it, and does not do
more than that either; by cases on how far it is.
-/
theorem leaves (h : Doomed number session turns scene)
    (happens : Happens services elsewhere scene act next) (own : act.mover? = some number)
    (apart : act ≠ .goesOn number)
    : (∃ session', next.world.sessions.get? number = some session'
        ∧ session.input <+: session'.input
        ∧ session.stage.LeadsTo turns (next.departures.get? number) session'.stage)
      ∧ next.world.endpoints.contents number = scene.world.endpoints.contents number
      ∧ next.world.backend = scene.world.backend := by
  obtain ⟨last, found, whole, leads⟩ := h.now
  cases happens with
  | passes | rests | advances | sends | aside => cases own
  | goesOn =>
      obtain rfl := Option.some.inj own
      exact absurd rfl apart
  | @departs mover leaver ending leaving there =>
      obtain rfl := Option.some.inj own
      refine ⟨⟨last, found, whole, ?_⟩, ?_, rfl⟩
      · have departures : (scene.depart mover leaver ending).departures.get? mover
            = some { ending, removed := true } :=
          (Table.get?_set _ _ _ _).trans (if_pos rfl)
        rw [leaving] at leads
        generalize last.stage = stage at leads
        cases leads with
        | leaving evicted => exact departures ▸ .leaving evicted
      · exact congrArg (Endpoints.contents · mover) (scene.endpoints_depart _ _ _)
  | @concludes mover leaver ending out there =>
      obtain rfl := Option.some.inj own
      obtain rfl := Option.some.inj (found.symm.trans there)
      obtain ⟨base, stage, _, ended, concluded⟩ := scene.conclude_eq mover last ending
      have departures : (scene.conclude mover last ending).departures.get? mover = none :=
        (Table.get?_erase _ _ _).trans (if_pos rfl)
      refine ⟨⟨{ last with stage }, ?_, whole, ?_⟩, scene.contents_conclude _ _ _ mover,
        scene.backend_conclude _ _ _⟩
      · exact concluded ▸ World.get?_setSession base mover _
      · rw [out] at leads
        generalize last.stage = was at leads
        cases leads with
        | leaving evicted => exact departures ▸ .finished (evicted ▸ ended)

/-- A session that is doomed stays so in every step, and no more comes into its mailbox than it is
still owed; by cases on whose step it is.
-/
theorem happens (h : Doomed number session turns scene) (orderly : Orderly scene)
    (running : session.isRunning = true) (calling : session.stage.isCalling = false)
    (happens : Happens services elsewhere scene act next)
    : let step : Scene.Step σ := ⟨act, scene, next⟩
      Doomed number session (turns + if step.isTurnOf number then 1 else 0) next
      ∧ (step.posted number ++ next.owed number).Subperm (scene.owed number)
      ∧ (act.mover? = some number →
        step.posted number = [] ∧ next.world.backend = scene.world.backend)
      ∧ (act = .goesOn number → LastTurn number session step) := by
  intro step
  obtain ⟨last, found, whole, leads⟩ := h.now
  have later := happens.later orderly.tidy
  have marked := later.marked found h.marked
  have unconnected := later.unconnected found h.unconnected
  have unpassed := happens.unpassed h.marked h.unpassed
  by_cases going : act = .goesOn number
  · rw [if_pos ((step.isTurnOf_iff number).mpr going)]
    subst going
    have turned : Turns number session turns scene next := by
      cases happens with
      | goesOn free taken => exact h.turn orderly.tidy running calling free taken
    have nothing : step.posted number = [] :=
      Scene.Step.posted_of_append (turned.contents.trans (List.append_nil _).symm)
    refine ⟨⟨marked, unconnected, unpassed, turned.now⟩, ?_, fun _ => ⟨nothing, turned.backend⟩,
      fun _ => turned.last⟩
    rw [nothing, List.nil_append, turned.owed]
  · rw [if_neg (mt (step.isTurnOf_iff number).mp going)]
    have posts := happens.posts orderly.tidy found h.unconnected going
    by_cases own : act.mover? = some number
    · obtain ⟨now, contents, backend⟩ := h.leaves happens own going
      have nothing : step.posted number = [] :=
        Scene.Step.posted_of_append (contents.trans (List.append_nil _).symm)
      exact ⟨⟨marked, unconnected, unpassed, now⟩, posts, fun _ => ⟨nothing, backend⟩,
        fun turn => absurd turn going⟩
    · obtain ⟨session', there, undisturbed⟩ := happens.undisturbed orderly.tidy found own
      refine ⟨⟨marked, unconnected, unpassed, session', there, whole.trans undisturbed.input, ?_⟩,
        posts, fun mover => absurd mover own, fun turn => absurd turn going⟩
      rw [happens.departures own, undisturbed.stage]
      exact leads

/-- A doomed session can end in one way only. -/
theorem ending (h : Doomed number session turns scene) (goes : session.isRunning = true)
    {ending : Ending} (ends : scene.ending? number = some ending)
    : ending = .failed Failure.evicted.status := by
  obtain ⟨last, found, _, leads⟩ := h.now
  simp only [Scene.ending?, found, Option.bind_some] at ends
  generalize left : scene.departures.get? number = departure? at leads ends
  generalize current : last.stage = stage at leads
  have stillRunning (same : last.isRunning = true) : last.ending? ≠ some ending := by
    rw [Session.isRunning] at same
    rw [Option.isNone_iff_eq_none.mp same]
    exact (Option.some_ne_none ending).symm
  cases leads with
  | same =>
      rw [Session.isRunning, Session.ending?] at goes
      refine absurd ends (stillRunning ?_)
      rw [Session.isRunning, Session.ending?, current]
      exact goes
  | delivered => exact absurd ends (stillRunning (Session.isRunning_of_stage current rfl))
  | leaving evicted => exact (Option.some.inj ends).symm.trans evicted
  | finished ended =>
      rw [← current] at ended
      exact Option.some.inj (ends.symm.trans (Session.ending?_of_hasEnded ended))

end Doomed

-----------------------------------------------------------------------------------------
-- Finality
-----------------------------------------------------------------------------------------

end ChatServer.Live
