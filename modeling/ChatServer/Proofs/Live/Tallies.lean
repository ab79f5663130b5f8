import ChatServer.Proofs.Live.Accounting
import ChatServer.Proofs.Live.Chronicle
import ChatServer.Proofs.Live.Reachability

/-! What the counters say of the sessions. Each session is counted when it starts and when it ends
with its input or with a failure, and each message when it has been stored. A session that a
collaborator breaks off ends without being counted, so the sessions that have started are those
that have closed, that have failed, that are running, and as many more as there were calls that
broke off.
-/

namespace ChatServer

/-- Does the metric count sessions, or the messages that they store? -/
def Metric.isTally : Metric → Bool
  | sessions _ | messagesPersisted => true
  | _ => false

theorem Metric.ne_gauge {metric : Metric} (tally : metric.isTally = true)
    : metric ≠ .activeConnections := by
  rintro rfl
  cases tally

namespace Live

variable {σ : Type}

-----------------------------------------------------------------------------------------
-- Endings and calls
-----------------------------------------------------------------------------------------

/-- The event that an ending is counted as, if it is counted. -/
def Ending.event? : Ending → Option SessionEvent
  | closed => some .closed
  | failed _ => some .failed
  | brokenOff => none

def Ending.isFailure : Ending → Bool
  | failed _ => true
  | _ => false

namespace Session

/-- Has the session ended in a way that is counted as the event? -/
def isCountedAs (event : SessionEvent) (session : Session) : Bool :=
  session.ending?.bind Ending.event? == some event

def isBrokenOff (session : Session) : Bool :=
  session.ending? == some .brokenOff

/-- What asking for the recipient comes to, for a session that is about to ask. -/
def asking? (services : Services σ) (world : World σ) (session : Session)
    : Option (Completion (Except CollaboratorError Bool)) :=
  match session.stage with
  | .checking request =>
    some (services.directory.userExists (Identity.normalize request.recipient) world.backend).1
  | _ => none

/-- What storing a message comes to, for a session that is about to store one. -/
def storing? (services : Services σ) (world : World σ) (session : Session)
    : Option (Completion (Except CollaboratorError Persisted)) :=
  match session.stage with
  | .storing request =>
    some (services.messages.persist session.identity (Identity.normalize request.recipient)
      request.content world.now world.backend).1
  | _ => none

/-- Is the session about to store a message, and will that succeed? -/
def persists (services : Services σ) (world : World σ) (session : Session) : Bool :=
  match session.storing? services world with
  | some (.returned (.ok _)) => true
  | _ => false

/-- Is the session about to use a collaborator that will break off? -/
def breaksOff (services : Services σ) (world : World σ) (session : Session) : Bool :=
  (session.asking? services world).any Completion.isBrokenOff
    || (session.storing? services world).any Completion.isBrokenOff

end Session

namespace Entry

/-- The session that takes a turn in a step, if one does. -/
def turning? (entry : Entry σ) : Option Session :=
  match entry.event with
  | .turn number => entry.before.sessions.get? number
  | _ => none

/-- Does a session store a message in the step? -/
def persists (services : Services σ) (entry : Entry σ) : Bool :=
  entry.turning?.any (·.persists services entry.before)

/-- Does a collaborator break off under a session in the step? -/
def breaksOff (services : Services σ) (entry : Entry σ) : Bool :=
  entry.turning?.any (·.breaksOff services entry.before)

end Entry

/-- How many sessions are such. -/
def World.count (p : Session → Bool) (world : World σ) : Nat :=
  world.sessions.entries.countP (p ·.2)

-----------------------------------------------------------------------------------------
-- The counters
-----------------------------------------------------------------------------------------

namespace World

/-- The value of a metric. -/
def reading (world : World σ) (metric : Metric) : Nat :=
  world.exchange.metrics.value metric

/-- How often an ending adds to a metric. -/
theorem value_countEnding (ending : Ending) (metrics : Metrics) (metric : Metric)
    : (countEnding ending metrics).value metric
      = metrics.value metric + (ending.event?.map Metric.sessions == some metric).toNat := by
  have added (event : SessionEvent)
      : (metrics.increment (.sessions event)).value metric
        = metrics.value metric + (some (Metric.sessions event) == some metric).toNat := by
    rw [Metrics.increment, Metrics.value_add]
    by_cases same : metric = .sessions event
    · simp [same]
    · simp [same, Ne.symm same]
  cases ending with
  | closed => exact added .closed
  | failed status => exact added .failed
  | brokenOff => rfl

theorem reading_report (world : World σ) (number : Nat) (session : Session) (ending : Ending)
    (status : Status) (metric : Metric)
    : (world.report number session ending status).reading metric = world.reading metric := by
  unfold report
  split
  next =>
    split
    next => rfl
    next => split <;> rfl
  next => rfl

/-- Ending a session counts its ending. -/
theorem reading_finish (world : World σ) (number : Nat) (session : Session) (ending : Ending)
    {metric : Metric} (another : metric ≠ .activeConnections)
    : (world.finish number session ending).reading metric
      = world.reading metric + (ending.event?.map Metric.sessions == some metric).toNat := by
  refine Eq.trans ?_ (value_countEnding ending world.exchange.metrics metric)
  have removed := Exchange.value_unregister another
    ((world.updateMetrics (countEnding ending)).updateChannel number Channel.withdraw).exchange
    session.identity session.connection
  unfold finish
  dsimp only
  split
  next => exact (reading_report _ _ _ _ _ _).trans removed
  next => exact removed

/-- A fan-out counts deliveries, and neither sessions nor messages. -/
theorem reading_spread (world : World σ) (recipient : String) (message : Delivery) {metric : Metric}
    (tally : metric.isTally = true)
    : (world.spread recipient message).reading metric = world.reading metric := by
  rw [reading, exchange_spread, Exchange.value_sendTo _ _ _ _ (Metric.ne_gauge tally)]
  cases metric <;> first | rfl | cases tally

end World

-----------------------------------------------------------------------------------------
-- Replacing one session
-----------------------------------------------------------------------------------------

theorem Session.isCountedAs_of_running {session : Session} (running : session.isRunning = true)
    (event : SessionEvent)
    : session.isCountedAs event = false := by
  have goesOn := Option.isNone_iff_eq_none.mp running
  rw [isCountedAs, goesOn]
  rfl

theorem Session.isBrokenOff_of_running {session : Session} (running : session.isRunning = true)
    : session.isBrokenOff = false := by
  have goesOn := Option.isNone_iff_eq_none.mp running
  rw [isBrokenOff, goesOn]
  rfl

/-- One session is replaced in a step, and what the counters say goes with it: the new endings are
counted, but those that broke off, and so are the messages that have been stored.
-/
structure Replaced (world next : World σ) (number : Nat) (session session' : Session)
    (stored broke : Bool) : Prop where
  sessions : next.sessions = world.sessions.set number session'
  ended
    : ∀ event, next.reading (.sessions event) + (session.isCountedAs event).toNat
        = world.reading (.sessions event) + (session'.isCountedAs event).toNat
  persisted : next.reading .messagesPersisted = world.reading .messagesPersisted + stored.toNat
  brokenOff : session'.isBrokenOff.toNat = session.isBrokenOff.toNat + broke.toNat

section

variable {services : Services σ} {world next base : World σ} {number : Nat}
  {session session' : Session}

/-- A session goes on, or is reported, without being counted. -/
theorem Replaced.of_same (sessions : base.sessions = world.sessions)
    (counters : ∀ metric, metric.isTally = true → base.reading metric = world.reading metric)
    (ending : session'.ending? = session.ending?)
    : Replaced world (base.setSession number session') number session session' false false where
  sessions := by rw [World.setSession, sessions]
  ended event := by
    rw [Session.isCountedAs, Session.isCountedAs, ending]
    exact congrArg (· + _) (counters _ rfl)
  persisted := counters _ rfl
  brokenOff := by
    rw [Session.isBrokenOff, Session.isBrokenOff, ending]
    rfl

/-- A running session ends. -/
theorem Replaced.of_finish (running : session.isRunning = true)
    (sessions : base.sessions = world.sessions)
    (counters : ∀ metric, metric.isTally = true → base.reading metric = world.reading metric)
    (input : List Inbound) (ending : Ending)
    : ∃ session', Replaced world (base.finish number { session with input } ending) number session
        session' false (ending == .brokenOff) := by
  obtain ⟨last, stage, calm, ended, same⟩ :=
    World.finish_eq base number { session with input } ending
  have ends : ({ session with input, stage } : Session).ending? = some ending := by
    rcases ended with rfl | ⟨status, rfl⟩ <;> rfl
  have counted {metric : Metric} (tally : metric.isTally = true)
      : (base.finish number { session with input } ending).reading metric
        = world.reading metric + (ending.event?.map Metric.sessions == some metric).toNat := by
    rw [World.reading_finish _ _ _ _ (Metric.ne_gauge tally), counters metric tally]
  refine ⟨{ session with input, stage }, ?_, fun event => ?_, ?_, ?_⟩
  · rw [same, World.setSession, calm.sessions]
    change base.sessions.set number _ = _
    rw [sessions]
  · rw [counted rfl, Session.isCountedAs_of_running running, Session.isCountedAs, ends]
    cases ending <;> cases event <;> rfl
  · rw [counted rfl]
    cases ending <;> rfl
  · rw [Session.isBrokenOff_of_running running, Session.isBrokenOff, ends]
    cases ending <;> rfl

/-- A running session ends after a collaborator has been used. -/
theorem Replaced.of_use (running : session.isRunning = true) (backend : σ) (ending : Ending)
    : ∃ session', Replaced world (World.finish { world with backend } number session ending) number
        session session' false (ending == .brokenOff) := by
  let used : World σ := { world with backend }
  have sessions : used.sessions = world.sessions := rfl
  exact Replaced.of_finish running sessions (fun _ _ => rfl) session.input ending

/-- Every turn replaces its session, by cases on what it comes to. -/
theorem World.replaced_of_turn (found : world.sessions.get? number = some session)
    (taken : world.turn services number = some next)
    : ∃ session', Replaced world next number session session' (session.persists services world)
        (session.breaksOff services world) := by
  obtain ⟨session, channel, again, _, turned⟩ := turned_of_turn taken
  obtain rfl := Option.some.inj (found.symm.trans again)
  have running {stage : Stage} (there : session.stage = stage)
      (goes : ({ session with stage } : Session).isRunning = true)
      : session.isRunning = true := by
    rw [Session.isRunning, Session.ending?, there]
    exact goes
  have still {stage : Stage} (there : session.stage = stage)
      (goes : ({ session with stage } : Session).isRunning = true)
      : session.ending? = none :=
    Option.isNone_iff_eq_none.mp (running there goes)
  -- A session that is neither asking nor storing uses no collaborator.
  have idle {session' : Session} (asks : ∀ request, session.stage ≠ .checking request)
      (stores : ∀ request, session.stage ≠ .storing request)
      (replaced : Replaced world next number session session' false false)
      : ∃ session', Replaced world next number session session' (session.persists services world)
          (session.breaksOff services world) := by
    have none : session.persists services world = false
        ∧ session.breaksOff services world = false := by
      rw [Session.persists, Session.breaksOff, Session.asking?, Session.storing?]
      cases stage : session.stage <;> simp_all
    rw [none.1, none.2]
    exact ⟨session', replaced⟩
  have same (metric : Metric) (_ : metric.isTally = true)
      : world.reading metric = world.reading metric := rfl
  cases turned with
  | evicted _ watching =>
      have stage {other : Stage} (still : other.isWatchful = false) : session.stage ≠ other := by
        rintro rfl
        rw [still] at watching
        cases watching
      have goesOn : session.isRunning = true := by
        cases stage : session.stage <;>
          simp_all [Session.isRunning, Session.ending?, Stage.isWatchful]
      obtain ⟨_, replaced⟩ := Replaced.of_finish goesOn rfl same session.input (.failed _)
      exact idle (fun _ => stage rfl) (fun _ => stage rfl) replaced
  | inputEnds stage _ _ =>
      obtain ⟨_, replaced⟩ := Replaced.of_finish (running stage rfl) rfl same session.input .closed
      exact idle (by simp [stage]) (by simp [stage]) replaced
  | inputFails stage first =>
      obtain ⟨_, replaced⟩ := Replaced.of_finish (running stage rfl) rfl same _ (.failed _)
      exact idle (by simp [stage]) (by simp [stage]) replaced
  | takes stage first =>
      exact idle (by simp [stage]) (by simp [stage]) (.of_same rfl same (still stage rfl).symm)
  | @checks request stage =>
      rcases answered : services.directory.userExists (Identity.normalize request.recipient)
        world.backend with ⟨known, backend⟩
      have asked : session.asking? services world = some known := by
        rw [Session.asking?, stage]
        exact congrArg (some ·.1) answered
      have unstored : session.storing? services world = none := by rw [Session.storing?, stage]
      rw [Session.persists, Session.breaksOff, asked, unstored, World.check, answered]
      have goesOn := running stage rfl
      rcases known with (e | (_ | _)) | _
      · exact Replaced.of_use goesOn backend (.failed _)
      · exact Replaced.of_use goesOn backend (.failed _)
      · exact ⟨_, .of_same rfl same (still stage rfl).symm⟩
      · exact Replaced.of_use goesOn backend .brokenOff
  | @stores request stage =>
      rcases answered : services.messages.persist session.identity
        (Identity.normalize request.recipient) request.content world.now world.backend with
        ⟨stored, backend⟩
      have unasked : session.asking? services world = none := by rw [Session.asking?, stage]
      have stores : session.storing? services world = some stored := by
        rw [Session.storing?, stage]
        exact congrArg (some ·.1) answered
      rw [Session.persists, Session.breaksOff, unasked, stores, World.store, answered]
      have goesOn := running stage rfl
      rcases stored with (e | persisted) | _
      · exact Replaced.of_use goesOn backend (.failed _)
      · have endless := still stage rfl
        refine ⟨_, rfl, fun event => ?_, Metrics.value_add _ _ _ 1, ?_⟩
        · rw [Session.isCountedAs, Session.isCountedAs, endless]
          exact congrArg (· + _)
            ((Metrics.value_add _ _ _ 1).trans (congrArg (_ + ·) (if_neg (by simp))))
        · rw [Session.isBrokenOff, Session.isBrokenOff, endless]
          rfl
      · exact Replaced.of_use goesOn backend .brokenOff
  | outboundCloses acknowledging _ =>
      have stage {other : Stage} (still : other.isAcknowledging = false)
          : session.stage ≠ other := by
        rintro rfl
        rw [still] at acknowledging
        cases acknowledging
      have goesOn : session.isRunning = true := by
        cases stage : session.stage <;>
          simp_all [Session.isRunning, Session.ending?, Stage.isAcknowledging]
      obtain ⟨_, replaced⟩ := Replaced.of_finish goesOn rfl same session.input (.failed _)
      exact idle (fun _ => stage rfl) (fun _ => stage rfl) replaced
  | acknowledges stage _ | waits stage _ | fills stage =>
      exact idle (by simp [stage]) (by simp [stage]) (.of_same rfl same (still stage rfl).symm)
  | @spreads message recipient stage =>
      have goesOn : Replaced world (world.enter number session .receiving) number session
          { session with stage := .receiving } false false :=
        .of_same rfl same (still stage rfl).symm
      refine idle (by simp [stage]) (by simp [stage]) ⟨?_, fun event => ?_, ?_, goesOn.brokenOff⟩
      · rw [World.sessions_spread]
        exact goesOn.sessions
      · rw [World.reading_spread _ recipient message rfl]
        exact goesOn.ended event
      · rw [World.reading_spread _ recipient message rfl]
        exact goesOn.persisted
  | reportCloses stage | reports stage =>
      refine idle (by simp [stage]) (by simp [stage]) (.of_same rfl same ?_)
      rw [Session.ending?, Session.ending?, stage]

end

-----------------------------------------------------------------------------------------
-- Records
-----------------------------------------------------------------------------------------

/-- The counters are those of the sessions and of the calls that the record has. -/
structure Tallied (services : Services σ) (history : List (Entry σ)) (world : World σ)
    : Prop where
  distinct : world.sessions.Distinct
  started : world.reading (.sessions .started) = world.sessions.size
  ended
    : ∀ event, event ≠ .started →
        world.reading (.sessions event) = world.count (·.isCountedAs event)
  persisted : world.reading .messagesPersisted = history.countP (·.persists services)
  brokenOff : world.count Session.isBrokenOff = history.countP (·.breaksOff services)

section

variable {services : Services σ} {elsewhere : σ → σ → Prop} {history : List (Entry σ)}
  {world next : World σ} {number : Nat} {session session' : Session} {event : Event}

/-- No session is ever counted as started when it ends. -/
theorem Session.isCountedAs_started (session : Session) : session.isCountedAs .started = false := by
  rw [isCountedAs]
  rcases session.ending? with _ | _ | _ | _ <;> rfl

/-- Replacing a session keeps the tallies, whatever the step was. -/
theorem Tallied.replaced (h : Tallied services history world)
    (found : world.sessions.get? number = some session) {stored broke : Bool}
    (replaced : Replaced world next number session session' stored broke)
    (stores : Entry.persists services ⟨event, world, next⟩ = stored)
    (breaks : Entry.breaksOff services ⟨event, world, next⟩ = broke)
    : Tallied services (history ++ [⟨event, world, next⟩]) next := by
  have counts (p : Session → Bool)
      : next.count p + (p session).toNat = world.count p + (p session').toNat := by
    rw [World.count, replaced.sessions]
    exact Table.countP_set h.distinct found session' p
  let entry : Entry σ := ⟨event, world, next⟩
  have last (p : Entry σ → Bool)
      : (history ++ [entry]).countP p = history.countP p + (p entry).toNat := by
    rw [List.countP_append, List.countP_singleton]
    cases p entry <;> rfl
  refine ⟨?_, ?_, fun ending other => ?_, ?_, ?_⟩
  · rw [replaced.sessions]
    exact h.distinct.set number session'
  · have same := replaced.ended .started
    rw [Session.isCountedAs_started, Session.isCountedAs_started] at same
    rw [replaced.sessions, Table.size_set, if_pos (Table.mem_keys_iff.mpr ⟨session, found⟩),
      ← h.started]
    exact same
  · have counted := replaced.ended ending
    have counts := counts (·.isCountedAs ending)
    have before := h.ended ending other
    omega
  · rw [replaced.persisted, last, stores, h.persisted]
  · have counts := counts Session.isBrokenOff
    have broken := replaced.brokenOff
    have before := h.brokenOff
    rw [last, breaks]
    omega

/-- A step that leaves sessions and counters alone keeps the tallies. -/
theorem Tallied.kept (h : Tallied services history world)
    (sessions : next.sessions = world.sessions)
    (counters : ∀ metric, metric.isTally = true → next.reading metric = world.reading metric)
    (idle : ∀ number, event ≠ .turn number)
    : Tallied services (history ++ [⟨event, world, next⟩]) next := by
  have nobody : (Entry.mk event world next).turning? = none := by
    unfold Entry.turning?
    cases event with
    | turn number => exact absurd rfl (idle number)
    | fed | sent | other => rfl
  have count (p : Session → Bool) : next.count p = world.count p := by
    rw [World.count, sessions, World.count]
  refine ⟨sessions ▸ h.distinct, ?_, fun ending other => ?_, ?_, ?_⟩
  · rw [counters _ rfl, sessions]
    exact h.started
  · rw [counters _ rfl, count]
    exact h.ended ending other
  · rw [counters _ rfl, h.persisted, List.countP_append, List.countP_singleton, Entry.persists,
      nobody]
    rfl
  · rw [count, h.brokenOff, List.countP_append, List.countP_singleton, Entry.breaksOff, nobody]
    rfl

/-- Opening a session counts one more as started. -/
theorem Tallied.opened (h : Tallied services history world)
    (fresh : world.sessions.get? number = none) (identity : String) (capacity : Nat)
    (reports : Bool)
    : Tallied services
        (history ++ [⟨.other, world, world.openSession number identity capacity reports⟩])
        (world.openSession number identity capacity reports) := by
  let opened := world.openSession number identity capacity reports
  obtain ⟨session, sessions, running⟩ : ∃ session : Session,
      opened.sessions = world.sessions.set number session ∧ session.isRunning = true :=
    ⟨_, rfl, rfl⟩
  have counters {metric : Metric} (tally : metric.isTally = true)
      : opened.reading metric
        = world.reading metric + if metric = .sessions .started then 1 else 0 :=
    (Metrics.value_add _ _ _ 1).trans (congrArg (· + _)
      (Exchange.value_register (Metric.ne_gauge tally) _ _ _))
  have count (p : Session → Bool) (no : p session = false) : opened.count p = world.count p := by
    rw [World.count, sessions, Table.countP_set_of_absent h.distinct fresh, no]
    rfl
  refine ⟨?_, ?_, fun ending other => ?_, ?_, ?_⟩
  · exact sessions ▸ h.distinct.set number session
  · rw [counters rfl, if_pos rfl, sessions, Table.size_set, if_neg (Table.not_mem_keys fresh),
      h.started]
  · rw [counters rfl, if_neg (fun same => other (Metric.sessions.inj same)),
      count _ (Session.isCountedAs_of_running running ending)]
    exact h.ended ending other
  · rw [counters rfl, if_neg nofun, h.persisted, List.countP_append]
    rfl
  · rw [count _ (Session.isBrokenOff_of_running running), h.brokenOff, List.countP_append]
    rfl

/-- Every step keeps the tallies, by cases on the step. -/
theorem Occurs.tallied (tidy : Tidy world) (h : Tallied services history world)
    (occurs : Occurs services elsewhere world event next)
    : Tallied services (history ++ [⟨event, world, next⟩]) next := by
  cases occurs with
  | @turn number _ taken =>
      obtain ⟨session, _, found, _, _⟩ := World.turned_of_turn taken
      obtain ⟨session', replaced⟩ := World.replaced_of_turn found taken
      have turning : (Entry.mk (.turn number) world next).turning? = some session := found
      refine h.replaced found replaced ?_ ?_
      · rw [Entry.persists, turning]
        rfl
      · rw [Entry.breaksOff, turning]
        rfl
  | opened identity capacity reports =>
      exact h.opened tidy.freshNumber_absent identity capacity reports
  | @fed number session found goesOn inbound =>
      rw [World.feed_eq found goesOn]
      exact h.replaced found (.of_same rfl (fun _ _ => rfl) rfl) rfl rfl
  | inputEnded number =>
      unfold World.endInput
      split
      next session found => exact h.replaced found (.of_same rfl (fun _ _ => rfl) rfl) rfl rfl
      next => exact h.kept rfl (fun _ _ => rfl) nofun
  | took number =>
      refine h.kept (world.calm_take number).sessions (fun metric _ => ?_) nofun
      unfold World.take
      split <;> rfl
  | @connected number _ foreign there identity =>
      exact h.kept rfl
        (fun _ tally => Exchange.value_register (Metric.ne_gauge tally) _ identity number) nofun
  | disconnected identity id =>
      exact h.kept rfl
        (fun _ tally => Exchange.value_unregister (Metric.ne_gauge tally) _ identity id) nofun
  | sent recipient message =>
      exact h.kept (world.sessions_spread recipient message)
        (fun _ tally => world.reading_spread recipient message tally) nofun
  | closed | placed | altered | elsewhere => exact h.kept rfl (fun _ _ => rfl) nofun

/-- The tallies are right at every point of a record, by induction on the record. -/
theorem Chronicle.tallied {start : σ} (told : Chronicle services elsewhere start history world)
    : Tallied services history world := by
  induction told with
  | start now =>
      refine ⟨List.nodup_nil, rfl, fun event _ => ?_, rfl, rfl⟩
      cases event <;> rfl
  | goesOn told occurs ih => exact occurs.tallied told.tidy ih

end

/-- Every session has closed, has failed, is running or was broken off, by induction on them. -/
theorem World.size_eq_counts (world : World σ)
    : world.sessions.size
      = world.count (·.isCountedAs .closed) + world.count (·.isCountedAs .failed)
        + world.running.length + world.count Session.isBrokenOff := by
  simp only [Table.size, count, running, ← List.countP_eq_length_filter]
  induction world.sessions.entries with
  | nil => rfl
  | cons entry rest ih =>
      have one : 1 = (entry.2.isCountedAs .closed).toNat + (entry.2.isCountedAs .failed).toNat
          + entry.2.isRunning.toNat + entry.2.isBrokenOff.toNat := by
        rw [Session.isCountedAs, Session.isCountedAs, Session.isRunning, Session.isBrokenOff]
        rcases entry.2.ending? with _ | _ | _ | _ <;> rfl
      have added (p : Nat × Session → Bool)
          : (entry :: rest).countP p = rest.countP p + (p entry).toNat := by
        rw [List.countP_cons]
        cases p entry <;> rfl
      rw [List.length_cons, added, added, added, added, ih]
      omega

/-- What the counters of sessions say, at every point of every run, whatever the collaborators do.
As many sessions have been counted as started as there are; those counted as closed are the ones
that ended with their input, and those counted as failed the ones that ended with a status. A
session under which a collaborator broke off is counted as neither, so the sessions that started
are those that closed, that failed, that are running, and one more for each call that broke off.
The messages counted as persisted are the calls of sessions to the store that succeeded.
-/
theorem sessions_counted {services : Services σ} {elsewhere : σ → σ → Prop} {start : σ}
    {history : List (Entry σ)} {world : World σ}
    (told : Chronicle services elsewhere start history world)
    : let value := world.exchange.metrics.value
      value (.sessions .started) = world.sessions.size
      ∧ value (.sessions .closed) = world.count (·.ending? == some .closed)
      ∧ value (.sessions .failed) = world.count (·.ending?.any Ending.isFailure)
      ∧ world.count (·.ending? == some .brokenOff) = history.countP (·.breaksOff services)
      ∧ value (.sessions .started)
        = value (.sessions .closed) + value (.sessions .failed) + world.running.length
          + history.countP (·.breaksOff services)
      ∧ value .messagesPersisted = history.countP (·.persists services) := by
  intro value
  have h := told.tallied
  have closed := h.ended .closed nofun
  have failed := h.ended .failed nofun
  refine ⟨h.started, closed.trans ?_, failed.trans ?_, h.brokenOff, ?_, h.persisted⟩
  · refine congrArg (world.count ·) (funext fun session => ?_)
    rw [Session.isCountedAs]
    rcases session.ending? with _ | _ | _ | _ <;> rfl
  · refine congrArg (world.count ·) (funext fun session => ?_)
    rw [Session.isCountedAs]
    rcases session.ending? with _ | _ | _ | _ <;> rfl
  · have all := world.size_eq_counts
    rw [← h.started, ← closed, ← failed, h.brokenOff] at all
    exact all

/-- Four sessions over a store that breaks off at an empty message: one stores its message and
closes, one is broken off, one is running, and one writes to somebody unknown and fails.
-/
theorem sessions_counted_of_four
    : let store : MessageStore Backend :=
        { persist := fun sender recipient content sentAt =>
            if content = "" then .breakOff
            else MessageStore.recording.persist sender recipient content sentAt }
      let services : Services Backend := ⟨.fixed ["b"], store⟩
      ∃ history world,
        Chronicle services (fun _ _ => False) {} history world
        ∧ let value := world.exchange.metrics.value
          value (.sessions .started) = 4
          ∧ value (.sessions .closed) = 1
          ∧ value (.sessions .failed) = 1
          ∧ world.running.map (·.1) = [3]
          ∧ history.countP (·.breaksOff services) = 1
          ∧ value .messagesPersisted = 1 := by
  intro store services
  let fresh : World Backend := { backend := {}, now := ⟨0, 0⟩ }
  let first := ((fresh.openSession 1 "a" 4 false).feed 1 [.ok ⟨"b", "hi"⟩]).endInput 1
  let second := (first.openSession 2 "b" 4 false).feed 2 [.ok ⟨"B ", ""⟩]
  let world := ((second.openSession 3 "c" 4 true).openSession 4 "d" 4 true).feed 4
    [.ok ⟨"nobody", "hi"⟩]
  have one : Chronicle services (fun _ _ => False) {} _ first :=
    (((Chronicle.start ⟨0, 0⟩).goesOn (.opened "a" 4 false)).goesOn
      (.fed (World.get?_setSession _ 1 _) rfl [.ok ⟨"b", "hi"⟩])).goesOn (.inputEnded 1)
  have two : Chronicle services (fun _ _ => False) {} _ second :=
    (one.goesOn (.opened "b" 4 false)).goesOn
      (.fed (World.get?_setSession _ 2 _) rfl [.ok ⟨"B ", ""⟩])
  have told : Chronicle services (fun _ _ => False) {} _ world :=
    ((two.goesOn (.opened "c" 4 true)).goesOn (.opened "d" 4 true)).goesOn
      (.fed (World.get?_setSession _ 4 _) rfl [.ok ⟨"nobody", "hi"⟩])
  have turns := told.turns [1, 2, 4, 1, 2, 4, 1, 2, 1, 1, 1]
  obtain ⟨started, closed, failed, broken, _, persisted⟩ := sessions_counted turns
  refine ⟨_, _, turns, started.trans ?_, closed.trans ?_, failed.trans ?_, ?_, broken.symm.trans ?_,
    persisted.trans ?_⟩ <;> decide +kernel

/-- A session whose store breaks off is counted as started and never again, although it has ended.
-/
theorem broken_off_session_uncounted
    : let services : Services Backend := ⟨.fixed ["b@x"], .breaking⟩
      ∃ history world,
        Chronicle services (fun _ _ => False) {} history world
        ∧ world.running = []
        ∧ let value := world.exchange.metrics.value
          value (.sessions .started) = 1
          ∧ value (.sessions .closed) = 0
          ∧ value (.sessions .failed) = 0 := by
  intro services
  let fresh : World Backend := { backend := {}, now := ⟨0, 0⟩ }
  let fed := (fresh.openSession 1 "a@x" 8 false).feed 1 [.ok ⟨"b@x", "hi"⟩]
  have told : Chronicle services (fun _ _ => False) {} _ fed :=
    ((Chronicle.start ⟨0, 0⟩).goesOn (.opened "a@x" 8 false)).goesOn
      (.fed (World.get?_setSession _ 1 _) rfl [.ok ⟨"b@x", "hi"⟩])
  -- It takes, asks and stores.
  have turns := told.turns [1, 1, 1]
  refine ⟨_, _, turns, List.eq_nil_of_length_eq_zero ?_, ?_, ?_, ?_⟩ <;> decide +kernel

end Live

end ChatServer
