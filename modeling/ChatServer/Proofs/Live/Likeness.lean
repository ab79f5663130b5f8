import ChatServer.Proofs.Live.Contents

/-! Worlds that are alike but for the texts of errors. A session looks at whether an error came and
not at what it says, so if two worlds have different parts behind their capabilities, which answer
alike and fail alike, their sessions go through the same stages and end with the same status.
-/

namespace ChatServer

variable {σ τ : Type}

-----------------------------------------------------------------------------------------
-- Uses
-----------------------------------------------------------------------------------------

/-- The error without its text. -/
def CollaboratorError.withoutText : CollaboratorError → CollaboratorError
  | storage _ => storage ""
  | alreadyExists _ => alreadyExists ""
  | notFound _ => notFound ""
  | configuration _ => configuration ""
  | internal _ => internal ""

/-- Two uses came out alike and left related states: with the same answer, with errors that differ
in their texts at most, or by breaking off.
-/
inductive OutcomesAlike {α : Type} (related : σ → τ → Prop)
    : Completion (Except CollaboratorError α) × σ → Completion (Except CollaboratorError α) × τ
      → Prop where
  | answers (value : α) {after : σ} {afterToo : τ} (left : related after afterToo)
    : OutcomesAlike related (.returned (.ok value), after) (.returned (.ok value), afterToo)
  | fails {e e' : CollaboratorError} (same : e.withoutText = e'.withoutText) {after : σ}
      {afterToo : τ} (left : related after afterToo)
    : OutcomesAlike related (.returned (.error e), after) (.returned (.error e'), afterToo)
  | breaksOff {after : σ} {afterToo : τ} (left : related after afterToo)
    : OutcomesAlike related (.brokenOff, after) (.brokenOff, afterToo)

/-- From states that are related, the two uses come out alike. -/
def Use.Alike {α : Type} (related : σ → τ → Prop) (one : Use σ α) (other : Use τ α) : Prop :=
  ∀ ⦃state another⦄, related state another → OutcomesAlike related (one state) (other another)

/-- Uses that always fail come out alike if they fail alike. -/
theorem Use.Alike.fail {α : Type} {related : σ → τ → Prop} {e e' : CollaboratorError}
    (same : e.withoutText = e'.withoutText)
    : Use.Alike related (Use.fail e : Use σ α) (Use.fail e') :=
  fun _ _ behind => .fails same behind

namespace Live

/-- Sessions rely on parts that come out alike. -/
structure Services.Alike (related : σ → τ → Prop) (one : Services σ) (other : Services τ)
    : Prop where
  userExists (identity : String)
    : Use.Alike related (one.directory.userExists identity) (other.directory.userExists identity)
  persist (sender recipient content : String) (sentAt : Instant)
    : Use.Alike related (one.messages.persist sender recipient content sentAt)
        (other.messages.persist sender recipient content sentAt)

namespace World

-----------------------------------------------------------------------------------------
-- Another backend
-----------------------------------------------------------------------------------------

/-- The world with something else behind its capabilities. -/
def upon (world : World σ) (backend : τ) : World τ :=
  { exchange := world.exchange, sessions := world.sessions, backend, now := world.now }

@[simp] theorem endpoints_upon (world : World σ) (backend : τ)
    : (world.upon backend).endpoints = world.endpoints :=
  rfl

@[simp] theorem sessions_upon (world : World σ) (backend : τ)
    : (world.upon backend).sessions = world.sessions :=
  rfl

@[simp] theorem backend_upon (world : World σ) (backend : τ)
    : (world.upon backend).backend = backend :=
  rfl

@[simp] theorem now_upon (world : World σ) (backend : τ)
    : (world.upon backend).now = world.now :=
  rfl

theorem upon_report (world : World σ) (backend : τ) (number : Nat) (session : Session)
    (ending : Ending) (status : Status)
    : (world.upon backend).report number session ending status
      = (world.report number session ending status).upon backend := by
  unfold report
  rw [endpoints_upon]
  cases world.endpoints.channel? number with
  | none => rfl
  | some channel =>
      dsimp only
      split
      next => rfl
      next => split <;> rfl

theorem upon_finish (world : World σ) (backend : τ) (number : Nat) (session : Session)
    (ending : Ending)
    : (world.upon backend).finish number session ending
      = (world.finish number session ending).upon backend := by
  let counted := (world.updateMetrics (countEnding ending)).updateChannel number Channel.withdraw
  let left := { counted with
    exchange := (counted.exchange.unregister session.identity session.connection).2 }
  unfold finish
  dsimp only
  split
  next => exact upon_report left backend number session ending _
  next => rfl

theorem upon_receive (world : World σ) (backend : τ) (number : Nat) (session : Session)
    : (world.upon backend).receive number session
      = (world.receive number session).map (·.upon backend) := by
  unfold receive
  split
  next =>
    split
    next => exact congrArg some (upon_finish world backend number session .closed)
    next => rfl
  next status input _ =>
    exact congrArg some (upon_finish world backend number { session with input } (.failed status))
  next => rfl

theorem upon_acknowledge (world : World σ) (backend : τ) (number : Nat) (session : Session)
    (channel : Channel Item) (message : Delivery) (recipient : String)
    : (world.upon backend).acknowledge number session channel message recipient
      = (world.acknowledge number session channel message recipient).upon backend := by
  unfold acknowledge
  split
  next => exact upon_finish world backend number session _
  next => split <;> rfl

theorem upon_feed (world : World σ) (backend : τ) (number : Nat) (inbound : List Inbound)
    : (world.upon backend).feed number inbound = (world.feed number inbound).upon backend := by
  unfold feed
  rw [sessions_upon]
  split
  next => split <;> rfl
  next => rfl

theorem backend_receive {world next : World σ} {number : Nat} {session : Session}
    (taken : world.receive number session = some next)
    : next.backend = world.backend := by
  unfold receive at taken
  split at taken
  next =>
    split at taken
    next =>
      cases taken
      exact backend_finish world number session .closed
    next => cases taken
  next status input _ =>
    cases taken
    exact backend_finish world number { session with input } (.failed status)
  next =>
    cases taken
    rfl

theorem backend_acknowledge (world : World σ) (number : Nat) (session : Session)
    (channel : Channel Item) (message : Delivery) (recipient : String)
    : (world.acknowledge number session channel message recipient).backend = world.backend := by
  unfold acknowledge
  split
  next => exact backend_finish world number session _
  next => split <;> rfl

theorem backend_feed (world : World σ) (number : Nat) (inbound : List Inbound)
    : (world.feed number inbound).backend = world.backend := by
  unfold feed
  split
  next => split <;> rfl
  next => rfl

-----------------------------------------------------------------------------------------
-- Worlds that are alike
-----------------------------------------------------------------------------------------

variable {related : σ → τ → Prop}

/-- The worlds are the same but for what stands behind their capabilities, and that is related. -/
inductive Alike (related : σ → τ → Prop) (world : World σ) : World τ → Prop where
  | swapped {backend : τ} (behind : related world.backend backend)
    : Alike related world (world.upon backend)

/-- What does not touch the backends keeps worlds alike. -/
theorem Alike.keep {world next : World σ} {other : World τ} {backend : τ}
    (behind : related world.backend backend) (kept : next.backend = world.backend)
    (same : other = next.upon backend)
    : next.Alike related other := by
  rw [same]
  exact .swapped (kept ▸ behind)

variable {services : Services σ} {others : Services τ}

theorem Alike.finish {world : World σ} {backend : τ} (behind : related world.backend backend)
    (number : Nat) (session : Session) (ending : Ending)
    : (world.finish number session ending).Alike related
        ((world.upon backend).finish number session ending) :=
  .keep behind (backend_finish world number session ending)
    (upon_finish world backend number session ending)

/-- A session ends with the status of a failure. What the failure says beyond it is for the log. -/
theorem Alike.fail {world : World σ} {backend : τ} (behind : related world.backend backend)
    (number : Nat) (session : Session) {failure failureToo : Failure}
    (same : failure.status = failureToo.status)
    : (world.fail number session failure).Alike related
        ((world.upon backend).fail number session failureToo) := by
  rw [World.fail, World.fail, same]
  exact .finish behind number session _

/-- Whether the recipient is known is asked alike in both worlds; that the question fails is told
without its text.
-/
theorem Alike.check (alike : services.Alike related others) {world : World σ} {other : World τ}
    (h : world.Alike related other) (number : Nat) (session : Session) (request : Outgoing)
    : (world.check services number session request).Alike related
        (other.check others number session request) := by
  obtain @⟨backend, behind⟩ := h
  have came := alike.userExists (Identity.normalize request.recipient) behind
  unfold World.check
  rw [backend_upon]
  generalize services.directory.userExists (Identity.normalize request.recipient) world.backend
    = here at came ⊢
  generalize others.directory.userExists (Identity.normalize request.recipient) backend
    = there at came ⊢
  cases came with
  | answers known left =>
      cases known with
      | true => exact .swapped left
      | false => exact .fail left number session rfl
  | fails _ left => exact .fail left number session rfl
  | breaksOff left => exact .finish left number session .brokenOff

/-- A message is stored alike in both worlds; that storing fails is told without its text. -/
theorem Alike.store (alike : services.Alike related others) {world : World σ} {other : World τ}
    (h : world.Alike related other) (number : Nat) (session : Session) (request : Outgoing)
    : (world.store services number session request).Alike related
        (other.store others number session request) := by
  obtain @⟨backend, behind⟩ := h
  have came := alike.persist session.identity (Identity.normalize request.recipient)
    request.content world.now behind
  unfold World.store
  -- The use must stay whole: its outcome is taken apart together with that of the other one.
  dsimp -iota only
  rw [backend_upon, now_upon]
  generalize services.messages.persist session.identity (Identity.normalize request.recipient)
    request.content world.now world.backend = here at came ⊢
  generalize others.messages.persist session.identity (Identity.normalize request.recipient)
    request.content world.now backend = there at came ⊢
  cases came with
  | answers _ left => exact .swapped left
  | fails _ left => exact .fail left number session rfl
  | breaksOff left => exact .finish left number session .brokenOff

/-- A turn of a session is taken in both worlds or in neither, and keeps them alike. -/
theorem Alike.turn (alike : services.Alike related others) {world : World σ} {other : World τ}
    (h : world.Alike related other) (number : Nat)
    : Option.Rel (Alike related) (world.turn services number) (other.turn others number) := by
  have whole := h
  obtain @⟨backend, behind⟩ := h
  unfold World.turn
  rw [sessions_upon, endpoints_upon]
  cases world.sessions.get? number with
  | none => exact .none
  | some session =>
      cases world.endpoints.channel? number with
      | none => exact .none
      | some channel =>
          dsimp only [Option.bind_eq_bind, Option.bind_some]
          cases session.stage with
          | receiving =>
              dsimp only
              split
              next => exact .some (.fail behind number session rfl)
              next =>
                rw [upon_receive]
                cases taken : world.receive number session with
                | none => exact .none
                | some next => exact .some (.keep behind (backend_receive taken) rfl)
          | checking request => exact .some (whole.check alike number session request)
          | storing request => exact .some (whole.store alike number session request)
          | acknowledging message recipient =>
              dsimp only
              split
              next => exact .some (.fail behind number session rfl)
              next =>
                exact .some (.keep behind (backend_acknowledge world number session _ _ _)
                  (upon_acknowledge world backend number session channel message recipient))
          | waiting message recipient =>
              dsimp only
              split
              next => exact .some (.fail behind number session rfl)
              next =>
                split
                next => exact .some (.fail behind number session rfl)
                next =>
                  split
                  next => exact .some (.swapped behind)
                  next => exact .none
          | spreading message recipient => exact .some (.swapped behind)
          | reporting ending status =>
              dsimp only
              split
              next => exact .some (.swapped behind)
              next =>
                split
                next => exact .some (.swapped behind)
                next => exact .none
          | ended ending => exact .none

-----------------------------------------------------------------------------------------
-- Clients
-----------------------------------------------------------------------------------------

theorem Alike.sessions {world : World σ} {other : World τ} (h : world.Alike related other)
    : other.sessions = world.sessions := by
  obtain ⟨_⟩ := h
  rfl

theorem Alike.feed {world : World σ} {other : World τ} (h : world.Alike related other)
    (number : Nat) (inbound : List Inbound)
    : (world.feed number inbound).Alike related (other.feed number inbound) := by
  obtain @⟨backend, behind⟩ := h
  exact .keep behind (backend_feed world number inbound) (upon_feed world backend number inbound)

theorem Alike.endInput {world : World σ} {other : World τ} (h : world.Alike related other)
    (number : Nat)
    : (world.endInput number).Alike related (other.endInput number) := by
  obtain @⟨backend, behind⟩ := h
  unfold World.endInput
  rw [sessions_upon]
  split
  next => exact .swapped behind
  next => exact .swapped behind

/-- A client finds the same in both worlds. -/
theorem Alike.take {world : World σ} {other : World τ} (h : world.Alike related other)
    (number : Nat)
    : (world.take number).1 = (other.take number).1
      ∧ (world.take number).2.Alike related (other.take number).2 := by
  obtain @⟨backend, behind⟩ := h
  unfold World.take
  rw [endpoints_upon]
  split
  next => exact ⟨rfl, .swapped behind⟩
  next => exact ⟨rfl, .swapped behind⟩

theorem Alike.closeMailbox {world : World σ} {other : World τ} (h : world.Alike related other)
    (number : Nat)
    : (world.closeMailbox number).Alike related (other.closeMailbox number) := by
  obtain @⟨backend, behind⟩ := h
  exact .swapped behind

end World

end Live

end ChatServer
