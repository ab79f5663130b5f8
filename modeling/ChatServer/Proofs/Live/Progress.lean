import ChatServer.Proofs.Live.Chronicle
import ChatServer.Proofs.Live.Contents
import ChatServer.Proofs.Store.Ids
import Mathlib.Tactic.Choose

/-! What a turn does over the store in memory: how the session goes on, which message it stores, and
what it gives to which sinks. Everything else follows from these few cases.
-/

namespace ChatServer.Live

variable {σ : Type}

/-- The state holds a store in memory, in which sessions store their messages. Asking for a user
leaves it alone, whatever it answers.
-/
structure Services.StoresIn (services : Services σ) (view : σ → Store) : Prop where
  asks : ∀ identity state, view (services.directory.userExists identity state).2 = view state
  answers
    : ∀ sender recipient content sentAt state,
        (services.messages.persist sender recipient content sentAt state).1
          = .returned (.ok ⟨((view state).persist sender recipient content sentAt).1.id,
              ((view state).persist sender recipient content sentAt).1.sentAt⟩)
  keeps
    : ∀ sender recipient content sentAt state,
        view (services.messages.persist sender recipient content sentAt state).2
          = ((view state).persist sender recipient content sentAt).2

/-- The store in memory, which is its own directory. -/
theorem storesIn_memory : Services.StoresIn ⟨.memory, .memory⟩ Backend.store where
  asks _ _ := rfl
  answers _ _ _ _ _ := rfl
  keeps _ _ _ _ _ := rfl

/-- What clients are shown of a stored message. -/
def shown (stored : StoredMessage) : Delivery :=
  ⟨stored.id.simple, stored.sender, stored.content, some (.ofInstant stored.sentAt)⟩

/-- A message has been stored for a request of somebody. -/
structure Stems (identity : String) (request : Outgoing) (stored : StoredMessage) : Prop where
  sender : stored.sender = identity
  recipient : stored.recipient = Identity.normalize request.recipient
  content : stored.content = request.content

/-- What a turn makes of a session, with the messages that it stores and those that it gives to each
sink.
-/
inductive Progress (number : Nat) (session : Session)
    : Session → List StoredMessage → (Nat → List Delivery) → Prop where
  | takes {request : Outgoing} {input : List Inbound} (stage : session.stage = .receiving)
    (first : session.input = .ok request :: input)
    : Progress number session { session with input, stage := .checking request } [] fun _ => []
  | finds {request : Outgoing} (stage : session.stage = .checking request)
    : Progress number session { session with stage := .storing request } [] fun _ => []
  | stores {request : Outgoing} {stored : StoredMessage} (stage : session.stage = .storing request)
    (stems : Stems session.identity request stored)
    : Progress number session
        { session with stage := .acknowledging (shown stored) stored.recipient }
        [stored] fun _ => []
  | waits {message : Delivery} {recipient : String}
    (stage : session.stage = .acknowledging message recipient)
    : Progress number session { session with stage := .waiting message recipient } [] fun _ => []
  | acknowledges {message : Delivery} {recipient : String}
    (stage : session.stage = .acknowledging message recipient
      ∨ session.stage = .waiting message recipient)
    : Progress number session { session with stage := .spreading message recipient } []
        fun other => if other = number then [message] else []
  | spreads {message : Delivery} {recipient : String} {posted : Nat → List Delivery}
    (stage : session.stage = .spreading message recipient)
    (copies : ∀ other, ∀ delivery ∈ posted other, delivery = message)
    : Progress number session { session with stage := .receiving } [] posted
  | ends {input : List Inbound} {stage : Stage} {ending : Ending} (ended : stage.HasEnded ending)
    (rest : input = session.input
      ∨ ∃ status, session.stage = .receiving ∧ session.input = .error status :: input)
    : Progress number session { session with input, stage } [] fun _ => []

/-- A session keeps its identity. -/
theorem Progress.identity {number : Nat} {session session' : Session}
    {stored : List StoredMessage} {posted : Nat → List Delivery}
    (progress : Progress number session session' stored posted)
    : session'.identity = session.identity := by
  cases progress <;> rfl

/-- Whatever a turn gives to a sink is the message that its session has in hand. -/
theorem Progress.in_hand {number : Nat} {session session' : Session} {stored : List StoredMessage}
    {posted : Nat → List Delivery} (progress : Progress number session session' stored posted)
    {sink : Nat} {delivery : Delivery} (given : delivery ∈ posted sink)
    : ∃ recipient,
        session.stage = .acknowledging delivery recipient
        ∨ session.stage = .waiting delivery recipient
        ∨ session.stage = .spreading delivery recipient := by
  cases progress with
  | takes | finds | stores | waits | ends => cases given
  | @acknowledges message recipient stage =>
      change delivery ∈ if sink = number then [message] else [] at given
      split at given
      next =>
        obtain rfl := List.mem_singleton.mp given
        exact ⟨recipient, stage.imp_right .inl⟩
      next => cases given
  | @spreads message recipient posted stage copies =>
      obtain rfl := copies sink delivery given
      exact ⟨recipient, .inr (.inr stage)⟩

/-- A world after a turn: one session has been replaced, messages have been stored, and sinks have
been given messages.
-/
structure Advanced (view : σ → Store) (world next : World σ) (number : Nat) (session : Session)
    (stored : List StoredMessage) (posted : Nat → List Delivery) : Prop where
  sessions : next.sessions = world.sessions.set number session
  used : (view world.backend).Used (view next.backend)
  messages : (view next.backend).messages = (view world.backend).messages ++ stored
  contents
    : ∀ other, next.endpoints.contents other = world.endpoints.contents other ++ posted other

section

variable {services : Services σ} {view : σ → Store} {world next : World σ} {number : Nat}
  {session : Session}

/-- A session is replaced in a world with the same sessions and the same store. -/
theorem Advanced.of_same {base : World σ} {session' : Session} {posted : Nat → List Delivery}
    (sessions : base.sessions = world.sessions) (store : view base.backend = view world.backend)
    (contents : ∀ other,
      base.endpoints.contents other = world.endpoints.contents other ++ posted other)
    : Advanced view world (base.setSession number session') number session' [] posted where
  sessions := sessions ▸ rfl
  used := by
    change Store.Used _ (view base.backend)
    exact store ▸ .looked
  messages := by
    change (view base.backend).messages = _
    rw [store, List.append_nil]
  contents := contents

/-- A turn that ends its session stores nothing and gives nothing to any sink. -/
theorem progress_of_finish (world : World σ) (session : Session) {backend : σ}
    (store : view backend = view world.backend) {input : List Inbound}
    (rest : input = session.input
      ∨ ∃ status, session.stage = .receiving ∧ session.input = .error status :: input)
    (ending : Ending)
    : ∃ session' stored posted,
        Progress number session session' stored posted
        ∧ Advanced view world
            (World.finish { world with backend } number { session with input } ending) number
            session' stored posted := by
  obtain ⟨last, stage, calm, ended, same⟩ :=
    World.finish_eq { world with backend } number { session with input } ending
  refine ⟨_, _, _, .ends ended rest, ?_, ?_, ?_, ?_⟩
  · rw [same, World.setSession, calm.sessions]
    rfl
  · rw [World.backend_finish, store]
    exact .looked
  · rw [World.backend_finish, store, List.append_nil]
  · intro other
    rw [World.contents_finish, List.append_nil]
    rfl

/-- Asking goes on to storing or ends the session. -/
theorem progress_of_check (memory : services.StoresIn view) {request : Outgoing}
    (stage : session.stage = .checking request)
    : ∃ session' stored posted,
        Progress number session session' stored posted
        ∧ Advanced view world (world.check services number session request) number session' stored
            posted := by
  have kept := memory.asks (Identity.normalize request.recipient) world.backend
  rcases answered : services.directory.userExists (Identity.normalize request.recipient)
    world.backend with ⟨answer, backend⟩
  rw [answered] at kept
  have finishes (ending : Ending) : ∃ session' stored posted,
      Progress number session session' stored posted
      ∧ Advanced view world (World.finish { world with backend } number session ending) number
          session' stored posted :=
    progress_of_finish world session kept (.inl rfl) ending
  have nothing (other : Nat)
      : world.endpoints.contents other = world.endpoints.contents other ++ [] :=
    (List.append_nil _).symm
  rw [World.check, answered]
  rcases answer with (e | (_ | _)) | _
  · exact finishes _
  · exact finishes _
  · exact ⟨_, _, _, .finds stage, .of_same rfl kept nothing⟩
  · exact finishes _

/-- Storing goes on to acknowledging what has been stored. -/
theorem progress_of_store (memory : services.StoresIn view) {request : Outgoing}
    (normal : Identity.normalize session.identity = session.identity)
    (stage : session.stage = .storing request)
    : ∃ session' stored posted,
        Progress number session session' stored posted
        ∧ Advanced view world (world.store services number session request) number session' stored
            posted := by
  let recipient := Identity.normalize request.recipient
  let stored := ((view world.backend).persist session.identity recipient request.content
    world.now).1
  have stems : Stems session.identity request stored :=
    ⟨normal, Identity.normalize_normalize request.recipient, rfl⟩
  have answer := memory.answers session.identity recipient request.content world.now world.backend
  have kept := memory.keeps session.identity recipient request.content world.now world.backend
  rcases answered : services.messages.persist session.identity recipient request.content world.now
    world.backend with ⟨completion, backend⟩
  rw [answered] at answer kept
  obtain rfl : completion = .returned (.ok ⟨stored.id, stored.sentAt⟩) := answer
  have acknowledged : World.deliveryOf session.identity request.content ⟨stored.id, stored.sentAt⟩
      = shown stored := by
    rw [shown, stems.sender, stems.content]
    rfl
  refine ⟨_, _, _, .stores stage stems, ?_⟩
  rw [World.store, answered]
  simp only [acknowledged]
  rw [stems.recipient]
  refine ⟨rfl, ?_, ?_, fun _ => (List.append_nil _).symm⟩
  · change Store.Used _ (view backend)
    rw [kept]
    exact .persisted _ _ _ _
  · change (view backend).messages = _
    rw [kept]
    rfl

/-- Every turn is progress, by cases on what it comes to. -/
theorem progress_of_turn (memory : services.StoresIn view) (h : Tidy world)
    (found : world.sessions.get? number = some session)
    (taken : world.turn services number = some next)
    : ∃ session' stored posted,
        Progress number session session' stored posted
        ∧ Advanced view world next number session' stored posted := by
  obtain ⟨session, channel, again, mailbox, turned⟩ := World.turned_of_turn taken
  obtain rfl := Option.some.inj (found.symm.trans again)
  have finishes (ending : Ending) : ∃ session' stored posted,
      Progress number session session' stored posted
      ∧ Advanced view world (world.finish number session ending) number session' stored posted :=
    progress_of_finish world session rfl (.inl rfl) ending
  -- Nothing but the acknowledgement is put into the session's own mailbox.
  have updated {change : Channel Item → Channel Item} {added : List Delivery}
      (adds : (change channel).messages = channel.messages ++ added) (other : Nat)
      : (world.updateChannel number change).endpoints.contents other
        = world.endpoints.contents other ++ if other = number then added else [] :=
    Endpoints.contents_updateChannel mailbox adds other
  have nothing (other : Nat)
      : world.endpoints.contents other = world.endpoints.contents other ++ [] :=
    (List.append_nil _).symm
  cases turned with
  | evicted => exact finishes _
  | inputEnds => exact finishes _
  | inputFails stage first =>
      exact progress_of_finish world session rfl (.inr ⟨_, stage, first⟩) _
  | takes stage first => exact ⟨_, _, _, .takes stage first, .of_same rfl rfl nothing⟩
  | checks stage => exact progress_of_check memory stage
  | stores stage => exact progress_of_store memory (h.normal found) stage
  | outboundCloses => exact finishes _
  | acknowledges stage _ =>
      exact ⟨_, _, _, .acknowledges (.inl stage),
        .of_same rfl rfl (updated (channel.messages_enqueue _))⟩
  | waits stage =>
      refine ⟨_, _, _, .waits stage, .of_same rfl rfl fun other => ?_⟩
      exact (Endpoints.contents_updateChannel_of_same world.endpoints number Channel.await
        (fun _ => rfl) other).trans (nothing other)
  | fills stage =>
      exact ⟨_, _, _, .acknowledges (.inr stage),
        .of_same rfl rfl (updated (Channel.messages_enqueue _ _))⟩
  | @spreads message recipient stage =>
      have copies := fun other => World.copies_spread
        (show (world.enter number session .receiving).exchange.registry.Coherent from h.coherent)
        recipient message other
      choose posted contents copies using copies
      refine ⟨_, _, posted, .spreads stage copies, ?_, .looked, ?_, contents⟩
      · rw [World.sessions_spread]
        rfl
      · exact (List.append_nil _).symm
  | @reportCloses ending status stage =>
      exact ⟨_, _, _, .ends (.inl rfl) (.inl rfl), .of_same rfl rfl nothing⟩
  | @reports ending status stage =>
      refine ⟨_, _, _, .ends (.inl rfl) (.inl rfl), .of_same rfl rfl fun other => ?_⟩
      refine (updated (Channel.messages_enqueue _ _) other).trans ?_
      split <;> rfl

end

end ChatServer.Live
