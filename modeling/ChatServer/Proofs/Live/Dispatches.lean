import ChatServer.Live.Dispatch
import ChatServer.Proofs.Live.Traffic

/-! Fan-outs under way, step by step. One that nothing comes in between of is a whole fan-out. Of
the others it is known what a step does: it adds no connection, and offers the message to sinks that
were connected when the fan-out began and to no others.
-/

namespace ChatServer.Live

variable {κ ω : Type}

-----------------------------------------------------------------------------------------
-- Whole fan-outs
-----------------------------------------------------------------------------------------

namespace Exchange

variable {ops : SinkOps κ ω} {exchange : Exchange κ ω} {identity : String} {message : Delivery}

/-- A fan-out goes on until it is done, with nothing in between, and comes to an answer. -/
inductive Finishes (ops : SinkOps κ ω)
    : Exchange κ ω → Dispatch κ → Except SendError Nat × Exchange κ ω → Prop where
  | done {exchange after : Exchange κ ω} {dispatch : Dispatch κ}
    (last : exchange.advance ops dispatch = (none, after))
    : Finishes ops exchange dispatch (answer dispatch.attempts, after)
  | goesOn {exchange between : Exchange κ ω} {dispatch rest : Dispatch κ}
    {result : Except SendError Nat × Exchange κ ω}
    (step : exchange.advance ops dispatch = (some rest, between))
    (later : Finishes ops between rest result)
    : Finishes ops exchange dispatch result

/-- The failures are evicted one after the other, by induction on them. -/
theorem finishes_removing (ops : SinkOps κ ω) (exchange : Exchange κ ω) (identity : String)
    (message : Delivery) (attempts failures : List (Attempt κ))
    : Finishes ops exchange
        { recipient := identity, message, attempts, phase := .removing failures }
        (answer attempts, failures.foldl (evict ops identity) exchange) := by
  induction failures generalizing exchange with
  | nil => exact .done rfl
  | cons failure rest ih =>
      rcases removal : exchange.unregister identity failure.id with ⟨removed, between⟩
      have evicted : evict ops identity exchange failure
          = if removed then { between with outside := ops.evicted failure.sink between.outside }
            else between := by
        simp only [evict, removal]
      rw [List.foldl_cons, evicted]
      cases removed with
      | false =>
          refine .goesOn ?_ (ih between)
          simp only [advance, removal]
          rfl
      | true =>
          let told : Dispatch κ :=
            { recipient := identity, message, attempts, phase := .telling failure rest }
          have removed : exchange.advance ops { told with phase := .removing (failure :: rest) }
              = (some told, between) := by
            simp only [advance, told, removal]
            rfl
          exact .goesOn removed (.goesOn rfl (ih _))

/-- The targets are tried one after the other, and then the failures are evicted; by induction on
the targets.
-/
theorem finishes_delivering (ops : SinkOps κ ω) (exchange : Exchange κ ω) (identity : String)
    (message : Delivery) (before : List (Attempt κ)) (targets : List (Nat × κ))
    : let (attempts, outside) := deliverAll ops message targets exchange.outside
      let failures := (before ++ attempts).filter Attempt.failed
      let delivered := (before ++ attempts).length - failures.length
      Finishes ops exchange
        { recipient := identity, message, attempts := before, phase := .delivering targets }
        (answer (before ++ attempts), failures.foldl (evict ops identity)
          { exchange with
            outside, metrics := exchange.metrics.recordFanout delivered failures.length }) := by
  induction targets generalizing exchange before with
  | nil =>
      simp only [deliverAll, List.append_nil]
      exact .goesOn rfl (finishes_removing ops _ identity message before _)
  | cons target rest ih =>
      obtain ⟨id, sink⟩ := target
      rcases tried : ops.deliver sink message exchange.outside with ⟨fault?, outside⟩
      have later := ih { exchange with outside } (before ++ [⟨id, sink, fault?⟩])
      simp only [deliverAll, tried]
      simp only [List.append_assoc, List.singleton_append] at later
      refine .goesOn ?_ later
      simp only [advance, tried]

/-- A fan-out that begins and goes on until it is done is a whole one. -/
theorem finishes_of_dispatch? {dispatch : Dispatch κ}
    (begun : exchange.dispatch? identity message = some dispatch)
    : Finishes ops exchange dispatch (exchange.sendTo ops identity message) := by
  simp only [dispatch?] at begun
  split at begun
  next => cases begun
  next some =>
    obtain rfl := Option.some.inj begun
    rw [sendTo_of_some (by simpa using some)]
    exact finishes_delivering ops exchange identity message [] _

/-- A fan-out that does not begin has nobody to deliver to. -/
theorem sendTo_of_dispatch?_none (none : exchange.dispatch? identity message = none)
    : exchange.sendTo ops identity message = (.error .notConnected, exchange) := by
  simp only [dispatch?] at none
  split at none
  next nobody => exact sendTo_of_none (List.isEmpty_iff.mp nobody)
  next => cases none

-----------------------------------------------------------------------------------------
-- Single steps
-----------------------------------------------------------------------------------------

/-- What a step of a fan-out can be. -/
inductive Advances (ops : SinkOps κ ω) (exchange : Exchange κ ω) (dispatch : Dispatch κ)
    : Option (Dispatch κ) → Exchange κ ω → Prop where
  | delivers {id : Nat} {sink : κ} {targets : List (Nat × κ)} {fault? : Option DeliveryFault}
    {outside : ω} (phase : dispatch.phase = .delivering ((id, sink) :: targets))
    (tried : ops.deliver sink dispatch.message exchange.outside = (fault?, outside))
    : Advances ops exchange dispatch
        (some { dispatch with
          attempts := dispatch.attempts ++ [⟨id, sink, fault?⟩], phase := .delivering targets })
        { exchange with outside }
  | counts (phase : dispatch.phase = .delivering []) (metrics : Metrics)
    : Advances ops exchange dispatch
        (some { dispatch with phase := .removing (dispatch.attempts.filter Attempt.failed) })
        { exchange with metrics }
  | removes {failure : Attempt κ} {failures : List (Attempt κ)} {sink : κ}
    (phase : dispatch.phase = .removing (failure :: failures))
    (held : exchange.registry.sink? dispatch.recipient failure.id = some sink)
    : Advances ops exchange dispatch (some { dispatch with phase := .telling failure failures })
        (exchange.unregister dispatch.recipient failure.id).2
  | skips {failure : Attempt κ} {failures : List (Attempt κ)}
    (phase : dispatch.phase = .removing (failure :: failures))
    : Advances ops exchange dispatch (some { dispatch with phase := .removing failures }) exchange
  | tells {failure : Attempt κ} {failures : List (Attempt κ)}
    (phase : dispatch.phase = .telling failure failures)
    : Advances ops exchange dispatch (some { dispatch with phase := .removing failures })
        { exchange with outside := ops.evicted failure.sink exchange.outside }
  | ends (phase : dispatch.phase = .removing []) : Advances ops exchange dispatch none exchange

/-- Every step is one of those, by cases on how far the fan-out has come. -/
theorem advances (ops : SinkOps κ ω) (exchange : Exchange κ ω) (dispatch : Dispatch κ)
    : Advances ops exchange dispatch (exchange.advance ops dispatch).1
        (exchange.advance ops dispatch).2 := by
  unfold advance
  split
  next id sink targets phase => exact .delivers phase rfl
  next phase => exact .counts phase _
  next failure failures phase =>
    cases found : exchange.registry.sink? dispatch.recipient failure.id with
    | none =>
        have same : exchange.unregister dispatch.recipient failure.id = (false, exchange) := by
          simp [unregister, Registry.unregister_of_absent found]
        simp only [same]
        exact .skips phase
    | some sink =>
        have removed : (exchange.unregister dispatch.recipient failure.id).1 = true := by
          simp [unregister, Registry.unregister_of_present found]
        simp only [removed]
        exact .removes phase found
  next failure failures phase => exact .tells phase
  next phase => exact .ends phase

end Exchange

-----------------------------------------------------------------------------------------
-- What a fan-out knows
-----------------------------------------------------------------------------------------

/-- The failures whose connections have not been removed and told. -/
def Phase.failures : Phase κ → List (Exchange.Attempt κ)
  | delivering _ => []
  | removing failures => failures
  | telling failure failures => failure :: failures

namespace Dispatch

/-- The connections that a fan-out has found and has still got anything to do with. -/
def known (dispatch : Dispatch κ) : List (Nat × κ) :=
  dispatch.phase.targets
    ++ (dispatch.attempts ++ dispatch.phase.failures).map fun attempt => (attempt.id, attempt.sink)

/-- A fan-out gets to know no other connections on its way. -/
theorem known_of_advances {ops : SinkOps κ ω} {exchange after : Exchange κ ω}
    {dispatch rest : Dispatch κ}
    (advances : exchange.Advances ops dispatch (some rest) after)
    : rest.recipient = dispatch.recipient ∧ rest.known ⊆ dispatch.known := by
  generalize left : some rest = rest? at advances
  cases advances with
  | delivers phase | counts phase | removes phase | skips phase | tells phase =>
      obtain rfl := Option.some.inj left
      refine ⟨rfl, fun connection member => ?_⟩
      simp only [known, phase, Phase.targets, Phase.failures, List.mem_append, List.mem_map,
        List.mem_cons, List.mem_filter] at member ⊢
      grind
  | ends => cases left

/-- How many steps a fan-out still takes at most. -/
def left (dispatch : Dispatch κ) : Nat :=
  match dispatch.phase with
  | .delivering targets =>
    3 * targets.length + 2 * (dispatch.attempts.filter Exchange.Attempt.failed).length + 2
  | .removing failures => 2 * failures.length + 1
  | .telling _ failures => 2 * failures.length + 2

/-- Every step brings a fan-out nearer to its end, by cases on the step. -/
theorem left_of_advances {ops : SinkOps κ ω} {exchange after : Exchange κ ω}
    {dispatch : Dispatch κ} {rest? : Option (Dispatch κ)}
    (advances : exchange.Advances ops dispatch rest? after)
    : rest?.elim 0 left < dispatch.left := by
  cases advances with
  | @delivers id sink targets fault? outside phase =>
      have more : (List.filter Exchange.Attempt.failed [⟨id, sink, fault?⟩]).length ≤ 1 :=
        List.length_filter_le ..
      simp only [left, phase, Option.elim_some, List.filter_append, List.length_append,
        List.length_cons]
      omega
  | counts phase | skips phase | tells phase | ends phase => simp [left, phase]
  | removes phase =>
      simp only [left, phase, Option.elim_some, List.length_cons]
      omega

end Dispatch

-----------------------------------------------------------------------------------------
-- What a step does
-----------------------------------------------------------------------------------------

namespace Exchange.Advances

variable {exchange after : Exchange Nat Endpoints} {dispatch : Dispatch Nat}
  {rest? : Option (Dispatch Nat)}

/-- No step of a fan-out adds a connection. -/
theorem shrinks {σ : Type} {world : World σ} (coherent : world.exchange.registry.Coherent)
    (advances : world.exchange.Advances endpointOps dispatch rest? after)
    : Shrinks world { world with exchange := after } := by
  cases advances with
  | @delivers _ sink _ _ outside _ tried =>
      obtain ⟨alike, marks⟩ := Endpoints.alike_deliver world.endpoints sink dispatch.message
      have outside : (endpointOps.deliver sink dispatch.message world.endpoints).2 = outside :=
        congrArg Prod.snd tried
      rw [outside] at alike marks
      exact ⟨coherent, rfl, id, alike, fun marked => (marks _).trans marked⟩
  | counts | skips | ends => exact ⟨coherent, rfl, id, .refl world.endpoints, id⟩
  | removes => exact .disconnect coherent _ _
  | @tells failure =>
      obtain ⟨alike, marks⟩ := Endpoints.alike_evicted world.endpoints failure.sink
      refine ⟨coherent, rfl, id, alike, fun {number} marked => ?_⟩
      exact (marks number).trans (by rw [marked]; rfl)

/-- A sink is told when its connection is gone. -/
theorem gone_of_telling (coherent : exchange.registry.Coherent) {rest : Dispatch Nat}
    (advances : exchange.Advances endpointOps dispatch (some rest) after) {failure : Attempt Nat}
    {failures : List (Attempt Nat)} (phase : rest.phase = .telling failure failures)
    : failure.id ∉ after.registry.ids := by
  generalize left : some rest = rest? at advances
  cases advances with
  | removes _ held =>
      obtain rfl := Option.some.inj left
      cases phase
      rw [registry_unregister]
      exact coherent.not_mem_ids_unregister held
  | delivers | counts | skips | tells =>
      obtain rfl := Option.some.inj left
      cases phase
  | ends => cases left

/-- A step of a fan-out reaches mailboxes with its message only. -/
theorem receives {number : Nat} {channel : Channel Item}
    (mailbox : Endpoints.channel? exchange.outside number = some channel)
    (advances : exchange.Advances endpointOps dispatch rest? after)
    : ∃ channel', Endpoints.channel? after.outside number = some channel'
        ∧ channel.Receives channel' := by
  cases advances with
  | @delivers _ sink _ _ _ _ tried =>
      obtain ⟨channel', there, received⟩ :=
        Endpoints.receives_deliver mailbox sink dispatch.message
      rw [tried] at there
      exact ⟨channel', there, received⟩
  | counts | skips | ends => exact ⟨channel, mailbox, .none channel⟩
  | @removes failure =>
      refine ⟨channel, ?_, .none channel⟩
      rw [outside_unregister]
      exact mailbox
  | @tells failure =>
      refine ⟨channel, ?_, .none channel⟩
      exact (Endpoints.channel?_evicted exchange.outside failure.sink number).trans mailbox

/-- What a step of a fan-out gives to a sink it does not owe it any more. -/
theorem gives (advances : exchange.Advances endpointOps dispatch rest? after) (number : Nat)
    : ∃ given : List Delivery,
        Endpoints.contents after.outside number
          = Endpoints.contents exchange.outside number ++ given
        ∧ (given ++ rest?.toList.flatMap (·.owed number)).Sublist (dispatch.owed number) := by
  have nothing {contents : List Delivery} : contents = contents ++ [] :=
    (List.append_nil _).symm
  cases advances with
  | @delivers _ sink _ fault? _ phase tried =>
      have contents := Endpoints.contents_deliver exchange.outside sink dispatch.message number
      rw [tried] at contents
      refine ⟨_, contents, ?_⟩
      simp only [Dispatch.owed, phase, Phase.targets, Option.toList_some, List.flatMap_singleton]
      by_cases here : number = sink
      · subst here
        cases fault? <;> simp
      · simp [here, Ne.symm here]
  | counts phase | skips phase | ends phase =>
      exact ⟨[], nothing, by simp [Dispatch.owed, phase, Phase.targets]⟩
  | removes phase =>
      refine ⟨[], ?_, by simp [Dispatch.owed, phase, Phase.targets]⟩
      rw [outside_unregister]
      exact nothing
  | @tells failure _ phase =>
      refine ⟨[], ?_, by simp [Dispatch.owed, phase, Phase.targets]⟩
      exact (Endpoints.contents_evicted exchange.outside failure.sink number).trans nothing

end Exchange.Advances

end ChatServer.Live
