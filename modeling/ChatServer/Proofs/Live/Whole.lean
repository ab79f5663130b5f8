import ChatServer.Proofs.Live.Scenes

/-! Whole steps among those that are taken apart. What happens to a world in one step happens in a
scene, too, when nobody else does anything until it is done. So whatever holds throughout all runs
of scenes holds throughout all records of whole steps.
-/

namespace ChatServer.Live

variable {σ : Type} {services : Services σ} {elsewhere : σ → σ → Prop}

-----------------------------------------------------------------------------------------
-- Fan-outs
-----------------------------------------------------------------------------------------

/-- A fan-out that nothing comes in between of runs to its end, by induction on its steps. -/
theorem Exchange.Finishes.runs {exchange : Exchange Nat Endpoints} {dispatch : Dispatch Nat}
    {result : Except SendError Nat × Exchange Nat Endpoints}
    (finishes : Finishes endpointOps exchange dispatch result) (world : World σ)
    (sender? : Option Nat)
    : ∃ record, Runs services elsewhere
        { world := { world with exchange }, errands := [⟨sender?, dispatch⟩] } record
        { world := { world with exchange := result.2 } } := by
  have alone {errand : Errand} : [errand] = [] ++ errand :: [] := rfl
  induction finishes with
  | @done exchange after dispatch last =>
      have step : Happens services elsewhere
          { world := { world with exchange }, errands := [⟨sender?, dispatch⟩] } _ _ :=
        .advances alone
      simp only [Scene.advance, last] at step
      exact ⟨_, step.runs⟩
  | @goesOn exchange between dispatch rest result advanced _ ih =>
      obtain ⟨record, later⟩ := ih
      have step : Happens services elsewhere
          { world := { world with exchange }, errands := [⟨sender?, dispatch⟩] } _ _ :=
        .advances alone
      simp only [Scene.advance, advanced] at step
      exact ⟨_, step.runs.trans later⟩

/-- So does one that is about to begin, and comes to what delivering the message at once does. -/
theorem Scene.runs_send (world : World σ) (sender? : Option Nat) (recipient : String)
    (message : Delivery)
    : ∃ record, Runs services elsewhere (({ world } : Scene σ).send sender? recipient message)
        record { world := world.spread recipient message } := by
  have spread : world.spread recipient message
      = { world with exchange := (world.exchange.sendTo endpointOps recipient message).2 } := rfl
  rw [spread]
  cases begun : world.exchange.dispatch? recipient message with
  | none =>
      rw [Exchange.sendTo_of_dispatch?_none begun]
      simp only [Scene.send, begun]
      exact ⟨[], .start⟩
  | some dispatch =>
      simp only [Scene.send, begun]
      exact (Exchange.finishes_of_dispatch? begun).runs world sender?

-----------------------------------------------------------------------------------------
-- Ends
-----------------------------------------------------------------------------------------

theorem World.setSession_setSession (world : World σ) (number : Nat) (session later : Session)
    : (world.setSession number session).setSession number later
      = world.setSession number later := by
  simp only [setSession, Table.set_set]

/-- A report does not depend on what the session was before. -/
theorem World.report_setSession (world : World σ) (number : Nat) (session : Session)
    (stage : Stage) (ending : Ending) (status : Status)
    : (world.setSession number { session with stage }).report number { session with stage } ending
        status
      = world.report number session ending status := by
  have same : (world.setSession number { session with stage }).endpoints = world.endpoints := rfl
  have replaced := world.setSession_setSession number { session with stage }
  have changed (change : Channel Item → Channel Item) :=
    (world.updateChannel number change).setSession_setSession number { session with stage }
  unfold report
  rw [same]
  split
  next =>
    split
    next => exact replaced _
    next => split <;> exact changed _ _
  next => exact replaced _

/-- A session that is on its way out by itself comes to its end. -/
theorem Scene.runs_ends (next : World σ) (number : Nat) (session : Session) (ending : Ending)
    : ∃ record, Runs services elsewhere
        (({ world := next } : Scene σ).follow number (.ends next session ending)) record
        { world := next.finish number session ending } := by
  let leaving := ({ world := next } : Scene σ).follow number (.ends next session ending)
  let last : Session := { session with stage := .receiving }
  have found : leaving.world.sessions.get? number = some last := World.get?_setSession _ number _
  let out := leaving.depart number last ending
  have first : Happens services elsewhere leaving (.departs number) out :=
    .departs ((Table.get?_set _ _ _ _).trans (if_pos rfl)) found
  have second : Happens services elsewhere out (.concludes number)
      (out.conclude number last ending) :=
    .concludes ((Table.get?_set _ _ _ _).trans (if_pos rfl)) found
  have finished : out.conclude number last ending
      = { world := next.finish number session ending } := by
    let withdrawn := next.departing number ending
    let removed : World σ := { withdrawn with
      exchange := (withdrawn.exchange.unregister session.identity session.connection).2 }
    have nobody : ((({} : Table Nat Departure).set number { ending }).set number
        { ending, removed := true }).erase number = {} := by
      simp [Table.set, Table.setIn, Table.erase]
    have world : (out.conclude number last ending).world = next.finish number session ending := by
      have silent :=
        removed.setSession_setSession number last { session with stage := .ended ending }
      simp only [conclude]
      split
      next status wanted given =>
        have wanted : session.reports = true := wanted
        simp only [World.finish, wanted, given]
        exact removed.report_setSession number session .receiving ending status
      next nothing =>
        simp only [World.finish]
        split
        next status wanted given => exact absurd given (nothing status wanted)
        next => exact silent
    rw [← world]
    exact congrArg (fun departures =>
      ({ world := (out.conclude number last ending).world, departures } : Scene σ)) nobody
  exact ⟨_, finished ▸ first.runs.trans second.runs⟩

-----------------------------------------------------------------------------------------
-- Whole steps
-----------------------------------------------------------------------------------------

/-- A turn is a run in which only its session and the fan-out that it begins do anything. -/
theorem World.runs_turn {world next : World σ} {number : Nat}
    (taken : world.turn services number = some next)
    : ∃ record, Runs services elsewhere { world } record { world := next } := by
  rw [turn_eq_course] at taken
  obtain ⟨course, begun, rfl⟩ := Option.map_eq_some_iff.mp taken
  let scene : Scene σ := { world }
  have first : Happens services elsewhere scene (.goesOn number) (scene.follow number course) :=
    .goesOn rfl begun
  suffices goesOn : ∃ record, Runs services elsewhere (scene.follow number course) record
      { world := course.conclude number } by
    obtain ⟨record, later⟩ := goesOn
    exact ⟨_, first.runs.trans later⟩
  cases course with
  | goesOn next => exact ⟨[], .start⟩
  | delivers next recipient message => exact Scene.runs_send next (some number) recipient message
  | ends next session ending => exact Scene.runs_ends next number session ending

/-- Whatever happens to a world in one step, a run of scenes comes to as well. -/
theorem Occurs.runs {world next : World σ} {event : Event}
    (occurs : Occurs services elsewhere world event next)
    : ∃ record, Runs services elsewhere { world } record { world := next } := by
  have aside (apart : event.isAside = true)
      : ∃ record, Runs services elsewhere { world } record { world := next } := by
    have step : Happens services elsewhere ({ world } : Scene σ) .other { world := next } :=
      .aside occurs apart
    exact ⟨_, step.runs⟩
  cases event with
  | turn number =>
      cases occurs with
      | turn taken => exact World.runs_turn taken
  | sent recipient message =>
      cases occurs with
      | sent =>
          obtain ⟨record, later⟩ := Scene.runs_send world none recipient message
          have step : Happens services elsewhere ({ world } : Scene σ) (.sends recipient message)
              (({ world } : Scene σ).send none recipient message) :=
            .sends recipient message
          exact ⟨_, step.runs.trans later⟩
  | fed | other => exact aside rfl

/-- Every record of whole steps comes from a run of scenes, by induction on the record. -/
theorem Chronicle.runs {start : σ} {history : List (Entry σ)} {world : World σ}
    (told : Chronicle services elsewhere start history world)
    : ∃ now record, Runs services elsewhere { world := { backend := start, now } } record
        { world } := by
  induction told with
  | start now => exact ⟨now, [], .start⟩
  | goesOn _ occurs ih =>
      obtain ⟨now, record, run⟩ := ih
      obtain ⟨more, later⟩ := occurs.runs
      exact ⟨now, _, run.trans later⟩

end ChatServer.Live
