import ChatServer.Proofs.Admission.Levels
import ChatServer.Proofs.Admission.Ticks
import ChatServer.Proofs.Token.Migration
import ChatServer.Rpc.Deployment

/-! Whether sweeping can be noticed. A sweep looks at how long a key has been silent and not at its
bucket, so what it forgets is a full bucket only if the idle window is long enough to fill an empty
one. Then no call is ever answered differently because of a sweep; under all other limits a sweep
can give a caller tokens.
-/

namespace ChatServer.Admission

-----------------------------------------------------------------------------------------
-- Runs
-----------------------------------------------------------------------------------------

/-- What is done at a station: a call is decided about, the limiter is swept by hand, the clock
jumps, time is waited for, or the sweeper is started or stopped.
-/
inductive Doing where
  | call (key : String)
  | sweep
  | jump (nanos : Nat)
  | pass (nanos : Nat)
  | start (seconds : Nat)
  | stop

/-- Does it serve sweeping alone? -/
def Doing.isSweeping : Doing → Bool
  | sweep | start _ | stop => true
  | call _ | jump _ | pass _ => false

/-- The same calls at the same times, without any sweep. -/
def withoutSweeping (doings : List Doing) : List Doing :=
  doings.filter (!·.isSweeping)

namespace Station

section

variable {α : Type} [Quantity α]

def after (station : Station α) : Doing → Station α
  | .call key => (station.allow key).2
  | .sweep => station.sweep
  | .jump nanos => station.jump nanos
  | .pass nanos => station.pass nanos
  | .start seconds => station.startSweeper (seconds * nanosPerSecond)
  | .stop => station.stopSweeper.2

def afterAll (station : Station α) (doings : List Doing) : Station α :=
  doings.foldl after station

theorem afterAll_append (station : Station α) (earlier later : List Doing)
    : station.afterAll (earlier ++ later) = (station.afterAll earlier).afterAll later :=
  List.foldl_append

end

/-- The answer to what is done, with the key, if it is a call. -/
def answer? (station : Station Rat) : Doing → Option (String × Bool)
  | .call key => some (key, (station.allow key).1)
  | _ => none

/-- The answers to the calls, one after the other. -/
def answers (station : Station Rat) : List Doing → List (String × Bool)
  | [] => []
  | doing :: rest => (station.answer? doing).toList ++ (station.after doing).answers rest

/-- How full the bucket of a key is. -/
def level (station : Station Rat) (key : String) : Rat :=
  station.limiter.level key station.now

theorem answers_append (station : Station Rat) (earlier later : List Doing)
    : station.answers (earlier ++ later)
      = station.answers earlier ++ (station.afterAll earlier).answers later := by
  induction earlier generalizing station with
  | nil => rfl
  | cons doing rest ih => rw [List.cons_append, answers, ih, answers, List.append_assoc]; rfl

end Station

-----------------------------------------------------------------------------------------
-- Sweeping under limits that forget late
-----------------------------------------------------------------------------------------

/-- Under limits that forget late, a limiter that has been swept is as full as if it had been left
alone.
-/
theorem Limiter.Drifts.level_eq {limiter next : Limiter Rat} {now later : Nat}
    (drifts : limiter.Drifts now next later) (h : limiter.InOrder now)
    (late : limiter.limits.ForgetsLate)
    : now ≤ later ∧ next.InOrder later ∧ next.limits = limiter.limits
      ∧ ∀ key, next.level key later = limiter.level key later := by
  induction drifts with
  | still => exact ⟨Nat.le_refl _, h, rfl, fun _ => rfl⟩
  | wait _ forward ih =>
      obtain ⟨onwards, inOrder, limits, same⟩ := ih
      refine ⟨Nat.le_trans onwards forward, inOrder.later forward, limits, fun key => ?_⟩
      rw [level_later inOrder key forward, level_later (h.later onwards) key forward, same, limits]
  | sweep _ ih =>
      obtain ⟨onwards, inOrder, limits, same⟩ := ih
      refine ⟨onwards, inOrder.sweep, limits, fun key => ?_⟩
      rw [level_sweep inOrder (limits ▸ late), same]

namespace Station

/-- A station that is swept and one that is not have the same levels at the same time. -/
structure Mirrors (swept plain : Station Rat) : Prop where
  now : swept.now = plain.now
  limits : swept.limiter.limits = plain.limiter.limits
  late : swept.limiter.limits.ForgetsLate
  inOrder : swept.limiter.InOrder swept.now
  plainInOrder : plain.limiter.InOrder plain.now
  levels : ∀ key, swept.level key = plain.level key
  caughtUp : swept.IsCaughtUp
  stopped : plain.sweeper = none

namespace Mirrors

variable {swept plain : Station Rat}

/-- Time that passes, and sweeps in it, keep the levels the same. -/
theorem drift (mirrors : swept.Mirrors plain) {next : Station Rat}
    (drifts : swept.Drifts next ∧ next.IsCaughtUp)
    : next.Mirrors { plain with now := next.now } := by
  obtain ⟨onwards, inOrder, limits, same⟩ := drifts.1.level_eq mirrors.inOrder mirrors.late
  have forward : plain.now ≤ next.now := mirrors.now ▸ onwards
  refine ⟨rfl, limits.trans mirrors.limits, limits ▸ mirrors.late, inOrder,
    mirrors.plainInOrder.later forward, fun key => ?_, drifts.2, mirrors.stopped⟩
  have here := mirrors.levels key
  simp only [level, mirrors.now] at here
  simp only [level]
  rw [same, Limiter.level_later mirrors.inOrder key onwards,
    Limiter.level_later mirrors.plainInOrder key forward, mirrors.now, here, mirrors.limits]

/-- A call is answered alike and leaves the same levels. -/
theorem call (mirrors : swept.Mirrors plain) (key : String)
    : (swept.allow key).1 = (plain.allow key).1
      ∧ (swept.allow key).2.Mirrors (plain.allow key).2 := by
  have levels (other : String)
      : swept.limiter.level other swept.now = plain.limiter.level other plain.now :=
    mirrors.levels other
  have answered : (swept.allow key).1 = (plain.allow key).1 := by
    change (swept.limiter.allow swept.now key).1 = (plain.limiter.allow plain.now key).1
    rw [Limiter.fst_allow, Limiter.fst_allow, levels]
  refine ⟨answered, mirrors.now, mirrors.limits, mirrors.late, mirrors.inOrder.allow key,
    mirrors.plainInOrder.allow key, fun other => ?_, ⟨mirrors.caughtUp.ahead⟩, mirrors.stopped⟩
  change (swept.limiter.allow swept.now key).2.level other swept.now
    = (plain.limiter.allow plain.now key).2.level other plain.now
  rw [Limiter.level_allow mirrors.inOrder, Limiter.level_allow mirrors.plainInOrder, levels, levels]

/-- What serves sweeping alone is done at one station and left out at the other. -/
theorem sweeping (mirrors : swept.Mirrors plain) {doing : Doing}
    (only : doing.isSweeping = true)
    : swept.answer? doing = none ∧ (swept.after doing).Mirrors plain := by
  have drift {next : Station Rat} (drifts : swept.Drifts next ∧ next.IsCaughtUp)
      (now : next.now = swept.now)
      : next.Mirrors plain := by
    have mirrored := mirrors.drift drifts
    rwa [now, mirrors.now] at mirrored
  cases doing with
  | sweep =>
      exact ⟨rfl, drift ⟨Limiter.Drifts.still.sweep, ⟨mirrors.caughtUp.ahead⟩⟩ rfl⟩
  | start seconds => exact ⟨rfl, drift (swept.drifts_startSweeper _) (now_tick _)⟩
  | stop => exact ⟨rfl, drift ⟨.still, .of_stopped rfl⟩ rfl⟩
  | call | jump | pass => cases only

/-- What does not serve sweeping is done at both stations alike. -/
theorem both (mirrors : swept.Mirrors plain) {doing : Doing} (other : doing.isSweeping = false)
    : swept.answer? doing = plain.answer? doing
      ∧ (swept.after doing).Mirrors (plain.after doing) := by
  cases doing with
  | call key =>
      obtain ⟨answered, mirrors⟩ := mirrors.call key
      exact ⟨by rw [answer?, answer?, answered], mirrors⟩
  | jump nanos =>
      have alone : plain.jump nanos = { plain with now := (swept.jump nanos).now } := by
        rw [jump_of_stopped mirrors.stopped, now_jump, mirrors.now]
      refine ⟨rfl, ?_⟩
      rw [after, after, alone]
      exact mirrors.drift (swept.drifts_jump nanos)
  | pass nanos =>
      have alone : plain.pass nanos = { plain with now := (swept.pass nanos).now } := by
        rw [pass_of_stopped mirrors.stopped, pass, mirrors.now]
      refine ⟨rfl, ?_⟩
      rw [after, after, alone]
      exact mirrors.drift ((glides_pass mirrors.caughtUp nanos).drifts mirrors.caughtUp)
  | sweep | start | stop => cases other

/-- By induction on what is done: without sweeping the answers are the same, and so are the levels
afterwards.
-/
theorem all (mirrors : swept.Mirrors plain) (doings : List Doing)
    : swept.answers doings = plain.answers (withoutSweeping doings)
      ∧ (swept.afterAll doings).Mirrors (plain.afterAll (withoutSweeping doings)) := by
  induction doings generalizing swept plain with
  | nil => exact ⟨rfl, mirrors⟩
  | cons doing rest ih =>
      cases only : doing.isSweeping with
      | true =>
          obtain ⟨unanswered, mirrors⟩ := mirrors.sweeping only
          have left : withoutSweeping (doing :: rest) = withoutSweeping rest :=
            List.filter_cons_of_neg (by simp [only])
          rw [left, answers, unanswered]
          exact ih mirrors
      | false =>
          obtain ⟨answered, mirrors⟩ := mirrors.both only
          have kept : withoutSweeping (doing :: rest) = doing :: withoutSweeping rest :=
            List.filter_cons_of_pos (by simp [only])
          rw [kept, answers, answers, answered, (ih mirrors).1]
          exact ⟨rfl, (ih mirrors).2⟩

end Mirrors

-----------------------------------------------------------------------------------------
-- Calls at one time
-----------------------------------------------------------------------------------------

/-- Calls under a key, one right after the other. -/
def callsOf (key : String) (n : Nat) : List Doing :=
  List.replicate n (.call key)

theorem answers_callsOf_succ (station : Station Rat) (key : String) (n : Nat)
    : station.answers (callsOf key (n + 1))
      = (key, decide (1 ≤ station.level key)) :: (station.allow key).2.answers (callsOf key n) := by
  have admitted : (station.allow key).1 = decide (1 ≤ station.level key) :=
    Limiter.fst_allow station.limiter station.now key
  rw [← admitted]
  rfl

/-- A call takes one from the level of its key, if there is one. -/
theorem level_allow {station : Station Rat} (h : station.limiter.InOrder station.now) (key : String)
    : (station.allow key).2.level key
      = if 1 ≤ station.level key then station.level key - 1 else station.level key := by
  refine (Limiter.level_allow h key key).trans ?_
  simp only [true_and]
  rfl

theorem inOrder_allow {station : Station Rat} (h : station.limiter.InOrder station.now)
    (key : String)
    : (station.allow key).2.limiter.InOrder (station.allow key).2.now :=
  h.allow key

/-- Calls at one time are all admitted if the level has room for them, and only then. -/
theorem answers_callsOf {station : Station Rat} (h : station.limiter.InOrder station.now)
    (key : String) (n : Nat)
    : station.answers (callsOf key n) = List.replicate n (key, true)
      ↔ (n : Rat) ≤ station.level key := by
  induction n generalizing station with
  | zero =>
      have some : 0 ≤ station.level key := (h.bucketOf key).refill.some
      simpa [callsOf, answers] using some
  | succ n ih =>
      have rest := ih (inOrder_allow h key)
      rw [level_allow h] at rest
      rw [answers_callsOf_succ, List.replicate_succ, List.cons.injEq, rest, Prod.mk.injEq,
        decide_eq_true_eq, Nat.cast_succ]
      constructor
      · rintro ⟨⟨_, one⟩, room⟩
        rw [if_pos one] at room
        linarith
      · intro room
        have one : 1 ≤ station.level key := le_trans (by simp) room
        rw [if_pos one]
        exact ⟨⟨rfl, one⟩, by linarith⟩

/-- Calls change nothing about a station but what is kept under their key. -/
theorem afterAll_callsOf {station : Station Rat} (h : station.limiter.InOrder station.now)
    (key : String) (n : Nat)
    : let called := station.afterAll (callsOf key n)
      called.now = station.now ∧ called.sweeper = station.sweeper
        ∧ called.limiter.limits = station.limiter.limits
        ∧ called.limiter.InOrder station.now := by
  induction n generalizing station with
  | zero => exact ⟨rfl, rfl, rfl, h⟩
  | succ n ih => exact ih (inOrder_allow h key)

/-- Calls that there is room for take as many tokens. -/
theorem level_callsOf {station : Station Rat} (h : station.limiter.InOrder station.now)
    {key : String} {n : Nat} (room : (n : Rat) ≤ station.level key)
    : (station.afterAll (callsOf key n)).level key = station.level key - n := by
  induction n generalizing station with
  | zero => simp [callsOf, afterAll]
  | succ n ih =>
      rw [Nat.cast_succ] at room ⊢
      have one : 1 ≤ station.level key := le_trans (by simp) room
      have left := level_allow h key
      rw [if_pos one] at left
      have rest := ih (inOrder_allow h key) (by rw [left]; linarith)
      rw [left] at rest
      exact rest.trans (by ring)

-----------------------------------------------------------------------------------------
-- Configurations
-----------------------------------------------------------------------------------------

/-- The station under a configuration, at a time: nobody has called. -/
def ofConfig (config : Config) (now : Nat) : Station Rat :=
  { limiter := { limits := Rpc.limitsOf config }, now }

theorem forgetsLate_limitsOf {config : Config}
    : (Rpc.limitsOf config).ForgetsLate
      ↔ 60 * config.burst ≤ config.idleWindow * config.requestsPerMinute := by
  have positive : 0 < nanosPerSecond := by decide
  have whole : config.idleWindow * nanosPerSecond * config.requestsPerMinute
      = config.idleWindow * config.requestsPerMinute * nanosPerSecond := by
    ring
  rw [Limits.ForgetsLate, Rpc.limitsOf, whole]
  exact Nat.mul_le_mul_right_iff positive

theorem mirrors_ofConfig {config : Config} (late : (Rpc.limitsOf config).ForgetsLate) (now : Nat)
    : (ofConfig config now).Mirrors (ofConfig config now) :=
  have start := Limiter.InOrder.start (Rpc.limitsOf config) now
  ⟨rfl, rfl, late, start, start, fun _ => rfl, .of_stopped rfl, rfl⟩

/-- A key empties its bucket and is silent for the idle window. -/
def silence (config : Config) : List Doing :=
  callsOf "a" config.burst ++ [.jump (config.idleWindow * nanosPerSecond)]

/-- A sweep after a silence of the idle window forgets everybody, so every bucket is full. -/
theorem level_sweep_of_silence {limiter : Limiter Rat} {now : Nat} (h : limiter.InOrder now)
    (key : String)
    : let later := now + limiter.limits.idleWindow
      (limiter.sweep later).level key later = limiter.limits.burst := by
  intro later
  have forgotten : (limiter.sweep later).entries.get? key = none := by
    rw [Limiter.get?_sweep h.distinct, Option.filter_eq_none_iff]
    intro entry tracked
    have past := (h.bucket tracked).past
    rw [← h.seen tracked] at past
    rw [Limiter.isRecent_iff (Nat.le_trans past (Nat.le_add_right _ _))]
    omega
  exact Limiter.level_of_untracked forgotten later

/-- The silence brings in tokens for its time; a sweep after it gives the key a full bucket. -/
theorem level_silence (config : Config) (now : Nat)
    : let silent := (ofConfig config now).afterAll (silence config)
      let limits := Rpc.limitsOf config
      silent.level "a" = min (limits.gain (secondsOf limits.idleWindow)) config.burst
        ∧ silent.sweep.level "a" = config.burst
        ∧ silent.limiter.InOrder silent.now := by
  intro silent limits
  let start := ofConfig config now
  let called := start.afterAll (callsOf "a" config.burst)
  have startInOrder : start.limiter.InOrder start.now := .start limits now
  have full : start.level "a" = config.burst := Limiter.level_of_untracked rfl now
  obtain ⟨atNow, stopped, sameLimits, inOrder⟩
      : called.now = now ∧ called.sweeper = none ∧ called.limiter.limits = limits
        ∧ called.limiter.InOrder now :=
    afterAll_callsOf startInOrder "a" config.burst
  have emptied : called.limiter.level "a" now = 0 := by
    have level : called.level "a" = start.level "a" - config.burst :=
      level_callsOf startInOrder (le_of_eq full.symm)
    rwa [full, sub_self, Station.level, atNow] at level
  have later : silent = { called with now := now + limits.idleWindow } := by
    have jumped : silent = called.jump limits.idleWindow := by
      simp only [silent, silence, afterAll_append]
      rfl
    rw [jumped, jump_of_stopped stopped, atNow]
  have forward : now ≤ now + limits.idleWindow := Nat.le_add_right _ _
  rw [later]
  refine ⟨?_, ?_, inOrder.later forward⟩
  · rw [level, Limiter.level_later inOrder "a" forward, emptied, sameLimits, zero_add,
      ← secondsOf_sub forward, Nat.add_sub_cancel_left]
    rfl
  · have swept := level_sweep_of_silence inOrder "a"
    rwa [sameLimits] at swept

/-- If there is room for a burst after the silence, nobody is forgotten too early. -/
theorem fillsUp_of_silence {config : Config} {now : Nat}
    (full : (config.burst : Rat) ≤ ((ofConfig config now).afterAll (silence config)).level "a")
    : 60 * config.burst ≤ config.idleWindow * config.requestsPerMinute := by
  rw [(level_silence config now).1] at full
  exact forgetsLate_limitsOf.mp (Limits.forgetsLate_iff.mpr (full.trans (min_le_left _ _)))

/-- If a sweep after the silence changes no answer, there is room for a burst without it. -/
theorem room_of_silence {config : Config} {now : Nat}
    (same : ∀ doings, (ofConfig config now).answers doings
      = (ofConfig config now).answers (withoutSweeping doings))
    : (config.burst : Rat) ≤ ((ofConfig config now).afterAll (silence config)).level "a" := by
  let silent := (ofConfig config now).afterAll (silence config)
  obtain ⟨_, refilled, inOrder⟩ := level_silence config now
  have swept : silent.sweep.answers (callsOf "a" config.burst)
      = List.replicate config.burst ("a", true) :=
    (answers_callsOf inOrder.sweep "a" config.burst).mpr refilled.ge
  have both := same (silence config ++ .sweep :: callsOf "a" config.burst)
  have kept : withoutSweeping (silence config ++ .sweep :: callsOf "a" config.burst)
      = silence config ++ callsOf "a" config.burst := by
    simp [withoutSweeping, silence, callsOf, Doing.isSweeping]
  rw [kept, answers_append, answers_append] at both
  have later : silent.sweep.answers (callsOf "a" config.burst)
      = silent.answers (callsOf "a" config.burst) :=
    List.append_cancel_left both
  exact (answers_callsOf inOrder "a" config.burst).mp (later.symm.trans swept)

/-- Whether sweeping can be noticed, by hand or by the sweeper, at whatever times: under a
configuration it changes no answer to any call exactly if an empty bucket fills up within the idle
window, and exactly then it leaves every key with the tokens it would have had.
-/
theorem sweeping_unobservable_iff (config : Config) (now : Nat)
    : let start := ofConfig config now
      let fillsUp := 60 * config.burst ≤ config.idleWindow * config.requestsPerMinute
      ((∀ doings, start.answers doings = start.answers (withoutSweeping doings)) ↔ fillsUp)
        ∧ ((∀ doings key, (start.afterAll doings).level key
            = (start.afterAll (withoutSweeping doings)).level key) ↔ fillsUp) := by
  intro start fillsUp
  have unobservable (late : fillsUp) (doings : List Doing) :=
    (mirrors_ofConfig (forgetsLate_limitsOf.mpr late) now).all doings
  constructor
  · exact ⟨fun same => fillsUp_of_silence (room_of_silence same),
      fun late doings => (unobservable late doings).1⟩
  · refine ⟨fun same => ?_, fun late doings key => (unobservable late doings).2.levels key⟩
    obtain ⟨_, refilled, _⟩ := level_silence config now
    have both := same (silence config ++ [.sweep]) "a"
    have kept : withoutSweeping (silence config ++ [.sweep]) = silence config := by
      simp [withoutSweeping, silence, callsOf, Doing.isSweeping]
    rw [kept, afterAll_append] at both
    exact fillsUp_of_silence (refilled.symm.trans both).le

/-- A burst of one that takes a minute to come back, and a key that is forgotten after a second: the
sweeper, as it runs under the configuration, gives the key a second token within that second.
-/
theorem sweeping_observed
    : let settings : Settings := [("JWT_SECRET", "single-secret-single-secret-single"),
        ("RATE_LIMIT_RPM", "1"), ("RATE_LIMIT_BURST", "1"), ("RATE_LIMIT_IDLE_SECONDS", "1"),
        ("RATE_LIMIT_SWEEP_SECONDS", "1")]
      ∃ config, Config.ofSettings settings = .ok config
        ∧ (let doings := [.start config.sweepInterval, .call "a", .pass nanosPerSecond, .call "a"]
          (ofConfig config 0).answers doings = [("a", true), ("a", true)]
            ∧ (ofConfig config 0).answers (withoutSweeping doings) = [("a", true), ("a", false)])
        ∧ ¬ ∀ doings, (ofConfig config 0).answers doings
            = (ofConfig config 0).answers (withoutSweeping doings) := by
  intro settings
  let key : SigningKey := ⟨"default", ⟨"single-secret-single-secret-single"⟩⟩
  let config : Config := { Config.plain [key] "default" (some key.secret) with
    requestsPerMinute := 1
    burst := 1
    idleWindow := 1
    sweepInterval := 1
  }
  have accepted : Config.ofSettings settings = .ok config := eq_ok_of_toOption (by decide +kernel)
  have swept : (ofConfig config 0).answers
      [.start config.sweepInterval, .call "a", .pass nanosPerSecond, .call "a"]
        = [("a", true), ("a", true)] := by
    decide +kernel
  have unswept : (ofConfig config 0).answers (withoutSweeping
      [.start config.sweepInterval, .call "a", .pass nanosPerSecond, .call "a"])
        = [("a", true), ("a", false)] := by
    decide +kernel
  refine ⟨config, accepted, ⟨swept, unswept⟩, fun same => ?_⟩
  have differ := (swept.symm.trans (same _)).trans unswept
  exact absurd differ (by decide)

end Station

end ChatServer.Admission
