import ChatServer.Proofs.Config.Reading
import ChatServer.Proofs.Token.Issuing
import ChatServer.Proofs.Token.Keys
import ChatServer.Proofs.Token.Migration
import ChatServer.Token.Counted

/-! Lifetimes of tokens and the end of the calendar. A lifetime is refused when its milliseconds are
no number of 64 bits, but the calendar ends long before such a lifetime is over. Between the two
there are lifetimes that are accepted and converted and lead out of the calendar, and issuing breaks
off there.
-/

namespace ChatServer

/-- An instant has one that is later by a number of seconds if the calendar goes so far. -/
theorem Instant.addSeconds?_isSome_iff (start : Instant) (n : Nat)
    : (start.addSeconds? n).isSome = true ↔ start.seconds + n ≤ lastSecond := by
  unfold addSeconds?
  by_cases within : start.seconds + n ≤ lastSecond
  · simp only [gt_iff_lt, if_neg (Int.not_lt.mpr within), within, iff_true]
    split <;> rfl
  · simp [Int.not_le.mp within, within]

/-- A broker can issue tokens at a time: their lifetime can be expressed, and they expire within the
calendar.
-/
def Token.Broker.CanIssue (broker : Token.Broker) (now : Instant) : Prop :=
  broker.lifetime ≤ maxLifetime ∧ now.seconds + broker.lifetime ≤ Instant.lastSecond

/-- For an identity that is not empty, only the lifetime decides whether a token is issued. -/
theorem Token.Broker.issue_isOk_iff {broker : Broker} {now : Instant} {identity : String}
    (named : Identity.normalize identity ≠ "") (subject : String)
    : (∃ issued, broker.issue now subject identity = .returned (.ok issued))
      ↔ broker.CanIssue now := by
  unfold issue CanIssue
  rw [← Instant.addSeconds?_isSome_iff]
  simp only [if_neg named]
  by_cases short : broker.lifetime ≤ maxLifetime
  · simp only [gt_iff_lt, if_neg (Nat.not_lt.mpr short), short, true_and]
    cases now.addSeconds? broker.lifetime <;> simp
  · simp [Nat.not_le.mp short, short]

namespace Token.Broker

-----------------------------------------------------------------------------------------
-- Issuing that breaks off
-----------------------------------------------------------------------------------------

/-- Issuing breaks off for want of a time at which the token expires, and for no other reason: an
empty identity and a lifetime that cannot be expressed are refused before.
-/
theorem issue_eq_brokenOff_iff (broker : Broker) (now : Instant) (subject identity : String)
    : broker.issue now subject identity = .brokenOff
      ↔ Identity.normalize identity ≠ ""
        ∧ broker.lifetime ≤ maxLifetime
        ∧ Instant.lastSecond < now.seconds + broker.lifetime := by
  rw [← Int.not_le, ← Instant.addSeconds?_isSome_iff]
  unfold issue
  dsimp only
  by_cases unnamed : Identity.normalize identity = ""
  · simp [unnamed]
  · by_cases short : broker.lifetime ≤ maxLifetime
    · simp only [if_neg unnamed, gt_iff_lt, if_neg (Nat.not_lt.mpr short)]
      cases now.addSeconds? broker.lifetime <;> simp [unnamed, short]
    · simp [unnamed, short, Nat.not_le.mp short]

/-- Counting what comes of it makes no difference to whether issuing breaks off. -/
theorem issueCounted_eq_brokenOff_iff (broker : Broker) (now : Instant) (subject identity : String)
    (metrics : Metrics)
    : broker.issueCounted now subject identity metrics = .brokenOff
      ↔ broker.issue now subject identity = .brokenOff := by
  unfold issueCounted
  cases broker.issue now subject identity with
  | brokenOff => exact iff_of_true rfl rfl
  | returned result => exact iff_of_false nofun nofun

theorem lifetime_of_ofConfig {config : Config} {broker : Broker}
    (made : ofConfig config = .ok broker)
    : broker.lifetime = config.tokenLifetime := by
  obtain ⟨keys, _, same⟩ := eq_ok_of_bind made
  cases same
  rfl

end Token.Broker

/-- The last second of the year 9999. -/
def Instant.lastSecondOf9999 : Int := 253402300799

/-- The year of the time is one of those from 1970 to 9999. -/
def Instant.IsBefore10000 (time : Instant) : Prop :=
  0 ≤ time.seconds ∧ time.seconds ≤ lastSecondOf9999

namespace Token.Broker

/-- The broker of an accepted configuration always returns from issuing before the year 10000
exactly if the lifetime of its tokens is refused or short enough to stay within the calendar even
at the end of the year 9999.
-/
theorem issueCounted_returns_iff {config : Config} {broker : Broker}
    (made : ofConfig config = .ok broker)
    : (∀ (now : Instant) subject identity metrics, now.IsBefore10000 →
          ∃ outcome, broker.issueCounted now subject identity metrics = .returned outcome)
      ↔ maxLifetime < config.tokenLifetime
        ∨ Instant.lastSecondOf9999 + config.tokenLifetime ≤ Instant.lastSecond := by
  have lifetime := lifetime_of_ofConfig made
  constructor
  · intro returns
    by_contra neither
    obtain ⟨expressed, beyond⟩ := not_or.mp neither
    -- The last second of the year 9999 is the worst time to issue at.
    obtain ⟨outcome, returned⟩ :=
      returns ⟨Instant.lastSecondOf9999, 0⟩ "" "a" {} ⟨by decide, Int.le_refl _⟩
    have breaksOff : broker.issueCounted ⟨Instant.lastSecondOf9999, 0⟩ "" "a" {} = .brokenOff := by
      rw [issueCounted_eq_brokenOff_iff, issue_eq_brokenOff_iff, lifetime]
      exact ⟨by decide, Nat.not_lt.mp expressed, Int.not_le.mp beyond⟩
    rw [breaksOff] at returned
    cases returned
  · intro safe now subject identity metrics within
    cases came : broker.issueCounted now subject identity metrics with
    | returned outcome => exact ⟨outcome, rfl⟩
    | brokenOff =>
        rw [issueCounted_eq_brokenOff_iff, issue_eq_brokenOff_iff, lifetime] at came
        obtain ⟨_, expressed, beyond⟩ := came
        have early := within.2
        omega

/-- When issuing breaks off. With every accepted configuration there is a broker, and it either
answers with a token or an error or breaks off. It breaks off exactly for an identity that is not
empty, when the lifetime of tokens can be expressed in milliseconds but leads beyond the end of the
calendar. So with the lifetimes up to some eight million million seconds, and with those that cannot
be expressed, it never does before the year 10000, and with all lifetimes in between it does.
-/
theorem breaksOff_iff_beyond_calendar {settings : Settings} {config : Config}
    (accepted : Config.ofSettings settings = .ok config)
    : ∃ broker, ofConfig config = .ok broker
        ∧ (∀ (now : Instant) subject identity metrics,
          broker.issueCounted now subject identity metrics = .brokenOff
            ↔ Identity.normalize identity ≠ ""
              ∧ config.tokenLifetime ≤ maxLifetime
              ∧ Instant.lastSecond < now.seconds + config.tokenLifetime)
        ∧ ((∀ (now : Instant) subject identity metrics, now.IsBefore10000 →
            ∃ outcome, broker.issueCounted now subject identity metrics = .returned outcome)
          ↔ maxLifetime < config.tokenLifetime
            ∨ Instant.lastSecondOf9999 + config.tokenLifetime ≤ Instant.lastSecond) := by
  obtain ⟨broker, made, _⟩ := ofConfig_of_accepted accepted
  refine ⟨broker, made, fun now subject identity metrics => ?_, issueCounted_returns_iff made⟩
  rw [issueCounted_eq_brokenOff_iff, issue_eq_brokenOff_iff, lifetime_of_ofConfig made]

/-- The longest lifetime that never leads out of the calendar before the year 10000, and one that is
a second longer.
-/
theorem breaksOff_iff_beyond_calendar_of_longest
    : let settings (lifetime : String) : Settings :=
        [("JWT_SECRET", "single-secret-single-secret-single"), ("JWT_TOKEN_TTL_SECONDS", lifetime)]
      ∃ longest longer first second, Config.ofSettings (settings "7956864576000") = .ok longest
        ∧ Config.ofSettings (settings "7956864576001") = .ok longer
        ∧ ofConfig longest = .ok first
        ∧ ofConfig longer = .ok second
        ∧ (∀ (now : Instant) subject identity metrics, now.IsBefore10000 →
          ∃ outcome, first.issueCounted now subject identity metrics = .returned outcome)
        ∧ second.issueCounted ⟨253402300799, 0⟩ "u" " A@b" {} = .brokenOff := by
  intro settings
  let key : SigningKey := ⟨"default", ⟨"single-secret-single-secret-single"⟩⟩
  let plain := Config.plain [key] "default" (some key.secret)
  have longest : Config.ofSettings (settings "7956864576000")
      = .ok { plain with tokenLifetime := 7956864576000 } :=
    eq_ok_of_toOption (by decide +kernel)
  have longer : Config.ofSettings (settings "7956864576001")
      = .ok { plain with tokenLifetime := 7956864576001 } :=
    eq_ok_of_toOption (by decide +kernel)
  obtain ⟨first, firstMade, _, firstReturns⟩ := breaksOff_iff_beyond_calendar longest
  obtain ⟨second, secondMade, secondBreaks, _⟩ := breaksOff_iff_beyond_calendar longer
  refine ⟨_, _, first, second, longest, longer, firstMade, secondMade,
    firstReturns.mpr (.inr (by decide)), (secondBreaks _ _ _ _).mpr ⟨by decide, by decide, ?_⟩⟩
  decide

/-- Settings are accepted with the longest lifetime that can be expressed, and the first token that
is to be issued with it breaks the call off.
-/
theorem longest_lifetime_leaves_calendar
    : ∃ config broker,
        Config.ofSettings [("JWT_SECRET", "single-secret-single-secret-single"),
            ("JWT_TOKEN_TTL_SECONDS", "9223372036854775")] = .ok config
        ∧ ofConfig config = .ok broker
        ∧ config.tokenLifetime ≤ maxLifetime
        ∧ broker.issueCounted ⟨1700000000, 0⟩ "u" "a@b" {} = .brokenOff := by
  let key : SigningKey := ⟨"default", ⟨"single-secret-single-secret-single"⟩⟩
  let config : Config := { Config.plain [key] "default" (some key.secret) with
    tokenLifetime := 9223372036854775 }
  have accepted : Config.ofSettings [("JWT_SECRET", "single-secret-single-secret-single"),
      ("JWT_TOKEN_TTL_SECONDS", "9223372036854775")] = .ok config :=
    eq_ok_of_toOption (by decide +kernel)
  refine ⟨config, ⟨⟨[key], key⟩, some key.secret, config.tokenLifetime, config.clockSkew⟩,
    accepted, rfl, by decide, ?_⟩
  rw [issueCounted_eq_brokenOff_iff, issue_eq_brokenOff_iff]
  exact ⟨by decide, by decide, by decide⟩

end Token.Broker

end ChatServer
