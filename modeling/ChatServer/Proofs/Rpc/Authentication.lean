import ChatServer.Proofs.Rpc.Calls
import ChatServer.Proofs.Rpc.Guard

/-! Who is let through. What a request has to bring is said here without the guard: one of the two
open paths, or a header that is readable and presents a token which the broker verifies. The guard
passes exactly such requests on, tells what is behind it who calls, and answers all others alike.
-/

namespace ChatServer.Rpc

-----------------------------------------------------------------------------------------
-- What a header presents
-----------------------------------------------------------------------------------------

/-- A character that may stand in a header: a visible one of ASCII, a space or a tab. -/
def IsHeaderChar (c : Char) : Prop :=
  c = '\t' ∨ ' ' ≤ c ∧ c ≤ '~'

/-- A header value presents a token: it is a text that may stand in a header, and the token is
what follows the scheme, without the blanks around it.
-/
structure Presents (value : List UInt8) (token : String) : Prop where
  written
    : ∃ rest : String,
        value = Text.utf8 ("Bearer " ++ rest)
        ∧ (∀ c ∈ ("Bearer " ++ rest).toList, IsHeaderChar c)
        ∧ token = Text.trimmed rest
  nonempty : token ≠ ""

theorem isHeaderChar_iff (c : Char)
    : IsHeaderChar c ↔ c.toNat = 0x09 ∨ 0x20 ≤ c.toNat ∧ c.toNat < 0x7F := by
  have tab : c = '\t' ↔ c.toNat = 0x09 := by
    constructor
    · rintro rfl
      rfl
    · exact fun same => Char.toNat_inj.mp same
  have last : c ≤ '~' ↔ c.toNat < 0x7F := by
    change c.toNat ≤ 126 ↔ _
    omega
  rw [IsHeaderChar, tab, last]
  exact .rfl

/-- The bytes of the characters that may stand in a header. -/
theorem headerChar_of_byte {b : UInt8} (readable : (b == 0x09 || 0x20 ≤ b && b < 0x7F) = true)
    : b < 0x80 ∧ IsHeaderChar (Char.ofNat b.toNat) := by
  have small : b.toNat = 0x09 ∨ 0x20 ≤ b.toNat ∧ b.toNat < 0x7F := by
    simpa [UInt8.le_iff_toNat_le, UInt8.lt_iff_toNat_lt, ← UInt8.toNat_inj] using readable
  have valid : b.toNat.isValidChar := .inl (by omega)
  rw [isHeaderChar_iff, Text.toNat_ofNat_of_isValidChar valid]
  exact ⟨UInt8.lt_iff_toNat_lt.mpr (by change b.toNat < 128; omega), small⟩

theorem byte_of_headerChar {c : Char} (headed : IsHeaderChar c)
    : (c.toNat.toUInt8 == 0x09 || 0x20 ≤ c.toNat.toUInt8 && c.toNat.toUInt8 < 0x7F) = true
      ∧ Char.ofNat c.toNat.toUInt8.toNat = c := by
  have small := (isHeaderChar_iff c).mp headed
  have same : c.toNat.toUInt8.toNat = c.toNat := Nat.mod_eq_of_lt (by omega)
  refine ⟨?_, by rw [same, Char.ofNat_toNat]⟩
  simpa [UInt8.le_iff_toNat_le, UInt8.lt_iff_toNat_lt, ← UInt8.toNat_inj, same] using small

/-- A header value is readable if it is a text that may stand in a header, and then it is read as
that text.
-/
theorem headerText?_eq_some {value : List UInt8} {chars : List Char}
    : headerText? value = some chars
      ↔ value = Text.utf8 (.ofList chars) ∧ ∀ c ∈ chars, IsHeaderChar c := by
  constructor
  · intro read
    unfold headerText? at read
    split at read
    next all =>
      obtain rfl := Option.some.inj read
      have readable := List.all_eq_true.mp all
      refine ⟨?_, ?_⟩
      · exact (Text.utf8_asciiText fun b member => (headerChar_of_byte (readable b member)).1).symm
      · intro c member
        obtain ⟨b, among, rfl⟩ := List.mem_map.mp member
        exact (headerChar_of_byte (readable b among)).2
    next => cases read
  · rintro ⟨rfl, headed⟩
    let bytes := chars.map fun c => c.toNat.toUInt8
    have back : bytes.map (fun b => Char.ofNat b.toNat) = chars := by
      rw [List.map_map]
      exact (List.map_congr_left fun c member => (byte_of_headerChar (headed c member)).2).trans
        (List.map_id _)
    have readable : ∀ b ∈ bytes, (b == 0x09 || 0x20 ≤ b && b < 0x7F) = true := by
      intro b member
      obtain ⟨c, among, rfl⟩ := List.mem_map.mp member
      exact (byte_of_headerChar (headed c among)).1
    have same : Text.utf8 (.ofList chars) = bytes := by
      rw [← back]
      exact Text.utf8_asciiText fun b member => (headerChar_of_byte (readable b member)).1
    rw [same, headerText?, if_pos (List.all_eq_true.mpr readable), back]

/-- The token of a header value is the one that it presents. -/
theorem bearerToken?_eq_some {value : List UInt8} {token : String}
    : bearerToken? value = some token ↔ Presents value token := by
  constructor
  · intro found
    obtain ⟨text, read, afterText⟩ := Option.bind_eq_some_iff.mp found
    obtain ⟨rest, begun, afterScheme⟩ := Option.bind_eq_some_iff.mp afterText
    obtain ⟨written, headed⟩ := headerText?_eq_some.mp read
    obtain rfl := List.isPrefixOf?_eq_some_iff_append_eq.mp begun
    simp only at afterScheme
    split at afterScheme
    next => cases afterScheme
    next present =>
      obtain rfl := Option.some.inj afterScheme
      refine ⟨⟨.ofList rest, ?_, ?_, by rw [Text.trimmed, String.toList_ofList]⟩, ?_⟩
      · rw [written, String.ofList_append, String.ofList_toList]
        rfl
      · simpa [bearer] using headed
      · simpa using present
  · rintro ⟨⟨rest, rfl, headed, rfl⟩, nonempty⟩
    have read : headerText? (Text.utf8 ("Bearer " ++ rest))
        = some (bearer.toList ++ rest.toList) := by
      apply headerText?_eq_some.mpr
      rw [String.toList_append] at headed
      refine ⟨?_, headed⟩
      rw [String.ofList_append, String.ofList_toList, String.ofList_toList, bearer]
    have present : (Text.trim rest.toList).isEmpty = false := by
      simpa [Text.trimmed] using nonempty
    simp only [bearerToken?, read, Option.bind_eq_bind, Option.bind_some, isPrefixOf?_append,
      present, Bool.false_eq_true, if_false]
    rfl

-----------------------------------------------------------------------------------------
-- Who is admitted
-----------------------------------------------------------------------------------------

/-- The paths that are open to everybody. -/
def openPaths : List String :=
  ["/chat.v1.ChatService/Register", "/chat.v1.ChatService/Login"]

/-- A request is admitted, under nobody's name or under that of a caller: to an open path anyone
is, whatever the headers, and to any other the holder of a token that the broker verifies, if the
first authorization value presents it.
-/
inductive Admits (broker : Token.Broker) (now : Int) (path : String)
    (authorization : List (List UInt8)) : Option Token.Caller → Prop
  | anyone (listed : path ∈ openPaths) : Admits broker now path authorization none
  | holder {value token claims} (closed : path ∉ openPaths)
      (first : authorization.head? = some value) (presented : Presents value token)
      (verified : broker.verify now token = .ok claims)
    : Admits broker now path authorization (some ⟨claims.subject, claims.identity⟩)

theorem isPublic_iff (path : String) : isPublic path = true ↔ path ∈ openPaths := by
  constructor
  · intro opened
    obtain ⟨method, found, free⟩ := (Option.any_eq_true _ _).mp opened
    obtain rfl := Method.path_of_ofPath? found
    cases method with
    | register | login => decide +kernel
    | listChats | getHistory | chatStream => cases free
  · intro listed
    have both : ∀ path ∈ openPaths, isPublic path = true := by decide +kernel
    exact both path listed

section Judgement

variable {broker : Token.Broker} {now : Int} {path : String} {authorization : List (List UInt8)}

/-- The guard passes a request under a name exactly if it is admitted so. -/
theorem judge_eq_passed (metrics : Metrics) (caller : Option Token.Caller)
    : (judge broker now path authorization metrics).1 = .passed caller
      ↔ Admits broker now path authorization caller := by
  cases free : isPublic path with
  | true =>
      have listed := (isPublic_iff path).mp free
      simp only [judge, free, if_true, Verdict.passed.injEq]
      constructor
      · rintro rfl
        exact .anyone listed
      · intro admitted
        cases admitted with
        | anyone => rfl
        | holder closed => exact absurd listed closed
  | false =>
      have closed : path ∉ openPaths := fun listed => by
        rw [(isPublic_iff path).mpr listed] at free
        cases free
      simp only [judge, free, Bool.false_eq_true, if_false]
      constructor
      · intro passed
        split at passed
        next => cases passed
        next token given =>
          obtain ⟨value, first, presented⟩ := Option.bind_eq_some_iff.mp given
          unfold Token.Broker.verifyCounted at passed
          cases verified : broker.verify now token with
          | error fault => simp [verified] at passed
          | ok claims =>
              simp only [verified, Verdict.passed.injEq] at passed
              obtain rfl := passed
              exact .holder closed first (bearerToken?_eq_some.mp presented) verified
      · intro admitted
        cases admitted with
        | anyone listed => exact absurd listed closed
        | holder _ first presented verified =>
            simp only [first, Option.bind_some, bearerToken?_eq_some.mpr presented,
              Token.Broker.verifyCounted, verified]
            rfl

/-- The guard refuses exactly the requests that are not admitted under any name. -/
theorem judge_eq_refused (metrics : Metrics)
    : (judge broker now path authorization metrics).1 = .refused
      ↔ ¬ ∃ caller, Admits broker now path authorization caller := by
  constructor
  · rintro refused ⟨caller, admitted⟩
    rw [(judge_eq_passed metrics caller).mpr admitted] at refused
    cases refused
  · intro none
    cases verdict : (judge broker now path authorization metrics).1 with
    | refused => rfl
    | passed caller => exact absurd ⟨caller, (judge_eq_passed metrics caller).mp verdict⟩ none

end Judgement

-----------------------------------------------------------------------------------------
-- What is behind the guard
-----------------------------------------------------------------------------------------

/-- The guard lets through exactly the authenticated, whatever stands behind it. A call that is
admitted is what is behind the guard makes of it, under the name of the verified token or, on an
open path, under none. Any other never gets there, and all of these are answered alike. All that
the guard itself changes are the metrics.
-/
theorem guarded_call {σ α : Type} (deps : Deps σ) (path : String)
    (authorization : List (List UInt8)) (state : State σ)
    : let Admitted := Admits deps.broker state.world.now.seconds path authorization
      let guard := throughGuard deps path authorization
      ∃ counted,
        Counted state counted
        ∧ (∀ caller, guard state = (.returned (.ok caller), counted) ↔ Admitted caller)
        ∧ ∀ inner : Option Token.Caller → Call σ α,
          (∀ caller, Admitted caller → (guard >>= inner) state = inner caller counted)
          ∧ ((¬ ∃ caller, Admitted caller) →
            (guard >>= inner) state
              = (.returned (.error ⟨.unauthenticated, "Authentication required"⟩), counted)) := by
  intro Admitted guard
  have passes : ∀ caller, Admitted caller →
      guard state = (.returned (.ok caller), (guard state).2) := by
    intro caller admitted
    simp only [guard, throughGuard, (judge_eq_passed state.world.exchange.metrics caller).mpr
      admitted]
  have refuses : (¬ ∃ caller, Admitted caller) →
      guard state = (.returned (.error unauthenticated), (guard state).2) := by
    intro none
    simp only [guard, throughGuard, (judge_eq_refused state.world.exchange.metrics).mpr none]
  refine ⟨(guard state).2, counted_throughGuard deps path authorization state, ?_, ?_⟩
  · intro caller
    refine ⟨fun passed => ?_, passes caller⟩
    by_cases known : ∃ other, Admitted other
    · obtain ⟨other, admitted⟩ := known
      have same := (passes other admitted).symm.trans passed
      obtain rfl : other = caller := by simpa using same
      exact admitted
    · have same := (refuses known).symm.trans passed
      simp at same
  · intro inner
    refine ⟨fun caller admitted => ?_, fun none => ?_⟩
    · change Call.bind guard inner state = _
      rw [Call.bind, passes caller admitted]
    · change Call.bind guard inner state = _
      rw [Call.bind, refuses none]
      rfl

end ChatServer.Rpc
