import NetworkSlice.Proofs.Service.Deadline
import NetworkSlice.Proofs.Wire.RoundTrip

/-
How a request ends.

An operation with a timeout needs the instant at which it is out of time, and
the clock must go so far. What it reads is counted in a signed word of seconds,
and a timeout in an unsigned one, and neither way to set it looks any further: an
environment is accepted for what it spells (`ofEnvironment_eq_ok_iff`), so it may
name every number of seconds a word holds (`ofEnvironment_seconds`), and a
document may give every duration. So settings are accepted that outlast every
clock, and under them every request that can be planned ends without a response
and without an error (`execute_returns`).
-/
namespace NetworkSlice

namespace Settings

-- ================================================================== seconds

/-- The digits of a number add up to it. -/
theorem foldl_toDigits (n : Nat) :
    (Nat.toDigits 10 n).foldl (fun n c => n * 10 + (c.toNat - '0'.toNat)) 0 = n := by
  have hspell := Nat.ofDigitChars_toDigits (b := 10) (n := n) (by decide) (by decide)
  unfold Nat.ofDigitChars at hspell
  simp only [Nat.mul_comm 10] at hspell
  exact hspell

/-- So a number of seconds is read from its text, up to the largest word. -/
theorem readSeconds_toString (secs : UInt64) : readSeconds (toString secs.toNat) = some secs := by
  have hdigits : ∀ c ∈ Nat.toDigits 10 secs.toNat, c.isDigit = true :=
    fun c hc => Nat.isDigit_of_mem_toDigits (by decide) (by decide) hc
  have htext : (toString secs.toNat).toList = Nat.toDigits 10 secs.toNat := Nat.toList_repr
  have hdecimal : ¬((Nat.toDigits 10 secs.toNat).isEmpty
      || !(Nat.toDigits 10 secs.toNat).all Char.isDigit) = true := by
    rw [List.isEmpty_eq_false_iff.mpr Nat.toDigits_ne_nil, List.all_eq_true.mpr hdigits]
    decide
  unfold readSeconds
  rw [htext]
  split
  · next rest hsign =>
      -- a digit comes first, so there is no sign
      have hplus := hdigits '+' (hsign ▸ List.mem_cons_self)
      exact absurd hplus (by decide)
  · dsimp only
    rw [if_neg hdecimal, foldl_toDigits, if_pos secs.toNat_lt_size, UInt64.ofNat_toNat]

-- ============================================================= environments

variable {lookup : String → Option String} {s : Settings}

/-- The settings that an environment names besides its timeout and what it makes
of empty links. -/
def named (lookup : String → Option String) (timeout : Option Duration) (emptyLinks : EmptyLinks) :
    Settings :=
  { standard with
    defaultNamespace := (lookup "SLICE_DEFAULT_NAMESPACE").getD standard.defaultNamespace
    credentialSelector := (lookup "SLICE_CREDENTIAL_SELECTOR").getD standard.credentialSelector
    operationTimeout := timeout
    emptyLinks := emptyLinks }

/-- An environment is accepted when these two can be read. -/
theorem ofEnvironment_eq_ok_iff :
    ofEnvironment lookup = .ok s
      ↔ ∃ timeout emptyLinks,
        (lookup "SLICE_OPERATION_TIMEOUT_SECS").elim (.ok standard.operationTimeout) readTimeout
            = .ok timeout
          ∧ (lookup "SLICE_EMPTY_LINKS").elim (.ok standard.emptyLinks) readEmptyLinks
            = .ok emptyLinks
          ∧ s = named lookup timeout emptyLinks := by
  have hchain : ofEnvironment lookup
      = (lookup "SLICE_OPERATION_TIMEOUT_SECS").elim (.ok standard.operationTimeout) readTimeout
        >>= fun timeout =>
          (lookup "SLICE_EMPTY_LINKS").elim (.ok standard.emptyLinks) readEmptyLinks
          >>= fun emptyLinks => .ok (named lookup timeout emptyLinks) := by
    unfold ofEnvironment
    cases lookup "SLICE_OPERATION_TIMEOUT_SECS" <;> cases lookup "SLICE_EMPTY_LINKS" <;> rfl
  rw [hchain]
  constructor
  · intro h
    obtain ⟨timeout, htimeout, h⟩ := bind_eq_ok.mp h
    obtain ⟨emptyLinks, hlinks, h⟩ := bind_eq_ok.mp h
    exact ⟨timeout, emptyLinks, htimeout, hlinks, (Except.ok.inj h).symm⟩
  · rintro ⟨timeout, emptyLinks, htimeout, hlinks, rfl⟩
    exact bind_eq_ok.mpr ⟨timeout, htimeout, bind_eq_ok.mpr ⟨emptyLinks, hlinks, rfl⟩⟩

/-- An environment that names a timeout and nothing else. -/
def timeoutOnly (raw : String) (name : String) : Option String :=
  if name = "SLICE_OPERATION_TIMEOUT_SECS" then some raw else none

/-- So every number of seconds is accepted from the environment. -/
theorem ofEnvironment_seconds (secs : UInt64) :
    ofEnvironment (timeoutOnly (toString secs.toNat))
      = .ok { standard with
          operationTimeout := if secs = 0 then none else some (Duration.ofSecs secs) } := by
  have htimeout : readTimeout (toString secs.toNat)
      = .ok (if secs = 0 then none else some (Duration.ofSecs secs)) := by
    unfold readTimeout
    rw [readSeconds_toString]
  exact ofEnvironment_eq_ok_iff.mpr ⟨_, _, htimeout, rfl, rfl⟩

end Settings

namespace Service

variable {σ : Type} {s : Settings} {m : Method} {r : Request} {start : Instant} {list : Lister}
  {clusters : String → Cluster σ} {states : String → σ}

/-- What is carried out is neither refused nor without an instant. -/
theorem carryOut_ending_ne {plan : Plan} :
    (carryOut s m r plan list clusters states).ending ≠ .noInstant
      ∧ ∀ e, (carryOut s m r plan list clusters states).ending ≠ .refused e := by
  obtain hend | ⟨response, hend⟩ := ending_of_carryOut s m r plan list clusters states
  · rw [hend]
    exact ⟨(fun h => nomatch h), fun e h => nomatch h⟩
  · rw [hend]
    exact ⟨(fun h => nomatch h), fun e h => nomatch h⟩

/-- A request lacks an instant when it can be planned and its timeout outlasts
the clock. -/
theorem execute_noInstant_iff :
    (execute s m r start list clusters states).ending = .noInstant
      ↔ s.OutlastsClock start ∧ ∃ plan, (Composer.ofSettings s).plan r.slice m.scope = .ok plan := by
  obtain ⟨e, hplan, hresult⟩ | ⟨plan, hplan, ⟨hlong, hresult⟩ | ⟨hshort, hresult⟩⟩ :=
    execute_cases s m r start list clusters states
  · rw [hresult, hplan]
    exact ⟨(fun h => nomatch h), fun h => nomatch h.2.choose_spec⟩
  · rw [hresult]
    exact ⟨fun _ => ⟨hlong, plan, hplan⟩, fun _ => rfl⟩
  · rw [hresult]
    exact ⟨fun h => absurd h carryOut_ending_ne.1, fun h => absurd h.1 hshort⟩

/-- A request is refused for what it cannot be planned for. -/
theorem execute_refused_iff {e : SliceError} :
    (execute s m r start list clusters states).ending = .refused e
      ↔ (Composer.ofSettings s).plan r.slice m.scope = .error e := by
  obtain ⟨e', hplan, hresult⟩ | ⟨plan, hplan, ⟨-, hresult⟩ | ⟨-, hresult⟩⟩ :=
    execute_cases s m r start list clusters states
  · rw [hresult, hplan]
    constructor
    · intro h; injection h with h; rw [h]
    · intro h; injection h with h; rw [h]; rfl
  · rw [hresult, hplan]
    exact ⟨(fun h => nomatch h), (fun h => nomatch h)⟩
  · rw [hresult, hplan]
    exact ⟨fun h => absurd h (carryOut_ending_ne.2 e), (fun h => nomatch h)⟩

/-- There is no end without a timeout where something is never answered. -/
theorem execute_endless_iff :
    (execute s m r start list clusters states).ending = .endless
      ↔ s.operationTimeout = none ∧ (execute s m r start list clusters states).Unanswered := by
  obtain ⟨e, -, hresult⟩ | ⟨plan, -, ⟨-, hresult⟩ | ⟨-, hresult⟩⟩ :=
    execute_cases s m r start list clusters states
  · rw [hresult]
    exact ⟨(fun h => nomatch h), fun h => absurd h.2 (not_unanswered_uninvolved _)⟩
  · rw [hresult]
    exact ⟨(fun h => nomatch h), fun h => absurd h.2 (not_unanswered_uninvolved _)⟩
  · rw [hresult]
    exact carryOut_endless_iff

/-- How carrying out a request ends, whatever the clock reads when its plan is
there. It ends for want of an instant exactly when the request can be planned and
the timeout outlasts the clock, which the environment and a document are free to
ask for. Else it is refused because it cannot be planned, or answered; and if
there is no timeout, it may be that something is never answered. -/
theorem execute_returns (s : Settings) (m : Method) (r : Request) (start : Instant)
    (list : Lister) (clusters : String → Cluster σ) (states : String → σ) :
    ((execute s m r start list clusters states).ending = .noInstant
        ↔ s.OutlastsClock start
          ∧ ∃ plan, (Composer.ofSettings s).plan r.slice m.scope = .ok plan)
      ∧ (∀ e, (execute s m r start list clusters states).ending = .refused e
          ↔ (Composer.ofSettings s).plan r.slice m.scope = .error e)
      ∧ ((execute s m r start list clusters states).ending = .endless
          ↔ s.operationTimeout = none
            ∧ (execute s m r start list clusters states).Unanswered)
      ∧ (∀ secs, Settings.ofEnvironment (Settings.timeoutOnly (toString secs.toNat))
          = .ok { Settings.standard with
              operationTimeout := if secs = 0 then none else some (Duration.ofSecs secs) })
      ∧ ∀ timeout, Settings.format.read
            (Settings.format.write { s with operationTimeout := timeout })
          = .ok { s with operationTimeout := timeout } :=
  ⟨execute_noInstant_iff, fun _ => execute_refused_iff, execute_endless_iff,
    Settings.ofEnvironment_seconds, fun _ => Settings.faithful.read_write _⟩

/-- As many seconds as a word holds are accepted, and then a request that can be
planned ends without a response, and does so already when the clock reads
zero. -/
theorem exists_accepted_noInstant :
    ¬∀ (lookup : String → Option String) (s : Settings) (m : Method) (r : Request)
      (start : Instant) (list : Lister) (clusters : String → Cluster Rehearsal.Memory)
      (states : String → Rehearsal.Memory), Settings.ofEnvironment lookup = .ok s →
        (execute s m r start list clusters states).ending ≠ .noInstant := by
  intro hall
  have haccepted := Settings.ofEnvironment_seconds (UInt64.ofNat (UInt64.size - 1))
  refine hall _ _ .createNetwork soleRequest (.ofNanos 0) slowSecrets silent (fun _ => none)
    haccepted ?_
  rw [execute_noInstant_iff]
  refine ⟨Settings.outlastsClock_of_le rfl (by decide) _, ?_⟩
  -- the timeout has no part in the plan
  have hok : ((Composer.ofSettings Settings.standard).plan soleRequest.slice .network).isOk
      = true := by rfl
  cases hplan : (Composer.ofSettings Settings.standard).plan soleRequest.slice .network with
  | error e => rw [hplan] at hok; cases hok
  | ok plan => exact ⟨plan, hplan⟩

end Service

end NetworkSlice
