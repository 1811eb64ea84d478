import Mathlib.Data.List.Chain
import NetworkSlice.Proofs.Operation.Lifecycle

/-
The history of a machine is a faithful log.

A machine may be offered inputs of any kind and number. `Phase.Moves` lists the
moves there are, apart from the function that makes them, and the two agree
(`Phase.step_eq_ok_iff`). A `Path` is a row of moves, each from the phase that
the one before it led to. Whatever a machine is offered, the inputs it accepts
are those of a path that begins in its phase, and the path is what is added to
its history (`Machine.exists_path`).

So what there is to say of a log is said of paths, by induction on the path: it
is linked, it can be replayed, and it is soon over, since a move leaves fewer to
make and a failure leaves none. `Machine.history_faithful` puts this together,
and adds what the machine answers to the inputs that the log does not show.
-/
namespace NetworkSlice

-- ==================================================================== moves

namespace Phase

variable {p q : Phase} {input : PhaseInput}

/-- The moves there are: the three of a participant for which all goes well,
and failing from wherever the operation is not over. -/
inductive Moves : Phase → PhaseInput → Phase → Prop
  | authenticate : Moves pending .authenticate authenticating
  | connected : Moves authenticating .connected executing
  | completed : Moves executing .completed succeeded
  | fail {p : Phase} (h : p.isTerminal = false) : Moves p .fail failed

/-- A move is made, and a failure tells where it was. -/
theorem step_of_moves (h : p.Moves input q) :
    p.step input = .ok (q, if input = .fail then some p else none) := by
  cases h with
  | authenticate => rfl
  | connected => rfl
  | completed => rfl
  | fail h => rw [step_fail h, if_pos rfl]

/-- What is made is a move. -/
theorem moves_of_step {out : Option Phase} (h : p.step input = .ok (q, out)) :
    p.Moves input q := by
  cases p <;> cases input <;> cases h
  · exact .authenticate
  · exact .fail rfl
  · exact .connected
  · exact .fail rfl
  · exact .completed
  · exact .fail rfl

/-- An input is possible where it is a move, and a failure says where it was. -/
theorem step_eq_ok_iff {out : Option Phase} :
    p.step input = .ok (q, out)
      ↔ p.Moves input q ∧ out = if input = .fail then some p else none := by
  constructor
  · intro h
    have hmoves := moves_of_step h
    rw [step_of_moves hmoves] at h
    simp only [Except.ok.injEq, Prod.mk.injEq, true_and] at h
    exact ⟨hmoves, h.symm⟩
  · intro h
    rw [h.2, step_of_moves h.1]

/-- Where the operation is over nothing is possible, for that reason. -/
theorem step_of_terminal (h : p.isTerminal = true) : p.step input = .error (.terminal p) := by
  cases p with
  | succeeded => rfl
  | failed => rfl
  | _ => cases h

/-- So no move leads on from there. -/
theorem Moves.not_terminal (h : p.Moves input q) : p.isTerminal = false := by
  cases h with
  | fail h => exact h
  | _ => rfl

/-- How many moves there may still be. -/
def remaining : Phase → Nat
  | pending => 3
  | authenticating => 2
  | executing => 1
  | succeeded | failed => 0

theorem remaining_le (p : Phase) : p.remaining ≤ 3 := by
  cases p <;> simp [remaining]

/-- A move leaves fewer. -/
theorem Moves.remaining_lt (h : p.Moves input q) : q.remaining < p.remaining := by
  cases h with
  | fail h => cases p <;> simp [remaining, isTerminal] at h ⊢
  | _ => simp [remaining]

end Phase

-- ==================================================================== paths

/-- Changes that lead from one phase to another, each a move from the phase
that the one before it led to. -/
inductive Path : Phase → List PhaseChange → Phase → Prop
  | nil {p : Phase} : Path p [] p
  | cons {p q r : Phase} {input : PhaseInput} {rest : List PhaseChange}
      (first : p.Moves input q) (more : Path q rest r) : Path p (⟨p, input, q⟩ :: rest) r

namespace Path

variable {p q : Phase} {changes : List PhaseChange} {c : PhaseChange}

theorem eq_of_nil (h : Path p [] q) : q = p := by
  cases h
  rfl

/-- A path begins where it begins to move. -/
theorem source_of_head? (h : Path p changes q) (hc : c ∈ changes.head?) : c.source = p := by
  cases h with
  | nil => simp at hc
  | cons first more =>
      simp only [List.head?_cons, Option.mem_def, Option.some.injEq] at hc
      rw [← hc]

/-- It ends where its last move leads. -/
theorem target_of_getLast? (h : Path p changes q) (hc : c ∈ changes.getLast?) :
    c.target = q := by
  induction h with
  | nil => simp at hc
  | @cons p q r input rest first more ih =>
      cases rest with
      | nil =>
          simp only [List.getLast?_singleton, Option.mem_def, Option.some.injEq] at hc
          rw [← hc, more.eq_of_nil]
      | cons d rest =>
          rw [List.getLast?_cons_cons] at hc
          exact ih hc

/-- Every move begins where the one before it led. -/
theorem linked (h : Path p changes q) :
    changes.IsChain fun c d => c.target = d.source := by
  induction h with
  | nil => exact .nil
  | cons first more ih =>
      rw [List.isChain_cons]
      exact ⟨fun d hd => (more.source_of_head? hd).symm, ih⟩

/-- Every change of a path is a move. -/
theorem moves_of_mem (h : Path p changes q) (hc : c ∈ changes) :
    c.source.Moves c.input c.target := by
  induction h with
  | nil => cases hc
  | cons first more ih =>
      cases hc with
      | head => exact first
      | tail _ hc => exact ih hc

/-- The inputs of a path are all accepted where it begins, and leave the path
behind. -/
theorem feedAll (h : Path p changes q) (before : List PhaseChange) :
    (Machine.mk p before).feedAll (changes.map PhaseChange.input)
      = .ok ⟨q, before ++ changes⟩ := by
  induction h generalizing before with
  | nil => rw [List.append_nil]; rfl
  | @cons p q r input rest first more ih =>
      have hfeed : (Machine.mk p before).feed input
          = .ok (⟨q, before ++ [⟨p, input, q⟩]⟩, if input = .fail then some p else none) := by
        rw [Machine.feed, Phase.step_of_moves first]
        rfl
      rw [List.map_cons, Machine.feedAll, hfeed]
      show Machine.feedAll _ _ = _
      rw [ih, List.append_assoc]
      rfl

/-- A path uses up what moves there are. -/
theorem length_add_remaining_le (h : Path p changes q) :
    changes.length + q.remaining ≤ p.remaining := by
  induction h with
  | nil => simp
  | cons first more ih =>
      have hlt := first.remaining_lt
      rw [List.length_cons]
      omega

/-- From where the operation is over there is no path on. -/
theorem nil_of_terminal (h : Path p changes q) (hp : p.isTerminal = true) : changes = [] := by
  cases h with
  | nil => rfl
  | cons first more => rw [first.not_terminal] at hp; cases hp

/-- Nothing follows a failure, so there are no two. -/
theorem count_fail_le (h : Path p changes q) :
    (changes.map PhaseChange.input).count .fail ≤ 1 := by
  induction h with
  | nil => simp
  | @cons p q r input rest first more ih =>
      rw [List.map_cons]
      by_cases hfail : input = .fail
      · subst hfail
        cases first
        rw [more.nil_of_terminal rfl]
        simp
      · rw [List.count_cons_of_ne hfail]
        exact ih

end Path

-- ================================================================= machines

namespace Machine

variable {m : Machine} {input : PhaseInput}

/-- What the machine answers to inputs that are offered in turn: the phase that
a failure interrupted, or why the input is not possible. -/
def replies : Machine → List PhaseInput → List (PhaseInput × Except PhaseError (Option Phase))
  | _, [] => []
  | m, input :: rest =>
    (input, (m.feed input).map Prod.snd) :: replies (m.advance input).1 rest

/-- The inputs it accepts among them. -/
def accepted (m : Machine) (inputs : List PhaseInput) : List PhaseInput :=
  ((m.replies inputs).filter fun r => r.2.isOk).map Prod.fst

theorem offer_cons (m : Machine) (input : PhaseInput) (rest : List PhaseInput) :
    m.offer (input :: rest) = (m.advance input).1.offer rest := rfl

-- -------------------------------------------------------------- one input

/-- A move is accepted and noted down. -/
theorem feed_of_moves {q : Phase} (h : m.phase.Moves input q) :
    m.feed input = .ok (⟨q, m.history ++ [⟨m.phase, input, q⟩]⟩,
      if input = .fail then some m.phase else none) := by
  rw [feed, Phase.step_of_moves h]
  rfl

/-- An input that is accepted is a move. -/
theorem exists_moves_of_feed {r : Machine × Option Phase} (h : m.feed input = .ok r) :
    ∃ q, m.phase.Moves input q := by
  obtain ⟨⟨q, out⟩, hstep, -⟩ := bind_eq_ok.mp h
  exact ⟨q, (Phase.step_eq_ok_iff.mp hstep).1⟩

/-- What is accepted changes the machine. -/
theorem advance_of_ok {r : Machine × Option Phase} (h : m.feed input = .ok r) :
    m.advance input = r := by
  rw [advance, h]

theorem advance_of_error {e : PhaseError} (h : m.feed input = .error e) :
    m.advance input = (m, none) := by
  rw [advance, h]

theorem feed_of_terminal (h : m.phase.isTerminal = true) (input : PhaseInput) :
    m.feed input = .error (.terminal m.phase) := by
  rw [feed, Phase.step_of_terminal h]
  rfl

-- ------------------------------------------------------------ many inputs

/-- What is accepted is a path from the machine's phase, and is added to its
history. -/
theorem exists_path (m : Machine) (inputs : List PhaseInput) :
    ∃ changes, Path m.phase changes (m.offer inputs).phase
      ∧ (m.offer inputs).history = m.history ++ changes
      ∧ changes.map PhaseChange.input = m.accepted inputs := by
  induction inputs generalizing m with
  | nil => exact ⟨[], .nil, (List.append_nil m.history).symm, rfl⟩
  | cons input rest ih =>
      obtain ⟨changes, hpath, hhistory, hinputs⟩ := ih (m.advance input).1
      rw [offer_cons]
      cases hfeed : m.feed input with
      | error e =>
          rw [advance_of_error hfeed] at hpath hhistory hinputs ⊢
          refine ⟨changes, hpath, hhistory, ?_⟩
          rw [hinputs]
          simp [accepted, replies, hfeed, advance_of_error, Except.map, Except.isOk, Except.toBool]
      | ok r =>
          obtain ⟨q, hmoves⟩ := exists_moves_of_feed hfeed
          have hr := Except.ok.inj (hfeed.symm.trans (feed_of_moves hmoves))
          rw [advance_of_ok hfeed, hr] at hpath hhistory hinputs ⊢
          refine ⟨⟨m.phase, input, q⟩ :: changes, .cons hmoves hpath, ?_, ?_⟩
          · rw [hhistory, List.append_assoc]
            rfl
          · rw [List.map_cons, hinputs]
            simp [accepted, replies, hfeed, advance_of_ok, hr, Except.map, Except.isOk,
              Except.toBool]

/-- Where the operation is over every input is refused, and nothing changes. -/
theorem offer_of_terminal (h : m.phase.isTerminal = true) (inputs : List PhaseInput) :
    m.offer inputs = m
      ∧ m.replies inputs = inputs.map fun input => (input, .error (.terminal m.phase)) := by
  induction inputs with
  | nil => exact ⟨rfl, rfl⟩
  | cons input rest ih =>
      have hfeed := feed_of_terminal h input
      rw [offer_cons, replies, advance_of_error hfeed, hfeed, ih.2, List.map_cons]
      exact ⟨ih.1, rfl⟩

/-- Every input is answered by the machine after those before it. -/
theorem replies_getElem? (m : Machine) (inputs : List PhaseInput) (i : Nat) :
    (m.replies inputs)[i]?
      = inputs[i]?.map fun input => (input, ((m.offer (inputs.take i)).feed input).map Prod.snd) := by
  induction inputs generalizing m i with
  | nil => simp [replies]
  | cons input rest ih =>
      cases i with
      | zero => rfl
      | succ i =>
          rw [replies, List.getElem?_cons_succ, ih, List.getElem?_cons_succ, List.take_succ_cons,
            offer_cons]

/-- So of all inputs those are accepted that are moves, and of these a failure
tells the phase the machine was in, and no other tells anything. -/
theorem reply_eq_ok_iff {inputs : List PhaseInput} {i : Nat} {out : Option Phase} :
    (m.replies inputs)[i]? = some (input, .ok out)
      ↔ inputs[i]? = some input
        ∧ (∃ q, (m.offer (inputs.take i)).phase.Moves input q)
        ∧ out = if input = .fail then some (m.offer (inputs.take i)).phase else none := by
  rw [replies_getElem?, Option.map_eq_some_iff]
  constructor
  · rintro ⟨input', hinput, h⟩
    injection h with heq h
    subst heq
    cases hfeed : (m.offer (inputs.take i)).feed input' with
    | error e => rw [hfeed] at h; cases h
    | ok r =>
        obtain ⟨q, hmoves⟩ := exists_moves_of_feed hfeed
        rw [feed_of_moves hmoves] at h
        exact ⟨hinput, ⟨q, hmoves⟩, (Except.ok.inj h).symm⟩
  · rintro ⟨hinput, ⟨q, hmoves⟩, rfl⟩
    refine ⟨input, hinput, ?_⟩
    rw [feed_of_moves hmoves]
    rfl

theorem offer_append (m : Machine) (inputs more : List PhaseInput) :
    m.offer (inputs ++ more) = (m.offer inputs).offer more :=
  List.foldl_append

/-- What it is for the history of a machine to be a faithful log of the inputs
it was offered since it was in an initial phase. -/
structure Logs (initial : Phase) (inputs : List PhaseInput) (m : Machine) : Prop where
  first : ∀ c ∈ m.history.head?, c.source = initial
  linked : m.history.IsChain fun c d => c.target = d.source
  last : ∀ c ∈ m.history.getLast?, c.target = m.phase
  unmoved : m.history = [] → m.phase = initial
  moves : ∀ c ∈ m.history, c.source.Moves c.input c.target
  logged : m.history.map PhaseChange.input = (start initial).accepted inputs
  replay : (start initial).feedAll ((start initial).accepted inputs) = .ok m
  short : m.history.length ≤ 3
  fails_once : ((start initial).accepted inputs).count .fail ≤ 1

/-- A history that is a path and has the accepted inputs is a faithful log. -/
theorem logs_of_path {initial : Phase} {inputs : List PhaseInput}
    (hpath : Path initial m.history m.phase)
    (hlogged : m.history.map PhaseChange.input = (start initial).accepted inputs) :
    m.Logs initial inputs where
  first _ := hpath.source_of_head?
  linked := hpath.linked
  last _ := hpath.target_of_getLast?
  unmoved h := by
    rw [h] at hpath
    exact hpath.eq_of_nil
  moves _ := hpath.moves_of_mem
  logged := hlogged
  replay := hlogged ▸ hpath.feedAll []
  short := by
    have hspent := hpath.length_add_remaining_le
    have hle := initial.remaining_le
    omega
  fails_once := hlogged ▸ hpath.count_fail_le

/-- The history of a machine is a faithful log, whatever phase it began in and
whatever it was offered. What it refuses changes nothing; once its operation is
over it refuses everything, for that reason; and it accepts an input exactly when
that is a move from the phase it is in then, and answers with this phase, if the
input is a failure, and else with nothing. -/
theorem history_faithful (initial : Phase) (inputs : List PhaseInput) :
    ((start initial).offer inputs).Logs initial inputs
      ∧ (∀ input e, ((start initial).offer inputs).feed input = .error e →
          (start initial).offer (inputs ++ [input]) = (start initial).offer inputs)
      ∧ (((start initial).offer inputs).phase.isTerminal = true →
          ∀ more, (start initial).offer (inputs ++ more) = (start initial).offer inputs
            ∧ ∀ r ∈ ((start initial).offer inputs).replies more,
              r.2 = .error (.terminal ((start initial).offer inputs).phase))
      ∧ ∀ i input out, ((start initial).replies inputs)[i]? = some (input, .ok out)
          ↔ inputs[i]? = some input
            ∧ (∃ q, ((start initial).offer (inputs.take i)).phase.Moves input q)
            ∧ out = if input = .fail then some ((start initial).offer (inputs.take i)).phase
              else none := by
  refine ⟨?_, fun input e h => ?_, fun h more => ?_, fun i input out => reply_eq_ok_iff⟩
  · obtain ⟨changes, hpath, hhistory, hinputs⟩ := exists_path (start initial) inputs
    have hall : ((start initial).offer inputs).history = changes := hhistory
    apply logs_of_path
    · rw [hall]
      exact hpath
    · rw [hall]
      exact hinputs
  · rw [offer_append, offer_cons, advance_of_error h]
    rfl
  · obtain ⟨hstays, hreplies⟩ := offer_of_terminal h more
    rw [offer_append, hreplies]
    refine ⟨hstays, fun r hr => ?_⟩
    obtain ⟨input, -, rfl⟩ := List.mem_map.mp hr
    rfl

/-- What is out of turn leaves no trace. -/
example :
    ((start .pending).offer [.completed, .authenticate, .authenticate, .fail, .fail]).history
      = [⟨.pending, .authenticate, .authenticating⟩, ⟨.authenticating, .fail, .failed⟩] := by
  decide

end Machine

end NetworkSlice
