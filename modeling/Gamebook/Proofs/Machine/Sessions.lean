import Gamebook.Machine.Session
import Gamebook.Machine.Snapshot
import Gamebook.Proofs.Machine.Ending
import Gamebook.Proofs.Machine.Suspension

/-!
# Sessions come to an end

A session runs a machine and asks which option to take each time the machine waits.  Whoever is
asked may pick an option, pick a number that is not on offer, refuse, or never answer.  A session
asks once for each time the machine waits, with the options on offer there; and once it is over, the
machine neither waits nor offers anything nor runs on, whatever state the machine was in before.
-/

namespace Gamebook

namespace Machine

variable {machine after : Machine} {limit : Nat}

/-! ## Errors of instructions -/

/-- An action fails with errors of natives only. -/
def Action.Raises {α : Type} (action : Action α) : Prop :=
  ∀ machine error after, action machine = .error error after → error.ofNative = true

namespace Action.Raises

variable {α β : Type}

/-- An action that never fails. -/
theorem of_total {action : Action α} {value : Machine → α} {change : Machine → Machine}
    (total : ∀ machine, action machine = .ok (value machine) (change machine)) :
    action.Raises := by
  intro machine error after ran
  rw [total] at ran
  cases ran

theorem bind {action : Action α} {next : α → Action β} (first : action.Raises)
    (second : ∀ value, (next value).Raises) : (action >>= next).Raises := by
  intro machine error after ran
  rcases Action.bind_eq_error_iff.mp ran with failed | ⟨value, between, -, failed⟩
  · exact first machine error after failed
  · exact second value between error after failed

theorem look {next : Machine → Action β} (holds : ∀ machine, (next machine).Raises) :
    (get >>= next).Raises :=
  bind (of_total fun _ => rfl) holds

theorem pop (call : Call) (operand : Nat) : (call.pop operand).Raises := by
  intro machine error after ran
  rw [Call.pop_apply] at ran
  split at ran
  · cases ran
    rfl
  · cases ran

theorem compositional : Compositional @Raises where
  pure _ := of_total fun _ => rfl
  throw error own := by
    rintro machine other after ⟨⟩
    exact own
  bind := bind
  look _ := look
  pop := pop
  push _ := of_total fun _ => rfl
  assign _ _ := of_total fun _ => rfl
  hand _ := of_total fun _ => rfl
  study _ := look

theorem response (call : Call) : call.response.Raises := by
  refine bind (compositional.popNumber call 1) fun value =>
    bind (compositional.popString call 2) fun title => ?_
  split
  · exact of_total fun _ => rfl
  · exact compositional.throw _ rfl

theorem randomInt (call : Call) : call.randomInt.Raises := by
  refine bind (compositional.popNumber call 1) fun bound => ?_
  split
  · exact look fun machine => of_total fun _ => rfl
  · exact compositional.throw _ rfl

theorem run (call : Call) (native : Native) : (call.run native).Raises := by
  cases native with
  | randomInt => exact compositional.goOn (randomInt call)
  | response => exact compositional.goOn (response call)
  | exit | getResponse => exact of_total fun _ => rfl
  | _ => exact compositional.run call rfl (by decide)

end Action.Raises

/-- A tick fails because a native does, or because a call names none. -/
theorem tick_error_cases {error : RuntimeError} (ticked : machine.tick = (after, .error error)) :
    error.ofNative = true ∨ ∃ name, error = .undefinedFunction name ∧
      machine.program.get? machine.counter = some (.invoke name) ∧
        machine.natives.get? name = none := by
  obtain ⟨running, ⟨instruction, here⟩, -⟩ := tick_error ticked
  rw [tick_running running here] at ticked
  cases ran : execute instruction machine with
  | ok target state => simp [ran] at ticked
  | error other state =>
      obtain rfl : other = error := by simpa [ran] using congrArg Prod.snd ticked
      cases instruction with
      | pushNumber | pushString | openBlock | closeBlock => cases ran
      | invoke name =>
          cases registered : machine.natives.get? name with
          | none =>
              rw [execute_unknown registered] at ran
              cases ran
              exact Or.inr ⟨name, rfl, here, registered⟩
          | some native =>
              rw [execute_invoke registered] at ran
              exact Or.inl (Action.Raises.run _ native machine other state ran)

theorem tick_error_ofInstruction {error : RuntimeError}
    (ticked : machine.tick = (after, .error error)) : error.ofInstruction = true := by
  rcases tick_error_cases ticked with native | ⟨name, rfl, -⟩
  · cases error <;> first | rfl | cases native
  · rfl

/-! ## Where a run stops -/

/-- The run is over, and the machine neither waits nor offers anything. -/
structure Finished (machine : Machine) : Prop where
  exited : machine.exited = true
  awake : machine.paused = false
  closed : machine.offered = []

namespace Finished

theorem terminate (machine : Machine) : Finished machine.terminate := ⟨rfl, rfl, rfl⟩

theorem of_settled (settled : Settled machine) (exited : machine.exited = true) :
    Finished machine := by
  have awake : machine.paused = false := by
    by_contra waiting
    have running := (settled.waits (by simpa using waiting)).2
    simp [exited] at running
  exact ⟨exited, awake, settled.closed awake⟩

theorem run (finished : Finished machine) (limit : Nat) :
    machine.run limit = (machine, some (.ok .completed)) := by
  rw [run_of_awake finished.awake, runFor_of_stopped limit (Or.inl finished.exited), outcome,
    if_pos finished.exited]

end Finished

/-- A run that fails stops after the tick that fails. -/
theorem runFor_eq_error {error : RuntimeError}
    (told : (runFor limit machine).2 = some (.error error)) :
    ∃ before failing, visited limit machine = before ++ [failing] ∧
      failing.tick = ((runFor limit machine).1, .error error) := by
  induction limit generalizing machine with
  | zero =>
      rw [runFor] at told
      split at told <;> simp at told
  | succ limit induction =>
      rw [runFor] at told ⊢
      split at told <;> rename_i stopped
      · simp at told
      · rw [if_neg stopped, visited, if_neg stopped]
        cases ticked : machine.tick with
        | mk after result =>
            rw [ticked] at told
            cases result with
            | ok =>
                obtain ⟨before, failing, visits, fails⟩ := induction told
                exact ⟨machine :: before, failing, congrArg (machine :: ·) visits, fails⟩
            | error other =>
                obtain rfl : other = error := by simpa using told
                exact ⟨[], machine, rfl, ticked⟩

/-- What a machine tells where it stops is right: it waits with the options that it tells of, or it
is finished; if it has failed, an instruction has. -/
structure Stops (told : Machine × RunResult) : Prop where
  suspended : ∀ choices, told.2 = some (.ok (.suspended choices)) →
    choices = told.1.choices ∧ told.1.paused = true ∧ told.1.offered ≠ []
  completed : told.2 = some (.ok .completed) → Finished told.1
  failed : ∀ error, told.2 = some (.error error) →
    Finished told.1 ∧ error.ofInstruction = true

theorem runFor_stops (settled : Settled machine) (limit : Nat) : Stops (runFor limit machine) := by
  have settled_there : Settled (runFor limit machine).1 := settled.runFor
  refine ⟨fun choices told => ?_, fun told => ?_, fun error told => ?_⟩
  · obtain ⟨waiting, choices_eq⟩ := runFor_suspended told
    exact ⟨choices_eq, waiting, settled_there.offers waiting⟩
  · obtain ⟨-, outcome_eq⟩ := runFor_eq_ok told
    refine .of_settled settled_there ?_
    by_contra running
    simp [outcome, running] at outcome_eq
  · obtain ⟨-, failing, -, ticked⟩ := runFor_eq_error told
    refine ⟨.of_settled settled_there ?_, tick_error_ofInstruction ticked⟩
    obtain ⟨-, -, state, -, ended⟩ := tick_error ticked
    rw [ended]

/-- The machines that a host can bring about: it builds them or loads them from snapshots, and
performs operations. -/
inductive Reachable (natives : Registry) : Machine → Prop
  | create {program : Program} {machine : Machine} (created : create program natives = .ok machine)
      (random : Random) (output : List Value) :
      Reachable natives { machine with random, output }
  | load {snapshot : Snapshot} {machine : Machine}
      (loaded : ofSnapshot snapshot natives = .ok machine) (random : Random)
      (output : List Value) : Reachable natives { machine with random, output }
  | perform {machine : Machine} (reachable : Reachable natives machine) (operation : Operation) :
      Reachable natives (operation.perform machine).1

/-- Ticks keep options from being on offer to a machine that does not wait. -/
theorem tick_closed (closed : machine.paused = false → machine.offered = [])
    (running : machine.exited = false) :
    machine.tick.1.paused = false → machine.tick.1.offered = [] := by
  have of_framed {after : Machine} (framed : Framed machine after) :
      after.paused = false → after.offered = [] := by
    rw [framed.paused, framed.offered]
    exact closed
  rcases tick_cases running rfl with
    ⟨-, ended⟩ | ⟨instruction, here, executes⟩ | ⟨state, framed, failed⟩
  · rwa [ended]
  · generalize machine.tick.1 = after at executes
    cases executes with
    | compute registered plain ran =>
        have kept := of_framed ((Call.run_keeps _ (Native.isTame_of_isPlain plain)).of_ok ran)
        exact kept
    | offer => simp
    | _ => exact closed
  · rw [failed]
    have kept := of_framed framed
    exact kept

/-- Only a machine that waits has options on offer. -/
theorem Reachable.closed {natives : Registry} (reachable : Reachable natives machine) :
    machine.paused = false → machine.offered = [] := by
  induction reachable with
  | create created =>
      rw [create_eq created]
      exact fun _ => rfl
  | load loaded =>
      rw [ofSnapshot] at loaded
      split at loaded
      · cases loaded
      · rename_i program linked
        cases created : Machine.create program natives with
        | error error => simp [created] at loaded
        | ok fresh =>
            rw [created] at loaded
            obtain rfl := Except.ok.inj loaded
            intro awake
            exact if_neg (by simpa using awake)
  | perform reachable operation induction =>
      apply perform_preserves (fun machine => machine.paused = false → machine.offered = [])
        _ _ _ _ _ operation induction
      · exact fun machine => tick_closed
      · intro machine closed none_waiting _
        cases paused : machine.paused with
        | false => exact closed paused
        | true => exact none_waiting paused
      · exact fun _ _ _ _ _ _ => rfl
      · exact fun _ _ _ => rfl
      · exact fun _ _ closed => closed

theorem run_stops (closed : machine.paused = false → machine.offered = []) (limit : Nat) :
    Stops (machine.run limit) := by
  rw [run]
  split
  · rename_i waits
    simp only [Bool.and_eq_true, Bool.not_eq_true', List.isEmpty_eq_false_iff] at waits
    refine ⟨fun choices told => ?_, by simp, by simp⟩
    obtain rfl : machine.choices = choices := by simpa using told
    exact ⟨rfl, waits⟩
  · rename_i wakes
    refine runFor_stops (.of_awake rfl ?_) limit
    cases paused : machine.paused with
    | false => exact closed paused
    | true => simpa [paused] using wakes

/-! ## Questions and answers -/

/-- Ask for an answer to all the options that have been on offer so far, and note the question. -/
def asking (respond : List (List OfferedChoice) → Answer) (machine : Machine)
    (choices : List OfferedChoice) : StateM (List (List OfferedChoice)) (Machine × Answer) := do
  let asked := (← get) ++ [choices]
  set asked
  return (machine, respond asked)

/-- The options on offer to a machine that has told that it waits. -/
def question? (told : Machine × RunResult) : Option (List OfferedChoice) :=
  match told.2 with
  | some (.ok (.suspended _)) => some told.1.choices
  | _ => none

/-- Where a machine stops that is answered with one number after the other. -/
def stops (limit : Nat) (told : Machine × RunResult) (picks : List Nat) :
    List (Machine × RunResult) :=
  picks.scanl (fun told id => told.1.resume limit id) told

/-- Answer a machine with one number after the other. -/
def resumeAll (limit : Nat) (told : Machine × RunResult) (picks : List Nat) :
    Machine × RunResult :=
  picks.foldl (fun told id => told.1.resume limit id) told

end Machine

/-- How a session ends that goes no further after what a machine has told. -/
def Ending.ofResult : Machine.RunResult → Ending
  | some (.ok .completed) => completed
  | some (.error error) => failed error
  | none | some (.ok (.suspended _)) => unfinished

/-- How a session ends when an answer fails. -/
def Ending.ofFailedAnswer : RuntimeError → Ending
  | .unresolvedChoice id => aborted (.unknownChoice id)
  | error => failed error

/-- Whoever is asked picks one of the options on offer. -/
def PicksOffered (respond : List (List OfferedChoice) → Answer) : Prop :=
  ∀ earlier choices, choices ≠ [] →
    ∃ choice ∈ choices, respond (earlier ++ [choices]) = .pick choice.id

namespace Machine

/-- What a session that goes on from what a machine has told has to do with answering the machine by
hand. -/
structure Tallies (respond : List (List OfferedChoice) → Answer) (limit : Nat)
    (told : Machine × RunResult) (earlier asked : List (List OfferedChoice)) (picks : List Nat)
    (after : Machine) (ending : Ending) : Prop where
  /-- Each number that has been picked answers a question. -/
  answers : picks.length ≤ asked.length ∧ ∀ index id, picks[index]? = some id →
    respond (earlier ++ asked.take (index + 1)) = .pick id
  questions : asked <+: (stops limit told picks).filterMap question?
  finishes : ending ≠ .unfinished →
    asked = (stops limit told picks).filterMap question? ∧ Finished after
  faithful : PicksOffered respond →
    ending = .ofResult (resumeAll limit told picks).2 ∧
      after.output = (resumeAll limit told picks).1.output ∧
        after.terminate = (resumeAll limit told picks).1.terminate

variable {machine after : Machine} {limit : Nat} {respond : List (List OfferedChoice) → Answer}

/-- A session asks nothing when the machine has told that it does not wait. -/
theorem playFrom_silent {σ : Type}
    {choose : Machine → List OfferedChoice → StateM σ (Machine × Answer)}
    {told : Machine × RunResult} (silent : question? told = none) (rounds : Nat) (state : σ) :
    (playFrom choose limit rounds told.1 told.2).run state =
      ((told.1, .ofResult told.2), state) := by
  obtain ⟨machine, _ | error | ⟨others⟩ | _⟩ := told
  · cases rounds <;> rfl
  · cases rounds <;> rfl
  · cases silent
  · cases rounds <;> rfl

/-- A session whose machine waits asks once, and goes on as the answer tells. -/
theorem playFrom_run {σ : Type}
    (choose : Machine → List OfferedChoice → StateM σ (Machine × Answer)) (rounds : Nat)
    (choices : List OfferedChoice) (state : σ) :
    (playFrom choose limit (rounds + 1) machine (some (.ok (.suspended choices)))).run state =
      match (choose machine choices).run state with
      | ((machine, .never), state) => ((machine.terminate, .dropped), state)
      | ((machine, .refuse error), state) => ((machine.terminate, .aborted error), state)
      | ((machine, .pick id), state) =>
        match (machine.resume limit id).2 with
        | some (.error error) =>
          (((machine.resume limit id).1.terminate, .ofFailedAnswer error), state)
        | result =>
          (playFrom choose limit rounds (machine.resume limit id).1 result).run state := by
  rw [playFrom, StateT.run_bind]
  obtain ⟨⟨machine, answer⟩, state⟩ := (choose machine choices).run state
  cases answer with
  | never | refuse => rfl
  | pick id =>
      dsimp only [bind]
      generalize machine.resume limit id = told
      rcases told with ⟨after, _ | error | outcome⟩
      · rfl
      · cases error <;> rfl
      · rfl

theorem playFrom_asking (rounds : Nat) (choices : List OfferedChoice)
    (earlier : List (List OfferedChoice)) :
    playFrom (asking respond) limit (rounds + 1) machine (some (.ok (.suspended choices)))
        earlier =
      match respond (earlier ++ [choices]) with
      | .never => ((machine.terminate, .dropped), earlier ++ [choices])
      | .refuse error => ((machine.terminate, .aborted error), earlier ++ [choices])
      | .pick id =>
        match (machine.resume limit id).2 with
        | some (.error error) =>
          (((machine.resume limit id).1.terminate, .ofFailedAnswer error), earlier ++ [choices])
        | result =>
          playFrom (asking respond) limit rounds (machine.resume limit id).1 result
            (earlier ++ [choices]) := by
  have asked : (asking respond machine choices).run earlier =
      ((machine, respond (earlier ++ [choices])), earlier ++ [choices]) := rfl
  refine (playFrom_run (asking respond) rounds choices earlier).trans ?_
  rw [asked]
  cases respond (earlier ++ [choices]) <;> rfl

theorem playFrom_failed {id : Nat} {error : RuntimeError} (rounds : Nat)
    {choices : List OfferedChoice} {earlier : List (List OfferedChoice)}
    (picked : respond (earlier ++ [choices]) = .pick id)
    (failed : (machine.resume limit id).2 = some (.error error)) :
    playFrom (asking respond) limit (rounds + 1) machine (some (.ok (.suspended choices)))
        earlier =
      (((machine.resume limit id).1.terminate, .ofFailedAnswer error), earlier ++ [choices]) := by
  rw [playFrom_asking, picked]
  simp only [failed]

theorem playFrom_resumed {id : Nat} (rounds : Nat) {choices : List OfferedChoice}
    {earlier : List (List OfferedChoice)} (picked : respond (earlier ++ [choices]) = .pick id)
    (goes_on : ¬∃ error, (machine.resume limit id).2 = some (.error error)) :
    playFrom (asking respond) limit (rounds + 1) machine (some (.ok (.suspended choices)))
        earlier =
      playFrom (asking respond) limit rounds (machine.resume limit id).1
        (machine.resume limit id).2 (earlier ++ [choices]) := by
  rw [playFrom_asking, picked]
  rcases resumed : (machine.resume limit id).2 with _ | error | outcome
  · simp only [resumed]
  · exact absurd ⟨error, resumed⟩ goes_on
  · simp only [resumed]

/-! ## Playing and answering by hand -/

/-- A machine that waits has told of the options on offer, and there are some. -/
theorem Stops.question {told : Machine × RunResult} {choices : List OfferedChoice}
    (stopped : Stops told) (suspends : question? told = some choices) :
    told.2 = some (.ok (.suspended choices)) ∧ choices = told.1.choices ∧ choices ≠ [] := by
  obtain ⟨machine, _ | error | ⟨others⟩ | _⟩ := told <;> try cases suspends
  obtain ⟨others_eq, -, on_offer⟩ := stopped.suspended others rfl
  refine ⟨congrArg _ (congrArg _ (congrArg _ others_eq)), rfl, fun none_told => on_offer ?_⟩
  simpa [choices] using none_told

theorem mem_choices {choice : OfferedChoice} (member : choice ∈ machine.choices) :
    ∃ pending, machine.offered[choice.id]? = some pending := by
  obtain ⟨id, inside, rfl⟩ := List.mem_mapIdx.mp member
  exact ⟨_, List.getElem?_eq_getElem inside⟩

/-- An answer with a number that stands for an option stops the machine rightly. -/
theorem resume_stops {id : Nat} {choice : PendingChoice}
    (chosen : machine.chosen? id = some choice) (limit : Nat) :
    Stops (machine.resume limit id) := by
  rw [resume_of_chosen chosen]
  exact runFor_stops (.of_awake rfl rfl) limit

/-- An answer with the number of an option on offer is not refused because of the number. -/
theorem resume_offered {choice : OfferedChoice} {error : RuntimeError}
    (member : choice ∈ machine.choices) (limit : Nat)
    (failed : (machine.resume limit choice.id).2 = some (.error error)) (id : Nat) :
    error ≠ .unresolvedChoice id := by
  obtain ⟨pending, on_offer⟩ := mem_choices member
  cases chosen : machine.chosen? choice.id with
  | some taken =>
      have own := ((resume_stops chosen limit).failed error failed).2
      rintro rfl
      simp [RuntimeError.ofInstruction] at own
  | none =>
      rw [resume_of_not_chosen limit chosen] at failed
      obtain rfl : machine.refusal choice.id = error := by simpa using failed
      rw [refusal]
      split
      · simp
      · rename_i waits
        simp only [Bool.or_eq_true, Bool.not_eq_true', not_or] at waits
        simp [chosen?, waits, on_offer] at chosen

namespace Tallies

variable {told : Machine × RunResult} {earlier asked : List (List OfferedChoice)}
  {picks : List Nat} {ending : Ending} {choices : List OfferedChoice} {id : Nat}

/-- A session that ends with what the machine has told. -/
theorem of_told (stopped : Stops told) (silent : question? told = none) :
    Tallies respond limit told earlier [] [] told.1 (.ofResult told.2) where
  answers := by simp
  questions := List.nil_prefix
  finishes ended := by
    refine ⟨by simp [Machine.stops, silent], ?_⟩
    obtain ⟨machine, _ | error | _ | _⟩ := told
    · exact absurd rfl ended
    · exact (stopped.failed error rfl).1
    · exact absurd rfl ended
    · exact stopped.completed rfl
  faithful _ := ⟨rfl, rfl, rfl⟩

/-- A session that is given up while the machine waits. -/
theorem of_impatient (suspends : question? told = some choices) :
    Tallies respond limit told earlier [] [] told.1 .unfinished where
  answers := by simp
  questions := List.nil_prefix
  finishes ended := absurd rfl ended
  faithful _ := by
    refine ⟨?_, rfl, rfl⟩
    obtain ⟨machine, _ | error | _ | _⟩ := told <;> first | rfl | cases suspends

/-- A session that ends because nothing is picked. -/
theorem of_unanswered (stopped : Stops told) (suspends : question? told = some choices)
    (unanswered : ∀ id, respond (earlier ++ [choices]) ≠ .pick id) :
    Tallies respond limit told earlier [choices] [] told.1.terminate ending where
  answers := by simp
  questions := by simp [Machine.stops, suspends]
  finishes _ := ⟨by simp [Machine.stops, suspends], .terminate told.1⟩
  faithful picks := by
    obtain ⟨choice, -, picked⟩ := picks earlier choices (stopped.question suspends).2.2
    exact absurd picked (unanswered choice.id)

/-- A session that ends because an answer fails. -/
theorem of_failed {error : RuntimeError} (failed : told.2 = some (.error error))
    (ended : PicksOffered respond → ending = .failed error) :
    Tallies respond limit told earlier [] [] told.1.terminate ending where
  answers := by simp
  questions := List.nil_prefix
  finishes _ := ⟨by simp [Machine.stops, question?, failed], .terminate told.1⟩
  faithful picks := ⟨by simp [ended picks, resumeAll, failed, Ending.ofResult], rfl, rfl⟩

/-- A session that goes on after an answer. -/
theorem cons (suspends : question? told = some choices)
    (picked : respond (earlier ++ [choices]) = .pick id)
    (rest : Tallies respond limit (told.1.resume limit id) (earlier ++ [choices]) asked picks after
      ending) :
    Tallies respond limit told earlier (choices :: asked) (id :: picks) after ending where
  answers := by
    refine ⟨Nat.succ_le_succ rest.answers.1, fun index id found => ?_⟩
    cases index with
    | zero =>
        obtain rfl := Option.some.inj found
        simpa using picked
    | succ index => simpa using rest.answers.2 index id found
  questions := by
    simpa [Machine.stops, suspends] using rest.questions
  finishes ended := by
    simpa [Machine.stops, suspends] using rest.finishes ended
  faithful := rest.faithful

end Tallies

/-- However a session goes on from what a machine has told, answering the machine by hand tells what
the session does. -/
theorem playFrom_tallies {told : Machine × RunResult} (stopped : Stops told) (rounds : Nat)
    (earlier : List (List OfferedChoice)) :
    ∃ asked picks after ending,
      playFrom (asking respond) limit rounds told.1 told.2 earlier =
          ((after, ending), earlier ++ asked) ∧
        Tallies respond limit told earlier asked picks after ending := by
  induction rounds generalizing told earlier with
  | zero =>
      cases suspends : question? told with
      | none =>
          exact ⟨[], [], _, _,
            (playFrom_silent suspends _ earlier).trans (by rw [List.append_nil]),
            .of_told stopped suspends⟩
      | some choices =>
          refine ⟨[], [], _, _, ?_, .of_impatient suspends⟩
          rw [(stopped.question suspends).1, playFrom, List.append_nil]
          rfl
  | succ rounds induction =>
      cases suspends : question? told with
      | none =>
          exact ⟨[], [], _, _,
            (playFrom_silent suspends _ earlier).trans (by rw [List.append_nil]),
            .of_told stopped suspends⟩
      | some choices =>
          obtain ⟨waits, choices_eq, -⟩ := stopped.question suspends
          rw [waits]
          cases answer : respond (earlier ++ [choices]) with
          | never | refuse =>
              refine ⟨[choices], [], _, _, by rw [playFrom_asking, answer], ?_⟩
              exact .of_unanswered stopped suspends (by simp [answer])
          | pick id =>
              by_cases fails : ∃ error, (told.1.resume limit id).2 = some (.error error)
              · obtain ⟨error, failed⟩ := fails
                refine ⟨[choices], [id], _, _, playFrom_failed rounds answer failed,
                  .cons suspends answer (.of_failed failed fun picks => ?_)⟩
                obtain ⟨choice, member, picked⟩ :=
                  picks earlier choices (stopped.question suspends).2.2
                obtain rfl := Answer.pick.inj (answer.symm.trans picked)
                have known := resume_offered (choices_eq ▸ member) limit failed
                cases error with
                | unresolvedChoice id => exact absurd rfl (known id)
                | _ => rfl
              · have goes_on : Stops (told.1.resume limit id) := by
                  cases chosen : told.1.chosen? id with
                  | some choice => exact resume_stops chosen limit
                  | none =>
                      exact absurd ⟨_, by rw [resume_of_not_chosen limit chosen]⟩ fails
                obtain ⟨asked, picks, after, ending, played, tallies⟩ :=
                  induction goes_on (earlier ++ [choices])
                refine ⟨choices :: asked, id :: picks, after, ending, ?_,
                  tallies.cons suspends answer⟩
                rw [playFrom_resumed rounds answer fails, played, List.append_assoc]
                rfl

/-- Whatever a host has done to a machine, and whatever is answered to the options on offer: a
session asks once for each time the machine waits, with the options on offer there.  When it is
over, the run has ended, and the machine neither waits nor offers anything; to run it again only
tells that the run has ended, and any further answer is refused.  If nothing but options on offer is
picked, the session hands out and ends as when the machine is run and answered with the same numbers
by hand. -/
theorem session_finishes {natives : Registry} {machine : Machine}
    (reachable : Reachable natives machine) (respond : List (List OfferedChoice) → Answer)
    (limit rounds : Nat) :
    let played := machine.play (asking respond) limit rounds []
    let after := played.1.1
    let ending := played.1.2
    let asked := played.2
    ∃ picks : List Nat,
      let questions := (stops limit (machine.run limit) picks).filterMap question?
      let by_hand := resumeAll limit (machine.run limit) picks
      (picks.length ≤ asked.length ∧ ∀ index id, picks[index]? = some id →
        respond (asked.take (index + 1)) = .pick id) ∧
        asked <+: questions ∧
          (ending ≠ .unfinished →
            asked = questions ∧ after.exited = true ∧ after.paused = false ∧ after.choices = [] ∧
              (∀ limit, after.run limit = (after, some (.ok .completed))) ∧
                ∀ limit id, after.resume limit id = (after, some (.error .notSuspended))) ∧
            (PicksOffered respond →
              ending = .ofResult by_hand.2 ∧ after.output = by_hand.1.output ∧
                after.terminate = by_hand.1.terminate) := by
  obtain ⟨asked, picks, after, ending, played, tallies⟩ :=
    playFrom_tallies (run_stops reachable.closed limit) rounds []
  have all_played : machine.play (asking respond) limit rounds [] = ((after, ending), asked) :=
    played
  simp only [all_played]
  refine ⟨picks, tallies.answers, tallies.questions, fun ended => ?_, tallies.faithful⟩
  obtain ⟨all_asked, finished⟩ := tallies.finishes ended
  refine ⟨all_asked, finished.exited, finished.awake, ?_, finished.run, fun limit id => ?_⟩
  · simp [choices, finished.closed]
  · exact resume_exited finished.exited limit id

/-- Pick the first option on offer. -/
private def pickFirst (asked : List (List OfferedChoice)) : Answer :=
  match asked.getLast? with
  | some (choice :: _) => .pick choice.id
  | _ => .never

/-- A machine whose run has ended while it waits. -/
private def endedWaiting : Machine :=
  (Operation.tick.perform ((Operation.run 8).perform jumpingMachine).1).1

theorem session_finishes_ended :
    let played := endedWaiting.play (asking pickFirst) 8 2 []
    endedWaiting.exited = true ∧ endedWaiting.paused = true ∧ played.2 = [[⟨0, "t"⟩]] ∧
      played.1.2 = .failed .notSuspended ∧ played.1.1.paused = false ∧
        ∀ limit, played.1.1.run limit = (played.1.1, some (.ok .completed)) := by
  have created : create jumpingProgram Registry.quest = .ok jumpingMachine := rfl
  have reachable : Reachable Registry.quest endedWaiting :=
    ((Reachable.create created _ _).perform (.run 8)).perform .tick
  have failed : (endedWaiting.play (asking pickFirst) 8 2 []).1.2 = .failed .notSuspended := by
    decide +kernel
  obtain ⟨picks, -, -, finishes, -⟩ := session_finishes reachable pickFirst 8 2
  simp only [failed] at finishes
  obtain ⟨-, -, awake, -, runs, -⟩ := finishes (by simp)
  exact ⟨by decide +kernel, by decide +kernel, by decide +kernel, failed, awake, runs⟩

end Machine

end Gamebook
