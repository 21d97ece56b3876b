import Gamebook.Proofs.Machine.History
import Mathlib.Data.List.DropRight

/-!
# What a waiting machine offers

A program queues options one by one, and a request for an answer offers those that were queued
since the request before.  As long as the host leaves a waiting machine alone until it is answered,
nothing else ever gets into the offer or out of it, however the operations of the host cut a run in
pieces.
-/

namespace Gamebook

/-- Each operation leaves the machine alone if it waits until it is answered. -/
def Operation.AllPatient (machine : Machine) : List Operation → Prop
  | [] => True
  | operation :: rest => operation.Patient machine ∧ AllPatient (operation.perform machine).1 rest

namespace Machine

variable {machine after : Machine} {limit : Nat}

/-! ## Queued options -/

/-- Whether the next instruction requests an answer. -/
def asks (machine : Machine) : Bool :=
  machine.called? = some .getResponse

/-- The option that the next instruction queues. -/
def queues? (machine : Machine) : Option PendingChoice :=
  match machine.called?, machine.stack with
  | some .response, .number value :: .string title :: _ => (natural? value).map (⟨title, ·⟩)
  | _, _ => none

/-- The options queued in a row of ticks since the last request for an answer. -/
def gathered (visits : List Machine) : List PendingChoice :=
  (visits.rtakeWhile fun visit => !visit.asks).filterMap queues?

theorem gathered_snoc (visits : List Machine) (visit : Machine) :
    gathered (visits ++ [visit]) =
      if visit.asks then [] else gathered visits ++ visit.queues?.toList := by
  rw [gathered, List.rtakeWhile_concat]
  cases visit.asks with
  | true => rfl
  | false =>
      cases queued : visit.queues? <;> simp [gathered, queued]

theorem queues?_of_called? (other : machine.called? ≠ some .response) :
    machine.queues? = none := by
  rw [queues?]
  split
  · contradiction
  · rfl

/-- An option is queued by exactly the calls of the native for it that succeed. -/
theorem queues?_isSome_iff (running : machine.exited = false) :
    machine.queues?.isSome = true ↔
      machine.called? = some .response ∧ machine.tick.2 = .ok () := by
  constructor
  · intro queued
    rw [queues?] at queued
    split at queued
    · rename_i value title rest called top
      obtain ⟨offset, whole⟩ := Option.isSome_iff_exists.mp queued
      simp only [Option.map_eq_some_iff] at whole
      obtain ⟨offset, whole, -⟩ := whole
      obtain ⟨name, here, registered⟩ := called?_eq_some_iff.mp called
      have ticked := (tick_eq_ok_iff running here).mpr (.respond registered top whole)
      exact ⟨called, by rw [ticked]⟩
    · simp at queued
  · rintro ⟨called, ticked⟩
    obtain ⟨name, here, registered⟩ := called?_eq_some_iff.mp called
    obtain ⟨after, succeeds⟩ : ∃ after, machine.tick = (after, .ok ()) := ⟨_, Prod.ext rfl ticked⟩
    have executes := (tick_eq_ok_iff running here).mp succeeds
    cases executes with
    | respond _ top whole => simp [queues?, called, top, whole]
    | compute other plain =>
        cases registered.symm.trans other
        cases plain
    | branch other tests =>
        cases registered.symm.trans other
        cases tests
    | goto other | exit other | offer other | finish other =>
        cases registered.symm.trans other

/-! ## Ticks, runs and operations -/

/-- After a row of ticks the options queued since the last request for an answer are the ones in the
queue, and if the machine waits, the last tick was a request that offered those queued before. -/
structure Gathers (visits : List Machine) (machine : Machine) : Prop where
  queued : machine.exited = false → machine.queued = gathered visits
  offered : machine.paused = true → ∃ before asking, visits = before ++ [asking] ∧
    asking.asks = true ∧ machine.offered = gathered before

namespace Gathers

variable {visits : List Machine}

theorem of_exited (exited : machine.exited = true) (awake : machine.paused = false) :
    Gathers visits machine :=
  ⟨by simp [exited], by simp [awake]⟩

theorem of_awake (awake : machine.paused = false) (queued : machine.queued = gathered visits) :
    Gathers visits machine :=
  ⟨fun _ => queued, by simp [awake]⟩

/-- A tick that queues nothing and requests no answer. -/
theorem of_called (gathers : Gathers visits machine) (running : machine.exited = false)
    (awake : after.paused = false) (queued : after.queued = machine.queued)
    (no_response : machine.called? ≠ some .response)
    (no_request : machine.called? ≠ some .getResponse) :
    Gathers (visits ++ [machine]) after := by
  apply of_awake awake
  rw [gathered_snoc, queues?_of_called? no_response, queued, gathers.queued running]
  simp [asks, no_request]

theorem executes {instruction : Instruction} (gathers : Gathers visits machine)
    (running : machine.exited = false) (awake : machine.paused = false)
    (here : machine.program.get? machine.counter = some instruction)
    (executes : Executes machine instruction after) : Gathers (visits ++ [machine]) after := by
  cases executes with
  | pushNumber | pushString | skip | close =>
      refine gathers.of_called running awake rfl ?_ ?_ <;> simp [called?, here]
  | @compute name native state registered plain ran =>
      have framed := (Call.run_keeps _ (Native.isTame_of_isPlain plain)).of_ok ran
      refine gathers.of_called running (framed.paused.trans awake) framed.queued ?_ ?_ <;>
        · rw [called?_invoke here, registered]
          rintro ⟨⟩
          cases plain
  | @branch name native enters value rest closing registered tests =>
      refine gathers.of_called running awake rfl ?_ ?_ <;>
        · rw [called?_invoke here, registered]
          rintro ⟨⟩
          cases tests
  | goto registered =>
      refine gathers.of_called running awake rfl ?_ ?_ <;> simp [called?_invoke here, registered]
  | exit | finish => exact of_exited rfl awake
  | respond registered top whole =>
      refine of_awake awake ?_
      have called := (called?_invoke here).trans registered
      rw [gathered_snoc, gathers.queued running]
      simp [asks, queues?, called, top, whole]
  | offer registered =>
      have asks : machine.asks = true := by
        simp [asks, (called?_invoke here).trans registered]
      refine ⟨fun _ => ?_, fun _ => ⟨visits, machine, rfl, asks, gathers.queued running⟩⟩
      rw [gathered_snoc, if_pos asks]

theorem tick (gathers : Gathers visits machine) (running : machine.exited = false)
    (awake : machine.paused = false) : Gathers (visits ++ [machine]) machine.tick.1 := by
  rcases tick_cases running rfl with
    ⟨-, after⟩ | ⟨instruction, here, executes⟩ | ⟨state, framed, after⟩
  · rw [after]
    exact of_exited rfl awake
  · exact gathers.executes running awake here executes
  · rw [after]
    exact of_exited rfl (framed.paused.trans awake)

theorem runFor (gathers : Gathers visits machine) (limit : Nat) :
    Gathers (visits ++ visited limit machine) (runFor limit machine).1 :=
  runFor_preserves Gathers (fun _ _ => tick) visits gathers limit

theorem perform (gathers : Gathers visits machine) (settled : Settled machine)
    {operation : Operation} (patient : operation.Patient machine) :
    Gathers (visits ++ operation.visits machine) (operation.perform machine).1 := by
  cases operation with
  | tick =>
      cases running : machine.exited with
      | true => simpa [Operation.visits, Operation.perform, running, tick_exited] using gathers
      | false =>
          simpa [Operation.visits, Operation.perform, running] using
            gathers.tick running (patient rfl)
  | run limit =>
      cases awake : machine.paused with
      | true =>
          simpa [Operation.visits, Operation.perform, run, awake, settled.offers awake] using
            gathers
      | false =>
          have same : { machine with paused := false } = machine := by rw [← awake]
          simpa [Operation.visits, Operation.perform, run, awake, same] using
            gathers.runFor limit
  | resume limit id =>
      cases chosen : machine.chosen? id with
      | some choice =>
          have running := (chosen?_eq_some_iff.mp chosen).1
          have answered : Gathers visits (machine.choose choice) :=
            of_awake rfl (gathers.queued running)
          simpa [Operation.visits, Operation.perform, chosen, resume_of_chosen chosen] using
            answered.runFor limit
      | none =>
          simpa [Operation.visits, Operation.perform, chosen, resume_of_not_chosen limit chosen]
            using gathers
  | terminate => exact of_exited rfl rfl
  | provide values =>
      have same : Gathers visits (machine.withContext values) := ⟨gathers.queued, gathers.offered⟩
      simpa [Operation.visits, Operation.perform] using same

theorem performAll {operations : List Operation} (gathers : Gathers visits machine)
    (settled : Settled machine) (patient : Operation.AllPatient machine operations) :
    Gathers (visits ++ Operation.visitsAll machine operations)
        (Operation.performAll machine operations).1 ∧
      Settled (Operation.performAll machine operations).1 := by
  induction operations generalizing machine visits with
  | nil => exact ⟨by simpa [Operation.visitsAll, Operation.performAll] using gathers, settled⟩
  | cons operation rest induction =>
      have later := induction (gathers.perform settled patient.1) (settled.perform patient.1)
        patient.2
      rw [List.append_assoc] at later
      exact later

end Gathers

/-! ## What a run tells -/

/-- A run that goes well stops where the run ends or the machine waits, and tells so. -/
theorem runFor_eq_ok {outcome : Outcome} (told : (runFor limit machine).2 = some (.ok outcome)) :
    ((runFor limit machine).1.exited = true ∨ (runFor limit machine).1.paused = true) ∧
      outcome = (runFor limit machine).1.outcome := by
  induction limit generalizing machine with
  | zero =>
      rw [runFor] at told ⊢
      split at told <;> rename_i stopped
      · rw [if_pos stopped]
        exact ⟨by simpa using stopped, (Except.ok.inj (Option.some.inj told)).symm⟩
      · simp at told
  | succ limit induction =>
      rw [runFor] at told ⊢
      split at told <;> rename_i stopped
      · rw [if_pos stopped]
        exact ⟨by simpa using stopped, (Except.ok.inj (Option.some.inj told)).symm⟩
      · rw [if_neg stopped]
        cases ticked : machine.tick with
        | mk after result =>
            rw [ticked] at told
            cases result with
            | ok => exact induction told
            | error error => simp at told

/-- A run that tells of options leaves a machine that waits with them. -/
theorem runFor_suspended {choices : List OfferedChoice}
    (told : (runFor limit machine).2 = some (.ok (.suspended choices))) :
    (runFor limit machine).1.paused = true ∧ choices = (runFor limit machine).1.choices := by
  obtain ⟨stopped, outcome_eq⟩ := runFor_eq_ok told
  rw [outcome] at outcome_eq
  split at outcome_eq
  · simp at outcome_eq
  · rename_i running
    exact ⟨stopped.resolve_left running, Outcome.suspended.inj outcome_eq⟩

theorem perform_suspended {operation : Operation} {choices : List OfferedChoice}
    (told : (operation.perform machine).2 = .stopped (some (.ok (.suspended choices)))) :
    (operation.perform machine).1.paused = true ∧
      choices = (operation.perform machine).1.choices := by
  cases operation with
  | run limit =>
      rw [Operation.perform, run] at told ⊢
      split at told <;> rename_i waits
      · rw [if_pos waits]
        simp only [Bool.and_eq_true] at waits
        simp only [Reply.stopped.injEq, Option.some.injEq, Except.ok.injEq,
          Outcome.suspended.injEq] at told
        exact ⟨waits.1, told.symm⟩
      · rw [if_neg waits]
        exact runFor_suspended (Reply.stopped.inj told)
  | resume limit id =>
      rw [Operation.perform] at told ⊢
      cases chosen : machine.chosen? id with
      | some choice =>
          rw [resume_of_chosen chosen] at told ⊢
          exact runFor_suspended (Reply.stopped.inj told)
      | none => simp [resume_of_not_chosen limit chosen] at told
  | tick | terminate | provide => simp [Operation.perform] at told

@[simp]
theorem length_choices (machine : Machine) : machine.choices.length = machine.offered.length := by
  simp [choices]

theorem choices_ids (machine : Machine) :
    machine.choices.map (·.id) = List.range machine.choices.length := by
  apply List.ext_getElem (by simp)
  intro index _ _
  simp [choices]

theorem choices_titles (machine : Machine) :
    machine.choices.map (·.title) = machine.offered.map (·.title) := by
  apply List.ext_getElem (by simp)
  intro index _ _
  simp [choices]

/-- However a patient host drives a machine from its start: the machine waits exactly if options are
on offer, with an empty queue and before the run has ended.  On offer is, in order, what was queued
between the last request for an answer and the one before.  An operation that tells of options
leaves a machine that waits with them, and gives them numbers from zero on; further runs tell of
them again and change nothing. -/
theorem suspension_protocol {program : Program} {natives : Registry} {fresh : Machine}
    (created : create program natives = .ok fresh) (random : Random) (operations : List Operation)
    (patient : Operation.AllPatient { fresh with random } operations) :
    let start := { fresh with random }
    let machine := (Operation.performAll start operations).1
    (machine.paused = true ↔ machine.offered ≠ []) ∧
      (machine.paused = true →
        machine.exited = false ∧ machine.queued = [] ∧
          (∃ before asking, Operation.visitsAll start operations = before ++ [asking] ∧
            asking.asks = true ∧ machine.offered = gathered before) ∧
            ∀ limit, machine.run limit = (machine, some (.ok (.suspended machine.choices)))) ∧
        ∀ (operation : Operation) (choices : List OfferedChoice),
          (operation.perform machine).2 = .stopped (some (.ok (.suspended choices))) →
            let after := (operation.perform machine).1
            after.paused = true ∧ choices ≠ [] ∧
              choices.map (·.id) = List.range choices.length ∧
                choices.map (·.title) = after.offered.map (·.title) := by
  intro start machine
  have fresh_eq := create_eq created
  have start_settled : Settled start := .create created random
  have start_gathers : Gathers [] start :=
    .of_awake (by simp [start, fresh_eq]) (by simp [start, fresh_eq, gathered])
  obtain ⟨gathers, settled⟩ := start_gathers.performAll start_settled patient
  rw [List.nil_append] at gathers
  refine ⟨⟨settled.offers, fun on_offer => ?_⟩, fun waiting => ?_, fun operation choices told => ?_⟩
  · by_contra awake
    exact on_offer (settled.closed (by simpa using awake))
  · obtain ⟨none_queued, running⟩ := settled.waits waiting
    exact ⟨running, none_queued, gathers.offered waiting, settled.run_paused waiting⟩
  · obtain ⟨waiting, rfl⟩ := perform_suspended told
    have patient : operation.Patient machine := by
      rintro rfl
      simp [Operation.perform] at told
    have later := settled.perform patient
    refine ⟨waiting, fun none_told => later.offers waiting ?_, choices_ids _, choices_titles _⟩
    simpa [choices] using none_told

/-- A program that offers two ways, which both end behind the last instruction. -/
private def forkProgram : Program where
  instructions :=
    [.pushString "left", .pushNumber 8, .invoke "response", .pushString "right", .pushNumber 8,
      .invoke "response", .invoke "getResponse", .invoke "goto"]
  labels := Table.empty
  blocks := []
  linked := rfl
  labels_le := by simp [Table.empty]

theorem suspension_protocol_fork :
    ∃ start,
      let waiting := (Operation.performAll start [.run 16, .provide [("k", .number 1)]]).1
      create forkProgram Registry.quest = .ok start ∧ waiting.paused = true ∧
        waiting.offered ≠ [] ∧ waiting.queued = [] ∧
          ∀ limit, (waiting.run limit).2 = some (.ok (.suspended [⟨0, "left"⟩, ⟨1, "right"⟩])) := by
  have created : create forkProgram Registry.quest =
      .ok
        { program := forkProgram, natives := Registry.quest, stack := []
          context := Table.empty, counter := 0, exited := false, paused := false, queued := []
          offered := [], random := .ofSeed 0, output := [] } := rfl
  obtain ⟨offers, waits, -⟩ :=
    suspension_protocol created (.ofSeed 0) [.run 16, .provide [("k", .number 1)]]
      ⟨nofun, nofun, trivial⟩
  obtain ⟨-, none_queued, -, again⟩ := waits (by decide +kernel)
  refine ⟨_, created, by decide +kernel, offers.mp (by decide +kernel), none_queued,
    fun limit => ?_⟩
  rw [again limit]
  decide +kernel

end Machine

end Gamebook
