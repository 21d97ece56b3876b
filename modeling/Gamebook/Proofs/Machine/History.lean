import Gamebook.Proofs.Machine.Tick

/-!
# Histories of a machine

The host drives a machine by operations: it ticks it, runs it, answers with the number of an option,
ends the run, or sets named values.  What happens in a sequence of operations is told by events.  As
long as the host leaves a waiting machine alone until it is answered, a machine waits exactly if
options are on offer; and when all it does is run and answer, its operations break up into single
ticks and answers.
-/

namespace Gamebook

/-- A request of the host to a machine. -/
inductive Operation
  | tick
  | run (limit : Nat)
  | resume (limit id : Nat)
  | terminate
  | provide (values : List (String × Value))

namespace Machine

/-- What an operation answers. -/
inductive Reply
  | ticked (result : Except RuntimeError Unit)
  | stopped (result : RunResult)
  | silent

/-- The error that an operation has failed with. -/
def Reply.error? : Reply → Option RuntimeError
  | ticked (.error error) | stopped (some (.error error)) => some error
  | _ => none

/-- Something that happens in a machine. -/
inductive Event
  /-- The instruction at an offset is executed. -/
  | execute (offset : Nat)
  /-- An option on offer is chosen. -/
  | choose (choice : PendingChoice)
  deriving DecidableEq, Repr

theorem create_eq {program : Program} {natives : Registry} {machine : Machine}
    (created : create program natives = .ok machine) :
    machine =
      { program, natives, stack := [], context := Table.empty, counter := 0, exited := false
        paused := false, queued := [], offered := [], random := .ofSeed 0, output := [] } := by
  rw [create] at created
  split at created
  · cases created
  · exact (Except.ok.inj created).symm

/-! ## Answers -/

/-- The option that a number stands for, if the machine waits for a choice. -/
def chosen? (machine : Machine) (id : Nat) : Option PendingChoice :=
  if machine.exited || !machine.paused then none else machine.offered[id]?

/-- Why an answer is refused. -/
def refusal (machine : Machine) (id : Nat) : RuntimeError :=
  if machine.exited || !machine.paused || machine.offered.isEmpty then .notSuspended
  else .unresolvedChoice id

/-- Take an option: the offset of its effects is handed to the program. -/
def choose (machine : Machine) (choice : PendingChoice) : Machine :=
  { machine with
    stack := .ofOffset choice.offset :: machine.stack
    offered := []
    paused := false }

variable {start machine after : Machine} {limit id : Nat} {choice : PendingChoice}

theorem chosen?_eq_some_iff :
    machine.chosen? id = some choice ↔
      machine.exited = false ∧ machine.paused = true ∧ machine.offered[id]? = some choice := by
  cases exited : machine.exited <;> cases paused : machine.paused <;>
    simp [chosen?, exited, paused]

/-- An answer that is on offer is taken, and the machine runs on. -/
theorem resume_of_chosen (chosen : machine.chosen? id = some choice) :
    machine.resume limit id = runFor limit (machine.choose choice) := by
  obtain ⟨running, waiting, on_offer⟩ := chosen?_eq_some_iff.mp chosen
  have some_offer : machine.offered ≠ [] := by
    rintro none_offered
    simp [none_offered] at on_offer
  simp [resume, run, choose, running, waiting, some_offer, on_offer]

/-- Any other answer is refused and leaves the machine as it is. -/
theorem resume_of_not_chosen (limit : Nat) (not_chosen : machine.chosen? id = none) :
    machine.resume limit id = (machine, some (.error (machine.refusal id))) := by
  rw [resume, refusal]
  split
  · rfl
  · rename_i waits
    have on_offer : machine.offered[id]? = none := by
      simp only [Bool.or_eq_true, Bool.not_eq_true', not_or] at waits
      simpa [chosen?, waits] using not_chosen
    rw [on_offer]

/-! ## Operations -/

/-- The machines that a run ticks. -/
def visited (limit : Nat) (machine : Machine) : List Machine :=
  if machine.exited || machine.paused then []
  else
    match limit with
    | 0 => []
    | limit + 1 =>
      machine ::
        match machine.tick with
        | (after, .ok ()) => visited limit after
        | (_, .error _) => []

end Machine

namespace Operation

open Machine (Event Reply visited)

variable {machine : Machine}

/-- Do what is requested. -/
def perform (machine : Machine) : Operation → Machine × Reply
  | tick => (machine.tick.1, .ticked machine.tick.2)
  | run limit => ((machine.run limit).1, .stopped (machine.run limit).2)
  | resume limit id => ((machine.resume limit id).1, .stopped (machine.resume limit id).2)
  | terminate => (machine.terminate, .silent)
  | provide values => (machine.withContext values, .silent)

/-- The machines that an operation ticks. -/
def visits (machine : Machine) : Operation → List Machine
  | tick => if machine.exited then [] else [machine]
  | run limit =>
    if machine.paused && !machine.offered.isEmpty then []
    else visited limit { machine with paused := false }
  | resume limit id =>
    match machine.chosen? id with
    | some choice => visited limit (machine.choose choice)
    | none => []
  | _ => []

/-- The option that an operation chooses. -/
def chosen? (machine : Machine) : Operation → Option PendingChoice
  | resume _ id => machine.chosen? id
  | _ => none

/-- What happens in an operation. -/
def events (machine : Machine) (operation : Operation) : List Event :=
  (operation.chosen? machine).toList.map .choose ++
    (operation.visits machine).map fun visit => .execute visit.counter

/-- Perform operations in order. -/
def performAll (machine : Machine) : List Operation → Machine × List Reply
  | [] => (machine, [])
  | operation :: rest =>
    let (after, reply) := operation.perform machine
    let (last, replies) := performAll after rest
    (last, reply :: replies)

/-- The machines that operations tick. -/
def visitsAll (machine : Machine) : List Operation → List Machine
  | [] => []
  | operation :: rest =>
    operation.visits machine ++ visitsAll (operation.perform machine).1 rest

/-- A machine that waits is left alone until it is answered. -/
def Patient (machine : Machine) (operation : Operation) : Prop :=
  operation = tick → machine.paused = false

/-- The host does no more than running the machine and answering. -/
def Plays : Operation → Prop
  | run _ | resume _ _ => True
  | _ => False

theorem Plays.patient {operation : Operation} (plays : operation.Plays) :
    operation.Patient machine := by
  rintro rfl
  exact plays.elim

end Operation

namespace Machine

/-- The machines that a host can bring about from a start with the operations that are allowed, and
what happens on the way. -/
inductive History (Allowed : Machine → Operation → Prop) (start : Machine) :
    List Event → Machine → Prop
  | begin : History Allowed start [] start
  | perform {events : List Event} {machine : Machine}
      (history : History Allowed start events machine) (operation : Operation)
      (allowed : Allowed machine operation) :
      History Allowed start (events ++ operation.events machine) (operation.perform machine).1

/-- Operations that are all allowed lead from one machine of a history to another. -/
theorem History.performAll {Allowed : Machine → Operation → Prop} {start machine : Machine}
    {events : List Event} (history : History Allowed start events machine)
    (allowed : ∀ machine operation, Allowed machine operation) (operations : List Operation) :
    ∃ later, History Allowed start later (Operation.performAll machine operations).1 := by
  induction operations generalizing machine events with
  | nil => exact ⟨events, history⟩
  | cons operation rest induction =>
      exact induction (history.perform operation (allowed machine operation))

/-! ## Runs that stop -/

theorem runFor_of_stopped (limit : Nat) (stopped : machine.exited = true ∨ machine.paused = true) :
    runFor limit machine = (machine, some (.ok machine.outcome)) := by
  have stops : (machine.exited || machine.paused) = true := by simpa using stopped
  cases limit <;> rw [runFor, if_pos stops]

theorem runFor_of_tick_ok (running : machine.exited = false) (awake : machine.paused = false)
    (ticked : machine.tick = (after, .ok ())) (limit : Nat) :
    runFor (limit + 1) machine = runFor limit after := by
  rw [runFor, if_neg (by simp [running, awake]), ticked]

theorem runFor_of_tick_error {error : RuntimeError} (running : machine.exited = false)
    (awake : machine.paused = false) (ticked : machine.tick = (after, .error error))
    (limit : Nat) : runFor (limit + 1) machine = (after, some (.error error)) := by
  rw [runFor, if_neg (by simp [running, awake]), ticked]

theorem runFor_of_leads {count : Nat} (leads : Leads count machine after) (more : Nat) :
    runFor (count + more) machine = runFor more after := by
  induction leads with
  | refl => rw [Nat.zero_add]
  | step running awake here executes _ induction =>
      rw [Nat.add_right_comm,
        runFor_of_tick_ok running awake ((tick_eq_ok_iff running here).mpr executes)]
      exact induction

/-- A run with ticks enough to come to where it stops tells so. -/
theorem runFor_of_leadsWithin {most : Nat} (leads : LeadsWithin most machine after)
    (enough : most ≤ limit) (stopped : after.exited = true ∨ after.paused = true) :
    runFor limit machine = (after, some (.ok after.outcome)) := by
  obtain ⟨count, within, leads⟩ := leads
  obtain ⟨more, rfl⟩ := Nat.exists_eq_add_of_le (within.trans enough)
  rw [runFor_of_leads leads, runFor_of_stopped more stopped]

/-- What holds of a machine and of the machines that led to it holds after a run if every tick of a
machine that neither has ended nor waits preserves it. -/
theorem runFor_preserves (Holds : List Machine → Machine → Prop)
    (ticked : ∀ visits machine, Holds visits machine → machine.exited = false →
      machine.paused = false → Holds (visits ++ [machine]) machine.tick.1)
    (visits : List Machine) (holds : Holds visits machine) (limit : Nat) :
    Holds (visits ++ visited limit machine) (runFor limit machine).1 := by
  induction limit generalizing visits machine with
  | zero =>
      rw [runFor, visited]
      split <;> simpa using holds
  | succ limit induction =>
      rw [runFor, visited]
      split
      · simpa using holds
      · rename_i stopped
        simp only [Bool.or_eq_true, not_or, Bool.not_eq_true] at stopped
        have next := ticked visits machine holds stopped.1 stopped.2
        cases result : machine.tick with
        | mk after reply =>
            rw [result] at next
            cases reply with
            | ok =>
                have rest := induction _ next
                rw [List.append_assoc] at rest
                exact rest
            | error error => exact next

/-- Every operation preserves what ticks of a machine that has not ended, waking a machine without
options on offer, answers, the end of a run and values of the host preserve. -/
theorem perform_preserves (Holds : Machine → Prop)
    (ticked : ∀ machine, Holds machine → machine.exited = false → Holds machine.tick.1)
    (woken : ∀ machine, Holds machine → (machine.paused = true → machine.offered = []) →
      Holds { machine with paused := false })
    (chosen : ∀ machine id choice, Holds machine → machine.chosen? id = some choice →
      Holds (machine.choose choice))
    (ended : ∀ machine, Holds machine → Holds machine.terminate)
    (provided : ∀ machine values, Holds machine → Holds (machine.withContext values))
    (operation : Operation) (holds : Holds machine) : Holds (operation.perform machine).1 := by
  have runs (limit : Nat) {machine : Machine} (holds : Holds machine) :
      Holds (runFor limit machine).1 :=
    runFor_preserves (fun _ later => Holds later)
      (fun _ later holds running _ => ticked later holds running) [] holds limit
  cases operation with
  | tick =>
      cases running : machine.exited with
      | true => rwa [Operation.perform, tick_exited running]
      | false => exact ticked machine holds running
  | run limit =>
      rw [Operation.perform, run]
      split
      · exact holds
      · rename_i wakes
        exact runs limit (woken machine holds fun waiting => by simpa [waiting] using wakes)
  | resume limit id =>
      rw [Operation.perform]
      cases taken : machine.chosen? id with
      | some choice =>
          rw [resume_of_chosen taken]
          exact runs limit (chosen machine id choice holds taken)
      | none => rwa [resume_of_not_chosen limit taken]
  | terminate => exact ended machine holds
  | provide values => exact provided machine values holds

/-! ## What no operation takes back -/

theorem runFor_evolves (limit : Nat) (machine : Machine) :
    Evolves machine (runFor limit machine).1 := by
  apply runFor_preserves (fun _ later => Evolves machine later) _ [] (.refl machine) limit
  intro _ later evolves _ _
  exact evolves.trans later.tick_evolves

theorem run_evolves (limit : Nat) (machine : Machine) : Evolves machine (machine.run limit).1 := by
  rw [run]
  split
  · exact .refl machine
  · have woken : Evolves machine { machine with paused := false } :=
      ⟨rfl, rfl, id, fun _ => id, List.suffix_refl _⟩
    exact woken.trans (runFor_evolves limit _)

theorem contains_insertAll (context : Context) (values : List (String × Value)) {key : String}
    (present : context.contains key = true) : (context.insertAll values).contains key = true := by
  induction values generalizing context with
  | nil => exact present
  | cons value rest induction =>
      rw [Table.insertAll, List.foldl_cons]
      exact induction (context.insert value.1 value.2) (by simp [present])

theorem choose_evolves (machine : Machine) (choice : PendingChoice) :
    Evolves machine (machine.choose choice) :=
  ⟨rfl, rfl, id, fun _ => id, List.suffix_refl _⟩

theorem perform_evolves (machine : Machine) (operation : Operation) :
    Evolves machine (operation.perform machine).1 := by
  cases operation with
  | tick => exact machine.tick_evolves
  | run limit => exact run_evolves limit machine
  | resume limit id =>
      cases chosen : machine.chosen? id with
      | some choice =>
          rw [Operation.perform, resume_of_chosen chosen]
          exact (choose_evolves machine choice).trans (runFor_evolves limit _)
      | none =>
          rw [Operation.perform, resume_of_not_chosen limit chosen]
          exact .refl machine
  | terminate => exact ⟨rfl, rfl, fun _ => rfl, fun _ => id, List.suffix_refl _⟩
  | provide values =>
      exact ⟨rfl, rfl, id, fun _ => contains_insertAll machine.context values, List.suffix_refl _⟩

theorem History.evolves {Allowed : Machine → Operation → Prop} {start machine : Machine}
    {events : List Event} (history : History Allowed start events machine) :
    Evolves start machine := by
  induction history with
  | begin => exact .refl start
  | perform history operation allowed induction =>
      exact induction.trans (perform_evolves _ operation)

/-! ## Waiting machines -/

/-- A machine waits exactly if options are on offer, and it has neither ended nor queued options
then. -/
structure Settled (machine : Machine) : Prop where
  offers : machine.paused = true → machine.offered ≠ []
  waits : machine.paused = true → machine.queued = [] ∧ machine.exited = false
  closed : machine.paused = false → machine.offered = []

namespace Settled

theorem of_awake (awake : machine.paused = false) (closed : machine.offered = []) :
    Settled machine :=
  ⟨by simp [awake], by simp [awake], fun _ => closed⟩

/-- A machine is settled at its start, whatever random numbers the host gives to it. -/
theorem create {program : Program} {natives : Registry}
    (created : create program natives = .ok machine) (random : Random) :
    Settled { machine with random } := by
  rw [create_eq created]
  exact of_awake rfl rfl

theorem tick (settled : Settled machine) (awake : machine.paused = false) :
    Settled machine.tick.1 := by
  have closed := settled.closed awake
  cases running : machine.exited with
  | true => rwa [tick_exited running]
  | false =>
      rcases tick_cases running rfl with
        ⟨-, after⟩ | ⟨instruction, -, executes⟩ | ⟨state, framed, after⟩
      · rw [after]
        exact of_awake awake closed
      · generalize machine.tick.1 = after at executes
        cases executes with
        | compute registered plain ran =>
            have framed := (Call.run_keeps _ (Native.isTame_of_isPlain plain)).of_ok ran
            exact of_awake (framed.paused.trans awake) (framed.offered.trans closed)
        | offer registered waiting =>
            exact ⟨fun _ => waiting, fun _ => ⟨rfl, running⟩, by simp⟩
        | _ => exact of_awake awake closed
      · rw [after]
        exact of_awake (framed.paused.trans awake) (framed.offered.trans closed)

theorem runFor (settled : Settled machine) : Settled (runFor limit machine).1 := by
  apply runFor_preserves (fun _ later => Settled later) _ [] settled limit
  intro _ later settled _ awake
  exact settled.tick awake

theorem withContext (settled : Settled machine) (values : List (String × Value)) :
    Settled (machine.withContext values) :=
  ⟨settled.offers, settled.waits, settled.closed⟩

theorem run (settled : Settled machine) : Settled (machine.run limit).1 := by
  rw [Machine.run]
  split
  · exact settled
  · rename_i waits
    have awake : machine.paused = false := by
      cases paused : machine.paused with
      | false => rfl
      | true => simp [paused, settled.offers paused] at waits
    exact runFor (of_awake rfl (settled.closed awake))

theorem resume {id : Nat} (settled : Settled machine) : Settled (machine.resume limit id).1 := by
  cases chosen : machine.chosen? id with
  | some choice =>
      rw [resume_of_chosen chosen]
      exact runFor (of_awake rfl rfl)
  | none => rwa [resume_of_not_chosen _ chosen]

theorem perform (settled : Settled machine) {operation : Operation}
    (patient : operation.Patient machine) : Settled (operation.perform machine).1 := by
  cases operation with
  | tick => exact settled.tick (patient rfl)
  | run limit => exact settled.run
  | resume limit id => exact settled.resume
  | terminate => exact of_awake rfl rfl
  | provide values => exact settled.withContext values

end Settled

/-- A machine that waits tells of the same options again. -/
theorem Settled.run_paused (settled : Settled machine) (waiting : machine.paused = true)
    (limit : Nat) : machine.run limit = (machine, some (.ok (.suspended machine.choices))) := by
  simp [Machine.run, waiting, settled.offers waiting]

theorem run_of_awake (awake : machine.paused = false) (limit : Nat) :
    machine.run limit = Machine.runFor limit machine := by
  have same : { machine with paused := false } = machine := by rw [← awake]
  simp [run, awake, same]

/-- A patient host that starts with a settled machine only brings about settled machines. -/
theorem History.settled {Allowed : Machine → Operation → Prop} {start : Machine}
    {events : List Event} (history : History Allowed start events machine)
    (patient : ∀ machine operation, Allowed machine operation → operation.Patient machine)
    (settled : Settled start) : Settled machine := by
  induction history with
  | begin => exact settled
  | perform history operation allowed induction =>
      exact induction.perform (patient _ _ allowed)

/-- What ticks of a machine that neither has ended nor waits, answers, the end of a run and values
of the host preserve holds of every machine that a patient host brings about. -/
theorem History.preserves {Allowed : Machine → Operation → Prop} {start : Machine}
    {events : List Event} (history : History Allowed start events machine)
    (Holds : Machine → Prop) (begins : Holds start)
    (ticked : ∀ machine, Holds machine → machine.exited = false → machine.paused = false →
      Holds machine.tick.1)
    (chosen : ∀ machine id choice, Holds machine → machine.chosen? id = some choice →
      Holds (machine.choose choice))
    (ended : ∀ machine, Holds machine → Holds machine.terminate)
    (provided : ∀ machine values, Holds machine → Holds (machine.withContext values))
    (patient : ∀ machine operation, Allowed machine operation → operation.Patient machine)
    (settled : Settled start) : Holds machine := by
  have runs (limit : Nat) (machine : Machine) (holds : Holds machine) :
      Holds (Machine.runFor limit machine).1 :=
    runFor_preserves (fun _ later => Holds later) (fun _ later => ticked later) [] holds limit
  induction history with
  | begin => exact begins
  | @perform _ machine history operation allowed induction =>
      cases operation with
      | tick =>
          cases running : machine.exited with
          | true =>
              rw [Operation.perform, tick_exited running]
              exact induction
          | false => exact ticked machine induction running (patient _ _ allowed rfl)
      | run limit =>
          rw [Operation.perform]
          cases awake : machine.paused with
          | true =>
              rw [(history.settled patient settled).run_paused awake]
              exact induction
          | false =>
              rw [run_of_awake awake]
              exact runs limit machine induction
      | resume limit id =>
          rw [Operation.perform]
          cases taken : machine.chosen? id with
          | some choice =>
              rw [resume_of_chosen taken]
              exact runs limit _ (chosen machine id choice induction taken)
          | none =>
              rw [resume_of_not_chosen limit taken]
              exact induction
      | terminate => exact ended machine induction
      | provide values => exact provided machine values induction

/-! ## Calls that return -/

/-- A request with a limit of ticks that is done after so many, however many more it may take. -/
structure ReturnsWithin (most : Nat) (request : Nat → Operation) (machine : Machine) : Prop where
  ticks : ∀ limit, ((request limit).visits machine).length ≤ most
  result : ∃ after result, ∀ limit, most ≤ limit →
    (request limit).perform machine = (after, .stopped (some result))

section Returning

variable {Within : Nat → Machine → Prop}
  (ticked : ∀ ticks machine, Within ticks machine → machine.exited = false →
    machine.paused = false → ∃ fewer < ticks, Within fewer machine.tick.1)

include ticked

theorem length_visited_le {ticks : Nat} (within : Within ticks machine) (limit : Nat) :
    (visited limit machine).length ≤ ticks := by
  induction limit generalizing machine ticks with
  | zero =>
      rw [visited]
      split <;> simp
  | succ limit induction =>
      rw [visited]
      split
      · simp
      · rename_i stopped
        simp only [Bool.or_eq_true, not_or, Bool.not_eq_true] at stopped
        obtain ⟨fewer, less, later⟩ := ticked ticks machine within stopped.1 stopped.2
        cases result : machine.tick with
        | mk after reply =>
            rw [result] at later
            cases reply with
            | ok =>
                have rest := induction later
                exact (Nat.succ_le_succ rest).trans less
            | error error => exact Nat.one_le_of_lt less

theorem runFor_returns {ticks : Nat} (within : Within ticks machine) :
    ∃ after result, ∀ limit, ticks ≤ limit → runFor limit machine = (after, some result) := by
  induction ticks using Nat.strong_induction_on generalizing machine with
  | _ ticks induction =>
      by_cases stopped : machine.exited = true ∨ machine.paused = true
      · exact ⟨machine, .ok machine.outcome, fun limit _ => runFor_of_stopped limit stopped⟩
      · simp only [not_or, Bool.not_eq_true] at stopped
        obtain ⟨fewer, less, later⟩ := ticked ticks machine within stopped.1 stopped.2
        have more (limit : Nat) (enough : ticks ≤ limit) :
            ∃ left, limit = left + 1 ∧ fewer ≤ left := ⟨limit - 1, by omega, by omega⟩
        cases result : machine.tick with
        | mk after reply =>
            rw [result] at later
            cases reply with
            | ok =>
                obtain ⟨last, told, returns⟩ := induction fewer less later
                refine ⟨last, told, fun limit enough => ?_⟩
                obtain ⟨left, rfl, most⟩ := more limit enough
                rw [runFor_of_tick_ok stopped.1 stopped.2 result]
                exact returns left most
            | error error =>
                refine ⟨after, .error error, fun limit enough => ?_⟩
                obtain ⟨left, rfl, -⟩ := more limit enough
                exact runFor_of_tick_error stopped.1 stopped.2 result left

theorem run_returns {most : Nat} (settled : Settled machine) (within : Within most machine) :
    ReturnsWithin most .run machine := by
  cases awake : machine.paused with
  | true =>
      refine ⟨fun limit => ?_, machine, .ok (.suspended machine.choices), fun limit _ => ?_⟩
      · simp [Operation.visits, awake, settled.offers awake]
      · rw [Operation.perform, settled.run_paused awake]
  | false =>
      have same : { machine with paused := false } = machine := by rw [← awake]
      obtain ⟨after, result, returns⟩ := runFor_returns ticked within
      refine ⟨fun limit => ?_, after, result, fun limit enough => ?_⟩
      · simpa [Operation.visits, awake, same] using length_visited_le ticked within limit
      · rw [Operation.perform, run_of_awake awake, returns limit enough]

theorem resume_returns {most id : Nat}
    (within : ∀ choice, machine.chosen? id = some choice → Within most (machine.choose choice)) :
    ReturnsWithin most (fun limit => .resume limit id) machine := by
  cases chosen : machine.chosen? id with
  | some choice =>
      obtain ⟨after, result, returns⟩ := runFor_returns ticked (within choice chosen)
      refine ⟨fun limit => ?_, after, result, fun limit enough => ?_⟩
      · simpa [Operation.visits, chosen] using
          length_visited_le ticked (within choice chosen) limit
      · rw [Operation.perform, resume_of_chosen chosen, returns limit enough]
  | none =>
      refine ⟨fun limit => ?_, machine, .error (machine.refusal id), fun limit _ => ?_⟩
      · simp [Operation.visits, chosen]
      · rw [Operation.perform, resume_of_not_chosen limit chosen]

end Returning

/-! ## Single steps -/

/-- The machines that ticks and answers lead to, and what happens on the way; a machine that waits
is not ticked. -/
inductive Course (start : Machine) : List Event → Machine → Prop
  | begin : Course start [] start
  | execute {events : List Event} {machine : Machine} (course : Course start events machine)
      (running : machine.exited = false) (awake : machine.paused = false) :
      Course start (events ++ [.execute machine.counter]) machine.tick.1
  | choose {events : List Event} {machine : Machine} {id : Nat} {choice : PendingChoice}
      (course : Course start events machine) (chosen : machine.chosen? id = some choice) :
      Course start (events ++ [.choose choice]) (machine.choose choice)

namespace Course

variable {start : Machine} {events : List Event}

theorem runFor (course : Course start events machine) (limit : Nat) :
    Course start (events ++ (visited limit machine).map fun visit => .execute visit.counter)
      (runFor limit machine).1 := by
  let executed (visits : List Machine) : List Event :=
    events ++ visits.map fun visit => .execute visit.counter
  apply runFor_preserves (fun visits later => Course start (executed visits) later) _ [] _ limit
  · intro visits later course running awake
    simpa [executed] using course.execute running awake
  · simpa [executed] using course

/-- The machines that a run ticks are on its course, and neither over nor waiting. -/
theorem of_visited (course : Course start events machine) {before later : List Machine}
    {visit : Machine} (split : visited limit machine = before ++ visit :: later) :
    Course start (events ++ before.map fun earlier => .execute earlier.counter) visit ∧
      visit.exited = false ∧ visit.paused = false := by
  induction limit generalizing machine events before with
  | zero =>
      rw [visited] at split
      split at split <;> simp at split
  | succ limit induction =>
      rw [visited] at split
      split at split
      · simp at split
      · rename_i stopped
        simp only [Bool.or_eq_true, not_or, Bool.not_eq_true] at stopped
        cases before with
        | nil =>
            obtain ⟨rfl, -⟩ := List.cons.inj split
            exact ⟨by simpa using course, stopped⟩
        | cons first before =>
            obtain ⟨rfl, rest⟩ := List.cons.inj split
            cases result : machine.tick with
            | mk after reply =>
                rw [result] at rest
                cases reply with
                | error error => simp at rest
                | ok =>
                    have next := course.execute stopped.1 stopped.2
                    rw [result] at next
                    simpa using induction next rest

theorem perform (course : Course start events machine) (settled : Settled machine)
    {operation : Operation} (plays : operation.Plays) :
    Course start (events ++ operation.events machine) (operation.perform machine).1 := by
  cases operation with
  | run limit =>
      cases awake : machine.paused with
      | true =>
          simpa [Operation.events, Operation.visits, Operation.chosen?, Operation.perform, run,
            awake, settled.offers awake] using course
      | false =>
          have same : { machine with paused := false } = machine := by rw [← awake]
          simpa [Operation.events, Operation.visits, Operation.chosen?, Operation.perform, run,
            awake, same] using course.runFor limit
  | resume limit id =>
      cases chosen : machine.chosen? id with
      | some choice =>
          have rest := (course.choose chosen).runFor limit
          rw [List.append_assoc] at rest
          simpa [Operation.events, Operation.visits, Operation.chosen?, Operation.perform, chosen,
            resume_of_chosen chosen] using rest
      | none =>
          simpa [Operation.events, Operation.visits, Operation.chosen?, Operation.perform, chosen,
            resume_of_not_chosen limit chosen] using course
  | tick | terminate | provide => exact plays.elim

/-- The machines that an operation ticks are on the course of its host. -/
theorem of_visits (course : Course start events machine) (settled : Settled machine)
    {operation : Operation} (plays : operation.Plays) {before later : List Machine}
    {visit : Machine} (split : operation.visits machine = before ++ visit :: later) :
    Course start (events ++ (operation.chosen? machine).toList.map .choose ++
        before.map fun earlier => .execute earlier.counter) visit ∧
      visit.exited = false ∧ visit.paused = false := by
  cases operation with
  | run limit =>
      rw [Operation.visits] at split
      split at split
      · simp at split
      · rename_i waits
        have awake : machine.paused = false := by
          cases paused : machine.paused with
          | false => rfl
          | true => simp [paused, settled.offers paused] at waits
        have same : { machine with paused := false } = machine := by rw [← awake]
        rw [same] at split
        simpa [Operation.chosen?] using course.of_visited split
  | resume limit id =>
      rw [Operation.visits] at split
      cases chosen : machine.chosen? id with
      | none => simp [chosen] at split
      | some choice =>
          rw [chosen] at split
          simpa [Operation.chosen?, chosen] using (course.choose chosen).of_visited split
  | tick | terminate | provide => exact plays.elim

theorem evolves (course : Course start events machine) : Evolves start machine := by
  induction course with
  | begin => exact .refl start
  | execute course running awake induction => exact induction.trans (tick_evolves _)
  | choose course chosen induction =>
      exact induction.trans (choose_evolves _ _)

theorem settled (course : Course start events machine) (settled : Settled start) :
    Settled machine := by
  induction course with
  | begin => exact settled
  | execute course running awake induction => exact induction.tick awake
  | choose course chosen induction => exact .of_awake rfl rfl

/-- How a machine that is neither over nor waiting has come about: it is the start, an instruction
has led to it, or an answer has. -/
theorem arrival (course : Course start events machine) (running : machine.exited = false)
    (awake : machine.paused = false) :
    (events = [] ∧ machine = start) ∨
      (∃ earlier previous instruction, Course start earlier previous ∧
        previous.exited = false ∧ previous.paused = false ∧
          events = earlier ++ [.execute previous.counter] ∧
            previous.program.get? previous.counter = some instruction ∧
              Executes previous instruction machine) ∨
        ∃ earlier previous id choice, Course start earlier previous ∧
          previous.chosen? id = some choice ∧ events = earlier ++ [.choose choice] ∧
            machine = previous.choose choice := by
  cases course with
  | begin => exact Or.inl ⟨rfl, rfl⟩
  | @execute earlier previous course was_running was_awake =>
      rcases tick_cases was_running rfl with
        ⟨-, after⟩ | ⟨instruction, here, executes⟩ | ⟨state, -, after⟩
      · simp [after] at running
      · exact Or.inr (Or.inl ⟨earlier, previous, instruction, course, was_running, was_awake, rfl,
          here, executes⟩)
      · simp [after] at running
  | @choose earlier previous id choice course chosen =>
      exact Or.inr (Or.inr ⟨earlier, previous, id, choice, course, chosen, rfl, rfl⟩)

end Course

/-- Running and answering breaks up into ticks and answers. -/
theorem History.course {start : Machine} {events : List Event}
    (history : History (fun _ operation => operation.Plays) start events machine)
    (settled : Settled start) : Course start events machine := by
  induction history with
  | begin => exact .begin
  | perform history operation plays induction =>
      exact induction.perform (history.settled (fun _ _ plays => plays.patient) settled) plays

end Machine

end Gamebook
