import Gamebook.CommandLine.Play
import Gamebook.Proofs.CommandLine.Answers
import Gamebook.Proofs.Machine.Sessions

/-!
# Playing at a terminal

At a terminal the lines that are typed answer the questions of a game one after the other.  A line
that selects an option on offer is handed to the machine, which never refuses it; any other line is
passed over, and the same options are asked for again; and a game that has no line left is
cancelled.
-/

namespace Gamebook.CommandLine

open Machine (RunResult Settled Stops patience)

/-! ## Terminals -/

section Terminals

variable {σ α β : Type} {host : Host (StateM σ)} {lines : σ → List String}

/-- Lines are typed at a host: it reads them one after the other, and they stay as they are while it
writes. -/
structure Terminal (host : Host (StateM σ)) (lines : σ → List String) : Prop where
  reads : ∀ state, (host.readLine.run state).1 = (lines state).head?
  consumes : ∀ state, lines (host.readLine.run state).2 = (lines state).tail
  prints : ∀ text state, lines ((host.print text).run state).2 = lines state
  reports : ∀ text state, lines ((host.report text).run state).2 = lines state

/-- An action reads no line. -/
def Keeps (lines : σ → List String) (action : StateM σ α) : Prop :=
  ∀ state, lines (action.run state).2 = lines state

theorem bind_run (action : StateM σ α) (next : α → StateM σ β) (state : σ) :
    (action >>= next).run state = (next (action.run state).1).run (action.run state).2 :=
  rfl

theorem Keeps.bind {action : StateM σ α} {next : α → StateM σ β} (first : Keeps lines action)
    (second : ∀ value, Keeps lines (next value)) : Keeps lines (action >>= next) :=
  fun state => (second _ _).trans (first state)

theorem Keeps.forM {action : α → StateM σ PUnit} (each : ∀ item, Keeps lines (action item))
    (items : List α) : Keeps lines (items.forM action) := by
  induction items with
  | nil => exact fun _ => rfl
  | cons item items induction => exact (each item).bind fun _ => induction

end Terminals

/-! ## Answers to one question -/

/-- What lines answer to a question, and the lines that are left.  Lines that select nothing are
passed over; where the lines end, the answer is that there is none. -/
inductive Answers (choices : List OfferedChoice) : List String → Answer → List String → Prop
  | ended : Answers choices [] (.refuse .cancelled) []
  | picked {line : String} {rest : List String} {id : Nat} (selects : Selects choices line id) :
      Answers choices (line :: rest) (.pick id) rest
  | again {line : String} {rest left : List String} {answer : Answer}
      (rejected : ∀ id, ¬Selects choices line id) (answers : Answers choices rest answer left) :
      Answers choices (line :: rest) answer left

section Answers

variable {σ : Type} {host : Host (StateM σ)} {lines : σ → List String}
  {choices : List OfferedChoice}

theorem Answers.cases {typed left : List String} {answer : Answer}
    (answers : Answers choices typed answer left) :
    answer = .refuse .cancelled ∨
      ∃ line id, answer = .pick id ∧ Selects choices line id ∧ left.length < typed.length := by
  induction answers with
  | ended => exact Or.inl rfl
  | picked selects => exact Or.inr ⟨_, _, rfl, selects, Nat.lt_succ_self _⟩
  | again _ _ induction =>
      rcases induction with cancelled | ⟨line, id, picks, selects, fewer⟩
      · exact Or.inl cancelled
      · exact Or.inr ⟨line, id, picks, selects, Nat.lt_succ_of_lt fewer⟩

/-- Whoever asks reads one line, which is an answer or leads to asking again. -/
theorem askWithin_run (tries : Nat) (state : σ) :
    (askWithin host choices (tries + 1)).run state =
      let read := host.readLine.run ((host.report "> ").run state).2
      match read.1 with
      | none => (.refuse .cancelled, read.2)
      | some line =>
        match selection? choices line with
        | some id => (.pick id, read.2)
        | none =>
          (askWithin host choices tries).run
            ((host.reportLine
              ("pick a number between 1 and " ++ toString choices.length)).run read.2).2 := by
  -- What comes behind the line is found by unification.
  change (host.report "> " >>= fun _ => host.readLine >>= _ : StateM σ Answer).run state = _
  rw [bind_run, bind_run]
  obtain ⟨typed, after⟩ := host.readLine.run ((host.report "> ").run state).2
  cases typed with
  | none => rfl
  | some line =>
      dsimp only
      cases selection? choices line <;> rfl

/-- Whoever asks so many times gets the answer of the lines, unless there are as many of them. -/
theorem askWithin_answers (terminal : Terminal host lines) (choices : List OfferedChoice)
    (tries : Nat) (state : σ) :
    let asked := (askWithin host choices tries).run state
    Answers choices (lines state) asked.1 (lines asked.2) ∨
      asked.1 = .never ∧ tries ≤ (lines state).length := by
  induction tries generalizing state with
  | zero => exact Or.inr ⟨rfl, Nat.zero_le _⟩
  | succ tries induction =>
      have reads := terminal.reads ((host.report "> ").run state).2
      have consumes := terminal.consumes ((host.report "> ").run state).2
      rw [terminal.reports] at reads consumes
      rw [askWithin_run]
      dsimp only
      generalize host.readLine.run ((host.report "> ").run state).2 = read at reads consumes ⊢
      generalize lines state = typed at reads consumes ⊢
      cases typed with
      | nil =>
          rw [List.head?_nil] at reads
          simp only [reads, consumes]
          exact Or.inl .ended
      | cons line rest =>
          rw [List.head?_cons] at reads
          rw [List.tail_cons] at consumes
          simp only [reads]
          cases selected : selection? choices line with
          | some id =>
              simp only [consumes]
              exact Or.inl (.picked (selection?_eq_some_iff.mp selected))
          | none =>
              have asked := induction ((host.reportLine
                ("pick a number between 1 and " ++ toString choices.length)).run read.2).2
              rw [show lines ((host.reportLine _).run read.2).2 = rest from
                (terminal.reports _ _).trans consumes] at asked
              exact asked.imp (.again (selection?_eq_none_iff.mp selected))
                (And.imp_right Nat.succ_le_succ)

/-- Before it asks, a game shows what the machine has emitted and the options. -/
theorem choose_answers (terminal : Terminal host lines) (quiet : Bool) (machine : Machine)
    (choices : List OfferedChoice) (state : σ) :
    let asked := (choose host quiet machine choices).run state
    asked.1.1 = machine.clearOutput ∧
      (Answers choices (lines state) asked.1.2 (lines asked.2) ∨
        asked.1.2 = .never ∧ patience ≤ (lines state).length) := by
  obtain ⟨later, flushed, kept⟩ : ∃ later, (flush host quiet machine).run state =
      (machine.clearOutput, later) ∧ lines later = lines state := by
    cases quiet with
    | true => exact ⟨state, rfl, rfl⟩
    | false => exact ⟨_, rfl, terminal.prints _ state⟩
  let listed := ((listLines 1 choices).forM host.reportLine).run
    ((host.reportLine "").run later).2
  have listing : Keeps lines ((listLines 1 choices).forM host.reportLine) :=
    .forM (fun _ => terminal.reports _) _
  have same : lines listed.2 = lines state :=
    (listing _).trans ((terminal.reports _ _).trans kept)
  have asked : (choose host quiet machine choices).run state =
      ((machine.clearOutput, ((askWithin host choices patience).run listed.2).1),
        ((askWithin host choices patience).run listed.2).2) := by
    rw [choose, bind_run, flushed]
    rfl
  have answers := askWithin_answers terminal choices patience listed.2
  rw [same] at answers
  rw [asked]
  exact ⟨rfl, answers⟩

end Answers

/-! ## Dialogues -/

/-- What a machine that waits has told. -/
def waiting (machine : Machine) : Machine × RunResult :=
  (machine, some (.ok (.suspended machine.choices)))

/-- How a game goes on from what the machine has told: what it comes to with the lines that are
typed, and the lines that are left.  Each question is answered by some of the lines, and the option
that is picked is on offer; before a question, the output that has been shown is cleared. -/
inductive Dialogue (limit : Nat) :
    Machine × RunResult → List String → Machine → Ending → List String → Prop
  | completed {machine : Machine} {typed : List String} :
      Dialogue limit (machine, some (.ok .completed)) typed machine .completed typed
  | failed {machine : Machine} {typed : List String} {error : RuntimeError} :
      Dialogue limit (machine, some (.error error)) typed machine (.failed error) typed
  /-- The run takes more ticks than it may. -/
  | unfinished {machine : Machine} {typed : List String} :
      Dialogue limit (machine, none) typed machine .unfinished typed
  | cancelled {machine : Machine} {typed left : List String}
      (answers : Answers machine.choices typed (.refuse .cancelled) left) :
      Dialogue limit (waiting machine) typed machine.clearOutput.terminate (.aborted .cancelled)
        left
  | resumed {machine after : Machine} {typed rest left : List String} {id : Nat}
      {choice : PendingChoice} {ending : Ending}
      (answers : Answers machine.choices typed (.pick id) rest)
      (taken : machine.chosen? id = some choice)
      (goes_on : ∀ error, (machine.clearOutput.resume limit id).2 ≠ some (.error error))
      (dialogue : Dialogue limit (machine.clearOutput.resume limit id) rest after ending left) :
      Dialogue limit (waiting machine) typed after ending left
  /-- The run fails behind an answer. -/
  | broken {machine : Machine} {typed left : List String} {id : Nat} {choice : PendingChoice}
      {error : RuntimeError} (answers : Answers machine.choices typed (.pick id) left)
      (taken : machine.chosen? id = some choice)
      (fails : (machine.clearOutput.resume limit id).2 = some (.error error)) :
      Dialogue limit (waiting machine) typed (machine.clearOutput.resume limit id).1.terminate
        (.failed error) left

/-- How a game of a program ends: it is over, there is no line left, or an instruction of the
program fails. -/
inductive Concludes (program : Program) (natives : Registry) : Ending → Prop
  | completed : Concludes program natives .completed
  | cancelled : Concludes program natives (.aborted .cancelled)
  | failed {error : RuntimeError} {failing : Machine} (same_program : failing.program = program)
      (same_natives : failing.natives = natives) (raised : failing.tick.2 = .error error) :
      Concludes program natives (.failed error)

section Dialogues

variable {program : Program} {natives : Registry} {machine : Machine}
  {told : Machine × RunResult} {limit : Nat} {typed : List String}

/-- No game ends with an answer that is refused. -/
theorem Concludes.answered {ending : Ending} (concludes : Concludes program natives ending) :
    (∀ id, ending ≠ .aborted (.unknownChoice id)) ∧ ending ≠ .failed .notSuspended := by
  cases concludes with
  | completed | cancelled => exact ⟨by simp, by simp⟩
  | @failed error failing _ _ raised =>
      have own : error.ofInstruction = true :=
        Machine.tick_error_ofInstruction (Prod.ext rfl raised)
      refine ⟨by simp, ?_⟩
      rintro ⟨⟩
      simp [RuntimeError.ofInstruction] at own

/-! ## What runs tell -/

/-- What has been told comes from a run of a program. -/
structure OfProgram (program : Program) (natives : Registry) (told : Machine × RunResult) :
    Prop where
  same_program : told.1.program = program
  same_natives : told.1.natives = natives
  settled : Settled told.1
  stops : Stops told
  raises : ∀ error, told.2 = some (.error error) → Concludes program natives (.failed error)

theorem OfProgram.runFor (settled : Settled machine) (limit : Nat) :
    OfProgram machine.program machine.natives (Machine.runFor limit machine) := by
  have evolves := Machine.runFor_evolves limit machine
  refine ⟨evolves.program, evolves.natives, settled.runFor, Machine.runFor_stops settled limit,
    fun error failed => ?_⟩
  obtain ⟨before, failing, visits, ticked⟩ := Machine.runFor_eq_error failed
  have reached : Machine.Evolves machine failing :=
    (Machine.Course.begin.of_visited visits).1.evolves
  exact .failed reached.program reached.natives (by rw [ticked])

theorem OfProgram.run (settled : Settled machine) (limit : Nat) :
    OfProgram machine.program machine.natives (machine.run limit) := by
  cases paused : machine.paused with
  | false =>
      rw [Machine.run_of_awake paused]
      exact .runFor settled limit
  | true =>
      have stops := Machine.run_stops settled.closed limit
      rw [settled.run_paused paused] at stops ⊢
      exact ⟨rfl, rfl, settled, stops, by simp⟩

theorem OfProgram.resume {id : Nat} {choice : PendingChoice}
    (of_program : OfProgram program natives (waiting machine))
    (taken : machine.chosen? id = some choice) (limit : Nat) :
    OfProgram program natives (machine.clearOutput.resume limit id) := by
  have still : machine.clearOutput.chosen? id = some choice := taken
  have settled : Settled (machine.clearOutput.choose choice) := .of_awake rfl rfl
  obtain rfl := of_program.same_program
  obtain rfl := of_program.same_natives
  rw [Machine.resume_of_chosen still]
  exact .runFor settled limit

/-- What is told along with a question is that the machine waits. -/
theorem OfProgram.eq_waiting {choices : List OfferedChoice}
    (of_program : OfProgram program natives told)
    (suspends : Machine.question? told = some choices) : told = waiting told.1 := by
  obtain ⟨result, rfl, -⟩ := of_program.stops.question suspends
  exact Prod.ext rfl result

/-- A line that selects an option on offer to a machine that waits is not refused by it. -/
theorem Selects.exists_chosen {line : String} {id : Nat} (settled : Settled machine)
    (paused : machine.paused = true) (selects : Selects machine.choices line id) :
    ∃ choice, machine.chosen? id = some choice := by
  obtain ⟨offered, member, rfl⟩ := selects.exists_mem
  obtain ⟨choice, there⟩ := Machine.mem_choices member
  exact ⟨choice, Machine.chosen?_eq_some_iff.mpr ⟨(settled.waits paused).2, paused, there⟩⟩

/-! ## Games -/

theorem Dialogue.of_silent (silent : Machine.question? told = none) :
    Dialogue limit told typed told.1 (.ofResult told.2) typed := by
  obtain ⟨machine, _ | error | ⟨others⟩ | _⟩ := told
  · exact .unfinished
  · exact .failed
  · cases silent
  · exact .completed

/-- A game comes to an end like that of a program, unless a run takes more ticks than it may. -/
theorem Dialogue.concludes {after : Machine} {ending : Ending} {left : List String}
    (of_program : OfProgram program natives told)
    (dialogue : Dialogue limit told typed after ending left) :
    Concludes program natives ending ∨ ending = .unfinished := by
  induction dialogue with
  | completed => exact Or.inl .completed
  | failed => exact Or.inl (of_program.raises _ rfl)
  | unfinished => exact Or.inr rfl
  | cancelled => exact Or.inl .cancelled
  | resumed _ taken _ _ induction => exact induction (of_program.resume taken limit)
  | broken _ taken fails => exact Or.inl ((of_program.resume taken limit).raises _ fails)

variable {σ : Type} {host : Host (StateM σ)} {lines : σ → List String}

/-- A question is the last one of a game, or some lines pick an option and the game goes on with the
others. -/
theorem playFrom_waiting (terminal : Terminal host lines) (quiet : Bool)
    (of_program : OfProgram program natives (waiting machine)) (rounds : Nat) (state : σ) :
    let played := (Machine.playFrom (choose host quiet) limit (rounds + 1) machine
      (waiting machine).2).run state
    Dialogue limit (waiting machine) (lines state) played.1.1 played.1.2 (lines played.2) ∨
      (played.1.2 = .dropped ∧ patience ≤ (lines state).length) ∨
        ∃ id choice later, Answers machine.choices (lines state) (.pick id) (lines later) ∧
          (lines later).length < (lines state).length ∧ machine.chosen? id = some choice ∧
            (∀ error, (machine.clearOutput.resume limit id).2 ≠ some (.error error)) ∧
              played = (Machine.playFrom (choose host quiet) limit rounds
                (machine.clearOutput.resume limit id).1
                  (machine.clearOutput.resume limit id).2).run later := by
  obtain ⟨-, paused, -⟩ := of_program.stops.suspended _ rfl
  obtain ⟨cleared, answered⟩ := choose_answers terminal quiet machine machine.choices state
  rw [waiting, Machine.playFrom_run]
  generalize (choose host quiet machine machine.choices).run state = asked at cleared answered ⊢
  obtain ⟨⟨_, answer⟩, later⟩ := asked
  obtain rfl := cleared
  rcases answered with answers | ⟨rfl, many⟩
  · rcases answers.cases with rfl | ⟨line, id, rfl, selects, fewer⟩
    · exact Or.inl (.cancelled answers)
    · obtain ⟨choice, taken⟩ := selects.exists_chosen of_program.settled paused
      dsimp only
      split
      · rename_i error failed
        have own := ((of_program.resume taken limit).stops.failed error failed).2
        have ending : Ending.ofFailedAnswer error = .failed error := by
          cases error <;> first | rfl | cases own
        rw [ending]
        exact Or.inl (.broken answers taken failed)
      · rename_i goes_on
        exact Or.inr (Or.inr ⟨id, choice, later, answers, fewer, taken, goes_on, rfl⟩)
  · exact Or.inr (Or.inl ⟨rfl, many⟩)

/-- However a game goes on from what the machine has told, the lines that are typed decide it,
unless it is given up before they end. -/
theorem playFrom_dialogue (terminal : Terminal host lines) (quiet : Bool)
    (of_program : OfProgram program natives told) (rounds : Nat) (state : σ) :
    let played := (Machine.playFrom (choose host quiet) limit rounds told.1 told.2).run state
    Dialogue limit told (lines state) played.1.1 played.1.2 (lines played.2) ∨
      played.1.2 = .unfinished ∧ rounds ≤ (lines state).length ∨
        played.1.2 = .dropped ∧ patience ≤ (lines state).length := by
  induction rounds generalizing told state with
  | zero =>
      cases suspends : Machine.question? told with
      | none =>
          rw [Machine.playFrom_silent suspends]
          exact Or.inl (.of_silent suspends)
      | some choices =>
          rw [of_program.eq_waiting suspends]
          exact Or.inr (Or.inl ⟨rfl, Nat.zero_le _⟩)
  | succ rounds induction =>
      cases suspends : Machine.question? told with
      | none =>
          rw [Machine.playFrom_silent suspends]
          exact Or.inl (.of_silent suspends)
      | some choices =>
          obtain ⟨machine, rfl⟩ : ∃ machine, told = waiting machine :=
            ⟨_, of_program.eq_waiting suspends⟩
          -- A round that goes on has read a line, so there are fewer lines for fewer rounds.
          rcases playFrom_waiting terminal quiet of_program rounds state with
            last | dropped | ⟨id, choice, later, answers, fewer, taken, goes_on, played⟩
          · exact Or.inl last
          · exact Or.inr (Or.inr dropped)
          · have rest := induction (of_program.resume taken limit) later
            rw [← played] at rest
            rcases rest with dialogue | ⟨unfinished, many⟩ | ⟨dropped, many⟩
            · exact Or.inl (.resumed answers taken goes_on dialogue)
            · exact Or.inr (Or.inl ⟨unfinished, many.trans_lt fewer⟩)
            · exact Or.inr (Or.inr ⟨dropped, many.trans fewer.le⟩)

/-- Play at a terminal never picks an option that was not on offer.  Whatever running and answering
has made of a machine, and whatever lines are typed: a game that is not given up before the lines
end is decided by them.  Each question passes over the lines that select nothing, and asks for the
same options again; a line selects the option whose number it reads as, or the first one whose title
it is; and the machine takes what is selected.  The game ends because the machine is over, no line is
left, or an instruction of the program fails, never because an answer is refused. -/
theorem terminal_picks_offered {fresh : Machine}
    (created : Machine.create program natives = .ok fresh) (random : Machine.Random)
    {events : List Machine.Event}
    (history : Machine.History (fun _ operation => operation.Plays) { fresh with random } events
      machine)
    (terminal : Terminal host lines) (quiet : Bool) (limit rounds : Nat) (state : σ) :
    let played := (machine.play (choose host quiet) limit rounds).run state
    let ending := played.1.2
    (Dialogue limit (machine.run limit) (lines state) played.1.1 ending (lines played.2) ∨
      ending = .unfinished ∧ rounds ≤ (lines state).length ∨
        ending = .dropped ∧ patience ≤ (lines state).length) ∧
      (Concludes program natives ending ∨ ending = .unfinished ∨ ending = .dropped) ∧
        ((∀ id, ending ≠ .aborted (.unknownChoice id)) ∧ ending ≠ .failed .notSuspended) ∧
          ∀ choices line id, selection? choices line = some id ↔ Selects choices line id := by
  intro played ending
  have settled : Settled machine :=
    history.settled (fun _ _ plays => plays.patient) (.create created random)
  have of_program : OfProgram program natives (machine.run limit) := by
    have evolves := history.evolves
    have same_program : machine.program = program := by
      rw [evolves.program, Machine.create_eq created]
    have same_natives : machine.natives = natives := by
      rw [evolves.natives, Machine.create_eq created]
    rw [← same_program, ← same_natives]
    exact .run settled limit
  have dialogue :
      Dialogue limit (machine.run limit) (lines state) played.1.1 ending (lines played.2) ∨
        ending = .unfinished ∧ rounds ≤ (lines state).length ∨
          ending = .dropped ∧ patience ≤ (lines state).length :=
    playFrom_dialogue terminal quiet of_program rounds state
  have concludes : Concludes program natives ending ∨ ending = .unfinished ∨
      ending = .dropped := by
    rcases dialogue with decided | ⟨unfinished, -⟩ | ⟨dropped, -⟩
    · exact (decided.concludes of_program).imp_right Or.inl
    · exact Or.inr (Or.inl unfinished)
    · exact Or.inr (Or.inr dropped)
  refine ⟨dialogue, concludes, ?_, fun choices line id => selection?_eq_some_iff⟩
  rcases concludes with ends | unfinished | dropped
  · exact ends.answered
  · simp [unfinished]
  · simp [dropped]

end Dialogues

/-- A host at which lines are typed, and which shows nothing. -/
private def typewriter : Host (StateM (List String)) where
  readText _ := return .error .missing
  writeText _ _ := return .error .missing
  tree? _ := return none
  readLine := modifyGet fun typed => (typed.head?, typed.tail)
  print _ := return ()
  report _ := return ()
  freshSeed := return 0

/-- A program that offers two ways; one of them is called by a number. -/
private def crossingProgram : Program where
  instructions :=
    [.pushString "2", .pushNumber 8, .invoke "response", .pushString "Right", .pushNumber 8,
      .invoke "response", .invoke "getResponse", .invoke "goto"]
  labels := Table.empty
  blocks := []
  linked := rfl
  labels_le := by simp [Table.empty]

/-- The machine of this program at its start. -/
private def crossing : Machine where
  program := crossingProgram
  natives := Registry.quest
  stack := []
  context := Table.empty
  counter := 0
  exited := false
  paused := false
  queued := []
  offered := []
  random := .ofSeed 0
  output := []

/-- Lines that select nothing, the second way, and nothing that is asked for any more. -/
private def crossingLines : List String := ["", "3", "left", " RIGHT ", "later"]

theorem terminal_picks_offered_crossing :
    let played := (crossing.play (choose typewriter true) 16 2).run crossingLines
    Machine.create crossingProgram Registry.quest = .ok crossing ∧
      (crossing.run 16).1.choices = [⟨0, "2"⟩, ⟨1, "Right"⟩] ∧
        Dialogue 16 (crossing.run 16) crossingLines played.1.1 .completed ["later"] ∧
          Selects (crossing.run 16).1.choices "2" 1 := by
  have created : Machine.create crossingProgram Registry.quest = .ok crossing := rfl
  have history : Machine.History (fun _ operation => operation.Plays)
      { crossing with random := .ofSeed 0 } [] crossing := .begin
  have terminal : Terminal typewriter id :=
    ⟨fun _ => rfl, fun _ => rfl, fun _ _ => rfl, fun _ _ => rfl⟩
  obtain ⟨plays, -, -, selects⟩ :=
    terminal_picks_offered created (.ofSeed 0) history terminal true 16 2 crossingLines
  have ended : ((crossing.play (choose typewriter true) 16 2).run crossingLines).1.2 = .completed ∧
      ((crossing.play (choose typewriter true) 16 2).run crossingLines).2 = ["later"] := by
    decide +kernel
  refine ⟨created, by decide +kernel, ?_, (selects _ _ _).mp (by decide +kernel)⟩
  generalize (crossing.play (choose typewriter true) 16 2).run crossingLines = played
    at plays ended ⊢
  rw [ended.1, id, id, ended.2] at plays
  simpa using plays

end Gamebook.CommandLine
