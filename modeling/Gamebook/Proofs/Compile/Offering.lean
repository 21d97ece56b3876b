import Gamebook.Proofs.Compile.Enclosure
import Gamebook.Proofs.Compile.Jumps

/-!
# Offering an option

The instructions of an option test whether it was chosen before, test its preconditions, and queue
it with the offset of its effects, which are skipped.  Each test leads into a block or behind it, so
the option is passed in one of a few ways, whatever state the machine is in and whatever code stands
around the option or among its effects.  All that is asked is that its own code is balanced.
-/

namespace Gamebook

namespace Machine

variable {first second last machine : Machine} {instruction : Instruction}

/-- Ticks that all succeed lead from one machine to another. -/
def Reaches (first last : Machine) : Prop :=
  ∃ count, ticks count first = (last, .ok ())

namespace Reaches

theorem refl (machine : Machine) : Reaches machine machine := ⟨0, rfl⟩

theorem step (running : first.exited = false)
    (here : first.program.get? first.counter = some instruction)
    (executes : Executes first instruction second) (reaches : Reaches second last) :
    Reaches first last := by
  obtain ⟨count, ticked⟩ := reaches
  refine ⟨count + 1, ?_⟩
  rw [ticks, (tick_eq_ok_iff running here).mpr executes]
  exact ticked

theorem trans (left : Reaches first second) (right : Reaches second last) :
    Reaches first last := by
  obtain ⟨count, ticked⟩ := left
  induction count generalizing first with
  | zero =>
      cases ticked
      exact right
  | succ count induction =>
      rw [ticks] at ticked
      cases result : first.tick with
      | mk next reply =>
          rw [result] at ticked
          cases reply with
          | error error => cases ticked
          | ok =>
              obtain ⟨later, ticked_on⟩ := induction ticked
              refine ⟨later + 1, ?_⟩
              rw [ticks, result]
              exact ticked_on

/-- Closing braces are passed. -/
theorem closing {code : List Instruction} (running : machine.exited = false)
    (braces : ∀ instruction ∈ code, instruction = .closeBlock)
    (holds : machine.program.Holds machine.counter code) :
    Reaches machine { machine with counter := machine.counter + code.length } := by
  induction code generalizing machine with
  | nil => exact refl machine
  | cons brace rest induction =>
      obtain rfl := braces brace List.mem_cons_self
      let next : Machine := { machine with counter := machine.counter + 1 }
      have later : Reaches next { next with counter := next.counter + rest.length } :=
        induction running (fun other member => braces other (List.mem_cons_of_mem _ member))
          holds.tail
      rw [List.length_cons, Nat.add_comm rest.length, ← Nat.add_assoc]
      exact step running holds.head .close later

end Reaches

end Machine

namespace Compile

open Machine (Reaches)
open Story (Choice Content Document Settings)

variable {settings : Settings} {document : Document} {program : Program} {machine : Machine}

/-! ## Places within an option -/

namespace Site

variable (site : Site document) {flag : String}

/-- The offset behind the test whether the option was chosen: that of its preconditions, or of its
title if there are none. -/
def tested (settings : Settings) : Nat :=
  site.start settings + (codeOf (onceLead site.flag?)).length

/-- The offset behind the preconditions: that of the branch on them, or of the title if there are
none. -/
def judged (settings : Settings) : Nat :=
  site.tested settings + (codeOf (site.choice.preconditions.map preconditionStep)).length

theorem tested_eq_heading (unguarded : site.choice.preconditions = []) :
    site.tested settings = site.heading settings := by
  simp [tested, heading, lead, leadSteps, guardLead, unguarded,
    (directiveWarnings_warns site.choice).code, (titleWarnings_warns site.choice).code]

theorem judged_add_two (guarded : site.choice.preconditions ≠ []) :
    site.judged settings + 2 = site.heading settings := by
  simp [judged, tested, heading, lead, leadSteps, guardLead, guarded, Step.code, Step.invoke,
    (directiveWarnings_warns site.choice).code, (titleWarnings_warns site.choice).code]
  omega

theorem opens_guard : site.opens settings .guard = site.judged settings + 1 := by
  simp [opens, ahead, guardTest, judged, tested, Step.code, Step.invoke,
    (directiveWarnings_warns site.choice).code]
  omega

theorem isOnce_of_flag? (flagged : site.flag? = some flag) : site.choice.isOnce = true := by
  by_contra not_once
  simp [flag?, not_once] at flagged

theorem opens_once (flagged : site.flag? = some flag) :
    site.opens settings .once = site.start settings + 3 := by
  simp [opens, ahead, flagged, onceTest, Step.code, Step.push, Step.invoke,
    (directiveWarnings_warns site.choice).code]

theorem stop_eq_closes (bracket : Bracket) (has : site.Has bracket) (settings : Settings) :
    site.stop settings =
      site.closes settings bracket + 1 + (codeOf (site.behind bracket)).length := by
  rw [stop, site.steps_around has, closes, opens]
  simp only [codeOf_append, block_code, List.length_append, List.length_cons, List.length_nil]
  omega

theorem trail_braces : ∀ instruction ∈ codeOf site.trail, instruction = .closeBlock := by
  intro instruction member
  simp only [trail, trailSteps, codeOf_append, List.mem_append] at member
  rcases member with member | member <;> split at member <;> simp_all [Step.code]

theorem behind_guard_braces :
    ∀ instruction ∈ codeOf (site.behind .guard), instruction = .closeBlock := by
  intro instruction member
  rw [behind] at member
  split at member <;> simp_all [Step.code]

end Site

namespace Laid

variable (laid : Laid (script settings document) program) (site : Site document)

include laid

/-- Steps around which the layout puts braces are a block if the code between these is balanced. -/
theorem bracket_block (bracket : Bracket) (has : site.Has bracket)
    (balanced : ∀ content ∈ site.enclosed bracket, content.IsBalanced) :
    program.blockEnd? (site.opens settings bracket) = some (site.closes settings bracket) :=
  (laid.bracket_holds site has).blockEnd? (site.inside_balanced balanced settings)

theorem behind_holds (bracket : Bracket) (has : site.Has bracket) :
    program.Holds (site.closes settings bracket + 1) (codeOf (site.behind bracket)) := by
  have holds := laid.holds site.script_eq
  rw [site.steps_around has, codeOf_append, codeOf_append, block_code] at holds
  have place : (codeOf (site.before settings)).length + (codeOf (site.ahead bracket)).length +
      (Instruction.openBlock :: (codeOf (site.inside settings bracket) ++ [.closeBlock])).length =
        site.closes settings bracket + 1 := by
    simp only [Site.closes, Site.opens, Site.start, List.length_cons, List.length_append,
      List.length_nil]
    omega
  exact place ▸ holds.right.right

/-- The test whether an option was chosen. -/
theorem once_holds {flag : String} (flagged : site.flag? = some flag) :
    program.Holds (site.start settings) [.pushString flag, .invoke "hasContext", .invoke "jz"] := by
  have holds := laid.holds site.script_eq
  have once : site.Has .once := site.isOnce_of_flag? flagged
  rw [site.steps_around once, codeOf_append] at holds
  simpa [Site.ahead, flagged, onceTest, (directiveWarnings_warns site.choice).code, Step.code,
    Step.push, Step.invoke, Site.start] using holds.left

/-- The preconditions of an option, and the branch on them. -/
theorem guard_holds (guarded : site.choice.preconditions ≠ []) :
    program.Holds (site.tested settings)
      (codeOf (site.choice.preconditions.map preconditionStep) ++ [.invoke "jgz"]) := by
  have holds := laid.holds site.script_eq
  rw [site.steps_around (show site.Has .guard from guarded), codeOf_append] at holds
  have ahead : codeOf (site.ahead .guard) = codeOf (onceLead site.flag?) ++
      (codeOf (site.choice.preconditions.map preconditionStep) ++ [.invoke "jgz"]) := by
    simp [Site.ahead, guardTest, (directiveWarnings_warns site.choice).code, Step.code, Step.invoke]
  rw [ahead] at holds
  exact holds.left.right

theorem preconditions_hold : program.Holds (site.tested settings)
    (codeOf (site.choice.preconditions.map preconditionStep)) := by
  rcases eq_or_ne site.choice.preconditions [] with unguarded | guarded
  · have holds := laid.header_holds site
    rw [← site.tested_eq_heading unguarded] at holds
    rw [unguarded]
    have holds : program.Holds (site.tested settings) ([] ++ _) := holds
    exact holds.left
  · exact (laid.guard_holds site guarded).left

end Laid

/-! ## The ways through an option -/

/-- A machine in the course of a program, at any point of it and in any state. -/
structure Within (program : Program) (machine : Machine) : Prop where
  program : machine.program = program
  natives : machine.natives = Registry.quest
  running : machine.exited = false

theorem Within.registered (within : Within program machine) (native : Native) :
    machine.natives.get? native.questName = some native := by
  rw [within.natives]
  exact Registry.quest_get?_iff.mpr rfl

section Ways

variable (laid : Laid (script settings document) program) (site : Site document)
  (balanced : ∀ content ∈ site.choice.preconditions ++ site.choice.effects, content.IsBalanced)
  (within : Within program machine)

include laid balanced within

/-- The test whether an option was chosen leads behind the option, or to what follows the test. -/
theorem once_passed {flag : String} (flagged : site.flag? = some flag)
    (counter : machine.counter = site.start settings) :
    Reaches machine
      { machine with
        counter := if machine.context.contains flag then site.stop settings
          else site.tested settings } := by
  have once := site.isOnce_of_flag? flagged
  have holds := laid.once_holds site flagged
  have block := laid.bracket_block site .once once balanced
  have stop := site.stop_eq_closes .once once settings
  have tested : site.tested settings = site.start settings + 4 := by
    simp [Site.tested, flagged, onceLead, Step.code, Step.push, Step.invoke]
  rw [site.opens_once flagged] at block
  rw [show codeOf (site.behind .once) = [] from rfl, List.length_nil, Nat.add_zero] at stop
  rw [← within.program, ← counter] at holds block
  rw [stop, tested, ← counter]
  exact .step within.running holds.head (.pushString flag) <|
    .step within.running holds.tail.head
        (Machine.executes_hasContext (within.registered .hasContext) rfl) <|
      .step within.running holds.tail.tail.head
        (Machine.executes_enterIfZero (within.registered .enterIfZero) rfl block) (.refl _)

/-- From its title on, an option is queued. -/
theorem title_passed (exact : site.entry settings < 2 ^ 53)
    (counter : machine.counter = site.heading settings) :
    Reaches machine
      { machine with
        queued := machine.queued ++ [⟨site.choice.text.getD "", site.entry settings⟩]
        counter := site.stop settings } := by
  have holds := laid.header_holds site
  have block := laid.effects_block site fun content member =>
    balanced content (List.mem_append_right _ member)
  have behind : program.Holds (site.closing settings + 1)
      (.invoke "response" :: codeOf site.trail) := by
    have place : site.heading settings + 1 + 1 + 1 + 1 + (Instruction.openBlock ::
        (codeOf (site.effects settings) ++ [.closeBlock])).length = site.closing settings + 1 := by
      simp only [Site.closing, Site.entry, Site.opening, List.length_cons, List.length_append,
        List.length_nil]
      omega
    exact place ▸ holds.tail.tail.tail.tail.right
  rw [← within.program] at holds block behind
  rw [← counter] at holds
  have sum := site.entry_sum exact
  rw [← counter] at sum
  have opening : site.opening settings = machine.counter + 1 + 1 + 1 + 1 := by
    rw [counter, Site.opening]
  -- Four instructions put the title and the offset of the effects on the stack.
  let pushed : Machine :=
    { machine with
      stack := .ofOffset (site.entry settings) :: .string (site.choice.text.getD "") ::
        machine.stack
      counter := site.opening settings }
  have pushes : Reaches machine pushed := by
    simp only [pushed, opening, ← sum]
    exact .step within.running holds.head (.pushString _) <|
      .step within.running holds.tail.head
          (Machine.executes_ownOffset (within.registered .ownOffset)) <|
        .step within.running holds.tail.tail.head (.pushNumber 4) <|
          .step within.running holds.tail.tail.tail.head
            (Machine.executes_add (within.registered .add) rfl) (.refl _)
  let queued : Machine :=
    { machine with
      queued := machine.queued ++ [⟨site.choice.text.getD "", site.entry settings⟩]
      counter := site.closing settings + 2 }
  have opens : machine.program.get? (site.opening settings) = some .openBlock := by
    rw [opening]
    exact holds.tail.tail.tail.tail.head
  have queues : Reaches pushed queued :=
    .step within.running opens (.skip block) <|
      .step within.running behind.head
        (.respond (within.registered .response) rfl (Machine.natural?_toFloat exact)) (.refl _)
  have closes : Reaches queued
      { queued with counter := queued.counter + (codeOf site.trail).length } :=
    .closing within.running site.trail_braces behind.tail
  rw [site.stop_eq]
  exact (pushes.trans queues).trans closes

/-- The branch on the preconditions leads into the block of an option, which queues it, or behind. -/
theorem guard_passed (guarded : site.choice.preconditions ≠ []) {value : Float}
    {rest : List Value} (exact : 0 < value → site.entry settings < 2 ^ 53)
    (counter : machine.counter = site.judged settings)
    (stack : machine.stack = .number value :: rest) :
    Reaches machine
      { machine with
        stack := rest
        queued := machine.queued ++
          if 0 < value then [⟨site.choice.text.getD "", site.entry settings⟩] else []
        counter := site.stop settings } := by
  have here := (laid.guard_holds site guarded).right.head
  have block := laid.bracket_block site .guard guarded fun content member =>
    balanced content (List.mem_append_right _ member)
  rw [site.opens_guard] at block
  change program.get? (site.judged settings) = _ at here
  rw [← within.program, ← counter] at here block
  have branches := Machine.Executes.branch (within.registered .enterIfPositive) rfl stack block
  -- A positive number leads to the title, any other one behind the block.
  split
  · rename_i holds
    simp only [decide_eq_true_eq, holds, if_true] at branches
    let entered : Machine := { machine with stack := rest, counter := machine.counter + 2 }
    have within_block : Within program entered :=
      ⟨within.program, within.natives, within.running⟩
    exact .step within.running here branches
      (title_passed laid site balanced within_block (exact holds)
        ((congrArg (· + 2) counter).trans (site.judged_add_two guarded)))
  · rename_i fails
    simp only [decide_eq_true_eq, fails, if_false] at branches
    have behind := laid.behind_holds site .guard guarded
    rw [← within.program] at behind
    let passed : Machine :=
      { machine with stack := rest, counter := site.closes settings .guard + 1 }
    have closes : Reaches passed
        { passed with counter := passed.counter + (codeOf (site.behind .guard)).length } :=
      .closing within.running site.behind_guard_braces behind
    rw [site.stop_eq_closes .guard guarded, List.append_nil]
    exact .step within.running here branches closes

end Ways

/-- What stands at the offsets of an option. -/
structure Placed (settings : Settings) (site : Site document) (program : Program) : Prop where
  /-- All its instructions, from its first one. -/
  option : program.Holds (site.start settings) (codeOf (site.steps settings))
  /-- Its preconditions, at once if the option does not disappear when it is chosen. -/
  preconditions : program.Holds (site.tested settings)
    (codeOf (site.choice.preconditions.map preconditionStep))
  unflagged : site.flag? = none → site.tested settings = site.start settings
  /-- The branch on its preconditions. -/
  branch : site.choice.preconditions ≠ [] →
    program.get? (site.judged settings) = some (.invoke "jgz")
  /-- Its title, which follows the test whether it was chosen if there are no preconditions. -/
  title : program.get? (site.heading settings) = some (.pushString (site.choice.text.getD ""))
  unguarded : site.choice.preconditions = [] → site.tested settings = site.heading settings
  /-- The block of its effects, and what is in it. -/
  block : program.blockEnd? (site.opening settings) = some (site.closing settings)
  effects : program.Holds (site.entry settings) (codeOf (site.effects settings))

/-- The ways in which machines pass an option. -/
structure Passed (settings : Settings) (site : Site document) (program : Program) : Prop where
  /-- An option that disappears and was chosen is passed as a whole. -/
  chosen : ∀ (machine : Machine) (flag : String), Within program machine →
    site.flag? = some flag → machine.context.contains flag = true →
      machine.counter = site.start settings →
        Reaches machine { machine with counter := site.stop settings }
  /-- One that was not chosen is tested next. -/
  fresh : ∀ (machine : Machine) (flag : String), Within program machine →
    site.flag? = some flag → machine.context.contains flag = false →
      machine.counter = site.start settings →
        Reaches machine { machine with counter := site.tested settings }
  /-- From the branch on the preconditions, the number that they have left is popped, and the option
  is queued if it is positive. -/
  judged : ∀ (machine : Machine) (value : Float) (rest : List Value), Within program machine →
    site.choice.preconditions ≠ [] → (0 < value → site.entry settings < 2 ^ 53) →
      machine.counter = site.judged settings → machine.stack = .number value :: rest →
        Reaches machine
          { machine with
            stack := rest
            queued := machine.queued ++
              if 0 < value then [⟨site.choice.text.getD "", site.entry settings⟩] else []
            counter := site.stop settings }
  /-- From the title on, it is queued. -/
  titled : ∀ machine : Machine, Within program machine → site.entry settings < 2 ^ 53 →
    machine.counter = site.heading settings →
      Reaches machine
        { machine with
          queued := machine.queued ++ [⟨site.choice.text.getD "", site.entry settings⟩]
          counter := site.stop settings }

/-- An option of a document that compiles, with balanced code of its own, is offered in the same way
whatever state a machine in the course of the program is in, and whatever code stands around it.
Apart from the counter, a test whether it was chosen changes nothing, the branch on its
preconditions pops their number, and all that is added is one option in the queue, with the title,
which may be empty, and the offset of the effects.  Offsets are exact below `2 ^ 53`. -/
theorem option_offered {compiled : Compiled} (accepted : compile document = .ok compiled)
    (read : Settings.ofTable document.settings = .ok settings) (site : Site document)
    (balanced : ∀ content ∈ site.choice.preconditions ++ site.choice.effects, content.IsBalanced) :
    Placed settings site compiled.program ∧ Passed settings site compiled.program := by
  obtain ⟨found, read_found, laid⟩ := compile_laid accepted
  obtain rfl : found = settings := Except.ok.inj (read_found.symm.trans read)
  have header := laid.header_holds site
  have effects : ∀ content ∈ site.choice.effects, content.IsBalanced :=
    fun content member => balanced content (List.mem_append_right _ member)
  have placed : Placed found site compiled.program :=
    { option := laid.holds site.script_eq
      preconditions := laid.preconditions_hold site
      unflagged := fun unflagged => by simp [Site.tested, unflagged, onceLead]
      branch := fun guarded => (laid.guard_holds site guarded).right.head
      title := header.head
      unguarded := site.tested_eq_heading
      block := laid.effects_block site effects
      effects := header.tail.tail.tail.tail.left.tail.left }
  refine ⟨placed, ⟨?_, ?_, ?_, ?_⟩⟩
  · intro machine flag within flagged contained counter
    simpa [contained] using once_passed laid site balanced within flagged counter
  · intro machine flag within flagged missing counter
    simpa [missing] using once_passed laid site balanced within flagged counter
  · intro machine value rest within guarded exact counter stack
    exact guard_passed laid site balanced within guarded exact counter stack
  · intro machine within exact counter
    exact title_passed laid site balanced within exact counter

/-! ## A gate -/

/-- Code that tests whether there is a torch. -/
def torchCode : String := "\"torch\" hasContext"

/-- An option that disappears when it is chosen and needs a torch.  Its effects have a block of
their own. -/
def gateChoice : Choice :=
  ⟨some "enter", none, [Story.onceDirective], [.code torchCode ⟨0, 0⟩],
    [.code blockCode ⟨0, 0⟩], ⟨0, 0⟩⟩

/-- A story of one state with that option. -/
def gate : Document :=
  ⟨Table.empty, [⟨"gate", [], [gateChoice], ⟨0, 0⟩⟩]⟩

/-- The option of the gate. -/
def gateSite : Site gate where
  earlierStates := []
  state := ⟨"gate", [], [gateChoice], ⟨0, 0⟩⟩
  laterStates := []
  earlierChoices := []
  choice := gateChoice
  laterChoices := []
  states := rfl
  choices := rfl

/-- The program of the gate. -/
def gateProgram : Program where
  instructions :=
    [.pushString "__once__0", .invoke "hasContext", .invoke "jz", .openBlock, .pushString "torch",
      .invoke "hasContext", .invoke "jgz", .openBlock, .pushString "enter", .invoke "ppc",
      .pushNumber 4, .invoke "+", .openBlock, .pushNumber 1, .pushString "__once__0",
      .invoke "setContext", .pushNumber 0, .invoke "jz", .openBlock, .invoke "exit", .closeBlock,
      .pushString "gate__options", .invoke "goto", .closeBlock, .invoke "response", .closeBlock,
      .closeBlock, .invoke "getResponse", .invoke "goto", .invoke "exit"]
  labels := Table.ofList [("gate", 0), ("gate__options", 0)]
  blocks := [⟨18, 20⟩, ⟨12, 23⟩, ⟨7, 25⟩, ⟨3, 26⟩]
  linked := rfl
  labels_le := by decide

/-- The machine at the branch on the preconditions, with some flag set and an option in the queue.
-/
def gateMachine (flag : String) : Machine :=
  { program := gateProgram, natives := Registry.quest, stack := [.number 1, .string "kept"]
    context := Table.ofList [(flag, .number 1)], counter := 6, exited := false, paused := false
    queued := [⟨"wait", 0⟩], offered := [], random := .ofSeed 0, output := [] }

theorem gate_balanced :
    ∀ content ∈ gateChoice.preconditions ++ gateChoice.effects, content.IsBalanced := by
  intro content member code found fragment compiled
  have listed : content = .code torchCode ⟨0, 0⟩ ∨ content = .code blockCode ⟨0, 0⟩ := by
    simpa [gateChoice] using member
  rcases listed with rfl | rfl
  · cases found
    have compiles : Code.compile torchCode =
        .ok ⟨[.pushString "torch", .invoke "hasContext"], Table.empty⟩ := by decide +kernel
    cases compiles.symm.trans compiled
    exact .of_braceless (by simp) (by simp)
  · cases found
    have compiles : Code.compile blockCode =
        .ok ⟨[.pushNumber 0, .invoke "jz", .openBlock, .invoke "exit", .closeBlock],
          Table.empty⟩ := by decide +kernel
    cases compiles.symm.trans compiled
    exact ⟨[⟨2, 4⟩], rfl⟩

theorem option_offered_gate :
    Reaches { gateMachine "__once__0" with counter := 0 }
        { gateMachine "__once__0" with counter := 27 } ∧
      Reaches { gateMachine "torch" with counter := 0 }
        { gateMachine "torch" with counter := 4 } ∧
      Reaches (gateMachine "torch")
        { gateMachine "torch" with
          stack := [.string "kept"], queued := [⟨"wait", 0⟩, ⟨"enter", 13⟩], counter := 27 } := by
  have compiles : (compile gate).toOption.map Compiled.program = some gateProgram := by
    decide +kernel
  obtain ⟨compiled, accepted, program⟩ := exists_compiled compiles
  have read : Settings.ofTable gate.settings = .ok .default := rfl
  obtain ⟨-, passed⟩ := option_offered accepted read gateSite gate_balanced
  rw [program] at passed
  have start : gateSite.start .default = 0 := rfl
  have tested : gateSite.tested .default = 4 := rfl
  have judged : gateSite.judged .default = 6 := by decide +kernel
  have entry : gateSite.entry .default = 13 := by decide +kernel
  have stop : gateSite.stop .default = 27 := by decide +kernel
  refine ⟨?_, ?_, ?_⟩
  · have reaches := passed.chosen { gateMachine "__once__0" with counter := 0 } "__once__0"
      ⟨rfl, rfl, rfl⟩ rfl rfl start.symm
    rwa [stop] at reaches
  · have reaches := passed.fresh { gateMachine "torch" with counter := 0 } "__once__0"
      ⟨rfl, rfl, rfl⟩ rfl (by decide) start.symm
    rwa [tested] at reaches
  · have reaches := passed.judged (gateMachine "torch") 1 [.string "kept"] ⟨rfl, rfl, rfl⟩
      (by simp [gateSite, gateChoice]) (fun _ => by rw [entry]; decide) judged.symm rfl
    have positive : (0 : Float) < 1 := by decide
    rw [if_pos positive, entry, stop] at reaches
    exact reaches

end Compile

end Gamebook
