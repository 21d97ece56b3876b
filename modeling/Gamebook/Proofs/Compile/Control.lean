import Gamebook.Proofs.Compile.Stage
import Gamebook.Proofs.Machine.Offset

/-!
# Control flow in orderly documents

Playing an orderly document keeps an invariant: options that are queued or on offer stand for the
first instruction of their effects, what instructions in a row put on the stack lies there behind
them, an answer hands the program the offset of effects, and the block of effects is not left through
its closing brace.  So jumps lead to labels and to the effects of options only.
-/

namespace Gamebook.Compile

open Machine (Course Event Evolves Executes Framed Lands Leads)
open Story (Document Settings)

variable {settings : Settings} {document : Document} {start machine previous : Machine}
  {events : List Event} {instruction : Instruction}

/-- A machine in the midst of a run: it is neither over nor does it wait. -/
structure Playing (start machine : Machine) : Prop where
  program : machine.program = start.program
  natives : machine.natives = start.natives
  running : machine.exited = false
  awake : machine.paused = false

/-- Values that lie on top of the stack wherever control comes to an offset.  Each instruction that
puts them there is followed by the next one only: it is neither a brace nor a request for a choice,
and no label leads behind it. -/
inductive Stacked (start : Machine) : Nat → List Value → Prop
  | bare (offset : Nat) : Stacked start offset []
  | behind {offset : Nat} {before : Instruction} {values next : List Value}
      (stacked : Stacked start offset values)
      (there : start.program.get? offset = some before) (no_open : before ≠ .openBlock)
      (no_close : before ≠ .closeBlock) (no_request : before ≠ .invoke "getResponse")
      (no_label : ∀ label, start.program.label? label ≠ some (offset + 1))
      (puts : ∀ machine after rest, Playing start machine → machine.counter = offset →
        machine.stack = values ++ rest → Executes machine before after →
          after.stack = next ++ rest) : Stacked start (offset + 1) next

theorem Stacked.pushString {offset : Nat} {text : String} {values : List Value}
    (stacked : Stacked start offset values)
    (there : start.program.get? offset = some (.pushString text))
    (no_label : ∀ label, start.program.label? label ≠ some (offset + 1)) :
    Stacked start (offset + 1) (.string text :: values) := by
  refine stacked.behind there (by simp) (by simp) (by simp) no_label ?_
  intro machine after rest _ _ stack executes
  rw [executes.unique (.pushString text), stack, List.cons_append]

/-- What holds of every machine while an orderly document is played. -/
structure Sound (document : Document) (settings : Settings) (start machine : Machine) : Prop where
  /-- Options stand for the first instruction of their effects. -/
  options : ∀ choice, choice ∈ machine.queued ∨ choice ∈ machine.offered →
    ∃ site : Site document, choice.offset = site.entry settings
  /-- A machine that waits stands behind the request for a choice. -/
  asked : machine.exited = false → machine.paused = true →
    ∃ offset, machine.counter = offset + 1 ∧
      start.program.get? offset = some (.invoke "getResponse")
  /-- What instructions in a row put on the stack lies there. -/
  stacked : machine.exited = false → machine.paused = false → ∀ offset values,
    Stacked start offset values → machine.counter = offset →
      ∃ rest, machine.stack = values ++ rest
  /-- At a jump behind the request for a choice the offset of effects is on the stack. -/
  resumed : machine.exited = false → machine.paused = false → ∀ offset,
    start.program.get? offset = some (.invoke "getResponse") →
      start.program.get? (offset + 1) = some (.invoke "goto") → machine.counter = offset + 1 →
        ∃ (site : Site document) (rest : List Value),
          machine.stack = .ofOffset (site.entry settings) :: rest
  /-- The closing brace of effects is not reached. -/
  closed : machine.exited = false → machine.paused = false → ∀ site : Site document,
    machine.counter ≠ site.closing settings
  /-- Where an option is queued, the offset of its effects is on the stack. -/
  queueing : machine.exited = false → machine.paused = false → ∀ site : Site document,
    machine.counter = site.closing settings + 1 →
      ∃ (title : String) (rest : List Value),
        machine.stack = .ofOffset (site.entry settings) :: .string title :: rest

/-- A machine whose run has ended is sound if its options are. -/
theorem Sound.of_exited (exited : machine.exited = true)
    (options : ∀ choice, choice ∈ machine.queued ∨ choice ∈ machine.offered →
      ∃ site : Site document, choice.offset = site.entry settings) :
    Sound document settings start machine :=
  ⟨options, by simp [exited], by simp [exited], by simp [exited], by simp [exited],
    by simp [exited]⟩

/-- What is asked of a sound machine does not depend on its context. -/
theorem Sound.withContext (sound : Sound document settings start machine)
    (values : List (String × Value)) :
    Sound document settings start (machine.withContext values) :=
  ⟨sound.options, sound.asked, sound.stacked, sound.resumed, sound.closed, sound.queueing⟩

/-- The number four and the offset behind the title make up the offset of the effects, if that one is
represented exactly. -/
theorem Site.entry_sum (site : Site document) (exact : site.entry settings < 2 ^ 53) :
    Value.number (4 + (site.heading settings + 1).toUInt64.toFloat) =
      .ofOffset (site.entry settings) := by
  have entry : site.entry settings = 4 + (site.heading settings + 1) := by
    simp only [Site.entry, Site.opening]
    omega
  rw [entry] at exact ⊢
  rw [← Value.ofOffset_add exact]
  congr 2

namespace Footing

variable (footing : Footing document settings start)

include footing

theorem settled : Machine.Settled start :=
  .of_awake footing.awake footing.offered

theorem registered_iff (evolves : Evolves start machine) {name : String} {native : Native} :
    machine.natives.get? name = some native ↔ name = native.questName := by
  rw [evolves.natives, footing.natives]
  exact Registry.quest_get?_iff

theorem registered (playing : Playing start machine) (native : Native) :
    machine.natives.get? native.questName = some native := by
  rw [playing.natives, footing.natives]
  exact Registry.quest_get?_iff.mpr rfl

theorem branch_name (evolves : Evolves start machine)
    (branches : Machine.Branches machine instruction) :
    instruction = .invoke "jz" ∨ instruction = .invoke "jgz" := by
  obtain ⟨name, native, rfl, registered, tests⟩ := branches
  rw [(footing.registered_iff evolves).mp registered]
  cases native <;> simp_all [Native.test?, Native.questName]

theorem entry_le (site : Site document) : site.entry settings ≤ start.program.length := by
  have bound := (footing.effects_hold site).length_le
  omega

/-- The offset of effects leads to the effects. -/
theorem destination?_entry (site : Site document) :
    start.program.destination? (.ofOffset (site.entry settings)) = some (site.entry settings) := by
  have bound := footing.entry_le site
  have whole := Machine.natural?_toFloat (Nat.lt_of_le_of_lt bound footing.short)
  simp [Value.ofOffset, Program.destination?, whole, bound]

/-- The number four and its own offset make up the offset of the effects. -/
theorem entry_sum (site : Site document) :
    Value.number (4 + (site.heading settings + 1).toUInt64.toFloat) =
      .ofOffset (site.entry settings) :=
  site.entry_sum (Nat.lt_of_le_of_lt (footing.entry_le site) footing.short)

/-- The title and the offset of the effects come to be on the stack. -/
theorem header_leads (site : Site document) (playing : Playing start machine)
    (counter : machine.counter = site.heading settings) :
    Leads 4 machine
      { machine with
        stack := .ofOffset (site.entry settings) :: .string (site.choice.text.getD "") ::
          machine.stack
        counter := site.opening settings } := by
  have holds := footing.header_holds site
  rw [← playing.program, ← counter] at holds
  rw [Site.opening, ← footing.entry_sum site, ← counter]
  exact .step playing.running playing.awake holds.head (.pushString _) <|
    .step playing.running playing.awake holds.tail.head
        (Machine.executes_ownOffset (footing.registered playing .ownOffset)) <|
      .step playing.running playing.awake holds.tail.tail.head (.pushNumber 4) <|
        .step playing.running playing.awake holds.tail.tail.tail.head
          (Machine.executes_add (footing.registered playing .add) rfl) (.refl _)

/-- In front of the block of effects the title and the offset of the effects are on the stack. -/
theorem header_stacked (site : Site document) :
    Stacked start (site.opening settings)
      [.ofOffset (site.entry settings), .string (site.choice.text.getD "")] := by
  have holds := footing.header_holds site
  have no_label (shift : Nat) (less : shift < 4) (label : String) :
      start.program.label? label ≠ some (site.heading settings + shift + 1) := by
    intro labelled
    have outside := footing.header_label_outside site labelled
    simp only [Site.entry, Site.opening] at outside
    omega
  have titled : Stacked start (site.heading settings + 1)
      [.string (site.choice.text.getD "")] :=
    (Stacked.bare _).pushString holds.head (no_label 0 (by omega))
  have placed : Stacked start (site.heading settings + 2)
      [.ofOffset (site.heading settings + 1), .string (site.choice.text.getD "")] := by
    refine titled.behind holds.tail.head (by simp) (by simp) (by simp) (no_label 1 (by omega)) ?_
    intro machine after rest playing counter stack executes
    rw [executes.unique (Machine.executes_ownOffset (footing.registered playing .ownOffset)), stack,
      counter]
    rfl
  have counted : Stacked start (site.heading settings + 3)
      [.number 4, .ofOffset (site.heading settings + 1), .string (site.choice.text.getD "")] := by
    refine placed.behind holds.tail.tail.head (by simp) (by simp) (by simp)
      (no_label 2 (by omega)) ?_
    intro machine after rest _ _ stack executes
    rw [executes.unique (.pushNumber 4), stack]
    rfl
  refine counted.behind holds.tail.tail.tail.head (by simp) (by simp) (by simp)
    (no_label 3 (by omega)) ?_
  intro machine after rest playing _ stack executes
  rw [executes.unique (Machine.executes_add (footing.registered playing .add) stack),
    ← footing.entry_sum site]
  rfl

/-- The instruction in front of the block of effects is no branch. -/
theorem no_branch_ahead (site : Site document) (evolves : Evolves start previous)
    (here : start.program.get? previous.counter = some instruction)
    (branches : Machine.Branches previous instruction) :
    previous.counter + 1 ≠ site.opening settings := by
  intro ahead
  have adds := (footing.header_holds site).tail.tail.tail.head
  have same : site.heading settings + 1 + 1 + 1 = previous.counter := by
    simp only [Site.opening] at ahead
    omega
  rw [← same, adds] at here
  rcases footing.branch_name evolves branches with jumps | jumps <;> simp [jumps] at here

section Arrival

variable (sound : Sound document settings start previous) (evolves : Evolves start previous)
  (running : previous.exited = false) (awake : previous.paused = false)
  (here : start.program.get? previous.counter = some instruction)

include sound evolves running awake here

omit evolves here in
/-- At a jump a label that the layout aims at has just been pushed, or the offset of effects has
been handed to the program. -/
theorem jump_operand (jumps : start.program.get? previous.counter = some (.invoke "goto")) :
    (∃ label pushing rest, Targeted settings document label ∧
      previous.stack = .string label :: rest ∧ previous.counter = pushing + 1 ∧
        start.program.get? pushing = some (.pushString label)) ∨
      ∃ (site : Site document) (asking : Nat) (rest : List Value),
        previous.stack = .ofOffset (site.entry settings) :: rest ∧
          previous.counter = asking + 1 ∧
            start.program.get? asking = some (.invoke "getResponse") := by
  obtain ⟨before, counter, request | ⟨label, targeted, pushes⟩, no_label⟩ :=
    footing.before_jump jumps
  · obtain ⟨site, rest, stack⟩ :=
      sound.resumed running awake before request (counter ▸ jumps) counter
    exact Or.inr ⟨site, before, rest, stack, counter, request⟩
  · have stacked : Stacked start (before + 1) [.string label] :=
      (Stacked.bare before).pushString pushes fun other => counter ▸ no_label other
    obtain ⟨rest, stack⟩ := sound.stacked running awake _ _ stacked counter
    exact Or.inl ⟨label, before, rest, targeted, stack, counter, pushes⟩

/-- A jump leads to a label, or to the effects of an option that has just been chosen. -/
theorem jump_target {offset : Nat} (jumps : Machine.Jumps previous instruction offset) :
    (∃ label, start.program.label? label = some offset) ∨
      ∃ (site : Site document) (asking : Nat) (rest : List Value), offset = site.entry settings ∧
        previous.stack = .ofOffset offset :: rest ∧ previous.counter = asking + 1 ∧
          start.program.get? asking = some (.invoke "getResponse") := by
  obtain ⟨name, value, rest, rfl, registered, top, leads⟩ := jumps
  obtain rfl := (footing.registered_iff evolves).mp registered
  rw [evolves.program] at leads
  rcases footing.jump_operand sound running awake here with
    ⟨label, -, others, -, stack, -⟩ | ⟨site, asking, others, stack, counter, request⟩
  · obtain ⟨rfl, rfl⟩ := List.cons.inj (top.symm.trans stack)
    exact Or.inl ⟨label, leads⟩
  · obtain ⟨rfl, rfl⟩ := List.cons.inj (top.symm.trans stack)
    rw [footing.destination?_entry site] at leads
    cases leads
    exact Or.inr ⟨site, asking, rest, rfl, top, counter, request⟩

variable (executes : Executes previous instruction machine) (still_running : machine.exited = false)
  (still_awake : machine.paused = false)

include executes still_running still_awake

/-- Control comes to an offset behind an instruction that is no brace from that instruction, unless
a label leads there. -/
theorem came_next {offset : Nat} {before : Instruction}
    (there : start.program.get? offset = some before) (no_open : before ≠ .openBlock)
    (no_close : before ≠ .closeBlock)
    (no_label : ∀ label, start.program.label? label ≠ some (offset + 1))
    (counter : machine.counter = offset + 1) :
    previous.counter = offset ∧ ∀ name, before = .invoke name →
      ∃ native : Native, name = native.questName ∧ native.proceeds = true := by
  have lands := executes.lands still_running still_awake
  rw [counter] at lands
  generalize target_eq : offset + 1 = target at lands
  cases lands with
  | next no_brace proceeds =>
      obtain rfl : previous.counter = offset := by omega
      refine ⟨rfl, fun name same => ?_⟩
      obtain rfl : instruction = before := Option.some.inj (here.symm.trans there)
      obtain ⟨native, registered, goes_on⟩ := proceeds name same
      exact ⟨native, (footing.registered_iff evolves).mp registered, goes_on⟩
  | @behind opening closing block place =>
      obtain rfl : closing = offset := by omega
      rw [evolves.program] at block
      have closes := (Program.blockEnd?_braces block).2.1
      exact absurd (Option.some.inj (there.symm.trans closes)) no_close
  | @into opening closing block place branches =>
      obtain rfl : opening = offset := by omega
      rw [evolves.program] at block
      have opens := (Program.blockEnd?_braces block).1
      exact absurd (Option.some.inj (there.symm.trans opens)) no_open
  | jump jumps =>
      rcases footing.jump_target sound evolves running awake here jumps with
        ⟨label, labelled⟩ | ⟨site, asking, rest, entry, -⟩
      · exact absurd (target_eq ▸ labelled) (no_label label)
      · have opening : site.opening settings = offset := by
          simp only [Site.entry] at entry
          omega
        exact absurd (Option.some.inj (there.symm.trans (opening ▸ footing.opening_brace site)))
          no_open

theorem stacked_step (offset : Nat) (values : List Value) (stacked : Stacked start offset values)
    (counter : machine.counter = offset) : ∃ rest, machine.stack = values ++ rest := by
  cases stacked with
  | bare => exact ⟨machine.stack, rfl⟩
  | behind stacked there no_open no_close no_request no_label puts =>
      obtain ⟨at_before, -⟩ := footing.came_next sound evolves running awake here executes
        still_running still_awake there no_open no_close no_label counter
      obtain ⟨rest, stack⟩ := sound.stacked running awake _ _ stacked at_before
      have playing : Playing start previous := ⟨evolves.program, evolves.natives, running, awake⟩
      obtain rfl : instruction = _ := Option.some.inj ((at_before ▸ here).symm.trans there)
      exact ⟨rest, puts previous machine rest playing at_before stack executes⟩

theorem closed_step (site : Site document) : machine.counter ≠ site.closing settings := by
  intro counter
  obtain ⟨last, closing, -, leaves⟩ := footing.leaving site
  have no_label (label : String) : start.program.label? label ≠ some (last + 1) := by
    intro labelled
    have outside := footing.closing_label_outside site labelled
    omega
  have stays (ends : Native) (stops : ends.proceeds = false)
      (there : start.program.get? last = some (.invoke ends.questName)) : False := by
    obtain ⟨-, proceeds⟩ := footing.came_next sound evolves running awake here executes
      still_running still_awake there (by simp) (by simp) no_label (counter.trans closing)
    obtain ⟨native, same, goes_on⟩ := proceeds _ rfl
    rw [← Native.questName_injective same, stops] at goes_on
    cases goes_on
  rcases leaves with jumps | ends
  · exact stays .goto rfl jumps
  · exact stays .exit rfl ends

/-- To a jump behind the request for a choice control does not come on its own. -/
theorem resumed_step (offset : Nat)
    (request : start.program.get? offset = some (.invoke "getResponse"))
    (jumps : start.program.get? (offset + 1) = some (.invoke "goto")) :
    machine.counter ≠ offset + 1 := by
  intro counter
  obtain ⟨before, same, -, no_label⟩ := footing.before_jump jumps
  obtain ⟨-, proceeds⟩ := footing.came_next sound evolves running awake here executes
    still_running still_awake request (by simp) (by simp) no_label counter
  obtain ⟨native, name, goes_on⟩ := proceeds _ rfl
  have asks : Native.getResponse = native := Native.questName_injective name
  subst asks
  cases goes_on

/-- Where an option is queued control comes from the block of its effects, which has been skipped.
-/
theorem queueing_step (site : Site document)
    (counter : machine.counter = site.closing settings + 1) :
    ∃ title rest, machine.stack = .ofOffset (site.entry settings) :: .string title :: rest := by
  have closes := footing.closing_brace site
  have lands := executes.lands still_running still_awake
  rw [counter] at lands
  generalize target_eq : site.closing settings + 1 = target at lands
  cases lands with
  | next no_brace proceeds =>
      have reached : previous.counter = site.closing settings := by omega
      exact absurd reached (sound.closed running awake site)
  | @behind opening closing block place =>
      obtain rfl : closing = site.closing settings := by omega
      rw [evolves.program] at block
      obtain rfl := Program.blockEnd?_injective block (footing.effects_block site)
      rcases place with ⟨at_opening, skips⟩ | ⟨before_opening, branches⟩
      · obtain ⟨rest, stack⟩ :=
          sound.stacked running awake _ _ (footing.header_stacked site) at_opening.symm
        subst skips
        cases executes with
        | skip found => exact ⟨_, rest, stack⟩
      · exact absurd before_opening.symm (footing.no_branch_ahead site evolves here branches)
  | @into opening closing block place branches =>
      obtain rfl : opening = site.closing settings := by omega
      rw [evolves.program] at block
      have opens := (Program.blockEnd?_braces block).1
      simp [closes] at opens
  | jump jumps =>
      rcases footing.jump_target sound evolves running awake here jumps with
        ⟨label, labelled⟩ | ⟨other, asking, rest, entry, -⟩
      · have outside := footing.closing_label_outside site labelled
        omega
      · have opens := footing.opening_brace other
        have same : other.opening settings = site.closing settings := by
          simp only [Site.entry] at entry
          omega
        simp [same, closes] at opens

/-- From outside control comes to the effects of an option by a jump only. -/
theorem enters_by_jump (site : Site document)
    (outside : previous.counter < site.entry settings ∨ site.closing settings ≤ previous.counter)
    (after : site.entry settings ≤ machine.counter)
    (before : machine.counter < site.closing settings) :
    Machine.Jumps previous instruction machine.counter := by
  have not_closing := sound.closed running awake site
  have opening : site.entry settings = site.opening settings + 1 := rfl
  have block : previous.program.blockEnd? (site.opening settings) = some (site.closing settings) :=
    evolves.program ▸ footing.effects_block site
  have from_here : previous.program.get? previous.counter = some instruction :=
    evolves.program ▸ here
  rcases (executes.lands still_running still_awake).enters from_here block after before.le with
    inside | ⟨ahead, branches⟩ | jumps
  · omega
  · exact absurd ahead (footing.no_branch_ahead site evolves here branches)
  · exact jumps

omit still_running still_awake

/-- An option that is new in the queue has been put there behind the block of its effects. -/
theorem queued_step (choice : PendingChoice)
    (member : choice ∈ machine.queued ∨ choice ∈ machine.offered) :
    (choice ∈ previous.queued ∨ choice ∈ previous.offered) ∨
      ∃ site : Site document, previous.counter = site.closing settings + 1 ∧
        choice.offset = site.entry settings := by
  cases executes with
  | @compute name native state registered plain ran =>
      have framed := (Machine.Call.run_keeps _ (Native.isTame_of_isPlain plain)).of_ok ran
      rw [← framed.queued, ← framed.offered]
      exact Or.inl member
  | @respond name title value rest offset registered top whole =>
      rcases member with member | member
      · rcases List.mem_append.mp member with queued | added
        · exact Or.inl (Or.inl queued)
        · have same := (footing.registered_iff evolves).mp registered
          obtain ⟨site, at_site⟩ := footing.response_site (by rw [here, same]; rfl)
          obtain ⟨_, _, stack⟩ := sound.queueing running awake site at_site
          obtain ⟨same_value, -⟩ := List.cons.inj (top.symm.trans stack)
          obtain rfl := Value.number.inj same_value
          rw [Machine.natural?_toFloat
            (Nat.lt_of_le_of_lt (footing.entry_le site) footing.short)] at whole
          obtain rfl := List.mem_singleton.mp added
          exact Or.inr ⟨site, at_site, (Option.some.inj whole).symm⟩
      · exact Or.inl (Or.inr member)
  | offer registered some_queued =>
      rcases member with member | member
      · simp at member
      · exact Or.inl (Or.inl member)
  | _ => exact Or.inl member

omit sound running in
/-- A machine that starts to wait has just asked for a choice. -/
theorem asked_step (waiting : machine.paused = true) :
    ∃ offset, machine.counter = offset + 1 ∧
      start.program.get? offset = some (.invoke "getResponse") := by
  cases executes with
  | compute registered plain ran =>
      have framed := (Machine.Call.run_keeps _ (Native.isTame_of_isPlain plain)).of_ok ran
      simp [framed.paused, awake] at waiting
  | offer registered some_queued =>
      have same := (footing.registered_iff evolves).mp registered
      exact ⟨previous.counter, rfl, by rw [here, same]; rfl⟩
  | _ => simp [awake] at waiting

theorem step_sound : Sound document settings start machine where
  options choice member := by
    rcases footing.queued_step sound evolves running awake here executes choice member with
      member | ⟨site, -, entry⟩
    · exact sound.options choice member
    · exact ⟨site, entry⟩
  asked _ waiting := footing.asked_step evolves awake here executes waiting
  stacked := footing.stacked_step sound evolves running awake here executes
  resumed still_running still_awake offset request jumps counter :=
    absurd counter (footing.resumed_step sound evolves running awake here executes still_running
      still_awake offset request jumps)
  closed := footing.closed_step sound evolves running awake here executes
  queueing := footing.queueing_step sound evolves running awake here executes

end Arrival

theorem start_sound : Sound document settings start start where
  options := by simp [footing.queued, footing.offered]
  asked _ waiting := by simp [footing.awake] at waiting
  stacked _ _ offset values stacked counter := by
    rw [footing.counter] at counter
    subst counter
    cases stacked with
    | bare => exact ⟨start.stack, rfl⟩
  resumed _ _ offset _ _ counter := by
    rw [footing.counter] at counter
    omega
  closed _ _ site counter := by
    obtain ⟨last, closing, -⟩ := footing.leaving site
    rw [footing.counter] at counter
    omega
  queueing _ _ site counter := by
    rw [footing.counter] at counter
    omega

section Operations

variable (sound : Sound document settings start previous) (evolves : Evolves start previous)

include sound

theorem choose_sound {id : Nat} {choice : PendingChoice}
    (chosen : previous.chosen? id = some choice) :
    Sound document settings start (previous.choose choice) := by
  obtain ⟨running, waiting, on_offer⟩ := Machine.chosen?_eq_some_iff.mp chosen
  obtain ⟨asking, counter, request⟩ := sound.asked running waiting
  obtain ⟨site, entry⟩ := sound.options choice (Or.inr (List.mem_of_getElem? on_offer))
  have reached : (previous.choose choice).counter = asking + 1 := counter
  constructor
  · intro other member
    rcases member with queued | offered
    · exact sound.options other (Or.inl queued)
    · simp [Machine.choose] at offered
  · intro _ still_waiting
    cases still_waiting
  · intro _ _ offset values stacked same
    obtain rfl := same.symm.trans reached
    cases stacked with
    | bare => exact ⟨_, rfl⟩
    | behind _ there _ _ no_request =>
        exact absurd (Option.some.inj (request.symm.trans there)).symm no_request
  · intro _ _ offset _ _ _
    exact ⟨site, previous.stack, by rw [← entry]; rfl⟩
  · intro _ _ other at_closing
    obtain ⟨last, closing, -, leaves⟩ := footing.leaving other
    obtain rfl : last = asking := by omega
    simp [request] at leaves
  · intro _ _ other behind_closing
    have closes := footing.closing_brace other
    obtain rfl : other.closing settings = asking := by omega
    simp [request] at closes

include evolves

theorem tick_sound (running : previous.exited = false) (awake : previous.paused = false) :
    Sound document settings start previous.tick.1 := by
  rcases Machine.tick_cases running rfl with
    ⟨-, after⟩ | ⟨instruction, here, executes⟩ | ⟨state, framed, after⟩
  · rw [after]
    exact Sound.of_exited rfl sound.options
  · rw [evolves.program] at here
    exact footing.step_sound sound evolves running awake here executes
  · rw [after]
    refine Sound.of_exited rfl fun choice member => sound.options choice ?_
    rwa [← framed.queued, ← framed.offered]

end Operations

/-- Every machine that comes up while an orderly document is played is sound. -/
theorem sound (course : Course start events machine) : Sound document settings start machine := by
  induction course with
  | begin => exact footing.start_sound
  | execute course running awake induction =>
      exact footing.tick_sound induction course.evolves running awake
  | choose course chosen induction => exact footing.choose_sound induction chosen

/-- A machine that waits stands behind the request for a choice. -/
theorem paused_counter (course : Course start events machine) (waiting : machine.paused = true) :
    ∃ offset, machine.counter = offset + 1 ∧
      start.program.get? offset = some (.invoke "getResponse") :=
  (footing.sound course).asked ((course.settled footing.settled).waits waiting).2 waiting

/-- A patient host only brings about sound machines, whatever it puts into the context on the way.
-/
theorem sound_of_history {Allowed : Machine → Operation → Prop}
    (history : Machine.History Allowed start events machine)
    (patient : ∀ machine operation, Allowed machine operation → operation.Patient machine) :
    Evolves start machine ∧ Sound document settings start machine := by
  refine history.preserves (fun machine => Evolves start machine ∧
    Sound document settings start machine) ⟨.refl start, footing.start_sound⟩ ?_ ?_ ?_ ?_ patient
    footing.settled
  · intro machine holds running awake
    exact ⟨holds.1.trans machine.tick_evolves, footing.tick_sound holds.2 holds.1 running awake⟩
  · intro machine id choice holds chosen
    exact ⟨holds.1.trans (Machine.choose_evolves machine choice),
      footing.choose_sound holds.2 chosen⟩
  · intro machine holds
    exact ⟨holds.1.trans (Machine.perform_evolves machine .terminate),
      Sound.of_exited rfl (by simp [Machine.terminate])⟩
  · intro machine values holds
    exact ⟨holds.1.trans (Machine.perform_evolves machine (.provide values)),
      holds.2.withContext values⟩

end Footing

end Gamebook.Compile
