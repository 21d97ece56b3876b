import Gamebook.Proofs.Compile.Place

/-!
# Whose braces make up a block

Every opening brace of a program is one that the layout puts around steps of an option, or it comes
from a fragment of code.  The braces around steps make up a block exactly if the code of the steps
is balanced, and the braces of a balanced fragment are paired among themselves.  Linking asks for no
more than balanced braces on the whole, though: fragments may be balanced together that are not on
their own, and then the braces that the layout puts in pairs are paired otherwise.
-/

namespace Gamebook.Compile

open Story (Choice Content Document Settings State)

variable {settings : Settings} {document : Document} {program : Program}

/-! ## Braces of the layout -/

/-- What the layout puts in braces. -/
inductive Bracket
  /-- An option that disappears, behind the test whether it was chosen. -/
  | once
  /-- An option with preconditions, behind the test of these. -/
  | guard
  /-- The effects of an option. -/
  | effects
  deriving DecidableEq, Repr

/-- The steps that tell whether an option was chosen. -/
def onceTest (flag : Option String) : List Step :=
  match flag with
  | some flag => [.push flag, .invoke "hasContext", .invoke "jz"]
  | none => []

theorem onceLead_eq (flag : String) :
    onceLead (some flag) = onceTest (some flag) ++ [.emit .openBlock] := rfl

/-- The steps that tell whether the preconditions of an option hold. -/
def guardTest (choice : Choice) : List Step :=
  choice.preconditions.map preconditionStep ++ [.invoke "jgz"]

theorem guardLead_eq {choice : Choice} (guarded : choice.preconditions ≠ []) :
    guardLead choice = guardTest choice ++ [.emit .openBlock] := by
  simp [guardLead, guardTest, guarded]

/-- What comes before the only brace, which is the last step. -/
theorem before_last {steps front back : List Step} {step : Step}
    (split : steps ++ [step] = front ++ step :: back) (absent : step ∉ steps) : front = steps := by
  rcases append_singleton_eq_append_cons split with ⟨rest, rfl, -⟩ | ⟨-, rfl, -⟩
  · simp at absent
  · rfl

theorem opening_not_mem_contentSteps (content : Content) :
    .emit .openBlock ∉ contentSteps settings content := by
  cases content with
  | text | code => simp [contentSteps, Step.push, Step.invoke]
  | fence =>
      rw [contentSteps]
      split <;> simp

theorem opening_not_mem_guardTest (choice : Choice) : .emit .openBlock ∉ guardTest choice := by
  rw [guardTest, List.mem_append, List.mem_map]
  rintro (⟨content, -, same⟩ | jumps)
  · cases content <;> simp [preconditionStep] at same
  · simp [Step.invoke] at jumps

theorem opening_not_mem_preambleSteps : .emit .openBlock ∉ preambleSteps settings := by
  intro member
  rcases preambleSteps_cases member with ⟨value, same⟩ | ⟨label, span, same⟩ | same | same
  · cases value <;> cases same
  all_goals cases same

theorem opening_not_mem_effectSteps (state : String) (choice : Choice) (flag : Option String) :
    .emit .openBlock ∉ effectSteps settings state choice flag := by
  rw [effectSteps_eq, List.mem_append, List.mem_append, List.mem_flatMap]
  rintro (remembered | ⟨content, -, shown⟩ | left)
  · cases flag <;> simp [rememberSteps, Step.push, Step.invoke] at remembered
  · exact opening_not_mem_contentSteps content shown
  · rw [leaveSteps] at left
    split at left
    · simp [Step.push, Step.invoke] at left
    · split at left <;> simp [Step.push, Step.invoke] at left

theorem opening_not_mem_trailSteps (choice : Choice) (flag : Option String) :
    .emit .openBlock ∉ trailSteps choice flag := by
  simp only [trailSteps, List.mem_append, not_or]
  constructor <;> split <;> simp

namespace Site

variable (site : Site document) {bracket : Bracket}

/-- Whether the layout puts braces around steps of the option. -/
def Has : Bracket → Prop
  | .once => site.choice.isOnce = true
  | .guard => site.choice.preconditions ≠ []
  | .effects => True

/-- The steps of the option in front of the braces. -/
def ahead : Bracket → List Step
  | .once => directiveWarnings site.choice ++ onceTest site.flag?
  | .guard => directiveWarnings site.choice ++ (onceLead site.flag? ++ guardTest site.choice)
  | .effects => site.lead ++ headerSteps site.choice

/-- The steps between the braces. -/
def inside (settings : Settings) : Bracket → List Step
  | .once =>
    guardSteps site.choice.preconditions
      (offerSteps settings site.state.name site.choice site.flag?)
  | .guard => offerSteps settings site.state.name site.choice site.flag?
  | .effects => site.effects settings

/-- The steps of the option behind the braces. -/
def behind : Bracket → List Step
  | .once => []
  | .guard =>
    match site.flag? with
    | some _ => [.emit .closeBlock]
    | none => []
  | .effects => .invoke "response" :: site.trail

/-- The contents whose code stands between the braces. -/
def enclosed : Bracket → List Content
  | .once => site.choice.preconditions ++ site.choice.effects
  | .guard | .effects => site.choice.effects

/-- The offset of the opening brace. -/
def opens (settings : Settings) (bracket : Bracket) : Nat :=
  site.start settings + (codeOf (site.ahead bracket)).length

/-- The offset of the closing brace. -/
def closes (settings : Settings) (bracket : Bracket) : Nat :=
  site.opens settings bracket + 1 + (codeOf (site.inside settings bracket)).length

theorem steps_around (has : site.Has bracket) (settings : Settings) :
    site.steps settings =
      site.ahead bracket ++ (block (site.inside settings bracket) ++ site.behind bracket) := by
  cases bracket with
  | once =>
      have once : site.choice.isOnce = true := has
      simp [steps, choiceSteps, flag?, once, onceSteps, ahead, onceTest, inside, behind]
  | guard =>
      have guarded : site.choice.preconditions ≠ [] := has
      simp only [steps, choiceSteps, ahead, guardTest, inside, behind, guardSteps,
        List.isEmpty_iff, guarded, if_false]
      cases site.flag? <;> simp [onceSteps, onceLead, block]
  | effects => simp [steps_eq, ahead, inside, behind]

theorem inside_balanced (balanced : ∀ content ∈ site.enclosed bracket, content.IsBalanced)
    (settings : Settings) : Balanced (codeOf (site.inside settings bracket)) := by
  cases bracket with
  | once =>
      exact guardSteps_balanced
        (fun content member => balanced content (List.mem_append_left _ member))
        (offerSteps_balanced _ _ fun content member =>
          balanced content (List.mem_append_right _ member))
  | guard => exact offerSteps_balanced _ _ balanced
  | effects => exact effectSteps_balanced _ _ balanced

/-- An opening brace among the steps of an option is one around its steps. -/
theorem ahead_of_split {front back : List Step}
    (split : site.steps settings = front ++ .emit .openBlock :: back) :
    ∃ bracket, site.Has bracket ∧ front = site.ahead bracket := by
  rw [steps_eq, lead, leadSteps] at split
  simp only [List.append_assoc] at split
  obtain ⟨_, behind_directives, rfl⟩ :=
    split_behind split ((directiveWarnings_warns _).not_mem (by simp))
  rcases append_eq_append_cons behind_directives with ⟨_, once, -⟩ | ⟨_, behind_once, rfl⟩
  · cases flagged : site.flag? with
    | none => simp [flagged, onceLead] at once
    | some flag =>
        rw [flagged, onceLead_eq] at once
        refine ⟨.once, ?_, by
          rw [ahead, flagged, before_last once (by simp [onceTest, Step.push, Step.invoke])]⟩
        by_contra not_once
        simp [flag?, show site.choice.isOnce = false by simpa [Has] using not_once] at flagged
  rcases append_eq_append_cons behind_once with ⟨_, guard, -⟩ | ⟨_, behind_guard, rfl⟩
  · have guarded : site.choice.preconditions ≠ [] := by
      intro unguarded
      simp [guardLead, unguarded] at guard
    rw [guardLead_eq guarded] at guard
    exact ⟨.guard, guarded, by
      rw [ahead, before_last guard (opening_not_mem_guardTest site.choice)]⟩
  obtain ⟨_, behind_title, rfl⟩ :=
    split_behind behind_guard ((titleWarnings_warns _).not_mem (by simp))
  obtain ⟨rest, behind_header, rfl⟩ :=
    split_behind behind_title (by simp [headerSteps, Step.push, Step.invoke])
  refine ⟨.effects, trivial, ?_⟩
  rw [block, List.cons_append] at behind_header
  cases rest with
  | nil => simp [ahead, lead, leadSteps]
  | cons head rest =>
      -- The effects hold no further brace of the layout, nor does what is behind them.
      have later : .emit .openBlock ∈ site.effects settings ++ [.emit .closeBlock] ++
          .invoke "response" :: site.trail := by
        rw [(List.cons.inj behind_header).2]
        simp
      simp [Step.invoke, effects, trail, opening_not_mem_effectSteps,
        opening_not_mem_trailSteps] at later

end Site

/-! ## Fragments -/

/-- A document has code at an offset of its program. -/
def Spliced (settings : Settings) (document : Document) (code : String) (offset : Nat) : Prop :=
  ∃ before span after, script settings document = before ++ .splice code span :: after ∧
    offset = (codeOf before).length

namespace Laid

variable (laid : Laid (script settings document) program)

include laid

theorem bracket_holds (site : Site document) {bracket : Bracket} (has : site.Has bracket) :
    program.Holds (site.opens settings bracket)
      (.openBlock :: (codeOf (site.inside settings bracket) ++ [.closeBlock])) := by
  have holds := laid.holds site.script_eq
  rw [site.steps_around has, codeOf_append, codeOf_append, block_code] at holds
  exact holds.right.left

theorem spliced_compiles {code : String} {offset : Nat}
    (spliced : Spliced settings document code offset) :
    ∃ fragment, Code.compile code = .ok fragment := by
  obtain ⟨before, span, after, split, -⟩ := spliced
  exact laid.compiles code span (by simp [split])

theorem spliced_holds {code : String} {offset : Nat}
    (spliced : Spliced settings document code offset) {fragment : Code.Fragment}
    (compiled : Code.compile code = .ok fragment) :
    program.Holds offset fragment.instructions := by
  obtain ⟨before, span, after, split, rfl⟩ := spliced
  have holds : program.Holds _ (codeOf [.splice code span]) := laid.holds split
  simpa [Step.code, compiled] using holds

/-- Every opening brace is one of the layout or of a fragment. -/
theorem opening_brace {opening : Nat} (here : program.get? opening = some .openBlock) :
    (∃ (site : Site document) (bracket : Bracket), site.Has bracket ∧
      opening = site.opens settings bracket) ∨
      ∃ code offset fragment shift, Spliced settings document code offset ∧
        Code.compile code = .ok fragment ∧ fragment.instructions[shift]? = some .openBlock ∧
          opening = offset + shift := by
  rw [Program.get?, laid.instructions] at here
  obtain ⟨before, step, after, shift, split, at_shift, rfl⟩ := code_split here
  cases step with
  | emit instruction =>
      obtain ⟨rfl, rfl⟩ : shift = 0 ∧ instruction = .openBlock := by
        cases shift <;> simp_all [Step.code]
      obtain ⟨site, front, back, rfl, steps⟩ := site_of_split split
        ((whitespaceWarnings_warns settings).not_mem (by simp)) opening_not_mem_preambleSteps
        (by simp) opening_not_mem_contentSteps (by simp [Step.invoke])
      obtain ⟨bracket, has, rfl⟩ := site.ahead_of_split steps
      exact Or.inl ⟨site, bracket, has, by simp [Site.opens, Site.start]⟩
  | splice code span =>
      obtain ⟨fragment, compiled⟩ := laid.compiles code span (by simp [split])
      rw [Step.code, compiled] at at_shift
      exact Or.inr ⟨code, _, fragment, shift, ⟨before, span, after, split, rfl⟩, compiled,
        at_shift, rfl⟩
  | _ => simp [Step.code] at at_shift

end Laid

/-! ## Regions -/

/-- A part of a document that has a place of its own in the program. -/
inductive Region (document : Document)
  /-- What the layout puts in braces. -/
  | braces (site : Site document) (bracket : Bracket) (has : site.Has bracket)
  | option (site : Site document)
  | state (place : Place document)

namespace Region

/-- The contents of a region. -/
def contents : Region document → List Content
  | braces site bracket _ => site.enclosed bracket
  | option site => site.choice.preconditions ++ site.choice.effects
  | state place =>
    place.state.body ++
      place.state.choices.flatMap fun choice => choice.preconditions ++ choice.effects

/-- The offset of the first instruction of a region. -/
def start (settings : Settings) : Region document → Nat
  | braces site bracket _ => site.opens settings bracket
  | option site => site.start settings
  | state place => place.entry settings

/-- The offset behind a region. -/
def stop (settings : Settings) : Region document → Nat
  | braces site bracket _ => site.closes settings bracket + 1
  | option site => site.stop settings
  | state place => place.asking settings + 2

end Region

/-- No block crosses the boundary of a region all of whose code is balanced. -/
theorem Laid.region_seals (laid : Laid (script settings document) program)
    (region : Region document) (balanced : ∀ content ∈ region.contents, content.IsBalanced) :
    program.Seals (region.start settings) (region.stop settings) := by
  cases region with
  | braces site bracket has =>
      have stop : site.opens settings bracket +
          (Instruction.openBlock :: (codeOf (site.inside settings bracket) ++
            [.closeBlock])).length = site.closes settings bracket + 1 := by
        simp only [Site.closes, List.length_cons, List.length_append, List.length_nil]
        omega
      rw [Region.start, Region.stop, ← stop]
      exact (laid.bracket_holds site has).seals (site.inside_balanced balanced settings).block
  | option site =>
      exact (laid.holds site.script_eq).seals
        (choiceSteps_balanced site.state.name site.flag? balanced)
  | state place =>
      have shown : Balanced (codeOf (place.body settings)) :=
        contents_balanced fun content member => balanced content (List.mem_append_left _ member)
      have offered : Balanced (codeOf (place.offering settings place.state.choices)) :=
        choicesSteps_balanced _ _ fun choice among content member =>
          balanced content (List.mem_append_right _ (List.mem_flatMap.mpr ⟨choice, among, member⟩))
      let asks : List Instruction := [.invoke "getResponse", .invoke "goto"]
      have asked : Balanced asks := .of_braceless (by simp [asks]) (by simp [asks])
      have holds : program.Holds (place.entry settings)
          ((codeOf (place.body settings) ++ codeOf (place.offering settings place.state.choices) ++
            asks) ++ codeOf (place.back settings)) := by
        simpa [asks] using laid.place_holds place
      have stop : place.entry settings + (codeOf (place.body settings) ++
          codeOf (place.offering settings place.state.choices) ++ asks).length =
            place.asking settings + 2 := by
        simp only [asks, Place.asking, Place.options, List.length_append, List.length_cons,
          List.length_nil]
        omega
      rw [Region.start, Region.stop, ← stop]
      exact holds.left.seals ((shown.append offered).append asked)

/-- In the program of a document the braces around steps of an option stand where the layout puts
them, and they make up a block exactly if the code between them is balanced, as it is if each of the
fragments there is.  The braces of a fragment that is balanced are paired within the fragment.
There are no other opening braces, and no block crosses the boundary of a balanced fragment, or of a
guard, effects, an option or a state whose fragments are balanced. -/
theorem braces_belong_together {compiled : Compiled} (accepted : compile document = .ok compiled)
    (read : Settings.ofTable document.settings = .ok settings) :
    (∀ (site : Site document) (bracket : Bracket), site.Has bracket →
      compiled.program.get? (site.opens settings bracket) = some .openBlock ∧
        compiled.program.get? (site.closes settings bracket) = some .closeBlock ∧
          (compiled.program.blockEnd? (site.opens settings bracket) =
              some (site.closes settings bracket) ↔
            Balanced (codeOf (site.inside settings bracket))) ∧
            ((∀ content ∈ site.enclosed bracket, content.IsBalanced) →
              Balanced (codeOf (site.inside settings bracket)))) ∧
      (∀ code offset fragment, Spliced settings document code offset →
        Code.compile code = .ok fragment → Balanced fragment.instructions →
          (∀ shift, fragment.instructions[shift]? = some .openBlock →
            ∃ last, fragment.instructions[last]? = some .closeBlock ∧
              compiled.program.blockEnd? (offset + shift) = some (offset + last)) ∧
            compiled.program.Seals offset (offset + fragment.instructions.length)) ∧
        (∀ opening, compiled.program.get? opening = some .openBlock →
          (∃ (site : Site document) (bracket : Bracket), site.Has bracket ∧
            opening = site.opens settings bracket) ∨
            ∃ code offset fragment shift, Spliced settings document code offset ∧
              Code.compile code = .ok fragment ∧
                fragment.instructions[shift]? = some .openBlock ∧ opening = offset + shift) ∧
          ∀ region : Region document, (∀ content ∈ region.contents, content.IsBalanced) →
            compiled.program.Seals (region.start settings) (region.stop settings) := by
  obtain ⟨found, read_found, laid⟩ := compile_laid accepted
  obtain rfl : found = settings := Except.ok.inj (read_found.symm.trans read)
  refine ⟨fun site bracket has => ?_, fun code offset fragment spliced compiles balanced => ?_,
    fun opening => laid.opening_brace, laid.region_seals⟩
  · have holds := laid.bracket_holds site has
    exact ⟨holds.head, holds.tail.right.head, holds.blockEnd?_iff,
      fun balanced => site.inside_balanced balanced _⟩
  · have holds := laid.spliced_holds spliced compiles
    exact ⟨fun shift => holds.exists_blockEnd? balanced, holds.seals balanced⟩

/-! ## A cellar -/

/-- A story of one state, whose only option executes code. -/
def cellar (code : String) : Document :=
  ⟨Table.empty,
    [⟨"cellar", [], [⟨some "leave", none, [], [], [.code code ⟨0, 0⟩], ⟨0, 0⟩⟩], ⟨0, 0⟩⟩]⟩

/-- The option of the cellar. -/
def leaveSite (code : String) : Site (cellar code) where
  earlierStates := []
  state := ⟨"cellar", [], [⟨some "leave", none, [], [], [.code code ⟨0, 0⟩], ⟨0, 0⟩⟩], ⟨0, 0⟩⟩
  laterStates := []
  earlierChoices := []
  choice := ⟨some "leave", none, [], [], [.code code ⟨0, 0⟩], ⟨0, 0⟩⟩
  laterChoices := []
  states := rfl
  choices := rfl

theorem cellar_spliced (code : String) : Spliced .default (cellar code) code 5 :=
  ⟨[.define "cellar" ⟨0, 0⟩, .define "cellar__options" ⟨0, 0⟩, .push "leave", .invoke "ppc",
    .emit (.pushNumber 4), .invoke "+", .emit .openBlock], ⟨0, 0⟩, _, rfl, rfl⟩

/-- The blocks of the cellar's program. -/
def cellarBlocks (code : String) : List BracePair :=
  match compile (cellar code) with
  | .ok compiled => compiled.program.blocks
  | .error _ => []

theorem exists_cellar {code : String} (some_block : cellarBlocks code ≠ []) :
    ∃ compiled, compile (cellar code) = .ok compiled ∧
      compiled.program.blocks = cellarBlocks code := by
  rw [cellarBlocks] at some_block ⊢
  split at some_block
  · rename_i compiled accepted
    exact ⟨compiled, accepted, rfl⟩
  · exact absurd rfl some_block

/-- Code with a block of its own. -/
def blockCode : String := "0 jz \x7b exit \x7d"

/-- Code that closes a block it has not opened and opens another one. -/
def crossingCode : String := "\x7d \x7b"

theorem braces_belong_together_cellar :
    ∃ compiled, compile (cellar blockCode) = .ok compiled ∧
      compiled.program.blockEnd? 4 = some 12 ∧
        ∃ last, compiled.program.blockEnd? 7 = some (5 + last) ∧ last < 5 := by
  let fragment : Code.Fragment :=
    ⟨[.pushNumber 0, .invoke "jz", .openBlock, .invoke "exit", .closeBlock], Table.empty⟩
  have compiles : Code.compile blockCode = .ok fragment := by decide +kernel
  have balanced : Balanced fragment.instructions := ⟨[⟨2, 4⟩], rfl⟩
  obtain ⟨compiled, accepted, -⟩ :=
    exists_cellar (show cellarBlocks blockCode ≠ [] by decide +kernel)
  obtain ⟨layout, fragments, -, -⟩ := braces_belong_together accepted rfl
  obtain ⟨-, -, block, within⟩ := layout (leaveSite _) .effects trivial
  obtain ⟨last, closes, paired⟩ :=
    (fragments _ 5 fragment (cellar_spliced _) compiles balanced).1 2 rfl
  have effects : ∀ content ∈ (leaveSite blockCode).enclosed .effects, content.IsBalanced := by
    intro content member code found other compiles_too
    obtain rfl := List.mem_singleton.mp member
    cases found
    cases compiles.symm.trans compiles_too
    exact balanced
  have opening : (leaveSite blockCode).opens .default .effects = 4 := rfl
  have closing : (leaveSite blockCode).closes .default .effects = 12 := by decide +kernel
  refine ⟨compiled, accepted, ?_, last, paired, (List.getElem?_eq_some_iff.mp closes).1⟩
  rw [← opening, ← closing]
  exact block.mpr (within effects)

/-- Linking accepts a fragment that closes the block of the effects around it and opens another one.
The brace that opens the effects is paired with the first brace of the fragment, and the second one
with the brace that was to close the effects. -/
theorem fragment_crosses_effects :
    ∃ compiled fragment, compile (cellar crossingCode) = .ok compiled ∧
      Settings.ofTable (cellar crossingCode).settings = .ok .default ∧
        (leaveSite crossingCode).Has .effects ∧
          compiled.program.blockEnd? ((leaveSite crossingCode).opens .default .effects) ≠
            some ((leaveSite crossingCode).closes .default .effects) ∧
            Spliced .default (cellar crossingCode) crossingCode 5 ∧
              Code.compile crossingCode = .ok fragment ∧
                fragment.instructions[1]? = some .openBlock ∧
                  ∃ closing, compiled.program.blockEnd? (5 + 1) = some closing ∧
                    5 + fragment.instructions.length ≤ closing := by
  have listed : cellarBlocks crossingCode = [⟨4, 5⟩, ⟨6, 9⟩] := by decide +kernel
  obtain ⟨compiled, accepted, blocks⟩ :=
    exists_cellar (show cellarBlocks crossingCode ≠ [] by simp [listed])
  have block (opening closing : Nat)
      (member : ⟨opening, closing⟩ ∈ [(⟨4, 5⟩ : BracePair), ⟨6, 9⟩]) :
      compiled.program.blockEnd? opening = some closing :=
    Program.blockEnd?_eq_some_iff.mpr (by rwa [blocks, listed])
  have opening : (leaveSite crossingCode).opens .default .effects = 4 := rfl
  have closing : (leaveSite crossingCode).closes .default .effects = 9 := by decide +kernel
  refine ⟨compiled, ⟨[.closeBlock, .openBlock], Table.empty⟩, accepted, rfl, trivial, ?_,
    cellar_spliced _, by decide +kernel, rfl, 9, block 6 9 (by simp), by decide⟩
  rw [opening, closing, block 4 5 (by simp)]
  simp

end Gamebook.Compile
