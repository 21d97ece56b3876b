import Gamebook.Proofs.Compile.Acceptance
import Gamebook.Proofs.Compile.Fragments
import Gamebook.Proofs.Compile.Place

/-!
# Instruction streams

The instructions of a document that is compiled, written out, and the offsets that its labels stand
for.  All code is put in as it is, and its labels move with it.
-/

namespace Gamebook.Compile

open Story (Choice Content Document NoLink Settings State)

variable {settings : Settings} {document : Document} {program : Program}

/-! ## The instructions of a document -/

/-- The instructions that code stands for. -/
def instructionsOf (code : String) : List Instruction :=
  match Code.compile code with
  | .ok fragment => fragment.instructions
  | .error _ => []

/-- The instructions of a content of a body or of effects. -/
def contentCode (settings : Settings) : Content → List Instruction
  | .text run => [.pushString (runText settings run), .invoke "emit"]
  | content => content.code?.toList.flatMap instructionsOf

/-- The instructions behind the effects of an option. -/
def leaveCode (settings : Settings) (state : String) (choice : Choice) : List Instruction :=
  match choice.link, settings.noLink with
  | some link, _ => [.pushString (linkTarget link), .invoke "goto"]
  | none, .backToOptions => [.pushString (optionsLabel state), .invoke "goto"]
  | none, .exit => [.invoke "exit"]

/-- The instructions that are executed when an option is chosen. -/
def effectCode (settings : Settings) (state : String) (flag : Option String) (choice : Choice) :
    List Instruction :=
  (flag.toList.flatMap fun flag => [.pushNumber 1, .pushString flag, .invoke "setContext"]) ++
    choice.effects.flatMap (contentCode settings) ++ leaveCode settings state choice

/-- The instructions that offer an option. -/
def offerCode (settings : Settings) (state : String) (flag : Option String) (choice : Choice) :
    List Instruction :=
  [.pushString (choice.text.getD ""), .invoke "ppc", .pushNumber 4, .invoke "+", .openBlock] ++
    effectCode settings state flag choice ++ [.closeBlock, .invoke "response"]

/-- Instructions that are skipped unless the preconditions of an option hold. -/
def guardCode (preconditions : List Content) (inside : List Instruction) : List Instruction :=
  if preconditions.isEmpty then inside
  else
    (preconditions.flatMap fun content =>
      (preconditionCode? content).toList.flatMap instructionsOf) ++
      [.invoke "jgz", .openBlock] ++ inside ++ [.closeBlock]

/-- Instructions that are skipped once a flag is set. -/
def onceCode (flag : Option String) (inside : List Instruction) : List Instruction :=
  match flag with
  | some flag =>
    [.pushString flag, .invoke "hasContext", .invoke "jz", .openBlock] ++ inside ++ [.closeBlock]
  | none => inside

/-- The instructions of options; `index` of those that disappear came before. -/
def choicesCode (settings : Settings) (state : String) (index : Nat) :
    List Choice → List Instruction
  | [] => []
  | choice :: rest =>
    let flag := if choice.isOnce then some (onceFlag index) else none
    onceCode flag (guardCode choice.preconditions (offerCode settings state flag choice)) ++
      choicesCode settings state (if choice.isOnce then index + 1 else index) rest

/-- The instructions of a state: its body, its options, and the request for a choice with the jump
behind it. -/
def stateCode (settings : Settings) (index : Nat) (state : State) : List Instruction :=
  state.body.flatMap (contentCode settings) ++
    choicesCode settings state.name index state.choices ++
    [.invoke "getResponse", .invoke "goto"]

/-- The instructions of states; `index` of the options that disappear came before. -/
def statesCode (settings : Settings) (index : Nat) : List State → List Instruction
  | [] => []
  | state :: rest =>
    stateCode settings index state ++ statesCode settings (index + onceCount state) rest

/-- The instructions that set the context up and go to the state in which the story starts. -/
def preambleCode (settings : Settings) : List Instruction :=
  (settings.initialContext.entries.flatMap fun entry =>
    [.push entry.2, .pushString entry.1, .invoke "setContext"]) ++
    settings.initialState.toList.flatMap fun state => [.pushString state, .invoke "goto"]

/-- The instructions of a document. -/
def documentCode (settings : Settings) (document : Document) : List Instruction :=
  preambleCode settings ++ statesCode settings 0 document.states ++ [.invoke "exit"]

/-! ## The instructions of a script -/

theorem code_splice (code : String) (span : Text.Span) :
    (Step.splice code span).code = instructionsOf code := rfl

theorem codeOf_flatMap {α : Type} (items : List α) (steps : α → List Step) :
    codeOf (items.flatMap steps) = items.flatMap fun item => codeOf (steps item) :=
  List.flatMap_assoc

theorem codeOf_contentSteps (content : Content) :
    codeOf (contentSteps settings content) = contentCode settings content := by
  cases content with
  | text run => rfl
  | code code span => rfl
  | fence language code span =>
      rw [contentSteps, contentCode, Content.code?]
      · split <;> simp [code_splice]
      · simp

theorem codeOf_contents (contents : List Content) :
    codeOf (contents.flatMap (contentSteps settings)) =
      contents.flatMap (contentCode settings) := by
  simp only [codeOf_flatMap, codeOf_contentSteps]

theorem codeOf_leaveSteps (state : String) (choice : Choice) :
    codeOf (leaveSteps settings state choice) = leaveCode settings state choice := by
  rw [leaveSteps, leaveCode]
  cases choice.link with
  | some link => rfl
  | none => cases settings.noLink <;> rfl

theorem codeOf_effectSteps (state : String) (choice : Choice) (flag : Option String) :
    codeOf (effectSteps settings state choice flag) = effectCode settings state flag choice := by
  rw [effectSteps_eq, effectCode, codeOf_append, codeOf_append, codeOf_contents,
    codeOf_leaveSteps, ← List.append_assoc]
  cases flag <;> rfl

theorem codeOf_offerSteps (state : String) (choice : Choice) (flag : Option String) :
    codeOf (offerSteps settings state choice flag) = offerCode settings state flag choice := by
  simp only [offerSteps, block, codeOf_append, codeOf_cons, codeOf_nil, Step.code, Step.push,
    Step.invoke, (titleWarnings_warns choice).code, codeOf_effectSteps, offerCode,
    List.nil_append, List.cons_append, List.append_assoc]

theorem codeOf_guardSteps (preconditions : List Content) (inside : List Step) :
    codeOf (guardSteps preconditions inside) = guardCode preconditions (codeOf inside) := by
  have test : codeOf (preconditions.map preconditionStep) = preconditions.flatMap fun content =>
      (preconditionCode? content).toList.flatMap instructionsOf := by
    rw [codeOf, List.flatMap_map]
    refine List.flatMap_congr fun content _ => ?_
    cases content with
    | code source span => simp [preconditionStep, preconditionCode?, code_splice]
    | text | fence => rfl
  rw [guardSteps, guardCode]
  split
  · rfl
  · simp [block, test, Step.code, Step.invoke]

theorem codeOf_onceSteps (flag : Option String) (inside : List Step) :
    codeOf (onceSteps flag inside) = onceCode flag (codeOf inside) := by
  cases flag <;> simp [onceSteps, onceCode, block, Step.code, Step.push, Step.invoke]

theorem codeOf_choicesSteps (state : String) (index : Nat) (choices : List Choice) :
    codeOf (choicesSteps settings state index choices) =
      choicesCode settings state index choices := by
  induction choices generalizing index with
  | nil => rfl
  | cons choice rest induction =>
      rw [choicesSteps_cons, codeOf_append, induction, choicesCode, choiceSteps, codeOf_append,
        (directiveWarnings_warns choice).code, List.nil_append, codeOf_onceSteps,
        codeOf_guardSteps, codeOf_offerSteps]

theorem codeOf_statesSteps (index : Nat) (states : List State) :
    codeOf (statesSteps settings index states) = statesCode settings index states := by
  induction states generalizing index with
  | nil => rfl
  | cons state rest induction =>
      rw [statesSteps, codeOf_append, induction, statesCode]
      simp [stateSteps, stateCode, codeOf_contents, codeOf_choicesSteps, Step.code, Step.invoke]

theorem codeOf_preambleSteps : codeOf (preambleSteps settings) = preambleCode settings := by
  rw [preambleSteps, preambleCode, codeOf_append, codeOf_flatMap]
  cases settings.initialState <;> rfl

/-- The code of a script is that of its document. -/
theorem codeOf_script : codeOf (script settings document) = documentCode settings document := by
  simp only [script, documentCode, codeOf_append, (whitespaceWarnings_warns settings).code,
    codeOf_preambleSteps, codeOf_statesSteps, List.nil_append]
  rfl

/-! ## The labels of a program -/

theorem Place.entry_eq (place : Place document) : place.entry settings =
    (preambleCode settings ++ statesCode settings 0 place.earlier).length := by
  rw [Place.entry, Place.front, codeOf_append, codeOf_append, codeOf_preambleSteps,
    codeOf_statesSteps, (whitespaceWarnings_warns settings).code, List.nil_append]

theorem Place.options_eq (place : Place document) : place.options settings =
    place.entry settings + (place.state.body.flatMap (contentCode settings)).length := by
  rw [Place.options, Place.body, codeOf_contents]

/-- What a label of a document stands for: the body of a state, what follows the body, or what the
label stands for in code of the document. -/
inductive LabelAt (settings : Settings) (document : Document) : String → Nat → Prop
  | state {earlier later : List State} {state : State}
    (states : document.states = earlier ++ state :: later) :
    LabelAt settings document state.name
      (preambleCode settings ++ statesCode settings 0 earlier).length
  | options {earlier later : List State} {state : State}
    (states : document.states = earlier ++ state :: later) :
    LabelAt settings document (optionsLabel state.name)
      (preambleCode settings ++ statesCode settings 0 earlier ++
        state.body.flatMap (contentCode settings)).length
  | code {code name : String} {base shift : Nat} {fragment : Code.Fragment}
    (spliced : Spliced settings document code base)
    (compiles : Code.compile code = .ok fragment)
    (declares : fragment.labels.get? name = some shift) :
    LabelAt settings document name (base + shift)

namespace Laid

variable (laid : Laid (script settings document) program)

include laid

theorem label_iff {name : String} {offset : Nat} :
    program.label? name = some offset ↔ LabelAt settings document name offset := by
  constructor
  · intro found
    obtain ⟨before, step, after, shift, split, member, rfl⟩ := (laid.label name offset).mp found
    cases step with
    | define label span =>
        obtain ⟨rfl, rfl⟩ : name = label ∧ shift = 0 := by simpa [Step.labels] using member
        have defines : .define name span ∈ script settings document := by simp [split]
        obtain ⟨state, among, labels⟩ := label_of_script defines
        obtain ⟨earlier, later, states⟩ := List.append_of_mem among
        have here := laid.label_of_define split
        rw [Nat.add_zero]
        rcases labels with rfl | rfl
        · rw [← Option.some.inj ((laid.state_label ⟨_, _, _, states⟩).symm.trans here),
            Place.entry_eq]
          exact .state states
        · rw [← Option.some.inj ((laid.options_label ⟨_, _, _, states⟩).symm.trans here),
            Place.options_eq, Place.entry_eq, ← List.length_append]
          exact .options states
    | splice code span =>
        rw [Step.labels] at member
        cases compiles : Code.compile code with
        | error error => simp [compiles] at member
        | ok fragment =>
            rw [compiles] at member
            exact .code ⟨before, span, after, split, rfl⟩ compiles
              (Table.get?_eq_some_iff.mpr member)
    | _ => simp [Step.labels] at member
  · rintro (states | states | ⟨⟨before, span, after, split, rfl⟩, compiles, declares⟩)
    · rw [← Place.entry_eq ⟨_, _, _, states⟩]
      exact laid.state_label ⟨_, _, _, states⟩
    · rw [List.length_append, ← Place.entry_eq ⟨_, _, _, states⟩,
        ← Place.options_eq ⟨_, _, _, states⟩]
      exact laid.options_label ⟨_, _, _, states⟩
    · refine (laid.label _ _).mpr ⟨before, _, after, _, split, ?_, rfl⟩
      simp only [Step.labels, compiles]
      exact Table.get?_eq_some_iff.mp declares

/-- No label points past the last instruction. -/
theorem label_lt {name : String} {offset : Nat} (found : program.label? name = some offset) :
    offset < program.length := by
  obtain ⟨before, step, after, shift, split, member, rfl⟩ := (laid.label name offset).mp found
  have inside := Step.label_le member
  rw [Program.length, laid.instructions, split]
  -- The exit at the end is behind every step that defines a label.
  rcases List.eq_nil_or_concat after with rfl | ⟨later, last, rfl⟩
  · obtain ⟨-, ends⟩ := List.append_inj' split rfl
    cases ends
    simp [Step.labels, Step.invoke] at member
  · rw [List.concat_eq_append, ← List.cons_append, ← List.append_assoc] at split ⊢
    obtain ⟨-, ends⟩ := List.append_inj' split rfl
    cases ends
    have last : (codeOf [.invoke "exit"]).length = 1 := rfl
    rw [codeOf_append, List.length_append, last, codeOf_append, codeOf_cons, List.length_append,
      List.length_append]
    omega

/-- The labels of a program are those of its document. -/
theorem keys_perm (distinct : (declared document).Nodup) :
    program.labels.keys.Perm (declared document) := by
  refine (List.perm_ext_iff_of_nodup program.labels.keys_nodup distinct).mpr fun name => ?_
  rw [← namesOf_outline.mem_iff, ← notesOf_script, namesOf_notesOf, mem_namesOf_iff,
    ← Table.contains_iff_mem_keys, Table.contains, Option.isSome_iff_exists]
  exact exists_congr fun offset => laid.label name offset

end Laid

theorem length_declared (document : Document) : (declared document).length =
    2 * document.states.length +
      ((codesOf document).map fun code => (codeLabels code).length).sum := by
  rw [declared, List.length_append, List.length_append, List.length_map, List.length_map,
    List.length_flatMap]
  omega

/-- How a program is laid out: its instructions are those of the document, code stands in it as it
is, and its labels are those of the states, of their options, and of the code, with the offsets that
these have in the program. -/
theorem program_layout {compiled : Compiled} (accepted : compile document = .ok compiled)
    (read : Settings.ofTable document.settings = .ok settings) :
    compiled.program.instructions = documentCode settings document ∧
      splicesOf (script settings document) = document.contents.filterMap Content.code? ∧
      (∀ code base, Spliced settings document code base → ∃ fragment,
        Code.compile code = .ok fragment ∧ compiled.program.Holds base fragment.instructions) ∧
      (∀ name offset, compiled.program.label? name = some offset ↔
        LabelAt settings document name offset) ∧
      compiled.program.labels.size = 2 * document.states.length +
        ((document.contents.filterMap Content.code?).map fun code =>
          (codeLabels code).length).sum ∧
      ∀ name offset, compiled.program.label? name = some offset →
        offset < compiled.program.length := by
  obtain ⟨found, read_found, laid⟩ := compile_laid accepted
  obtain rfl : found = settings := Except.ok.inj (read_found.symm.trans read)
  obtain ⟨same, read_same, compilable⟩ := compile_ok_iff.mp ⟨compiled, accepted⟩
  have codes : codesOf document = document.contents.filterMap Content.code? := by
    rw [codesOf, ← splicesOf_script, laid.splices]
  refine ⟨laid.instructions.trans codeOf_script, laid.splices, fun code base spliced => ?_,
    fun name offset => laid.label_iff, ?_, fun name offset => laid.label_lt⟩
  · obtain ⟨fragment, compiles⟩ := laid.spliced_compiles spliced
    exact ⟨fragment, compiles, laid.spliced_holds spliced compiles⟩
  · have size : compiled.program.labels.size = compiled.program.labels.keys.length := by
      rw [Table.size, Table.keys, List.length_map]
    rw [size, (laid.keys_perm compilable.labels).length_eq, length_declared, codes]

/-- Code with a label behind its only instruction. -/
def spotCode : String := "1 #spot"

theorem program_layout_cellar :
    ∃ compiled, compile (cellar spotCode) = .ok compiled ∧
      compiled.program.instructions =
        [.pushString "leave", .invoke "ppc", .pushNumber 4, .invoke "+", .openBlock,
          .pushNumber 1, .pushString "cellar__options", .invoke "goto", .closeBlock,
          .invoke "response", .invoke "getResponse", .invoke "goto", .invoke "exit"] ∧
        compiled.program.label? "spot" = some (5 + 1) ∧ compiled.program.labels.size = 3 := by
  obtain ⟨compiled, accepted, -⟩ :=
    exists_cellar (show cellarBlocks spotCode ≠ [] by decide +kernel)
  obtain ⟨instructions, -, -, label, size, -⟩ := program_layout accepted rfl
  let fragment : Code.Fragment := ⟨[.pushNumber 1], ⟨[("spot", 1)], by simp⟩⟩
  have compiles : Code.compile spotCode = .ok fragment := by decide +kernel
  refine ⟨compiled, accepted, instructions.trans (by decide +kernel), ?_,
    size.trans (by decide +kernel)⟩
  exact (label "spot" _).mpr (.code (cellar_spliced _) compiles rfl)

end Gamebook.Compile
