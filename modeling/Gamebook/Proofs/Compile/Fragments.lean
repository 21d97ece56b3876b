import Gamebook.Proofs.Compile.Enclosure
import Gamebook.Proofs.Machine.Embedding

/-!
# Fragments in documents

A fragment of code that is balanced is a program of its own.  In the program of a document it stands
with its instructions, blocks and labels moved by the same offset, so a machine that comes to it
there does what a machine with nothing but the fragment does, for as long as that one stays in the
fragment.
-/

namespace Gamebook

namespace Code

/-- A balanced fragment is a program. -/
theorem exists_link {code : String} {fragment : Fragment} (compiled : compile code = .ok fragment)
    (balanced : Balanced fragment.instructions) :
    ∃ own, Program.link fragment.instructions fragment.labels = .ok own := by
  obtain ⟨blocks, linked⟩ := balanced
  exact ⟨_, Program.link_self
    ⟨fragment.instructions, fragment.labels, blocks, linked,
      Fragment.LabelsInside.of_compile compiled⟩⟩

end Code

namespace Compile

open Machine (ticks)
open Story (Choice Content Document Settings State)

variable {settings : Settings} {document : Document} {program own : Program} {code : String}
  {base : Nat} {fragment : Code.Fragment}

/-! ## The fragments of a document -/

theorem exists_site {state : State} {choice : Choice} (in_document : state ∈ document.states)
    (in_state : choice ∈ state.choices) : ∃ site : Site document, site.choice = choice := by
  obtain ⟨earlierStates, laterStates, states⟩ := List.append_of_mem in_document
  obtain ⟨earlierChoices, laterChoices, choices⟩ := List.append_of_mem in_state
  exact ⟨⟨earlierStates, state, laterStates, earlierChoices, choice, laterChoices, states, choices⟩,
    rfl⟩

namespace Laid

variable (laid : Laid (script settings document) program)

include laid

/-- The preconditions of a document that is accepted are code. -/
theorem preconditionCode?_eq {state : State} {choice : Choice} {content : Content}
    (in_document : state ∈ document.states) (in_state : choice ∈ state.choices)
    (guards : content ∈ choice.preconditions) :
    preconditionCode? content = content.code? := by
  cases content with
  | text | code => rfl
  | fence language source span =>
      obtain ⟨site, rfl⟩ := exists_site in_document in_state
      have tested : .refuse span ∈ site.ahead .guard := by
        simp only [Site.ahead, guardTest, List.mem_append, List.mem_map]
        exact Or.inr (Or.inr (Or.inl ⟨_, guards, rfl⟩))
      have has : site.Has .guard := List.ne_nil_of_mem guards
      refine absurd ?_ (laid.accepts span)
      rw [site.script_eq, site.steps_around has]
      simp [tested]

/-- The code that stands in the program of a document is that of its contents, in order. -/
theorem splices : splicesOf (script settings document) =
    document.contents.filterMap Content.code? := by
  rw [splicesOf_script, Document.contents, List.filterMap_flatMap]
  apply List.flatMap_congr
  intro state in_document
  rw [stateCodes, List.filterMap_append, List.filterMap_flatMap]
  congr 1
  apply List.flatMap_congr
  intro choice in_state
  rw [choiceCodes, List.filterMap_append]
  congr 1
  exact List.filterMap_congr fun content guards =>
    laid.preconditionCode?_eq in_document in_state guards

/-- A fragment stands in the program of a document with all that it is on its own. -/
theorem embeds (spliced : Spliced settings document code base)
    (compiled : Code.compile code = .ok fragment)
    (linked : Program.link fragment.instructions fragment.labels = .ok own) :
    own.Embeds program base := by
  obtain ⟨instructions, labels⟩ := Program.link_parts linked
  have holds := laid.spliced_holds spliced compiled
  rw [← instructions] at holds
  constructor
  · intro offset instruction here
    rw [holds.get?_add (List.getElem?_eq_some_iff.mp here).1]
    exact here
  · intro opening closing found
    have placed := holds.blockEnd?_shift own.linked (Program.blockEnd?_eq_some_iff.mp found)
    rwa [Nat.add_comm opening, Nat.add_comm closing] at placed
  · intro name offset labelled
    obtain ⟨before, span, after, split, rfl⟩ := spliced
    refine (laid.label _ _).mpr ⟨before, .splice code span, after, offset, split, ?_, rfl⟩
    rw [Program.label?, labels] at labelled
    simp only [Step.labels, compiled]
    exact Table.get?_eq_some_iff.mp labelled

end Laid

/-- A balanced fragment is a program of its own, and it does the same in the program of a document
as on its own.  If a machine with nothing but the fragment ticks with success, stays among the
instructions of the fragment, and neither asks for an offset nor jumps to a number, then a machine
that comes to the fragment in the program of the document with the same values ticks with success as
often, hands over the same values, and is left with the same values at the same place of the
fragment.  The fragments of a document are the code of its contents, in order. -/
theorem fragment_means_the_same {compiled : Compiled} (accepted : compile document = .ok compiled)
    (read : Settings.ofTable document.settings = .ok settings) :
    splicesOf (script settings document) = document.contents.filterMap Content.code? ∧
      ∀ code base fragment, Spliced settings document code base →
        Code.compile code = .ok fragment → Balanced fragment.instructions →
          ∃ own, Program.link fragment.instructions fragment.labels = .ok own ∧
            ∀ (alone : Machine) (told : List Value) (count : Nat), alone.program = own →
              alone.counter = 0 → (∀ early < count, (ticks early alone).1.isLocal = true) →
                (ticks count alone).2 = .ok () →
                  let story := { alone with
                    program := compiled.program, counter := base, output := told }
                  (ticks count story).2 = .ok () ∧
                    ∃ emitted, (ticks count alone).1.output = emitted ++ alone.output ∧
                      (ticks count story).1 = { (ticks count alone).1 with
                        program := compiled.program
                        counter := base + (ticks count alone).1.counter
                        output := emitted ++ told } := by
  obtain ⟨found, read_found, laid⟩ := compile_laid accepted
  obtain rfl : found = settings := Except.ok.inj (read_found.symm.trans read)
  refine ⟨laid.splices, fun code base fragment spliced compiles balanced => ?_⟩
  obtain ⟨own, linked⟩ := Code.exists_link compiles balanced
  refine ⟨own, linked, fun alone told count program counter is_local succeeds => ?_⟩
  have embeds : alone.program.Embeds compiled.program base :=
    program ▸ laid.embeds spliced compiles linked
  have begun : Machine.Alongside compiled.program base alone.output told alone
      { alone with program := compiled.program, counter := base, output := told } :=
    ⟨[], rfl, by rw [counter]; rfl⟩
  exact begun.ticks embeds is_local succeeds

/-- The program of the code with a block. -/
def blockProgram : Program where
  instructions := [.pushNumber 0, .invoke "jz", .openBlock, .invoke "exit", .closeBlock]
  labels := Table.empty
  blocks := [⟨2, 4⟩]
  linked := rfl
  labels_le := by simp [Table.empty]

/-- A machine at the start of the program. -/
def blockMachine : Machine :=
  { program := blockProgram, natives := Registry.quest, stack := [], context := Table.empty
    counter := 0, exited := false, paused := false, queued := [], offered := []
    random := .ofSeed 0, output := [] }

theorem fragment_means_the_same_cellar :
    ∃ compiled, compile (cellar blockCode) = .ok compiled ∧
      let story := { blockMachine with program := compiled.program, counter := 5 }
      (ticks 3 story).2 = .ok () ∧ (ticks 3 story).1.exited = true ∧
        (ticks 3 story).1.counter = 9 := by
  obtain ⟨compiled, accepted, -⟩ :=
    exists_cellar (show cellarBlocks blockCode ≠ [] by decide +kernel)
  obtain ⟨-, means⟩ := fragment_means_the_same accepted rfl
  have compiles : Code.compile blockCode = .ok ⟨blockProgram.instructions, Table.empty⟩ := by
    decide +kernel
  obtain ⟨own, linked, same⟩ :=
    means blockCode 5 _ (cellar_spliced _) compiles ⟨_, blockProgram.linked⟩
  obtain rfl : blockProgram = own := Except.ok.inj (blockProgram.link_self.symm.trans linked)
  obtain ⟨succeeds, emitted, -, after⟩ :=
    same blockMachine [] 3 rfl rfl (by decide +kernel) (by decide +kernel)
  have ends : (ticks 3 blockMachine).1.exited = true := by decide +kernel
  have counter : (ticks 3 blockMachine).1.counter = 4 := by decide +kernel
  refine ⟨compiled, accepted, succeeds, ?_, ?_⟩
  · exact (congrArg Machine.exited after).trans ends
  · exact (congrArg Machine.counter after).trans (congrArg (5 + ·) counter)

end Compile

end Gamebook
