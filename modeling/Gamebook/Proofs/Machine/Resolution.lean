import Gamebook.Proofs.Machine.Sessions
import Gamebook.Proofs.Program.Stored

/-!
# Names are resolved on loading

A program names the natives that it calls.  All names are looked up when a machine is built, whether
or not the calls are ever reached, and the first one that is not registered is reported.  Neither
program nor registry changes in a run, so a machine that has been built never comes upon a name
without a native.
-/

namespace Gamebook

/-! ## First occurrences -/

section Occurrences

variable {α β : Type} [BEq α] [LawfulBEq α] [BEq β] [LawfulBEq β]

/-- Of two values of a function, the first one is the first one among the arguments too. -/
theorem idxOf_lt_of_filterMap {f : α → Option β} {first second : α} {left right : β}
    (first_value : ∀ argument, f argument = some left ↔ argument = first)
    (second_value : ∀ argument, f argument = some right ↔ argument = second) {list : List α}
    (less : (list.filterMap f).idxOf left < (list.filterMap f).idxOf right) :
    list.idxOf first < list.idxOf second := by
  induction list with
  | nil => simp at less
  | cons head rest induction =>
      by_cases at_first : head = first
      · subst at_first
        have value : f head = some left := (first_value head).mpr rfl
        have apart : head ≠ second := by
          rintro rfl
          obtain rfl := Option.some.inj (value.symm.trans ((second_value head).mpr rfl))
          exact lt_irrefl _ less
        simp [apart]
      · have other : f head ≠ some left := fun value => at_first ((first_value head).mp value)
        by_cases at_second : head = second
        · have value : f head = some right := (second_value head).mpr at_second
          simp [value] at less
        · have neither : f head ≠ some right :=
            fun value => at_second ((second_value head).mp value)
          have later : (rest.filterMap f).idxOf left < (rest.filterMap f).idxOf right := by
            cases value : f head with
            | none => simpa [List.filterMap_cons, value] using less
            | some result =>
                have not_left : result ≠ left := fun same => other (same ▸ value)
                have not_right : result ≠ right := fun same => neither (same ▸ value)
                simpa [List.filterMap_cons, value, List.idxOf_cons, not_left, not_right] using less
          simpa [List.idxOf_cons, at_first, at_second] using induction later

omit [LawfulBEq α] in
/-- What holds of a list if it holds of what is left behind its head without further copies of the
head holds of every list. -/
theorem eraseDups_induction {motive : List α → Prop} (nil : motive [])
    (cons : ∀ head rest, motive (rest.filter fun other => !other == head) → motive (head :: rest))
    (list : List α) : motive list := by
  induction count : list.length using Nat.strong_induction_on generalizing list with
  | _ count induction =>
      subst count
      cases list with
      | nil => exact nil
      | cons head rest =>
          apply cons
          apply induction _ _ _ rfl
          exact Nat.lt_succ_of_le (List.length_filter_le _ rest)

/-- Of every value the first occurrence is kept, in order. -/
theorem eraseDups_pairwise (list : List α) :
    list.eraseDups.Pairwise fun first second => list.idxOf first < list.idxOf second := by
  induction list using eraseDups_induction with
  | nil => simp
  | cons head rest induction =>
      have apart {value : α}
          (member : value ∈ (rest.filter fun other => !other == head).eraseDups) :
          head ≠ value := by
        have := (List.mem_filter.mp (List.mem_eraseDups.mp member)).2
        rintro rfl
        simp at this
      rw [List.eraseDups_cons]
      refine List.pairwise_cons.mpr ⟨fun value member => by simp [apart member], ?_⟩
      apply induction.imp_of_mem
      intro first second here there less
      have kept {value : α}
          (member : value ∈ (rest.filter fun other => !other == head).eraseDups) (argument : α) :
          Option.guard (fun other => !other == head) argument = some value ↔ argument = value := by
        have := apart member
        simp only [Option.guard_eq_some_iff]
        grind
      have before : rest.idxOf first < rest.idxOf second := by
        apply idxOf_lt_of_filterMap (kept here) (kept there)
        rwa [List.filterMap_eq_filter]
      simpa [List.idxOf_cons, apart here, apart there] using before

/-- The first value that passes a test is not one of those that are dropped. -/
theorem find?_eraseDups (test : α → Bool) (list : List α) :
    list.eraseDups.find? test = list.find? test := by
  induction list using eraseDups_induction with
  | nil => rfl
  | cons head rest induction =>
      rw [List.eraseDups_cons]
      cases passes : test head with
      | true => simp [passes]
      | false =>
          rw [List.find?_cons_of_neg (by simp [passes]), List.find?_cons_of_neg (by simp [passes]),
            induction, List.find?_filter]
          apply congrArg (List.find? · rest)
          funext other
          by_cases same : other = head <;> simp [same, passes]

end Occurrences

/-! ## The names that a program calls -/

theorem Instruction.native?_eq_some_iff {instruction : Instruction} {name : String} :
    instruction.native? = some name ↔ instruction = .invoke name := by
  cases instruction <;> simp [Instruction.native?]

namespace Program

variable {program : Program} {name : String}

theorem mem_nativeNames_iff :
    name ∈ program.nativeNames ↔ .invoke name ∈ program.instructions := by
  simp [nativeNames, Instruction.native?_eq_some_iff]

/-- The names stand in the order of their first calls. -/
theorem nativeNames_pairwise (program : Program) :
    program.nativeNames.Pairwise fun first second =>
      program.instructions.idxOf (.invoke first) < program.instructions.idxOf (.invoke second) :=
  (eraseDups_pairwise (program.instructions.filterMap Instruction.native?)).imp fun less =>
    idxOf_lt_of_filterMap (fun _ => Instruction.native?_eq_some_iff)
      (fun _ => Instruction.native?_eq_some_iff) less

theorem nativeNames_nodup (program : Program) : program.nativeNames.Nodup := by
  apply List.nodup_iff_pairwise_ne.mpr
  apply program.nativeNames_pairwise.imp
  rintro first second less rfl
  exact lt_irrefl _ less

/-- Where the spellings of braces stand for braces, no brace is called by its name. -/
theorem braces_not_mem_nativeNames
    (recognized : ∀ instruction ∈ program.instructions, instruction.recognized = instruction) :
    Instruction.openText ∉ program.nativeNames ∧ Instruction.closeText ∉ program.nativeNames := by
  constructor <;> intro member <;> cases recognized _ (mem_nativeNames_iff.mp member)

end Program

namespace Machine

variable {natives : Registry} {program : Program} {machine after : Machine}

/-! ## Loading -/

/-- Every name that is called is registered. -/
def Resolved (natives : Registry) (instructions : List Instruction) : Prop :=
  ∀ name, .invoke name ∈ instructions → natives.contains name = true

/-- Every instruction that calls a native calls one that is registered. -/
theorem resolved_iff {instructions : List Instruction} :
    Resolved natives instructions ↔
      ∀ instruction ∈ instructions, instruction.native?.all natives.contains = true := by
  constructor
  · intro resolved instruction member
    cases instruction with
    | invoke name => exact resolved name member
    | _ => rfl
  · intro registered name member
    exact registered _ member

instance (natives : Registry) (instructions : List Instruction) :
    Decidable (Resolved natives instructions) :=
  decidable_of_iff _ resolved_iff.symm

/-- The first call of a name that is not registered is one of `name`. -/
def FirstUnknown (natives : Registry) (instructions : List Instruction) (name : String) : Prop :=
  ∃ before after, instructions = before ++ .invoke name :: after ∧ natives.contains name = false ∧
    Resolved natives before

theorem missingNative?_eq_none_iff :
    missingNative? program natives = none ↔ Resolved natives program.instructions := by
  simp [missingNative?, Resolved, Program.mem_nativeNames_iff]

theorem missingNative?_eq_some_iff {name : String} :
    missingNative? program natives = some name ↔
      FirstUnknown natives program.instructions name := by
  rw [missingNative?, Program.nativeNames, find?_eraseDups, List.find?_filterMap,
    Option.bind_eq_some_iff]
  simp only [List.find?_eq_some_iff_append, Instruction.native?_eq_some_iff]
  constructor
  · rintro ⟨_, ⟨unknown, before, after, split, known⟩, rfl⟩
    refine ⟨before, after, split, by simpa [Instruction.native?] using unknown, ?_⟩
    intro other called
    simpa [Instruction.native?] using known _ called
  · rintro ⟨before, after, split, unknown, known⟩
    refine ⟨_, ⟨by simp [Instruction.native?, unknown], before, after, split, ?_⟩, rfl⟩
    intro other called
    cases other with
    | invoke name => simp [Instruction.native?, known name called]
    | _ => rfl

theorem exists_create_iff :
    (∃ machine, create program natives = .ok machine) ↔ Resolved natives program.instructions := by
  rw [← missingNative?_eq_none_iff, create]
  cases missingNative? program natives <;> simp

theorem create_error_iff {error : LoadError} :
    create program natives = .error error ↔
      ∃ name, error = .undefinedFunction name ∧
        FirstUnknown natives program.instructions name := by
  simp only [← missingNative?_eq_some_iff, create]
  cases missingNative? program natives <;> simp [eq_comm]

/-- A machine of a snapshot runs the program of the snapshot, which loads. -/
theorem ofSnapshot_ok {snapshot : Snapshot} (loaded : ofSnapshot snapshot natives = .ok machine) :
    ∃ program fresh, Program.link snapshot.instructions snapshot.labels = .ok program ∧
      create program natives = .ok fresh ∧ machine.program = program ∧
        machine.natives = natives := by
  rw [ofSnapshot] at loaded
  split at loaded
  · cases loaded
  · rename_i program linked
    cases created : create program natives with
    | error error => simp [created] at loaded
    | ok fresh =>
        simp only [created] at loaded
        obtain rfl := Except.ok.inj loaded
        have fresh_eq := create_eq created
        exact ⟨program, fresh, linked, created, by rw [fresh_eq], by rw [fresh_eq]⟩

/-- A snapshot whose program links is refused exactly if the program is, with the same error. -/
theorem ofSnapshot_error_iff {snapshot : Snapshot} {error : LoadError}
    (linked : Program.link snapshot.instructions snapshot.labels = .ok program) :
    ofSnapshot snapshot natives = .error error ↔ create program natives = .error error := by
  rw [ofSnapshot, linked]
  cases created : create program natives <;> simp [created, bind, Except.bind, pure, Except.pure]

theorem exists_ofSnapshot_iff {snapshot : Snapshot}
    (linked : Program.link snapshot.instructions snapshot.labels = .ok program) :
    (∃ machine, ofSnapshot snapshot natives = .ok machine) ↔
      ∃ machine, create program natives = .ok machine := by
  rw [ofSnapshot, linked]
  cases created : create program natives <;> simp [created, bind, Except.bind, pure, Except.pure]

/-! ## Running -/

/-- A machine that a host brings about has a native for every name that its program calls. -/
theorem Reachable.resolved (reachable : Reachable natives machine) :
    Resolved machine.natives machine.program.instructions := by
  induction reachable with
  | @create program machine created =>
      have resolved := exists_create_iff.mp ⟨machine, created⟩
      rw [create_eq created]
      exact resolved
  | @load snapshot machine loaded =>
      obtain ⟨program, fresh, -, created, program_eq, natives_eq⟩ := ofSnapshot_ok loaded
      rw [program_eq, natives_eq]
      exact exists_create_iff.mp ⟨fresh, created⟩
  | @perform machine reachable operation induction =>
      have evolves := perform_evolves machine operation
      rwa [evolves.natives, evolves.program]

/-- An operation fails in its last tick, or it is an answer that is refused. -/
theorem perform_error_cases {operation : Operation} {error : RuntimeError}
    (failed : (operation.perform machine).2.error? = some error) :
    (∃ before failing, operation.visits machine = before ++ [failing] ∧
      failing.tick = ((operation.perform machine).1, .error error)) ∨
        ∃ limit id, operation = .resume limit id ∧ machine.chosen? id = none ∧
          error = machine.refusal id := by
  have ran {limit : Nat} {start : Machine}
      (failed : (Reply.stopped (runFor limit start).2).error? = some error) :
      ∃ before failing, visited limit start = before ++ [failing] ∧
        failing.tick = ((runFor limit start).1, .error error) := by
    apply runFor_eq_error
    rcases told : (runFor limit start).2 with _ | other | outcome
    · simp [told, Reply.error?] at failed
    · simpa [told, Reply.error?] using failed
    · simp [told, Reply.error?] at failed
  cases operation with
  | tick =>
      rw [Operation.perform] at failed
      have ticked : machine.tick = (machine.tick.1, .error error) := by
        refine Prod.ext rfl ?_
        cases result : machine.tick.2 with
        | ok => simp [result, Reply.error?] at failed
        | error other => simpa [result, Reply.error?] using failed
      exact Or.inl ⟨[], machine, by simp [Operation.visits, (tick_error ticked).1], ticked⟩
  | run limit =>
      rw [Operation.perform, run] at failed ⊢
      rw [Operation.visits]
      split at failed
      · simp [Reply.error?] at failed
      · rename_i woken
        rw [if_neg woken, if_neg woken]
        exact Or.inl (ran failed)
  | resume limit id =>
      rw [Operation.perform] at failed ⊢
      rw [Operation.visits]
      cases chosen : machine.chosen? id with
      | some choice =>
          rw [resume_of_chosen chosen] at failed ⊢
          exact Or.inl (ran failed)
      | none =>
          rw [resume_of_not_chosen limit chosen] at failed
          exact Or.inr ⟨limit, id, rfl, chosen, by simpa [Reply.error?, eq_comm] using failed⟩
  | terminate | provide => simp [Operation.perform, Reply.error?] at failed

theorem refusal_ofInstruction (machine : Machine) (id : Nat) :
    (machine.refusal id).ofInstruction = false := by
  rw [refusal]
  split <;> rfl

/-- An operation that fails with the error of an instruction fails in a tick. -/
theorem perform_error {operation : Operation} {error : RuntimeError}
    (failed : (operation.perform machine).2.error? = some error)
    (own : error.ofInstruction = true) :
    ∃ failing : Machine, failing.tick = ((operation.perform machine).1, .error error) := by
  rcases perform_error_cases failed with ⟨-, failing, -, ticked⟩ | ⟨_, id, -, -, rfl⟩
  · exact ⟨failing, ticked⟩
  · simp [refusal_ofInstruction] at own

/-- No operation on a machine that a host brings about comes upon a name without a native. -/
theorem Reachable.never_undefined (reachable : Reachable natives machine) (operation : Operation)
    (name : String) : (operation.perform machine).2.error? ≠ some (.undefinedFunction name) := by
  intro failed
  obtain ⟨failing, ticked⟩ := perform_error failed rfl
  rcases tick_error_cases ticked with native | ⟨_, -, here, unknown⟩
  · cases native
  · have before := failing.tick_evolves
    have after := perform_evolves machine operation
    rw [ticked] at before
    rw [← before.program, after.program] at here
    have called := reachable.resolved _ (List.mem_of_getElem? here)
    rw [← after.natives, before.natives, Table.contains, unknown] at called
    cases called

/-- Whatever natives are registered, and under whatever names: a program loads, and a snapshot whose
program links loads, exactly if every name that its instructions call is registered, reachable or
not; otherwise the error tells the first one in the program that is not.  A machine that has been
loaded never fails for want of a native, however a host drives it.  The names of a program are those
that its instructions call, each once and in the order of the first calls; the braces are not among
them. -/
theorem names_resolved_on_loading (natives : Registry) :
    (∀ program : Program,
      ((∃ machine, create program natives = .ok machine) ↔
          Resolved natives program.instructions) ∧
        ∀ error, create program natives = .error error ↔
          ∃ name, error = .undefinedFunction name ∧
            FirstUnknown natives program.instructions name) ∧
      (∀ snapshot program, Program.link snapshot.instructions snapshot.labels = .ok program →
        ((∃ machine, ofSnapshot snapshot natives = .ok machine) ↔
            Resolved natives snapshot.instructions) ∧
          ∀ error, ofSnapshot snapshot natives = .error error ↔
            ∃ name, error = .undefinedFunction name ∧
              FirstUnknown natives snapshot.instructions name) ∧
      (∀ machine, Reachable natives machine → ∀ (operation : Operation) name,
        (operation.perform machine).2.error? ≠ some (.undefinedFunction name)) ∧
      ∀ program : Program, program.nativeNames.Nodup ∧
        (∀ name, name ∈ program.nativeNames ↔ .invoke name ∈ program.instructions) ∧
        (program.nativeNames.Pairwise fun first second =>
          program.instructions.idxOf (.invoke first) <
            program.instructions.idxOf (.invoke second)) ∧
        ((∀ instruction ∈ program.instructions, instruction.recognized = instruction) →
          Instruction.openText ∉ program.nativeNames ∧
            Instruction.closeText ∉ program.nativeNames) := by
  refine ⟨fun program => ⟨exists_create_iff, fun error => create_error_iff⟩,
    fun snapshot program linked => ?_,
    fun machine reachable operation name => reachable.never_undefined operation name,
    fun program => ⟨program.nativeNames_nodup, fun name => Program.mem_nativeNames_iff,
      program.nativeNames_pairwise, Program.braces_not_mem_nativeNames⟩⟩
  rw [← (Program.link_parts linked).1]
  exact ⟨(exists_ofSnapshot_iff linked).trans exists_create_iff,
    fun error => (ofSnapshot_error_iff linked).trans create_error_iff⟩

/-- A program that calls a native by a name of its own, and another one in a block that is
skipped. -/
private def callingProgram : Program where
  instructions :=
    [.pushNumber 1, .pushNumber 2, .invoke "plus", .openBlock, .invoke "emit", .closeBlock,
      .invoke "plus"]
  labels := Table.empty
  blocks := [⟨3, 5⟩]
  linked := rfl
  labels_le := by simp [Table.empty]

theorem names_resolved_on_loading_calling :
    let named := Registry.quest.addName "plus" "+"
    let fewer := Registry.builtin.addName "plus" "+"
    create callingProgram fewer = .error (.undefinedFunction "emit") ∧
      ∃ fresh, create callingProgram named = .ok fresh ∧
        ofSnapshot fresh.snapshot fewer = .error (.undefinedFunction "emit") ∧
          ∀ name, ((Operation.run 8).perform fresh).2.error? ≠ some (.undefinedFunction name) := by
  intro named fewer
  have unknown : FirstUnknown fewer callingProgram.instructions "emit" :=
    ⟨callingProgram.instructions.take 4, callingProgram.instructions.drop 5, by decide +kernel,
      by decide +kernel, by decide +kernel⟩
  obtain ⟨programs, snapshots, -⟩ := names_resolved_on_loading fewer
  obtain ⟨others, -, runs, -⟩ := names_resolved_on_loading named
  obtain ⟨fresh, created⟩ := (others callingProgram).1.mpr (by decide +kernel)
  have program_eq : fresh.program = callingProgram := by rw [create_eq created]
  refine ⟨((programs callingProgram).2 _).mpr ⟨"emit", rfl, unknown⟩, fresh, created, ?_,
    fun name => runs fresh (.create created fresh.random fresh.output) (.run 8) name⟩
  refine ((snapshots fresh.snapshot callingProgram ?_).2 _).mpr ⟨"emit", rfl, ?_⟩
  · exact program_eq ▸ fresh.program.link_self
  · rwa [← program_eq] at unknown

end Machine

end Gamebook
