import Gamebook.Proofs.Compile.Outline

/-!
# Faults

A step is at fault if its code has no meaning, if it defines a label that an earlier step has
defined, or if it refuses a precondition.  Steps are assembled exactly if none of them is at fault,
and otherwise the first one that is decides the error.  Nothing but the steps of note matters.
-/

namespace Gamebook.Compile

open Text (Span)

/-- The labels that a step defines. -/
def Step.names (step : Step) : List String :=
  step.labels.map Prod.fst

/-- The labels that steps define, in order. -/
def namesOf (steps : List Step) : List String :=
  steps.flatMap Step.names

/-- What is wrong with a step if some labels are defined in front of it.  A fragment is read before
its labels are looked up, and these are looked up in the order of their names. -/
def Step.fault? (earlier : List String) : Step → Option Error
  | .define label span =>
    if label ∈ earlier then some (.duplicateLabel label (some span)) else none
  | .splice code span =>
    match Code.compile code with
    | .error error => some (.lex error span)
    | .ok fragment =>
      (fragment.labels.keys.find? (· ∈ earlier)).map fun label => .duplicateLabel label (some span)
  | .refuse span => some (.nonCodePrecondition span)
  | _ => none

/-- No step is at fault. -/
def Clean (steps : List Step) : Prop :=
  ∀ before step after, steps = before ++ step :: after → step.fault? (namesOf before) = none

section Names

@[simp]
theorem namesOf_nil : namesOf [] = [] := rfl

@[simp]
theorem namesOf_cons (step : Step) (steps : List Step) :
    namesOf (step :: steps) = step.names ++ namesOf steps :=
  List.flatMap_cons

@[simp]
theorem namesOf_append (first second : List Step) :
    namesOf (first ++ second) = namesOf first ++ namesOf second :=
  List.flatMap_append

theorem mem_namesOf_iff {steps : List Step} {name : String} :
    name ∈ namesOf steps ↔ ∃ offset, Defines steps name offset := by
  constructor
  · intro member
    obtain ⟨step, among, named⟩ := List.mem_flatMap.mp member
    obtain ⟨⟨_, shift⟩, labeled, rfl⟩ := List.mem_map.mp named
    obtain ⟨before, after, split⟩ := List.append_of_mem among
    exact ⟨_, before, step, after, shift, split, labeled, rfl⟩
  · rintro ⟨_, before, step, after, shift, rfl, labeled, -⟩
    exact List.mem_flatMap.mpr ⟨step, by simp, List.mem_map.mpr ⟨_, labeled, rfl⟩⟩

end Names

/-! ## The faults of steps -/

namespace Step

variable {step : Step} {earlier others : List String}

/-- The order of earlier labels does not matter. -/
theorem fault?_congr (same : ∀ name, name ∈ earlier ↔ name ∈ others) :
    step.fault? earlier = step.fault? others := by
  cases step <;> simp only [fault?, same]

/-- What it takes for a step not to be at fault. -/
theorem fault?_eq_none_iff : step.fault? earlier = none ↔
    (∀ span, step ≠ .refuse span) ∧
      (∀ code span, step = .splice code span → ∃ fragment, Code.compile code = .ok fragment) ∧
        ∀ name ∈ step.names, name ∉ earlier := by
  cases step with
  | splice code span =>
      cases compiled : Code.compile code <;>
        simp [fault?, names, labels, compiled, Table.keys]
  | _ => simp [fault?, names, labels]

/-- A step is never at fault for what linking checks. -/
theorem fault?_ne_program {reason : LinkError} : step.fault? earlier ≠ some (.program reason) := by
  cases step with
  | define label span =>
      rw [fault?]
      split <;> simp
  | splice code span =>
      rw [fault?]
      cases Code.compile code <;> simp
  | _ => simp [fault?]

/-- A step defines no label twice. -/
theorem names_nodup (step : Step) : step.names.Nodup := by
  cases step with
  | splice code span =>
      rw [names, labels]
      cases Code.compile code with
      | error error => simp
      | ok fragment => exact fragment.labels.keys_nodup
  | _ => simp [names, labels]

/-- Only steps of note define labels. -/
theorem names_of_not_note (plain : step.isNote = false) : step.names = [] := by
  cases step <;> first | rfl | cases plain

/-- Only steps of note can be at fault. -/
theorem fault?_of_not_note (plain : step.isNote = false) : step.fault? earlier = none := by
  cases step <;> first | rfl | cases plain

end Step

/-! ## Assembling steps -/

namespace Assembly

variable {assembly : Assembly} {span : Span} {error : Error} {steps : List Step}

/-- Of several labels the first one that is defined already is reported. -/
theorem defineAll_error_iff {labels : List (String × Nat)}
    (distinct : (labels.map Prod.fst).Nodup) :
    labels.foldlM (fun current label => current.define span label) assembly = .error error ↔
      ((labels.map Prod.fst).find? (· ∈ assembly.labels.keys)).map
        (fun label => Error.duplicateLabel label (some span)) = some error := by
  induction labels generalizing assembly with
  | nil => simp [pure, Except.pure]
  | cons label rest induction =>
      obtain ⟨apart, distinct⟩ := List.nodup_cons.mp distinct
      rw [List.foldlM_cons, List.map_cons, define]
      by_cases defined : assembly.labels.contains label.1
      · have among := Table.contains_iff_mem_keys.mp defined
        simp [defined, among, bind, Except.bind]
      · have absent := mt Table.contains_iff_mem_keys.mpr defined
        have same (name : String) (member : name ∈ rest.map Prod.fst) :
            name ∈ (assembly.labels.insert label.1 label.2).keys ↔ name ∈ assembly.labels.keys := by
          have other : label.1 ≠ name := fun equal => apart (equal ▸ member)
          simp [← Table.contains_iff_mem_keys, other]
        rw [if_neg defined, List.find?_cons_of_neg (by simpa using absent)]
        refine (induction distinct).trans ?_
        rw [List.find?_congr fun name member => decide_eq_decide.mpr (same name member)]

/-- A step fails with what is wrong with it. -/
theorem step_error_iff {step : Step} : assembly.step step = .error error ↔
    step.fault? assembly.labels.keys = some error := by
  cases step with
  | define label span =>
      rw [Assembly.step, define, Step.fault?]
      by_cases defined : assembly.labels.contains label
      · simp [defined, Table.contains_iff_mem_keys.mp defined]
      · simp [defined, mt Table.contains_iff_mem_keys.mpr defined]
  | splice code span =>
      rw [Assembly.step, Step.fault?]
      cases compiled : Code.compile code with
      | error lexError => simp
      | ok fragment =>
          let labels := fragment.labels.entries.map fun entry =>
            (entry.1, assembly.instructions.length + entry.2)
          have names : labels.map Prod.fst = fragment.labels.keys := by
            simp [labels, Table.keys]
          have placed : assembly.splice fragment span = .error error ↔
              labels.foldlM (fun current label => current.define span label) assembly =
                .error error := by
            rw [splice]
            cases labels.foldlM (fun current label => current.define span label) assembly <;>
              simp
          rw [placed, defineAll_error_iff (names ▸ fragment.labels.keys_nodup), names]
  | _ => simp [Assembly.step, Step.fault?]

/-- Steps fail with what is wrong with the first one that fails. -/
theorem run_error_iff : assembly.run steps = .error error ↔
    ∃ before step after between, steps = before ++ step :: after ∧
      assembly.run before = .ok between ∧ between.step step = .error error := by
  induction steps generalizing assembly with
  | nil => simp [run, pure, Except.pure]
  | cons first rest induction =>
      have onward {between : Assembly} (stepped : assembly.step first = .ok between)
          (later : List Step) : assembly.run (first :: later) = between.run later := by
        rw [run, List.foldlM_cons, stepped]
        rfl
      cases stepped : assembly.step first with
      | error reason =>
          have stops (later : List Step) : assembly.run (first :: later) = .error reason := by
            rw [run, List.foldlM_cons, stepped]
            rfl
          rw [stops]
          constructor
          · rintro ⟨⟩
            exact ⟨[], first, rest, assembly, rfl, rfl, stepped⟩
          · rintro ⟨before, step, after, between, split, ran, failed⟩
            cases before with
            | nil =>
                cases split
                cases ran
                exact stepped.symm.trans failed
            | cons other before =>
                cases split
                rw [stops] at ran
                cases ran
      | ok between =>
          rw [onward stepped, induction]
          constructor
          · rintro ⟨before, step, after, reached, rfl, ran, failed⟩
            exact ⟨first :: before, step, after, reached, rfl, (onward stepped before).trans ran,
              failed⟩
          · rintro ⟨before, step, after, reached, split, ran, failed⟩
            cases before with
            | nil =>
                cases split
                cases ran
                rw [stepped] at failed
                cases failed
            | cons other before =>
                cases split
                exact ⟨before, step, after, reached, rfl, (onward stepped before).symm.trans ran,
                  failed⟩

/-- The labels that have been assembled are those that the steps define. -/
theorem run_names {after : Assembly} (ran : empty.run steps = .ok after) (name : String) :
    name ∈ after.labels.keys ↔ name ∈ namesOf steps := by
  obtain ⟨-, labels, -⟩ := run_ok ran
  rw [← Table.contains_iff_mem_keys, Table.contains, Option.isSome_iff_exists, mem_namesOf_iff]
  refine exists_congr fun offset => ?_
  simp [labels, empty]

/-- Steps are assembled if none of them is at fault. -/
theorem exists_run_iff : (∃ assembly, empty.run steps = .ok assembly) ↔ Clean steps := by
  constructor
  · rintro ⟨assembly, ran⟩ before step after rfl
    rw [run, List.foldlM_append] at ran
    cases started : empty.run before with
    | error error =>
        rw [run] at started
        rw [started] at ran
        cases ran
    | ok between =>
        rw [← Step.fault?_congr (run_names started), Option.eq_none_iff_forall_ne_some]
        intro error fault
        rw [run] at started
        rw [started] at ran
        have failed := step_error_iff.mpr fault
        simp [bind, Except.bind, failed] at ran
  · intro clean
    cases ran : empty.run steps with
    | ok assembly => exact ⟨assembly, rfl⟩
    | error error =>
        obtain ⟨before, step, after, between, split, started, failed⟩ := run_error_iff.mp ran
        rw [step_error_iff, Step.fault?_congr (run_names started), clean before step after split]
          at failed
        cases failed

/-- Steps fail with what is wrong with the first one that is at fault. -/
theorem run_fault_iff : empty.run steps = .error error ↔
    ∃ before step after, steps = before ++ step :: after ∧ Clean before ∧
      step.fault? (namesOf before) = some error := by
  rw [run_error_iff]
  refine exists_congr fun before => exists_congr fun step => exists_congr fun after => ?_
  constructor
  · rintro ⟨between, split, ran, failed⟩
    rw [step_error_iff, Step.fault?_congr (run_names ran)] at failed
    exact ⟨split, exists_run_iff.mp ⟨between, ran⟩, failed⟩
  · rintro ⟨split, clean, fault⟩
    obtain ⟨between, ran⟩ := exists_run_iff.mpr clean
    refine ⟨between, split, ran, ?_⟩
    rw [step_error_iff, Step.fault?_congr (run_names ran)]
    exact fault

end Assembly

/-! ## Steps without faults -/

section Clean

variable {steps : List Step} {step : Step}

theorem Clean.nil : Clean [] := by
  intro before step after split
  simp at split

theorem Clean.append_singleton_iff :
    Clean (steps ++ [step]) ↔ Clean steps ∧ step.fault? (namesOf steps) = none := by
  constructor
  · intro clean
    exact ⟨fun before other after split => clean before other (after ++ [step]) (by simp [split]),
      clean steps step [] rfl⟩
  · rintro ⟨clean, faultless⟩ before other after split
    rcases List.eq_nil_or_concat after with rfl | ⟨later, last, rfl⟩
    · obtain ⟨rfl, rfl⟩ : steps = before ∧ step = other := by simpa using split
      exact faultless
    · rw [List.concat_eq_append, ← List.cons_append, ← List.append_assoc] at split
      exact clean before other later (List.append_inj_left' split rfl)

/-- What it takes for no step to be at fault. -/
theorem Clean.iff_distinct : Clean steps ↔
    (∀ span, .refuse span ∉ steps) ∧
      (∀ code span, .splice code span ∈ steps → ∃ fragment, Code.compile code = .ok fragment) ∧
        (namesOf steps).Nodup := by
  induction steps using List.reverseRecOn with
  | nil => simp [Clean.nil]
  | append_singleton steps step induction =>
      rw [append_singleton_iff, induction, Step.fault?_eq_none_iff]
      have names : (namesOf (steps ++ [step])).Nodup ↔
          (namesOf steps).Nodup ∧ ∀ name ∈ step.names, name ∉ namesOf steps := by
        rw [namesOf_append, namesOf_cons, namesOf_nil, List.append_nil, List.nodup_append']
        exact and_congr_right fun _ =>
          ⟨fun ⟨_, apart⟩ => fun name member among => apart among member,
            fun apart => ⟨step.names_nodup, fun name among member => apart name member among⟩⟩
      rw [names]
      simp only [List.mem_append, List.mem_singleton]
      grind

/-- Only steps of note define labels. -/
theorem namesOf_notesOf (steps : List Step) : namesOf (notesOf steps) = namesOf steps := by
  induction steps with
  | nil => rfl
  | cons step rest induction =>
      rw [notesOf_cons, namesOf_cons]
      split
      · rw [namesOf_cons, induction]
      · rename_i plain
        rw [Step.names_of_not_note (Bool.eq_false_iff.mpr plain), induction, List.nil_append]

/-- Where a step of note stands among the steps of note, it stands among all steps. -/
theorem notesOf_eq_append_iff {before after : List Step} :
    notesOf steps = before ++ step :: after ↔
      ∃ front back, steps = front ++ step :: back ∧ notesOf front = before ∧
        notesOf back = after ∧ step.isNote = true := by
  constructor
  · intro split
    obtain ⟨front, rest, rfl, rfl, behind⟩ := List.filter_eq_append_iff.mp split
    obtain ⟨skipped, back, rfl, plain, note, rfl⟩ := List.filter_eq_cons_iff.mp behind
    refine ⟨front ++ skipped, back, by simp, ?_, rfl, note⟩
    rw [notesOf_append, notesOf, notesOf, List.filter_eq_nil_iff.mpr plain, List.append_nil]
  · rintro ⟨front, back, rfl, rfl, rfl, note⟩
    rw [notesOf_append, notesOf_cons, if_pos note]

theorem Clean.notesOf_iff : Clean (notesOf steps) ↔ Clean steps := by
  constructor
  · intro clean before step after split
    cases note : step.isNote with
    | false => exact Step.fault?_of_not_note note
    | true =>
        rw [← namesOf_notesOf]
        exact clean _ _ _ (notesOf_eq_append_iff.mpr ⟨before, after, split, rfl, rfl, note⟩)
  · intro clean before step after split
    obtain ⟨front, back, whole, rfl, rfl, -⟩ := notesOf_eq_append_iff.mp split
    rw [namesOf_notesOf]
    exact clean front step back whole

/-- Steps fail with what is wrong with the first step of note that is at fault. -/
theorem run_error_iff_of_notes {error : Error} : Assembly.empty.run steps = .error error ↔
    ∃ before step after, notesOf steps = before ++ step :: after ∧ Clean before ∧
      step.fault? (namesOf before) = some error := by
  rw [Assembly.run_fault_iff]
  constructor
  · rintro ⟨before, step, after, split, clean, fault⟩
    have note : step.isNote = true := by
      by_contra plain
      rw [Step.fault?_of_not_note (Bool.eq_false_iff.mpr plain)] at fault
      cases fault
    exact ⟨notesOf before, step, notesOf after,
      notesOf_eq_append_iff.mpr ⟨before, after, split, rfl, rfl, note⟩,
      Clean.notesOf_iff.mpr clean, by rwa [namesOf_notesOf]⟩
  · rintro ⟨before, step, after, split, clean, fault⟩
    obtain ⟨front, back, whole, rfl, rfl, -⟩ := notesOf_eq_append_iff.mp split
    exact ⟨front, step, back, whole, Clean.notesOf_iff.mp clean, by rwa [namesOf_notesOf] at fault⟩

end Clean

end Gamebook.Compile
