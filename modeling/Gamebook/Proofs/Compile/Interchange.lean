import Gamebook.Proofs.Code.Rows
import Gamebook.Proofs.Compile.Acceptance
import Gamebook.Proofs.Compile.Alike

/-!
# Code in a row

Two pieces of code that are spliced one behind the other may be written as one: what is assembled is
the same.  Labels are moved twice on the way to a program, once within a piece of code and once when
it is spliced, and both times they move with their instructions.
-/

namespace Gamebook.Compile

open Code (Fragment)
open Story (Choice Content Document Settings State)
open Text (Span)

/-! ## Splicing fragments -/

/-- The instructions and labels of an assembly. -/
def Assembly.fragment (assembly : Assembly) : Fragment :=
  ⟨assembly.instructions, assembly.labels⟩

/-- What has been assembled, with a fragment behind it. -/
structure Appends (assembly after : Assembly) (fragment : Fragment) : Prop where
  row : assembly.fragment.IsRow fragment after.fragment
  references : after.references = assembly.references
  warnings : after.warnings = assembly.warnings

variable {assembly between after other : Assembly} {fragment one two whole : Fragment}
  {code first second gap : String} {span here there : Span}

theorem Appends.unique (appends : Appends assembly after fragment)
    (others : Appends assembly other fragment) : after = other := by
  obtain ⟨instructions, labels, references, warnings⟩ := after
  obtain ⟨row, rfl, rfl⟩ := appends
  obtain ⟨other_instructions, other_labels, other_references, other_warnings⟩ := other
  obtain ⟨other_row, rfl, rfl⟩ := others
  have same : (⟨instructions, labels⟩ : Fragment) = ⟨other_instructions, other_labels⟩ :=
    row.unique other_row
  cases same
  rfl

/-- A fragment behind another one is appended behind it. -/
theorem Appends.trans (appends : Appends assembly between one) (more : Appends between after two)
    (row : one.IsRow two whole) : Appends assembly after whole where
  row := appends.row.assoc more.row row
  references := more.references.trans appends.references
  warnings := more.warnings.trans appends.warnings

theorem appends_of_splice (compiled : Code.compile code = .ok fragment)
    (spliced : assembly.step (.splice code span) = .ok after) :
    Appends assembly after fragment := by
  have adds := Assembly.step_ok spliced
  refine ⟨⟨?_, fun name offset => ?_⟩, ?_, ?_⟩
  · simpa [Step.code, compiled, Assembly.fragment] using adds.instructions
  · refine (adds.label name offset).trans ?_
    simp only [Step.labels, compiled, Table.get?_eq_some_iff]
    rfl
  · simpa [Step.reference?] using adds.references
  · simpa [Step.warning?] using adds.warnings

/-- Code is spliced unless one of its labels is defined. -/
theorem exists_splice_iff (compiled : Code.compile code = .ok fragment) (span : Span) :
    (∃ after, assembly.step (.splice code span) = .ok after) ↔
      assembly.fragment.Apart fragment := by
  have faultless : (Step.splice code span).fault? assembly.labels.keys = none ↔
      assembly.fragment.Apart fragment := by
    have names : (Step.splice code span).names = fragment.labels.keys := by
      simp [Step.names, Step.labels, compiled, Table.keys]
    rw [Step.fault?_eq_none_iff, names]
    constructor
    · rintro ⟨-, -, fresh⟩ name member among
      exact fresh name among member
    · intro apart
      refine ⟨by simp, fun _ _ same => ?_,
        fun name among member => apart name member among⟩
      cases same
      exact ⟨fragment, compiled⟩
  rw [← faultless]
  cases stepped : assembly.step (.splice code span) with
  | error error => simp [Assembly.step_error_iff.mp stepped]
  | ok after =>
      simp only [Except.ok.injEq, exists_eq', true_iff, Option.eq_none_iff_forall_ne_some]
      intro error fault
      cases stepped.symm.trans (Assembly.step_error_iff.mpr fault)

theorem splice_ok_iff (compiled : Code.compile code = .ok fragment) :
    assembly.step (.splice code span) = .ok after ↔
      assembly.fragment.Apart fragment ∧ Appends assembly after fragment := by
  constructor
  · intro spliced
    have apart := (exists_splice_iff compiled span).mp ⟨after, spliced⟩
    exact ⟨apart, appends_of_splice compiled spliced⟩
  · rintro ⟨apart, appends⟩
    obtain ⟨other, spliced⟩ := (exists_splice_iff compiled span).mpr apart
    rwa [appends.unique (appends_of_splice compiled spliced)]

/-! ## Steps that may stand for others -/

/-- Steps that make the same of every assembly, or fail on both sides. -/
def Interchangeable (steps others : List Step) : Prop :=
  ∀ assembly after : Assembly, assembly.run steps = .ok after ↔ assembly.run others = .ok after

theorem interchangeable_congruence : Congruence Interchangeable where
  refl steps assembly after := Iff.rfl
  append same more assembly after := by
    simp only [Assembly.run, foldlM_append_ok_iff]
    exact exists_congr fun between => and_congr (same assembly between) (more between after)

theorem run_splice (code : String) (span : Span) :
    assembly.run [.splice code span] = assembly.step (.splice code span) := by
  rw [Assembly.run, List.foldlM_cons]
  cases assembly.step (.splice code span) <;> rfl

theorem run_splices : assembly.run [.splice first here, .splice second there] = .ok after ↔
    ∃ between, assembly.step (.splice first here) = .ok between ∧
      between.step (.splice second there) = .ok after := by
  simp only [Assembly.run, foldlM_cons_ok_iff]
  simp [pure, Except.pure]

/-- Two pieces of code may be written as one with blank characters between them. -/
theorem splices_interchange (compiled : Code.compile first = .ok one)
    (behind : Code.compile second = .ok two) (nonempty : gap ≠ "")
    (blank : ∀ c ∈ gap.toList, Text.isBlank c = true) (here there span : Span) :
    Interchangeable [.splice first here, .splice second there]
      [.splice (first ++ gap ++ second) span] := by
  intro assembly after
  rw [run_splices, run_splice]
  by_cases apart : one.Apart two
  · obtain ⟨whole, compiled_whole, row⟩ :=
      Code.compile_row compiled behind nonempty blank apart
    rw [splice_ok_iff compiled_whole]
    constructor
    · rintro ⟨between, spliced, later⟩
      obtain ⟨free, appends⟩ := (splice_ok_iff compiled).mp spliced
      obtain ⟨free_behind, more⟩ := (splice_ok_iff behind).mp later
      exact ⟨(appends.row.apart_iff row apart).mpr ⟨free, free_behind⟩, appends.trans more row⟩
    · rintro ⟨free, appends⟩
      obtain ⟨between, spliced⟩ := (exists_splice_iff compiled here).mpr (free.left row)
      have front := appends_of_splice compiled spliced
      have free_behind := ((front.row.apart_iff row apart).mp free).2
      obtain ⟨last, later⟩ := (exists_splice_iff behind there).mpr free_behind
      have same : after = last :=
        appends.unique (front.trans (appends_of_splice behind later) row)
      exact ⟨between, spliced, same ▸ later⟩
  · -- A label that both declare keeps both from being assembled.
    obtain ⟨_, _, _, _, -, -, -, fails⟩ :=
      Code.compile_clash compiled behind nonempty blank apart
    constructor
    · rintro ⟨between, spliced, later⟩
      have front := appends_of_splice compiled spliced
      obtain ⟨free_behind, -⟩ := (splice_ok_iff behind).mp later
      refine absurd (fun name member among => ?_) apart
      exact free_behind name (front.row.mem_keys_iff.mpr (Or.inr member)) among
    · intro spliced
      rw [Assembly.step, fails] at spliced
      cases spliced

/-! ## Code written as one -/

/-- Two codes next to each other among contents, and the contents in which they are one code. -/
inductive Joined (first gap second : String) : List Content → List Content → Prop
  | intro (before after : List Content) (here there span : Span) :
      Joined first gap second (before ++ .code first here :: .code second there :: after)
        (before ++ .code (first ++ gap ++ second) span :: after)

/-- A document, and the document in which two codes next to each other in a body or in the effects
of an option are one code. -/
inductive JoinedIn (first gap second : String) : Document → Document → Prop
  | body {settings : Table Json} {earlier later : List State} {state : State} {body : List Content}
      (joined : Joined first gap second state.body body) :
      JoinedIn first gap second ⟨settings, earlier ++ state :: later⟩
        ⟨settings, earlier ++ { state with body } :: later⟩
  | effects {settings : Table Json} {earlier later : List State} {state : State}
      {before after : List Choice} {choice : Choice} {effects : List Content}
      (split : state.choices = before ++ choice :: after)
      (joined : Joined first gap second choice.effects effects) :
      JoinedIn first gap second ⟨settings, earlier ++ state :: later⟩
        ⟨settings, earlier ++
          { state with choices := before ++ { choice with effects } :: after } :: later⟩

section Joined

variable (compiled : Code.compile first = .ok one) (behind : Code.compile second = .ok two)
  (nonempty : gap ≠ "") (blank : ∀ c ∈ gap.toList, Text.isBlank c = true)

include compiled behind nonempty blank

theorem Joined.interchange {contents others : List Content}
    (joined : Joined first gap second contents others) (settings : Settings) :
    Interchangeable (contents.flatMap (contentSteps settings))
      (others.flatMap (contentSteps settings)) := by
  obtain ⟨before, after, here, there, span⟩ := joined
  have same := interchangeable_congruence.around (before.flatMap (contentSteps settings))
    (after.flatMap (contentSteps settings))
    (splices_interchange compiled behind nonempty blank here there span)
  simpa [contentSteps] using same

theorem JoinedIn.alike {document joined : Document}
    (joins : JoinedIn first gap second document joined) (settings : Settings) :
    List.Forall₂ (StateAlike Interchangeable settings) document.states joined.states := by
  have choice_refl (choice : Choice) : ChoiceAlike Interchangeable settings choice choice :=
    interchangeable_congruence.choiceAlike choice
  have state_refl (state : State) : StateAlike Interchangeable settings state state :=
    interchangeable_congruence.stateAlike state
  cases joins with
  | @body _ earlier later state body joined =>
      refine forall₂_around state_refl earlier later { state_refl state with body := ?_ }
      exact joined.interchange compiled behind nonempty blank settings
  | @effects _ earlier later state before after choice effects split joined =>
      refine forall₂_around state_refl earlier later { state_refl state with choices := ?_ }
      rw [split]
      refine forall₂_around choice_refl before after { choice_refl choice with effects := ?_ }
      exact joined.interchange compiled behind nonempty blank settings

/-- A document in which two codes are written as one gives the same program and warnings. -/
theorem JoinedIn.compile_iff {document joined : Document}
    (joins : JoinedIn first gap second document joined) (result : Compiled) :
    compile document = .ok result ↔ compile joined = .ok result := by
  have table : joined.settings = document.settings := by cases joins <;> rfl
  cases read : Settings.ofTable document.settings with
  | error error => simp only [compile, table, read]
  | ok settings =>
      have script := interchangeable_congruence.script
        (joins.alike compiled behind nonempty blank settings)
      rw [compile_eq read, compile_eq (table ▸ read)]
      exact bind_ok_iff.trans
        ((exists_congr fun assembly => and_congr_left' (script _ assembly)).trans bind_ok_iff.symm)

end Joined

/-- Fragments concatenate.  With blank characters between them, two that declare no common label
make one with the instructions of both and the labels of both, where those of the second one stand
behind the instructions of the first one; with a common label, the second one's first declaration of
such a label fails.  A document may have them as one code or as two, and is compiled to the same. -/
theorem fragments_concatenate (compiled : Code.compile first = .ok one)
    (behind : Code.compile second = .ok two) (nonempty : gap ≠ "")
    (blank : ∀ c ∈ gap.toList, Text.isBlank c = true) :
    (one.Apart two →
      ∃ whole, Code.compile (first ++ gap ++ second) = .ok whole ∧ one.IsRow two whole) ∧
    (¬one.Apart two →
      ∃ before name span after,
        Code.tokenize second = .ok (before ++ ⟨.label name, span⟩ :: after) ∧
        name ∈ one.labels.keys ∧
        (∀ token ∈ before, ∀ other ∈ one.labels.keys, token.kind ≠ .label other) ∧
        Code.compile (first ++ gap ++ second) =
          .error ⟨.duplicateLabel name, span.move (first ++ gap).utf8ByteSize⟩) ∧
    ∀ document joined, JoinedIn first gap second document joined → ∀ result,
      compile document = .ok result ↔ compile joined = .ok result :=
  ⟨Code.compile_row compiled behind nonempty blank,
    Code.compile_clash compiled behind nonempty blank,
    fun _ _ joins => joins.compile_iff compiled behind nonempty blank⟩

/-- A story whose only state has contents, and no options. -/
def room (body : List Content) : Document :=
  ⟨Table.empty, [⟨"room", body, [], ⟨0, 40⟩⟩]⟩

theorem fragments_concatenate_room :
    (∃ whole, Code.compile ("#x emit" ++ "\n" ++ "#y exit") = .ok whole ∧
      whole.instructions = [.invoke "emit", .invoke "exit"] ∧
      whole.labels.get? "x" = some 0 ∧ whole.labels.get? "y" = some 1) ∧
    Code.compile ("#x emit" ++ "\n" ++ "exit #x") = .error ⟨.duplicateLabel "x", ⟨13, 15⟩⟩ ∧
    ∃ result, compile (room [.code "#x emit" ⟨9, 18⟩, .code "#y exit" ⟨18, 27⟩]) = .ok result ∧
      compile (room [.code ("#x emit" ++ "\n" ++ "#y exit") ⟨9, 26⟩]) = .ok result := by
  have front : Code.compile "#x emit" = .ok ⟨[.invoke "emit"], Table.empty.insert "x" 0⟩ := by
    decide +kernel
  have back : Code.compile "#y exit" = .ok ⟨[.invoke "exit"], Table.empty.insert "y" 0⟩ := by
    decide +kernel
  have clash : Code.compile "exit #x" = .ok ⟨[.invoke "exit"], Table.empty.insert "x" 1⟩ := by
    decide +kernel
  have nonempty : "\n" ≠ "" := by decide
  have blank : ∀ c ∈ "\n".toList, Text.isBlank c = true :=
    List.all_eq_true.mp (by decide +kernel)
  obtain ⟨row, -, same⟩ := fragments_concatenate front back nonempty blank
  obtain ⟨-, fails, -⟩ := fragments_concatenate front clash nonempty blank
  refine ⟨?_, ?_, ?_⟩
  · obtain ⟨whole, compiled, instructions, label⟩ := row (by unfold Fragment.Apart; decide +kernel)
    refine ⟨whole, compiled, instructions, (label _ _).mpr ?_, (label _ _).mpr ?_⟩
    · exact Or.inl (by decide +kernel)
    · exact Or.inr ⟨0, by decide +kernel, rfl⟩
  · obtain ⟨before, name, span, after, tokens, -, -, error⟩ :=
      fails (by unfold Fragment.Apart; decide +kernel)
    have spelled : Code.tokenize "exit #x" =
        .ok [⟨.identifier "exit", ⟨0, 4⟩⟩, ⟨.label "x", ⟨5, 7⟩⟩] := by decide +kernel
    rw [spelled] at tokens
    rcases before with - | ⟨first, - | ⟨second, before⟩⟩
    · simp at tokens
    · obtain ⟨-, ⟨rfl, rfl⟩, -⟩ := by simpa using tokens
      exact error
    · simp at tokens
  · have succeeds :
        (compile (room [.code "#x emit" ⟨9, 18⟩, .code "#y exit" ⟨18, 27⟩])).isOk = true := by
      decide +kernel
    obtain ⟨result, compiled⟩ := isOk_iff.mp succeeds
    have joined : JoinedIn "#x emit" "\n" "#y exit"
        (room ([] ++ .code "#x emit" ⟨9, 18⟩ :: .code "#y exit" ⟨18, 27⟩ :: []))
        (room ([] ++ .code ("#x emit" ++ "\n" ++ "#y exit") ⟨9, 26⟩ :: [])) :=
      @JoinedIn.body _ _ _ Table.empty [] [] _ _ (.intro [] [] _ _ _)
    exact ⟨result, compiled, (same _ _ joined result).mp compiled⟩

end Gamebook.Compile
