import Gamebook.Proofs.Compile.Tame

/-!
# Steps that leave control alone

Most steps of a layout neither define labels nor jump, queue an option or ask for a choice.  So the
others stand in known places: jumps follow a label or a choice, choices are asked for at the end of
states, and options are queued behind the blocks of their effects.
-/

namespace Gamebook.Compile

open Story (Choice Content Document Settings State)

variable {settings : Settings} {document : Document}

/-! ## Calm steps -/

/-- A step that neither defines a label nor jumps, queues an option or asks for a choice. -/
def Step.Calm (step : Step) : Prop :=
  (∀ label span, step ≠ .define label span) ∧ ∀ name ∈ controlNatives, step ≠ .invoke name

theorem Step.calm_emit {instruction : Instruction}
    (free : ∀ name ∈ controlNatives, instruction ≠ .invoke name) : (Step.emit instruction).Calm :=
  ⟨by simp, fun name reserved same => free name reserved (Step.emit.inj same)⟩

theorem Step.calm_push (text : String) : (Step.push text).Calm :=
  calm_emit (by simp)

theorem Step.calm_invoke {name : String} (free : name ∉ controlNatives) : (Step.invoke name).Calm :=
  calm_emit fun _ reserved same => free (Instruction.invoke.inj same ▸ reserved)

theorem Warns.calm {steps : List Step} {step : Step} (warns : Warns steps)
    (member : step ∈ steps) : step.Calm := by
  obtain ⟨warning, rfl⟩ := warns step member
  simp [Step.Calm, Step.invoke]

theorem contentSteps_calm {content : Content} {step : Step}
    (member : step ∈ contentSteps settings content) : step.Calm := by
  cases content with
  | text run =>
      simp only [contentSteps, List.mem_cons, List.not_mem_nil, or_false] at member
      rcases member with rfl | rfl
      · exact Step.calm_push _
      · exact Step.calm_invoke (by decide)
  | code source span =>
      simp only [contentSteps, List.mem_singleton] at member
      simp [member, Step.Calm, Step.invoke]
  | fence language source span =>
      rw [contentSteps] at member
      split at member
      · simp at member
      · simp only [List.mem_singleton] at member
        simp [member, Step.Calm, Step.invoke]

theorem preconditionStep_calm (content : Content) : (preconditionStep content).Calm := by
  cases content <;> simp [preconditionStep, Step.Calm, Step.invoke]

/-- The steps that remember that an option was chosen. -/
def rememberSteps (flag : Option String) : List Step :=
  match flag with
  | some flag => [.emit (.pushNumber 1), .push flag, .invoke "setContext"]
  | none => []

theorem rememberSteps_calm {flag : Option String} {step : Step}
    (member : step ∈ rememberSteps flag) : step.Calm := by
  cases flag with
  | none => simp [rememberSteps] at member
  | some flag =>
      simp only [rememberSteps, List.mem_cons, List.not_mem_nil, or_false] at member
      rcases member with rfl | rfl | rfl
      · exact Step.calm_emit (by simp)
      · exact Step.calm_push _
      · exact Step.calm_invoke (by decide)

/-- The effects of an option are left by a jump to a label that is asked for or to the options of
the state, or by the end of the run. -/
theorem leaveSteps_eq (settings : Settings) (state : String) (choice : Choice) :
    (∃ asked label, leaveSteps settings state choice =
      asked ++ [.push label, .invoke "goto"] ∧
        (∀ step ∈ asked, ∃ name span, step = .refer name span) ∧
          ((∃ span, .refer label span ∈ asked) ∨ label = optionsLabel state)) ∨
      leaveSteps settings state choice = [.invoke "exit"] := by
  rw [leaveSteps]
  split
  · exact Or.inl ⟨[_], _, rfl, by simp, Or.inl ⟨_, List.mem_singleton_self _⟩⟩
  · split
    · exact Or.inl ⟨[], _, rfl, by simp, Or.inr rfl⟩
    · exact Or.inr rfl

section Choices

variable {state : String} {choice : Choice} {flag : Option String} {step : Step}

theorem effectSteps_eq : effectSteps settings state choice flag =
    rememberSteps flag ++ (choice.effects.flatMap (contentSteps settings) ++
      leaveSteps settings state choice) := by
  cases flag <;> simp [effectSteps, rememberSteps]

theorem leadSteps_calm (member : step ∈ leadSteps choice flag) : step.Calm := by
  simp only [leadSteps, List.mem_append] at member
  rcases member with ((warned | once) | guarded) | warned
  · exact (directiveWarnings_warns choice).calm warned
  · cases flag with
    | none => simp [onceLead] at once
    | some flag =>
        simp only [onceLead, List.mem_cons, List.not_mem_nil, or_false] at once
        rcases once with rfl | rfl | rfl | rfl
        · exact Step.calm_push _
        · exact Step.calm_invoke (by decide)
        · exact Step.calm_invoke (by decide)
        · exact Step.calm_emit (by simp)
  · rw [guardLead] at guarded
    split at guarded
    · simp at guarded
    · simp only [List.mem_append, List.mem_map, List.mem_cons, List.not_mem_nil,
        or_false] at guarded
      rcases guarded with ⟨content, -, rfl⟩ | rfl | rfl
      · exact preconditionStep_calm content
      · exact Step.calm_invoke (by decide)
      · exact Step.calm_emit (by simp)
  · exact (titleWarnings_warns choice).calm warned

theorem headerSteps_calm (member : step ∈ headerSteps choice) : step.Calm := by
  simp only [headerSteps, List.mem_cons, List.not_mem_nil, or_false] at member
  rcases member with rfl | rfl | rfl | rfl
  · exact Step.calm_push _
  · exact Step.calm_invoke (by decide)
  · exact Step.calm_emit (by simp)
  · exact Step.calm_invoke (by decide)

theorem trailSteps_calm (member : step ∈ trailSteps choice flag) : step.Calm := by
  have closes : step = .emit .closeBlock := by
    simp only [trailSteps, List.mem_append] at member
    rcases member with guarded | once
    · split at guarded <;> simp_all
    · split at once <;> simp_all
  rw [closes]
  exact Step.calm_emit (by simp)

/-- The effects up to the jump or exit that leaves them. -/
theorem effectSteps_split (settings : Settings) (state : String) (choice : Choice)
    (flag : Option String) :
    ∃ calm, (∀ step ∈ calm, step.Calm) ∧
      ((∃ label, effectSteps settings state choice flag =
          calm ++ [.push label, .invoke "goto"] ∧
            ((∃ span, .refer label span ∈ calm) ∨ label = optionsLabel state)) ∨
        effectSteps settings state choice flag = calm ++ [.invoke "exit"]) := by
  have shown {step : Step} (member : step ∈ rememberSteps flag ++
      choice.effects.flatMap (contentSteps settings)) : step.Calm := by
    rcases List.mem_append.mp member with remembered | shown
    · exact rememberSteps_calm remembered
    · obtain ⟨content, -, inside⟩ := List.mem_flatMap.mp shown
      exact contentSteps_calm inside
  rw [effectSteps_eq]
  rcases leaveSteps_eq settings state choice with ⟨asked, label, leave, refers, known⟩ | leave
  · refine ⟨rememberSteps flag ++ choice.effects.flatMap (contentSteps settings) ++ asked, ?_,
      Or.inl ⟨label, by simp [leave], known.imp_left fun ⟨span, member⟩ =>
        ⟨span, List.mem_append_right _ member⟩⟩⟩
    intro step member
    rcases List.mem_append.mp member with member | asks
    · exact shown member
    · obtain ⟨name, span, rfl⟩ := refers step asks
      simp [Step.Calm, Step.invoke]
  · exact ⟨_, fun step member => shown member, Or.inr (by rw [leave, ← List.append_assoc])⟩

/-- The effects leave control alone up to the jump that may leave them. -/
theorem effectSteps_calm (member : step ∈ effectSteps settings state choice flag) :
    step.Calm ∨ step = .invoke "goto" := by
  obtain ⟨calm, quiet, ⟨label, leave, -⟩ | leave⟩ := effectSteps_split settings state choice flag
  · rw [leave, List.mem_append] at member
    simp only [List.mem_cons, List.not_mem_nil, or_false] at member
    rcases member with member | rfl | rfl
    · exact Or.inl (quiet _ member)
    · exact Or.inl (Step.calm_push _)
    · exact Or.inr rfl
  · rw [leave, List.mem_append, List.mem_singleton] at member
    rcases member with member | rfl
    · exact Or.inl (quiet _ member)
    · exact Or.inl (Step.calm_invoke (by decide))

end Choices

/-! ## Where options are queued -/

theorem choicesSteps_split {state : String} {index : Nat} {choices : List Choice}
    {before after : List Step} {step : Step}
    (split : choicesSteps settings state index choices = before ++ step :: after) :
    ∃ earlier choice later front back, choices = earlier ++ choice :: later ∧
      choiceSteps settings state choice (if choice.isOnce then
        some (onceFlag (index + earlier.countP Choice.isOnce)) else none) =
          front ++ step :: back ∧
        before = choicesSteps settings state index earlier ++ front := by
  induction choices generalizing index before with
  | nil => simp [choicesSteps] at split
  | cons choice rest induction =>
      rw [choicesSteps_cons] at split
      rcases append_eq_append_cons split with ⟨back, here, -⟩ | ⟨front, there, rfl⟩
      · exact ⟨[], choice, rest, before, back, rfl, here, rfl⟩
      · obtain ⟨earlier, other, later, inner, back, rfl, here, rfl⟩ := induction there
        refine ⟨choice :: earlier, other, later, inner, back, rfl, ?_, ?_⟩
        · rw [List.countP_cons, ← here]
          congr 4
          split <;> omega
        · rw [choicesSteps_cons, List.append_assoc]

theorem statesSteps_split {index : Nat} {states : List State} {before after : List Step}
    {step : Step} (split : statesSteps settings index states = before ++ step :: after) :
    ∃ earlier state later front back, states = earlier ++ state :: later ∧
      stateSteps settings (index + onceCounts earlier) state = front ++ step :: back ∧
        before = statesSteps settings index earlier ++ front := by
  induction states generalizing index before with
  | nil => simp [statesSteps] at split
  | cons state rest induction =>
      rw [statesSteps] at split
      rcases append_eq_append_cons split with ⟨back, here, -⟩ | ⟨front, there, rfl⟩
      · exact ⟨[], state, rest, before, back, rfl, here, rfl⟩
      · obtain ⟨earlier, other, later, inner, back, rfl, here, rfl⟩ := induction there
        refine ⟨state :: earlier, other, later, inner, back, rfl, ?_, ?_⟩
        · rw [← here]
          simp only [onceCounts, List.map_cons, List.sum_cons, Nat.add_assoc]
        · rw [statesSteps, List.append_assoc]

/-- What comes behind steps that are not the one that is looked for. -/
theorem split_behind {first second before after : List Step} {step : Step}
    (split : first ++ second = before ++ step :: after) (absent : step ∉ first) :
    ∃ rest, second = rest ++ step :: after ∧ before = first ++ rest := by
  rcases append_eq_append_cons split with ⟨rest, rfl, -⟩ | found
  · simp at absent
  · exact found

/-- What comes before steps that are not the one that is looked for. -/
theorem split_before {first second before after : List Step} {step : Step}
    (split : first ++ second = before ++ step :: after) (absent : step ∉ second) :
    ∃ rest, first = before ++ step :: rest ∧ after = rest ++ second := by
  rcases append_eq_append_cons split with found | ⟨rest, rfl, -⟩
  · exact found
  · simp at absent

theorem preambleSteps_no_response : .invoke "response" ∉ preambleSteps settings := by
  intro member
  rcases preambleSteps_cases member with ⟨value, same⟩ | ⟨label, span, same⟩ | same | same
  · cases value <;> cases same
  · cases same
  · simp [Step.invoke] at same
  · simp [Step.invoke] at same

namespace Site

variable (site : Site document)

theorem effects_no_response : .invoke "response" ∉ site.effects settings := by
  intro member
  rcases effectSteps_calm member with calm | same
  · exact calm.2 "response" (by simp [controlNatives]) rfl
  · simp [Step.invoke] at same

theorem steps_define_none (label : String) (span : Text.Span) :
    .define label span ∉ site.steps settings := by
  intro member
  have effects : Step.define label span ∉ site.effects settings := fun inside => by
    rcases effectSteps_calm inside with calm | same
    · exact calm.1 label span rfl
    · simp [Step.invoke] at same
  rw [site.steps_eq] at member
  simp only [block, Step.invoke, List.mem_append, List.mem_cons, reduceCtorEq, effects,
    List.not_mem_nil, or_false, false_or] at member
  rcases member with lead | header | trail
  · exact (leadSteps_calm lead).1 label span rfl
  · exact (headerSteps_calm header).1 label span rfl
  · exact (trailSteps_calm trail).1 label span rfl

theorem steps_no_request : .invoke "getResponse" ∉ site.steps settings := by
  intro member
  have reserved : "getResponse" ∈ controlNatives := by simp [controlNatives]
  have effects : Step.invoke "getResponse" ∉ site.effects settings := fun inside => by
    rcases effectSteps_calm inside with calm | same
    · exact calm.2 _ reserved rfl
    · simp [Step.invoke] at same
  rw [site.steps_eq] at member
  simp only [block, List.mem_append, List.mem_cons, List.not_mem_nil, or_false] at member
  rcases member with lead | header | (brace | inside | brace) | queues | trail
  · exact (leadSteps_calm lead).2 _ reserved rfl
  · exact (headerSteps_calm header).2 _ reserved rfl
  · simp [Step.invoke] at brace
  · exact effects inside
  · simp [Step.invoke] at brace
  · simp [Step.invoke] at queues
  · exact (trailSteps_calm trail).2 _ reserved rfl

/-- An option is queued behind the block of its effects and nowhere else in its steps. -/
theorem response_split {before after : List Step}
    (split : site.steps settings = before ++ .invoke "response" :: after) :
    before = site.lead ++ (headerSteps site.choice ++ block (site.effects settings)) := by
  have reserved : "response" ∈ controlNatives := by simp [controlNatives]
  rw [steps_eq] at split
  obtain ⟨_, behind_lead, rfl⟩ :=
    split_behind split fun member => (leadSteps_calm member).2 _ reserved rfl
  obtain ⟨_, behind_header, rfl⟩ :=
    split_behind behind_lead fun member => (headerSteps_calm member).2 _ reserved rfl
  have absent : .invoke "response" ∉ block (site.effects settings) := by
    rw [block, List.mem_cons, List.mem_append, List.mem_singleton]
    rintro (same | member | same)
    · simp [Step.invoke] at same
    · exact site.effects_no_response member
    · simp [Step.invoke] at same
  obtain ⟨rest, behind_block, rfl⟩ := split_behind behind_header absent
  cases rest with
  | nil => simp
  | cons step rest =>
      obtain ⟨-, later⟩ := List.cons.inj behind_block
      have member : .invoke "response" ∈ site.trail := by simp [later]
      exact absurd rfl ((trailSteps_calm member).2 _ reserved)

end Site

/-- A step that neither warns nor ends the script is in front of the states or among the steps of
one of them. -/
theorem script_split {before after : List Step} {step : Step}
    (split : script settings document = before ++ step :: after)
    (no_warning : step ∉ whitespaceWarnings settings) (no_exit : step ≠ .invoke "exit") :
    (∃ front back, preambleSteps settings = front ++ step :: back ∧
      before = whitespaceWarnings settings ++ front) ∨
      ∃ earlier state later front back, document.states = earlier ++ state :: later ∧
        stateSteps settings (onceCounts earlier) state = front ++ step :: back ∧
          before = whitespaceWarnings settings ++
            (preambleSteps settings ++ (statesSteps settings 0 earlier ++ front)) := by
  rw [script] at split
  obtain ⟨_, before_exit, -⟩ := split_before split (by simpa using no_exit)
  rw [List.append_assoc] at before_exit
  obtain ⟨_, behind_warnings, rfl⟩ := split_behind before_exit no_warning
  rcases append_eq_append_cons behind_warnings with ⟨back, in_front, -⟩ | ⟨_, among_states, rfl⟩
  · exact Or.inl ⟨_, back, in_front, rfl⟩
  · obtain ⟨earlier, state, later, front, back, states, within, rfl⟩ :=
      statesSteps_split among_states
    rw [Nat.zero_add] at within
    exact Or.inr ⟨earlier, state, later, front, back, states, within, rfl⟩

/-- A step of a state that neither defines a label nor belongs to the body is among those of an
option, unless it belongs to the request for a choice. -/
theorem site_of_state {earlier later : List State} {state : State} {front back : List Step}
    {step : Step} (states : document.states = earlier ++ state :: later)
    (within : stateSteps settings (onceCounts earlier) state = front ++ step :: back)
    (no_label : ∀ label span, step ≠ .define label span)
    (no_content : ∀ content, step ∉ contentSteps settings content) :
    (∃ (site : Site document) (inner outer : List Step), site.steps settings =
        inner ++ step :: outer ∧
      site.before settings ++ inner = whitespaceWarnings settings ++
        (preambleSteps settings ++ (statesSteps settings 0 earlier ++ front))) ∨
      ∃ others rest, front = others ++ rest ∧
        [.invoke "getResponse", .invoke "goto"] = rest ++ step :: back := by
  rw [stateSteps] at within
  rcases append_eq_append_cons within with ⟨rest, before_asking, -⟩ | ⟨rest, asking, rfl⟩
  · have no_body : step ∉
        .define state.name state.span :: state.body.flatMap (contentSteps settings) := by
      simp only [List.mem_cons, List.mem_flatMap, not_or, not_exists, not_and]
      exact ⟨no_label _ _, fun content _ => no_content content⟩
    obtain ⟨inner, behind_body, rfl⟩ := split_behind before_asking no_body
    cases inner with
    | nil => exact absurd (List.cons.inj behind_body).1.symm (no_label _ _)
    | cons head inner =>
        obtain ⟨rfl, among_choices⟩ := List.cons.inj behind_body
        obtain ⟨earlierChoices, choice, laterChoices, front, outer, choices, here, rfl⟩ :=
          choicesSteps_split among_choices
        let site : Site document :=
          ⟨earlier, state, later, earlierChoices, choice, laterChoices, states, choices⟩
        refine Or.inl ⟨site, front, outer, here, ?_⟩
        simp [site, Site.before, Site.within]
  · exact Or.inr ⟨_, rest, rfl, asking⟩

/-- A step that has no place elsewhere in the layout of a document is among those of an option. -/
theorem site_of_split {before after : List Step} {step : Step}
    (split : script settings document = before ++ step :: after)
    (no_warning : step ∉ whitespaceWarnings settings) (no_preamble : step ∉ preambleSteps settings)
    (no_label : ∀ label span, step ≠ .define label span)
    (no_content : ∀ content, step ∉ contentSteps settings content)
    (no_end : step ∉ [.invoke "getResponse", .invoke "goto", .invoke "exit"]) :
    ∃ (site : Site document) (front back : List Step), before = site.before settings ++ front ∧
      site.steps settings = front ++ step :: back := by
  simp only [List.mem_cons, List.not_mem_nil, or_false, not_or] at no_end
  rcases script_split split no_warning no_end.2.2 with
    ⟨front, back, in_front, -⟩ | ⟨earlier, state, later, front, back, states, within, rfl⟩
  · simp [in_front] at no_preamble
  · rcases site_of_state states within no_label no_content with
      ⟨site, inner, outer, steps, place⟩ | ⟨others, rest, -, asking⟩
    · exact ⟨site, inner, outer, place.symm, steps⟩
    · have member : step ∈ [Step.invoke "getResponse", .invoke "goto"] := by simp [asking]
      simp [no_end] at member

/-- Options are queued behind the blocks of their effects and nowhere else. -/
theorem response_site {before after : List Step}
    (split : script settings document = before ++ .invoke "response" :: after) :
    ∃ site : Site document, before = site.before settings ++
      (site.lead ++ (headerSteps site.choice ++ block (site.effects settings))) := by
  have reserved : "response" ∈ controlNatives := by simp [controlNatives]
  obtain ⟨site, front, back, rfl, steps⟩ := site_of_split split
    ((whitespaceWarnings_warns settings).not_mem (by simp [Step.invoke]))
    preambleSteps_no_response (by simp [Step.invoke])
    (fun content member => (contentSteps_calm member).2 _ reserved rfl) (by simp [Step.invoke])
  exact ⟨site, by rw [site.response_split steps]⟩

/-- The jump of an option is among its effects. -/
theorem Site.jump_split (site : Site document) {front back : List Step}
    (split : site.steps settings = front ++ .invoke "goto" :: back) :
    ∃ inner outer, site.effects settings = inner ++ .invoke "goto" :: outer ∧
      front = site.lead ++ (headerSteps site.choice ++ (.emit .openBlock :: inner)) := by
  have reserved : "goto" ∈ controlNatives := by simp [controlNatives]
  rw [site.steps_eq] at split
  obtain ⟨_, behind_lead, rfl⟩ :=
    split_behind split fun member => (leadSteps_calm member).2 _ reserved rfl
  obtain ⟨_, behind_header, rfl⟩ :=
    split_behind behind_lead fun member => (headerSteps_calm member).2 _ reserved rfl
  have trail : .invoke "goto" ∉ .invoke "response" :: site.trail := by
    simp only [List.mem_cons, not_or]
    exact ⟨by simp [Step.invoke], fun member => (trailSteps_calm member).2 _ reserved rfl⟩
  obtain ⟨_, in_block, -⟩ := split_before behind_header trail
  have brace : .invoke "goto" ∉ [Step.emit .openBlock] := by simp [Step.invoke]
  rw [block, ← List.singleton_append] at in_block
  obtain ⟨inner, among, rfl⟩ := split_behind in_block brace
  obtain ⟨outer, effects, -⟩ := split_before among (by simp [Step.invoke])
  exact ⟨inner, outer, effects, rfl⟩

/-- A jump stands in front of the states, among the effects of an option, or behind the request for
a choice. -/
theorem jump_split {before after : List Step}
    (split : script settings document = before ++ .invoke "goto" :: after) :
    (∃ front back, preambleSteps settings = front ++ .invoke "goto" :: back ∧
      before = whitespaceWarnings settings ++ front) ∨
      (∃ (site : Site document) (inner outer : List Step),
        site.effects settings = inner ++ .invoke "goto" :: outer ∧
          before = site.before settings ++
            (site.lead ++ (headerSteps site.choice ++ (.emit .openBlock :: inner)))) ∨
        ∃ front, before = front ++ [.invoke "getResponse"] := by
  have reserved : "goto" ∈ controlNatives := by simp [controlNatives]
  rcases script_split split ((whitespaceWarnings_warns settings).not_mem (by simp [Step.invoke]))
      (by simp [Step.invoke]) with
    preamble | ⟨earlier, state, later, front, back, states, within, rfl⟩
  · exact Or.inl preamble
  · rcases site_of_state states within (by simp [Step.invoke])
        (fun content member => (contentSteps_calm member).2 _ reserved rfl) with
      ⟨site, inner, outer, steps, place⟩ | ⟨others, rest, rfl, asking⟩
    · obtain ⟨inner, outer, effects, rfl⟩ := site.jump_split steps
      exact Or.inr (Or.inl ⟨site, inner, outer, effects, place.symm⟩)
    · rcases rest with _ | ⟨request, _ | ⟨jump, rest⟩⟩
      · simp [Step.invoke] at asking
      · obtain ⟨rfl, -⟩ := List.cons.inj asking
        refine Or.inr (Or.inr ⟨whitespaceWarnings settings ++ (preambleSteps settings ++
          (statesSteps settings 0 earlier ++ others)), ?_⟩)
        simp
      · simp at asking

end Gamebook.Compile
