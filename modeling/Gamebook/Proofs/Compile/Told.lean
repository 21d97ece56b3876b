import Gamebook.Proofs.Compile.Once
import Gamebook.Proofs.Compile.Place

/-!
# Stories are played as they are told

The machine with the program of a document without code does what the telling of the document says.
Texts are handed out as they are told, the options of a scene are queued exactly if they are
available, and a jump leads to the place of the scene that is gone to.  So after a run and any
answers the two stand in the same way.
-/

namespace Gamebook.Compile

open Machine (Leads LeadsWithin Reply)
open Story (Choice Content Document Settings)

variable {settings : Settings} {document : Document} {start machine : Machine}
  {telling : Telling} {most : Nat}

namespace Site

variable (site : Site document)

/-- The option and its key. -/
def offer : Offer :=
  ⟨site.choice, site.flag?⟩

/-- The option as it is queued. -/
def pending (settings : Settings) : PendingChoice :=
  ⟨site.offer.title, site.entry settings⟩

theorem lead_code (unguarded : site.choice.preconditions = []) :
    codeOf site.lead = codeOf (onceLead site.flag?) := by
  simp [lead, leadSteps, guardLead, unguarded, (directiveWarnings_warns site.choice).code,
    (titleWarnings_warns site.choice).code]

end Site

/-! ## Texts -/

namespace Stage

variable (stage : Stage document settings start)

include stage

/-- Texts are handed out in order. -/
theorem texts_told {contents : List Content} (plain : ∀ content ∈ contents, content.code? = none)
    (playing : Playing start machine)
    (holds : start.program.Holds machine.counter
      (codeOf (contents.flatMap (contentSteps settings)))) :
    LeadsWithin (codeOf (contents.flatMap (contentSteps settings))).length machine
      { machine with
        output := (texts settings contents).reverse ++ machine.output
        counter := machine.counter +
          (codeOf (contents.flatMap (contentSteps settings))).length } := by
  induction contents generalizing machine with
  | nil => exact .of_leads (.refl machine) (Nat.le_refl _)
  | cons content rest induction =>
      have plain_rest (other : Content) (member : other ∈ rest) : other.code? = none :=
        plain other (List.mem_cons_of_mem _ member)
      have plain_here := plain content List.mem_cons_self
      rw [List.flatMap_cons, codeOf_append] at holds ⊢
      cases content with
      | text run =>
          have code : codeOf (contentSteps settings (.text run)) =
              [.pushString (runText settings run), .invoke "emit"] := rfl
          rw [code] at holds ⊢
          have first := holds.head
          have second := holds.tail.head
          rw [← playing.program] at first second
          let next : Machine :=
            { machine with
              output := .string (runText settings run) :: machine.output
              counter := machine.counter + 2 }
          have shown : Leads 2 machine next :=
            .step playing.running playing.awake first (.pushString _) <|
              .step playing.running playing.awake second
                (Machine.executes_emit (stage.registered playing .emit) rfl) (.refl _)
          have playing_on : Playing start next :=
            ⟨playing.program, playing.natives, playing.running, playing.awake⟩
          have later := (LeadsWithin.of_leads shown (Nat.le_refl 2)).trans
            (induction plain_rest playing_on holds.tail.tail)
          have told : texts settings (.text run :: rest) =
              .string (runText settings run) :: texts settings rest := rfl
          have length : ([Instruction.pushString (runText settings run), .invoke "emit"] ++
              codeOf (rest.flatMap (contentSteps settings))).length =
                2 + (codeOf (rest.flatMap (contentSteps settings))).length := List.length_append
          rw [length, told, List.reverse_cons, List.append_assoc, ← Nat.add_assoc]
          exact later
      | code source span => simp [Content.code?] at plain_here
      | fence language source span =>
          have comment : (Content.fence language source span).isComment = true := by
            by_contra meant
            simp [Content.code?, meant] at plain_here
          have code : contentSteps settings (.fence language source span) = [] := by
            rw [contentSteps, if_pos comment]
          rw [code] at holds ⊢
          simpa [texts] using induction plain_rest playing holds

/-! ## Options -/

variable (site : Site document)

/-- An option is queued by seven instructions, the block of its effects counting as one. -/
theorem option_queued (playing : Playing start machine)
    (counter : machine.counter = site.heading settings) :
    Leads 6 machine
      { machine with
        queued := machine.queued ++ [site.pending settings]
        counter := site.closing settings + 2 } := by
  have opens := stage.opening_brace site
  have block := stage.effects_block site
  have queues := stage.queueing site
  have whole := Machine.natural?_toFloat
    (Nat.lt_of_le_of_lt (stage.entry_le site) stage.short)
  rw [← playing.program] at opens block queues
  exact (stage.header_leads site playing counter).trans <|
    .step playing.running playing.awake opens (.skip block) <|
      .step playing.running playing.awake queues
        (.respond (stage.registered playing .response) rfl whole) (.refl _)

/-- The instructions of an option queue it if it is available. -/
theorem option_passes (unguarded : site.choice.preconditions = []) (playing : Playing start machine)
    (counter : machine.counter = site.start settings) :
    LeadsWithin (site.stop settings - site.start settings) machine
      { machine with
        queued := machine.queued ++
          if site.offer.available machine.context then [site.pending settings] else []
        counter := site.stop settings } := by
  have stop := site.stop_eq settings
  have heading : site.heading settings =
      site.start settings + (codeOf (onceLead site.flag?)).length := by
    rw [Site.heading, site.lead_code unguarded]
  have closing : site.heading settings + 5 ≤ site.closing settings := Nat.le_add_right _ _
  cases flagged : site.flag? with
  | none =>
      have trail : codeOf site.trail = [] := by
        simp [Site.trail, trailSteps, unguarded, flagged]
      have available : site.offer.available machine.context = true := by
        simp [Offer.available, Site.offer, flagged]
      rw [flagged] at heading
      simp only [onceLead, codeOf_nil, List.length_nil, Nat.add_zero] at heading
      rw [trail, List.length_nil, Nat.add_zero] at stop
      rw [available, if_pos rfl, stop]
      exact .of_leads (stage.option_queued site playing (by omega)) (by omega)
  | some flag =>
      have trail : codeOf site.trail = [.closeBlock] := by
        simp [Site.trail, trailSteps, unguarded, flagged, Step.code]
      have available : site.offer.available machine.context = !machine.context.contains flag := by
        simp [Offer.available, Site.offer, flagged]
      have lead : (codeOf (onceLead (some flag))).length = 4 := rfl
      have closes := (stage.effects_hold site).right.tail.tail
      rw [trail] at closes
      rw [flagged, lead] at heading
      rw [trail, List.length_singleton] at stop
      have tested := stage.test_leads site flagged playing counter
      cases present : machine.context.contains flag with
      | true =>
          rw [available, present]
          rw [present, if_pos rfl] at tested
          simpa using LeadsWithin.of_leads tested (by omega)
      | false =>
          rw [available, present, stop]
          rw [present, if_neg Bool.false_ne_true] at tested
          have queued := tested.trans (stage.option_queued site
            ⟨playing.program, playing.natives, playing.running, playing.awake⟩ heading.symm)
          have close := closes.head
          rw [← playing.program] at close
          exact .of_leads (queued.snoc playing.running playing.awake close .close) (by omega)

end Stage

theorem offersOf_cons (index : Nat) (choice : Choice) (rest : List Choice) :
    offersOf index (choice :: rest) =
      ⟨choice, if choice.isOnce then some (onceFlag index) else none⟩ ::
        offersOf (if choice.isOnce then index + 1 else index) rest := by
  rw [offersOf]
  split <;> rfl

theorem Place.offering_append (place : Place document) (first second : List Choice) :
    place.offering settings (first ++ second) = place.offering settings first ++
      choicesSteps settings place.state.name (place.index + first.countP Choice.isOnce) second :=
  choicesSteps_append place.state.name place.index first second

theorem Place.site_stop (place : Place document) {earlier later : List Choice} {choice : Choice}
    (choices : place.state.choices = earlier ++ choice :: later) :
    (place.site choices).stop settings =
      place.options settings + (codeOf (place.offering settings (earlier ++ [choice]))).length := by
  rw [Site.stop, place.site_start choices, place.offering_append, choicesSteps_cons, choicesSteps,
    codeOf_append, List.length_append, List.append_nil, Nat.add_assoc]
  rfl

theorem Place.site_stop_le (place : Place document) {earlier later : List Choice} {choice : Choice}
    (choices : place.state.choices = earlier ++ choice :: later) :
    (place.site choices).stop settings ≤ place.asking settings := by
  rw [place.site_stop choices, Place.asking, choices, List.append_cons earlier choice later,
    place.offering_append (earlier ++ [choice]) later, codeOf_append, List.length_append]
  omega

theorem Place.offersOf_site (place : Place document) {earlier later : List Choice} {choice : Choice}
    (choices : place.state.choices = earlier ++ choice :: later) :
    offersOf (place.index + earlier.countP Choice.isOnce) (choice :: later) =
      (place.site choices).offer ::
        offersOf (place.index + (earlier ++ [choice]).countP Choice.isOnce) later := by
  have counted : place.index + (earlier ++ [choice]).countP Choice.isOnce =
      if choice.isOnce then place.index + earlier.countP Choice.isOnce + 1
      else place.index + earlier.countP Choice.isOnce := by
    rw [List.countP_append, List.countP_singleton]
    split <;> omega
  rw [counted, offersOf_cons]
  rfl

namespace Stage

variable (stage : Stage document settings start) (plain : document.IsPlain) (place : Place document)

include stage plain

/-- The instructions of options queue those that are available. -/
theorem options_queued (later earlier : List Choice)
    (choices : place.state.choices = earlier ++ later)
    (playing : Playing start machine)
    (counter : machine.counter =
      place.options settings + (codeOf (place.offering settings earlier)).length) :
    ∃ sites : List (Site document), (∀ site ∈ sites, site.state = place.state) ∧
      (offersOf (place.index + earlier.countP Choice.isOnce) later).filter
          (Offer.available machine.context) = sites.map Site.offer ∧
        LeadsWithin (place.asking settings - machine.counter) machine
          { machine with
            queued := machine.queued ++ sites.map fun site => site.pending settings
            counter := place.asking settings } := by
  induction later generalizing earlier machine with
  | nil =>
      obtain rfl : place.state.choices = earlier := by rw [choices, List.append_nil]
      refine ⟨[], by simp, rfl, ?_⟩
      have there : machine.counter = place.asking settings := counter
      rw [List.map_nil, List.append_nil, ← there]
      exact .of_leads (.refl machine) (Nat.zero_le _)
  | cons choice rest induction =>
      let site := place.site choices
      have first : site.start settings = machine.counter :=
        (place.site_start choices).trans counter.symm
      have unguarded : choice.preconditions = [] :=
        plain.unguarded place.state place.state_mem choice (by simp [choices])
      have passed := stage.option_passes site unguarded playing first.symm
      have playing_on : Playing start { machine with
          queued := machine.queued ++
            if site.offer.available machine.context then [site.pending settings] else []
          counter := site.stop settings } :=
        ⟨playing.program, playing.natives, playing.running, playing.awake⟩
      obtain ⟨sites, of_state, available, leads⟩ :=
        induction (earlier ++ [choice]) (by simp [choices]) playing_on (place.site_stop choices)
      have bound : site.start settings ≤ site.stop settings := Nat.le_add_right _ _
      have within : site.stop settings ≤ place.asking settings := place.site_stop_le choices
      have both := (passed.trans leads).mono
        (show _ ≤ place.asking settings - machine.counter by simp only; omega)
      rw [place.offersOf_site choices, List.filter_cons]
      cases chosen : site.offer.available machine.context with
      | true =>
          refine ⟨site :: sites, ?_, ?_, ?_⟩
          · simpa using ⟨rfl, of_state⟩
          · rw [if_pos rfl, List.map_cons, ← available]
          · simpa [chosen] using both
      | false =>
          refine ⟨sites, of_state, ?_, ?_⟩
          · rw [if_neg Bool.false_ne_true, ← available]
          · simpa [chosen] using both

/-! ## How machine and telling stand -/

end Stage

/-- A machine waits for the options that a telling asks for, or both have come to an end. -/
inductive Stands (document : Document) (settings : Settings) (machine : Machine) :
    Option (Scene × List Offer) → Prop
  | waits (place : Place document) (sites : List (Site document))
      (running : machine.exited = false) (waiting : machine.paused = true)
      (counter : machine.counter = place.asking settings + 1) (some_site : sites ≠ [])
      (of_state : ∀ site ∈ sites, site.state = place.state)
      (offered : machine.offered = sites.map fun site => site.pending settings) :
      Stands document settings machine (some (place.scene, sites.map Site.offer))
  | ended (exited : machine.exited = true) (awake : machine.paused = false) :
      Stands document settings machine none

/-- A machine that has stopped as a telling has. -/
structure Tells (document : Document) (settings : Settings) (start machine : Machine)
    (telling : Telling) : Prop where
  program : machine.program = start.program
  natives : machine.natives = start.natives
  context : machine.context = telling.context
  output : machine.output = telling.told.reverse
  queued : machine.queued = []
  stands : Stands document settings machine telling.asking

/-- A machine in the midst of a run whose values are those of a telling. -/
structure Follows (start machine : Machine) (telling : Telling) : Prop where
  playing : Playing start machine
  context : machine.context = telling.context
  output : machine.output = telling.told.reverse
  queued : machine.queued = []

/-- A machine stops as a telling does, after so many instructions at most. -/
def ComesTo (document : Document) (settings : Settings) (start : Machine) (most : Nat)
    (machine : Machine) (telling : Telling) : Prop :=
  ∃ after, LeadsWithin most machine after ∧ Tells document settings start after telling

theorem ComesTo.of_leadsWithin {more : Nat} {next : Machine}
    (leads : LeadsWithin most machine next)
    (comes : ComesTo document settings start more next telling) :
    ComesTo document settings start (most + more) machine telling := by
  obtain ⟨after, leads_on, tells⟩ := comes
  exact ⟨after, leads.trans leads_on, tells⟩

theorem ComesTo.mono {more : Nat} (comes : ComesTo document settings start most machine telling)
    (le : most ≤ more) : ComesTo document settings start more machine telling := by
  obtain ⟨after, leads, tells⟩ := comes
  exact ⟨after, leads.mono le, tells⟩

namespace Stage

variable (stage : Stage document settings start) (plain : document.IsPlain)

include stage

/-- An exit ends the run and the telling. -/
theorem comes_to_finish (follows : Follows start machine telling)
    (here : start.program.get? machine.counter = some (.invoke "exit")) :
    ComesTo document settings start 1 machine telling.finish := by
  have playing := follows.playing
  rw [← playing.program] at here
  have ends : Leads 1 machine { machine with exited := true, counter := machine.counter + 1 } :=
    .step playing.running playing.awake here (.exit (stage.registered playing .exit)) (.refl _)
  exact ⟨_, .of_leads ends (Nat.le_refl 1), playing.program, playing.natives, follows.context,
    follows.output, follows.queued, .ended rfl playing.awake⟩

include plain

/-- From the first of its options on, the options of a scene are offered. -/
theorem comes_to_offer (place : Place document) (follows : Follows start machine telling)
    (counter : machine.counter = place.options settings) :
    ComesTo document settings start (place.asking settings + 1 - place.options settings) machine
      (telling.offer place.scene) := by
  have playing := follows.playing
  obtain ⟨sites, of_state, available, leads⟩ :=
    stage.options_queued plain place place.state.choices [] rfl playing counter
  have bound : place.options settings ≤ place.asking settings := Nat.le_add_right _ _
  let arrived : Machine :=
    { machine with
      queued := sites.map fun site => site.pending settings
      counter := place.asking settings }
  have playing_on : Playing start arrived :=
    ⟨playing.program, playing.natives, playing.running, playing.awake⟩
  have request : arrived.program.get? arrived.counter = some (.invoke "getResponse") :=
    playing.program ▸ stage.request place
  have asks := stage.registered playing_on .getResponse
  rw [follows.queued, List.nil_append, counter] at leads
  have stops {next : Machine} (executes : Machine.Executes arrived (.invoke "getResponse") next) :
      LeadsWithin (place.asking settings + 1 - place.options settings) machine next :=
    (leads.trans (.of_leads (.step playing.running playing.awake request executes (.refl _))
      (Nat.le_refl 1))).mono (by omega)
  rw [follows.context, List.countP_nil, Nat.add_zero] at available
  have offers : place.scene.offers.filter (Offer.available telling.context) =
      sites.map Site.offer := available
  rw [Telling.offer, offers]
  cases sites with
  | nil =>
      exact ⟨_, stops (.finish asks rfl), playing.program, playing.natives, follows.context,
        follows.output, rfl, .ended rfl playing.awake⟩
  | cons site rest =>
      exact ⟨_, stops (.offer asks (by simp [arrived])), playing.program, playing.natives,
        follows.context, follows.output, rfl,
        .waits place (site :: rest) playing.running rfl rfl (by simp) of_state rfl⟩

/-- From its first text on, a scene is entered. -/
theorem comes_to_enter (place : Place document) (follows : Follows start machine telling)
    (counter : machine.counter = place.entry settings) :
    ComesTo document settings start (place.asking settings + 1 - place.entry settings) machine
      (telling.enter settings place.scene) := by
  have playing := follows.playing
  have holds := stage.body_holds place
  rw [← counter] at holds
  have told := stage.texts_told (plain_body plain place.state_mem) playing holds
  have bound : place.options settings ≤ place.asking settings := Nat.le_add_right _ _
  have behind : place.options settings =
      place.entry settings + (codeOf (place.body settings)).length := rfl
  refine (ComesTo.of_leadsWithin told (stage.comes_to_offer plain place ?_ ?_)).mono
    (show _ + (place.asking settings + 1 - place.options settings) ≤ _ from ?_)
  · refine ⟨⟨playing.program, playing.natives, playing.running, playing.awake⟩, follows.context,
      ?_, follows.queued⟩
    simp [Telling.tell, follows.output, Place.scene]
  · rw [behind, counter]
    rfl
  · change (codeOf (place.body settings)).length + _ ≤ _
    omega

/-- A jump to a label that is asked for leads to where the telling goes. -/
theorem comes_to_goTo {label : String} (follows : Follows start machine telling)
    (labelled : start.program.label? label = some machine.counter) :
    ComesTo document settings start start.program.length machine
      (telling.goTo settings document label) := by
  rw [Telling.goTo]
  cases state_found : (scenes document).find? fun scene => scene.state.name = label with
  | some scene =>
      obtain ⟨place, rfl⟩ := exists_place (List.mem_of_find?_eq_some state_found)
      have same := List.find?_some state_found
      simp only [decide_eq_true_eq] at same
      subst same
      have entry := (stage.laid.state_label place).symm.trans labelled
      have bound := stage.asking_lt place
      exact (stage.comes_to_enter plain place follows (Option.some.inj entry).symm).mono (by omega)
  | none =>
      cases options_found : (scenes document).find? fun scene =>
          optionsLabel scene.state.name = label with
      | some scene =>
          obtain ⟨place, rfl⟩ := exists_place (List.mem_of_find?_eq_some options_found)
          have same := List.find?_some options_found
          simp only [decide_eq_true_eq] at same
          subst same
          have options := (stage.laid.options_label place).symm.trans labelled
          have bound := stage.asking_lt place
          exact (stage.comes_to_offer plain place follows (Option.some.inj options).symm).mono
            (by omega)
      | none =>
          obtain ⟨before, step, after, shift, split, defines, -⟩ :=
            (stage.laid.label label _).mp labelled
          have among : step ∈ script settings document := by simp [split]
          obtain ⟨-, span, rfl⟩ := (script_tame stage.tame step among).labels defines
          obtain ⟨state, member, named⟩ := label_of_script among
          rw [← scenes_states document] at member
          obtain ⟨scene, in_scenes, rfl⟩ := List.mem_map.mp member
          have no_state := List.find?_eq_none.mp state_found scene in_scenes
          have no_options := List.find?_eq_none.mp options_found scene in_scenes
          rcases named with same | same <;> simp [same] at no_state no_options

omit plain

/-- A label is pushed and jumped to. -/
theorem jump_leads {label : String} {offset : Nat} (playing : Playing start machine)
    (holds : start.program.Holds machine.counter [.pushString label, .invoke "goto"])
    (labelled : start.program.label? label = some offset) :
    Leads 2 machine { machine with counter := offset } := by
  have leads : machine.program.destination? (.string label) = some offset := by
    rw [playing.program]
    exact labelled
  rw [← playing.program] at holds
  exact .step playing.running playing.awake holds.head (.pushString label) <|
    .step playing.running playing.awake holds.tail.head
      (.goto (stage.registered playing .goto) rfl leads) (.refl _)

variable (site : Site document)

/-- The key of an option is set if it has one. -/
theorem remembered (playing : Playing start machine)
    (counter : machine.counter = site.entry settings) :
    LeadsWithin (codeOf (rememberSteps site.flag?)).length machine
      { machine with
        context := site.offer.remember machine.context
        counter := site.entry settings + (codeOf (rememberSteps site.flag?)).length } := by
  rw [Offer.remember, show site.offer.flag? = site.flag? from rfl]
  cases flagged : site.flag? with
  | none => exact counter ▸ .of_leads (.refl machine) (Nat.le_refl _)
  | some flag => exact .of_leads (stage.remembers site flagged playing counter) (Nat.le_refl _)

include plain

/-- Behind its texts, an option leads on to where the telling goes. -/
theorem comes_to_leave (place : Place document) (of_state : site.state = place.state)
    (follows : Follows start machine telling)
    (holds : start.program.Holds machine.counter
      (codeOf (leaveSteps settings site.state.name site.choice)))
    (asked : ∀ step ∈ leaveSteps settings site.state.name site.choice,
      step ∈ script settings document) :
    ComesTo document settings start
      ((codeOf (leaveSteps settings site.state.name site.choice)).length + start.program.length)
      machine
      (match site.choice.link, settings.noLink with
        | some link, _ => telling.goTo settings document (linkTarget link)
        | none, .backToOptions => telling.offer place.scene
        | none, .exit => telling.finish) := by
  have playing := follows.playing
  have follows_on (offset : Nat) : Follows start { machine with counter := offset } telling :=
    ⟨⟨playing.program, playing.natives, playing.running, playing.awake⟩, follows.context,
      follows.output, follows.queued⟩
  rw [leaveSteps] at holds asked ⊢
  cases linked : site.choice.link with
  | some link =>
      rw [linked] at holds asked
      obtain ⟨offset, labelled⟩ := stage.laid.refers _ _ (asked _ List.mem_cons_self)
      exact .of_leadsWithin
        (.of_leads (stage.jump_leads playing holds labelled) (Nat.le_refl 2))
        (stage.comes_to_goTo plain (follows_on offset) labelled)
  | none =>
      rw [linked] at holds
      cases behaviour : settings.noLink with
      | backToOptions =>
          simp only [behaviour] at holds
          rw [of_state] at holds
          have bound := stage.asking_lt place
          exact .of_leadsWithin
            (.of_leads (stage.jump_leads playing holds (stage.laid.options_label place)) (Nat.le_refl 2))
            ((stage.comes_to_offer plain place (follows_on _) rfl).mono (by omega))
      | exit =>
          simp only [behaviour] at holds
          exact (stage.comes_to_finish follows holds.head).mono (Nat.le_add_right _ _)

/-- When an option has been chosen, its effects are played as the telling takes the option. -/
theorem comes_to_take (place : Place document) (of_state : site.state = place.state)
    (follows : Follows start machine telling)
    (counter : machine.counter = place.asking settings + 1)
    (stack : ∃ rest, machine.stack = .ofOffset (site.entry settings) :: rest) :
    ComesTo document settings start (2 * start.program.length) machine
      (telling.take settings document place.scene site.offer) := by
  obtain ⟨rest, stack⟩ := stack
  have playing := follows.playing
  have jumps : machine.program.get? machine.counter = some (.invoke "goto") := by
    rw [playing.program, counter]
    exact stage.after_request (stage.request place)
  have leads : machine.program.destination? (.ofOffset (site.entry settings)) =
      some (site.entry settings) := playing.program ▸ stage.destination?_entry site
  -- The machine comes to the effects, remembers the option, and tells the texts.
  let entered : Machine := { machine with stack := rest, counter := site.entry settings }
  let remembering : Machine :=
    { entered with
      context := site.offer.remember entered.context
      counter := site.entry settings + (codeOf (rememberSteps site.flag?)).length }
  let leaving : Machine :=
    { remembering with
      output := (texts settings site.choice.effects).reverse ++ remembering.output
      counter := remembering.counter +
        (codeOf (site.choice.effects.flatMap (contentSteps settings))).length }
  have entered_playing : Playing start entered :=
    ⟨playing.program, playing.natives, playing.running, playing.awake⟩
  have remembering_playing : Playing start remembering :=
    ⟨playing.program, playing.natives, playing.running, playing.awake⟩
  have jumped : Leads 1 machine entered :=
    .step playing.running playing.awake jumps
      (.goto (stage.registered playing .goto) stack leads) (.refl _)
  have remembered := stage.remembered site entered_playing rfl
  have holds := (stage.effects_hold site).left
  have bound := (stage.effects_hold site).length_le
  rw [Site.effects, effectSteps_eq, codeOf_append, codeOf_append] at holds bound
  have plain_here := plain_effects plain site.state_mem site.choice_mem
  have told := stage.texts_told plain_here remembering_playing holds.right.left
  have reached := ((LeadsWithin.of_leads jumped (Nat.le_refl 1)).trans remembered).trans told
  -- From there on it leaves as the telling does.
  let taken := Telling.tell settings site.choice.effects
    { telling with context := site.offer.remember telling.context }
  have leaving_follows : Follows start leaving taken :=
    ⟨⟨playing.program, playing.natives, playing.running, playing.awake⟩,
      congrArg site.offer.remember follows.context,
      by simp [leaving, remembering, entered, taken, Telling.tell, follows.output], follows.queued⟩
  have in_script : ∀ step ∈ leaveSteps settings site.state.name site.choice,
      step ∈ script settings document := fun step member => by
    rw [site.script_eq, site.steps_eq, Site.effects, effectSteps_eq]
    simp [block, member]
  have left := stage.comes_to_leave plain site place of_state leaving_follows holds.right.right
    in_script
  apply (left.of_leadsWithin reached).mono
  simp only [List.length_append, List.length_cons, Site.entry] at bound
  omega

end Stage

/-! ## The start of a story -/

/-- The steps that set a value of the context. -/
def seedSteps (entry : String × Value) : List Step :=
  [.emit (.push entry.2), .push entry.1, .invoke "setContext"]

/-- The steps that go to the state in which the story starts. -/
def startSteps (settings : Settings) : List Step :=
  match settings.initialState with
  | some state => [.refer state none, .push state, .invoke "goto"]
  | none => []

theorem preambleSteps_eq (settings : Settings) : preambleSteps settings =
    settings.initialContext.entries.flatMap seedSteps ++ startSteps settings := rfl

theorem script_code (settings : Settings) (document : Document) :
    codeOf (script settings document) =
      codeOf (settings.initialContext.entries.flatMap seedSteps) ++
        (codeOf (startSteps settings) ++
          (codeOf (statesSteps settings 0 document.states) ++ [.invoke "exit"])) := by
  simp [script, preambleSteps_eq, (whitespaceWarnings_warns settings).code, Step.code, Step.invoke]

theorem executes_push (value : Value) :
    Machine.Executes machine (.push value)
      { machine with stack := value :: machine.stack, counter := machine.counter + 1 } := by
  cases value with
  | number value => exact .pushNumber value
  | string value => exact .pushString value

theorem exists_first_place {scene : Scene} {rest : List Scene}
    (first : scenes document = scene :: rest) :
    ∃ place : Place document, place.earlier = [] ∧ place.scene = scene := by
  cases states : document.states with
  | nil => simp [scenes, states, scenesOf] at first
  | cons state later =>
      rw [scenes, states, scenesOf] at first
      exact ⟨⟨[], state, later, states⟩, rfl, (List.cons.inj first).1⟩

namespace Stage

variable (stage : Stage document settings start)

include stage

/-- Values of the context are set in order. -/
theorem values_set {entries : List (String × Value)} (playing : Playing start machine)
    (holds : start.program.Holds machine.counter (codeOf (entries.flatMap seedSteps))) :
    LeadsWithin (codeOf (entries.flatMap seedSteps)).length machine
      { machine with
        context := machine.context.insertAll entries
        counter := machine.counter + (codeOf (entries.flatMap seedSteps)).length } := by
  induction entries generalizing machine with
  | nil => exact .of_leads (.refl machine) (Nat.le_refl _)
  | cons entry rest induction =>
      have code : codeOf ((entry :: rest).flatMap seedSteps) =
          [.push entry.2, .pushString entry.1, .invoke "setContext"] ++
            codeOf (rest.flatMap seedSteps) := by
        rw [List.flatMap_cons, codeOf_append]
        rfl
      rw [code] at holds ⊢
      have pushes := holds.head
      have names := holds.tail.head
      have sets := holds.tail.tail.head
      rw [← playing.program] at pushes names sets
      let next : Machine :=
        { machine with
          context := machine.context.insert entry.1 entry.2
          counter := machine.counter + 3 }
      have set : Leads 3 machine next :=
        .step playing.running playing.awake pushes (executes_push entry.2) <|
          .step playing.running playing.awake names (.pushString entry.1) <|
            .step playing.running playing.awake sets
              (Machine.executes_setContext (stage.registered playing .setContext) rfl) (.refl _)
      have playing_on : Playing start next :=
        ⟨playing.program, playing.natives, playing.running, playing.awake⟩
      have later := (LeadsWithin.of_leads set (Nat.le_refl 3)).trans
        (induction playing_on holds.tail.tail.tail)
      have length : ([Instruction.push entry.2, .pushString entry.1, .invoke "setContext"] ++
          codeOf (rest.flatMap seedSteps)).length =
            3 + (codeOf (rest.flatMap seedSteps)).length := List.length_append
      rw [length, ← Nat.add_assoc]
      exact later

/-- Behind the values of the context the script goes to where the story starts. -/
theorem start_holds : start.program.Holds start.counter
    (codeOf (settings.initialContext.entries.flatMap seedSteps) ++ (codeOf (startSteps settings) ++
      (codeOf (statesSteps settings 0 document.states) ++ [.invoke "exit"]))) :=
  ⟨[], [], by simp [stage.laid.instructions, script_code], stage.counter.symm⟩

variable (plain : document.IsPlain)

include plain

/-- When the values of the context have been set, the machine comes to where the telling starts. -/
theorem comes_to_opening {context : Context}
    (follows : Follows start machine
      ⟨context.insertAll settings.initialContext.entries, [], none⟩)
    (counter : machine.counter = start.counter +
      (codeOf (settings.initialContext.entries.flatMap seedSteps)).length) :
    ComesTo document settings start (2 * start.program.length - machine.counter) machine
      (Telling.start settings document context) := by
  have playing := follows.playing
  have holds := stage.start_holds
  have rest := holds.right
  have bound := holds.length_le
  rw [← counter] at rest
  rw [Telling.start]
  cases initial : settings.initialState with
  | some label =>
      have steps : startSteps settings = [.refer label none, .push label, .invoke "goto"] := by
        rw [startSteps, initial]
      have asked : .refer label none ∈ script settings document := by
        simp [script, preambleSteps_eq, steps]
      obtain ⟨offset, labelled⟩ := stage.laid.refers label none asked
      have follows_on : Follows start { machine with counter := offset }
          ⟨context.insertAll settings.initialContext.entries, [], none⟩ :=
        ⟨⟨playing.program, playing.natives, playing.running, playing.awake⟩, follows.context,
          follows.output, follows.queued⟩
      rw [steps] at rest bound
      have jumped := stage.jump_leads playing rest.left labelled
      have goes := stage.comes_to_goTo plain follows_on labelled
      apply (goes.of_leadsWithin (.of_leads jumped (Nat.le_refl 2))).mono
      simp only [codeOf_cons, Step.code, Step.push, Step.invoke, List.length_append,
        List.length_cons] at bound
      omega
  | none =>
      have no_steps : startSteps settings = [] := by rw [startSteps, initial]
      rw [no_steps] at rest bound
      simp only [List.length_append, codeOf_nil, List.length_nil, List.length_singleton] at bound
      cases first : scenes document with
      | nil =>
          have no_states : document.states = [] := by rw [← scenes_states, first, List.map_nil]
          rw [no_states] at rest
          exact (stage.comes_to_finish follows rest.head).mono (by omega)
      | cons scene others =>
          obtain ⟨place, no_earlier, rfl⟩ := exists_first_place first
          have entry : place.entry settings =
              (codeOf (settings.initialContext.entries.flatMap seedSteps)).length := by
            simp [Place.entry, Place.front, no_earlier, preambleSteps_eq, no_steps,
              (whitespaceWarnings_warns settings).code, statesSteps]
          have there : machine.counter = place.entry settings := by
            rw [entry, counter, stage.counter, Nat.zero_add]
          have within := stage.asking_lt place
          exact (stage.comes_to_enter plain place follows there).mono (by omega)

/-- A fresh machine comes to where the telling starts. -/
theorem comes_to_start (running : start.exited = false) (silent : start.output = []) :
    ComesTo document settings start (2 * start.program.length) start
      (Telling.start settings document start.context) := by
  have holds := stage.start_holds
  have bound := holds.length_le
  have set := stage.values_set ⟨rfl, rfl, running, stage.awake⟩ holds.left
  let seeded : Machine :=
    { start with
      context := start.context.insertAll settings.initialContext.entries
      counter := start.counter +
        (codeOf (settings.initialContext.entries.flatMap seedSteps)).length }
  have follows : Follows start seeded
      ⟨start.context.insertAll settings.initialContext.entries, [], none⟩ :=
    ⟨⟨rfl, rfl, running, stage.awake⟩, rfl, silent, stage.queued⟩
  apply ((stage.comes_to_opening plain follows rfl).of_leadsWithin set).mono
  simp only [List.length_append] at bound
  change _ + (2 * start.program.length - (start.counter + _)) ≤ _
  omega

end Stage

/-! ## Runs and answers -/

theorem Stands.stopped {asking : Option (Scene × List Offer)}
    (stands : Stands document settings machine asking) :
    machine.exited = true ∨ machine.paused = true := by
  cases stands with
  | waits place sites running waiting => exact Or.inr waiting
  | ended exited => exact Or.inl exited

/-- A machine and a telling that stand in the same way tell the player the same. -/
theorem Tells.outcome (tells : Tells document settings start machine telling) :
    machine.outcome = telling.outcome := by
  have stands := tells.stands
  rw [Telling.outcome]
  generalize telling.asking = asking at stands
  cases stands with
  | waits place sites running waiting counter some_site of_state offered =>
      have choices : machine.choices =
          (sites.map Site.offer).mapIdx fun id offer => ⟨id, offer.title⟩ := by
        apply List.ext_getElem?
        intro id
        cases at_id : sites[id]? <;> simp [Machine.choices, offered, at_id, Site.pending]
      rw [Machine.outcome, if_neg (by simp [running]), choices]
  | ended exited =>
      rw [Machine.outcome, if_pos exited]

namespace Stage

variable (stage : Stage document settings start) (plain : document.IsPlain) {limit : Nat}
  (enough : 2 * start.program.length ≤ limit)

include stage plain enough

/-- A run of a fresh machine stops as the telling of the story starts. -/
theorem run_tells (running : start.exited = false) (silent : start.output = []) :
    ∃ after,
      start.run limit =
          (after, some (.ok (Telling.start settings document start.context).outcome)) ∧
        Tells document settings start after (Telling.start settings document start.context) := by
  obtain ⟨after, leads, tells⟩ := stage.comes_to_start plain running silent
  have woken : { start with paused := false } = start := by rw [← stage.awake]
  refine ⟨after, ?_, tells⟩
  rw [Machine.run, if_neg (by simp [stage.awake]), woken,
    Machine.runFor_of_leadsWithin leads enough tells.stands.stopped, tells.outcome]

/-- An answer is taken or refused as the telling does. -/
theorem resume_tells (tells : Tells document settings start machine telling) (id : Nat) :
    ∃ after,
      machine.resume limit id = (after, some (telling.answer settings document id).2) ∧
        Tells document settings start after (telling.answer settings document id).1 := by
  have stands := tells.stands
  rw [Telling.answer]
  generalize found : telling.asking = asking at stands
  cases stands with
  | ended exited =>
      have not_chosen : machine.chosen? id = none := by simp [Machine.chosen?, exited]
      have refusal : machine.refusal id = .notSuspended := by simp [Machine.refusal, exited]
      rw [Machine.resume_of_not_chosen limit not_chosen, refusal]
      exact ⟨machine, rfl, tells⟩
  | waits place sites running waiting counter some_site of_state offered =>
      simp only [List.getElem?_map]
      cases at_id : sites[id]? with
      | none =>
          have not_chosen : machine.chosen? id = none := by
            simp [Machine.chosen?, running, waiting, offered, at_id]
          have refusal : machine.refusal id = .unresolvedChoice id := by
            simp [Machine.refusal, running, waiting, offered, some_site]
          rw [Machine.resume_of_not_chosen limit not_chosen, refusal]
          exact ⟨machine, rfl, tells⟩
      | some site =>
          have chosen : machine.chosen? id = some (site.pending settings) := by
            simp [Machine.chosen?, running, waiting, offered, at_id]
          have follows : Follows start (machine.choose (site.pending settings)) telling :=
            ⟨⟨tells.program, tells.natives, running, rfl⟩, tells.context, tells.output,
              tells.queued⟩
          obtain ⟨after, leads, told⟩ := stage.comes_to_take plain site place
            (of_state site (List.mem_of_getElem? at_id)) follows counter ⟨machine.stack, rfl⟩
          rw [Machine.resume_of_chosen chosen,
            Machine.runFor_of_leadsWithin leads enough told.stands.stopped, told.outcome]
          exact ⟨after, rfl, told⟩

/-- Answers are taken or refused one after the other as the telling does. -/
theorem answers_tell (tells : Tells document settings start machine telling) (ids : List Nat) :
    (Operation.performAll machine (ids.map (.resume limit))).2 =
        (telling.answerAll settings document ids).2.map (fun reply => .stopped (some reply)) ∧
      Tells document settings start (Operation.performAll machine (ids.map (.resume limit))).1
        (telling.answerAll settings document ids).1 := by
  induction ids generalizing machine telling with
  | nil => exact ⟨rfl, tells⟩
  | cons id rest induction =>
      obtain ⟨after, resumed, told⟩ := stage.resume_tells plain enough tells id
      obtain ⟨replies, stands⟩ := induction told
      simp only [List.map_cons, Operation.performAll, Operation.perform, resumed,
        Telling.answerAll, replies]
      exact ⟨trivial, stands⟩

end Stage

/-- The program of a document without code plays the story as it is told.  Whatever values the host
sets and however it answers, the replies to one run and to the answers are those of the telling, and
so are the options on offer, the values that have been handed out and the context when all of that
has been done.  A run needs no more than two ticks for each instruction.  Offsets are numbers, and
in a program of fewer than `2 ^ 53` instructions all of them are exact. -/
theorem plays_as_told {compiled : Compiled} (accepted : compile document = .ok compiled)
    (plain : document.IsPlain) (short : compiled.program.length < 2 ^ 53)
    (read : Settings.ofTable document.settings = .ok settings) :
    ∃ fresh, Machine.create compiled.program Registry.quest = .ok fresh ∧
      ∀ (values : List (String × Value)) (limit : Nat) (ids : List Nat),
        2 * compiled.program.length ≤ limit →
          let played := Operation.performAll (fresh.withContext values)
            (.run limit :: ids.map (.resume limit))
          let begun := Telling.start settings document (Table.empty.insertAll values)
          let told := begun.answerAll settings document ids
          played.2 = (.ok begun.outcome :: told.2).map (fun reply => Reply.stopped (some reply)) ∧
            played.1.outcome = told.1.outcome ∧ played.1.emitted = told.1.told ∧
              played.1.context = told.1.context := by
  obtain ⟨found, read_found, laid⟩ := compile_laid accepted
  obtain rfl : found = settings := Except.ok.inj (read_found.symm.trans read)
  obtain ⟨fresh, created⟩ := exists_create plain laid
  refine ⟨fresh, created, fun values limit ids enough => ?_⟩
  have stage : Stage document found (fresh.withContext values) :=
    .of_compile accepted (tame_of_isPlain plain) short read created fresh.random values
  obtain rfl := Machine.create_eq created
  obtain ⟨after, ran, tells⟩ := stage.run_tells plain enough rfl rfl
  obtain ⟨replies, told⟩ := stage.answers_tell plain enough tells ids
  simp only [Operation.performAll, Operation.perform, ran, replies, List.map_cons]
  refine ⟨rfl, told.outcome, ?_, told.context⟩
  rw [Machine.emitted, told.output, List.reverse_reverse]
  rfl

theorem garden_plain : garden.IsPlain := by
  constructor
  · intro content member
    simp only [garden, gardenChoices, Document.contents, List.flatMap_cons, List.flatMap_nil,
      List.append_nil, List.nil_append, List.mem_singleton] at member
    rw [member]
    rfl
  · intro state in_garden choice member
    obtain rfl := List.mem_singleton.mp in_garden
    simp only [gardenChoices, List.mem_cons, List.not_mem_nil, or_false] at member
    rcases member with rfl | rfl <;> rfl

theorem plays_as_told_garden :
    ∃ fresh, Machine.create gardenProgram Registry.quest = .ok fresh ∧
      let played := Operation.performAll (fresh.withContext [])
        [.run 64, .resume 64 0, .resume 64 3]
      played.2 = [.stopped (some (.ok (.suspended [⟨0, "look"⟩, ⟨1, "wait"⟩]))),
          .stopped (some (.ok (.suspended [⟨0, "wait"⟩]))),
          .stopped (some (.error (.unresolvedChoice 3)))] ∧
        played.1.emitted = [.string "Roses.\n\n"] := by
  obtain ⟨fresh, created, plays⟩ := plays_as_told garden_accepted garden_plain (by decide) rfl
  obtain ⟨replies, -, emitted, -⟩ := plays [] 64 [0, 3] (by decide)
  exact ⟨fresh, created, replies.trans rfl, emitted.trans rfl⟩

end Gamebook.Compile
