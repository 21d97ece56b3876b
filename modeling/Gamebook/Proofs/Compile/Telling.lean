import Gamebook.Compile.Script
import Gamebook.Machine.Basic
import Gamebook.Machine.Error

/-!
# How a story is told

This is what a document without code means, without instructions, labels or offsets.  A scene is a
state of the document; entering it tells its texts and offers its options.  An option that
disappears is available until its key is in the context, and taking an option sets its key, tells
its texts and goes on to where it leads.  The story is over when no option is available.
-/

namespace Gamebook.Compile

open Story (Choice Content Document Settings State)

/-- An option, with the key under which it is remembered if it disappears. -/
structure Offer where
  choice : Choice
  flag? : Option String

namespace Offer

/-- The title shown to the player. -/
def title (offer : Offer) : String :=
  offer.choice.text.getD ""

/-- An option that disappears is available until its key is set. -/
def available (context : Context) (offer : Offer) : Bool :=
  match offer.flag? with
  | some flag => !context.contains flag
  | none => true

/-- Remember that the option was taken. -/
def remember (offer : Offer) (context : Context) : Context :=
  match offer.flag? with
  | some flag => context.insert flag (.number 1)
  | none => context

end Offer

/-- A state and its options. -/
structure Scene where
  state : State
  offers : List Offer

/-- The options of a state with their keys; `index` of those that disappear came before. -/
def offersOf (index : Nat) : List Choice → List Offer
  | [] => []
  | choice :: rest =>
    if choice.isOnce then ⟨choice, some (onceFlag index)⟩ :: offersOf (index + 1) rest
    else ⟨choice, none⟩ :: offersOf index rest

/-- The scenes of states; `index` of the options that disappear came before. -/
def scenesOf (index : Nat) : List State → List Scene
  | [] => []
  | state :: rest =>
    ⟨state, offersOf index state.choices⟩ :: scenesOf (index + onceCount state) rest

/-- The scenes of a document. -/
def scenes (document : Document) : List Scene :=
  scenesOf 0 document.states

/-- The texts among contents, as they are shown. -/
def texts (settings : Settings) (contents : List Content) : List Value :=
  contents.filterMap fun content =>
    match content with
    | .text run => some (.string (runText settings run))
    | _ => none

/-- A story in the course of being told. -/
structure Telling where
  /-- The named values. -/
  context : Context
  /-- What has been told, in order. -/
  told : List Value
  /-- The scene that has been reached and its options on offer, unless the story is over. -/
  asking : Option (Scene × List Offer)

namespace Telling

variable (settings : Settings) (document : Document)

/-- Tell the texts among contents. -/
def tell (contents : List Content) (telling : Telling) : Telling :=
  { telling with told := telling.told ++ texts settings contents }

/-- End the story. -/
def finish (telling : Telling) : Telling :=
  { telling with asking := none }

/-- Offer the options of a scene that are available.  Without any, the story is over. -/
def offer (scene : Scene) (telling : Telling) : Telling :=
  match scene.offers.filter (Offer.available telling.context) with
  | [] => telling.finish
  | options => { telling with asking := some (scene, options) }

/-- Tell the texts of a scene and offer its options. -/
def enter (scene : Scene) (telling : Telling) : Telling :=
  (telling.tell settings scene.state.body).offer scene

/-- Go to a scene, or to its options only. -/
def goTo (label : String) (telling : Telling) : Telling :=
  match (scenes document).find? fun scene => scene.state.name = label with
  | some scene => telling.enter settings scene
  | none =>
    match (scenes document).find? fun scene => optionsLabel scene.state.name = label with
    | some scene => telling.offer scene
    | none => telling.finish

/-- Start the story in a context. -/
def start (context : Context) : Telling :=
  let telling : Telling := ⟨context.insertAll settings.initialContext.entries, [], none⟩
  match settings.initialState, scenes document with
  | some label, _ => telling.goTo settings document label
  | none, scene :: _ => telling.enter settings scene
  | none, [] => telling.finish

/-- Take an option of a scene. -/
def take (scene : Scene) (offer : Offer) (telling : Telling) : Telling :=
  let telling :=
    tell settings offer.choice.effects { telling with context := offer.remember telling.context }
  match offer.choice.link, settings.noLink with
  | some link, _ => telling.goTo settings document (linkTarget link)
  | none, .backToOptions => telling.offer scene
  | none, .exit => telling.finish

/-- What the player is told about how things stand. -/
def outcome (telling : Telling) : Outcome :=
  match telling.asking with
  | some (_, options) => .suspended (options.mapIdx fun id offer => ⟨id, offer.title⟩)
  | none => .completed

/-- Answer with the number of an option on offer.  Any other answer changes nothing. -/
def answer (telling : Telling) (id : Nat) : Telling × Except RuntimeError Outcome :=
  match telling.asking with
  | none => (telling, .error .notSuspended)
  | some (scene, options) =>
    match options[id]? with
    | none => (telling, .error (.unresolvedChoice id))
    | some offer =>
      let next := telling.take settings document scene offer
      (next, .ok next.outcome)

/-- Answer time and again. -/
def answerAll (telling : Telling) : List Nat → Telling × List (Except RuntimeError Outcome)
  | [] => (telling, [])
  | id :: rest =>
    let (next, reply) := telling.answer settings document id
    let (last, replies) := answerAll next rest
    (last, reply :: replies)

end Telling

end Gamebook.Compile
