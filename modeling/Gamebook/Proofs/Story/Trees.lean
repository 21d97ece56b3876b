import Gamebook.Markdown.Event

/-!
# Trees of markdown

The events of a text come from a forest of elements and leaves.  Only some elements may hold others:
a heading holds no heading, a code block no code block, and a list holds items alone.  The bytes of
what is inside an element are among those of the element, and siblings lie one behind the other.
-/

namespace Gamebook

/-- A span lies in another one, and does not end in front of its start. -/
def Text.Span.LiesIn (inner outer : Text.Span) : Prop :=
  outer.start ≤ inner.start ∧ inner.start ≤ inner.stop ∧ inner.stop ≤ outer.stop

instance (inner outer : Text.Span) : Decidable (inner.LiesIn outer) :=
  inferInstanceAs (Decidable (_ ∧ _ ∧ _))

namespace Text.Span.LiesIn

variable {inner : Span} {low start stop high : Nat}

theorem mono (lies : inner.LiesIn ⟨start, stop⟩) (before : low ≤ start) (behind : stop ≤ high) :
    inner.LiesIn ⟨low, high⟩ :=
  ⟨Nat.le_trans before lies.1, lies.2.1, Nat.le_trans lies.2.2 behind⟩

theorem start_le_stop (lies : inner.LiesIn ⟨start, stop⟩) : start ≤ stop :=
  Nat.le_trans lies.1 (Nat.le_trans lies.2.1 lies.2.2)

end Text.Span.LiesIn

namespace Markdown

open Text (Span)

/-- Whether an event stands for a leaf, not for the start or the end of an element. -/
def EventKind.isLeaf : EventKind → Bool
  | start _ | stop _ => false
  | _ => true

/-- Whether an element is a heading. -/
def Tag.isHeading : Tag → Bool
  | heading _ => true
  | _ => false

/-- Whether an element is a code block. -/
def Tag.isCodeBlock : Tag → Bool
  | codeBlock _ => true
  | _ => false

theorem Tag.isCodeBlock_iff {tag : Tag} :
    tag.isCodeBlock = true ↔ ∃ info, tag = .codeBlock info := by
  cases tag <;> simp [isCodeBlock]

namespace Node

/-- The bytes of a node. -/
def span : Node → Span
  | leaf _ span | element _ span _ => span

/-- Whether a node is a list item. -/
def isItem : Node → Bool
  | element .item _ _ => true
  | _ => false

/-- Whether a node is a heading. -/
def isHeading : Node → Bool
  | element tag _ _ => tag.isHeading
  | _ => false

theorem isItem_iff {node : Node} :
    node.isItem = true ↔ ∃ span children, node = element .item span children := by
  rcases node with - | ⟨tag, span, children⟩
  · simp [isItem]
  · cases tag <;> simp [isItem]

theorem isHeading_iff {node : Node} : node.isHeading = true ↔
    ∃ level span children, node = element (.heading level) span children := by
  rcases node with - | ⟨tag, span, children⟩
  · simp [isHeading]
  · cases tag <;> simp [isHeading, Tag.isHeading]

mutual

/-- Whether a node neither is nor holds an element of some kind. -/
def lacks (kind : Tag → Bool) : Node → Bool
  | leaf _ _ => true
  | element tag _ children => !kind tag && allLack kind children

/-- Whether nodes neither are nor hold an element of some kind. -/
def allLack (kind : Tag → Bool) : List Node → Bool
  | [] => true
  | node :: rest => node.lacks kind && allLack kind rest

end

/-- Whether an element may hold some nodes. -/
def mayHold (children : List Node) : Tag → Bool
  | .heading _ => allLack Tag.isHeading children
  | .codeBlock _ => allLack Tag.isCodeBlock children
  | .list _ => children.all isItem
  | _ => true

mutual

/-- Whether every element at or inside a node holds what it may. -/
def isRegular : Node → Bool
  | leaf kind _ => kind.isLeaf
  | element tag _ children => mayHold children tag && areRegular children

/-- Whether every element at or inside some nodes holds what it may. -/
def areRegular : List Node → Bool
  | [] => true
  | node :: rest => node.isRegular && areRegular rest

end

mutual

/-- Whether a node lies between two offsets, and what is inside it lies in it. -/
def fits (low high : Nat) : Node → Bool
  | leaf _ span => span.LiesIn ⟨low, high⟩
  | element _ span children => span.LiesIn ⟨low, high⟩ && allFit span.start span.stop children

/-- Whether nodes lie one behind the other between two offsets, and what is inside them in them. -/
def allFit (low high : Nat) : List Node → Bool
  | [] => low ≤ high
  | node :: rest => node.fits low high && allFit node.span.stop high rest

end

/-! ## Forests -/

/-- What holds of no nodes, and of a leaf or an element in front of others if it holds of these and
of what is inside the element, holds of all nodes. -/
@[elab_as_elim]
theorem forest_induction {motive : List Node → Prop} (nil : motive [])
    (leaf : ∀ kind span rest, motive rest → motive (leaf kind span :: rest))
    (element : ∀ tag span children rest, motive children → motive rest →
      motive (element tag span children :: rest)) : ∀ nodes, motive nodes
  | [] => nil
  | .leaf kind span :: rest => leaf kind span rest (forest_induction nil leaf element rest)
  | .element tag span children :: rest =>
    element tag span children rest (forest_induction nil leaf element children)
      (forest_induction nil leaf element rest)

variable {kind : EventKind} {span : Span} {tag : Tag} {children rest : List Node}

@[simp]
theorem eventsAll_nil : eventsAll [] = [] := rfl

theorem eventsAll_cons (node : Node) : eventsAll (node :: rest) = node.events ++ eventsAll rest :=
  rfl

@[simp]
theorem eventsAll_leaf : eventsAll (leaf kind span :: rest) = ⟨kind, span⟩ :: eventsAll rest := rfl

@[simp]
theorem eventsAll_element : eventsAll (element tag span children :: rest) =
    ⟨.start tag, span⟩ :: (eventsAll children ++ ⟨.stop tag, span⟩ :: eventsAll rest) := by
  rw [eventsAll_cons, events, List.cons_append, List.append_assoc, List.singleton_append]

theorem isRegular_element_iff : (element tag span children).isRegular = true ↔
    mayHold children tag = true ∧ areRegular children = true := by
  rw [isRegular, Bool.and_eq_true]

theorem areRegular_cons_iff {node : Node} : areRegular (node :: rest) = true ↔
    node.isRegular = true ∧ areRegular rest = true := by
  rw [areRegular, Bool.and_eq_true]

theorem areRegular_iff {nodes : List Node} :
    areRegular nodes = true ↔ ∀ node ∈ nodes, node.isRegular = true := by
  induction nodes with
  | nil => simp [areRegular]
  | cons node rest induction => rw [areRegular_cons_iff, induction, List.forall_mem_cons]

theorem span_liesIn {node : Node} {low high : Nat} (fit : node.fits low high = true) :
    node.span.LiesIn ⟨low, high⟩ := by
  cases node <;> simp_all [fits, Node.span]

theorem fits_element_iff {low high : Nat} : (element tag span children).fits low high = true ↔
    span.LiesIn ⟨low, high⟩ ∧ allFit span.start span.stop children = true := by
  rw [fits, Bool.and_eq_true, decide_eq_true_eq]

theorem allFit_cons_iff {node : Node} {low high : Nat} : allFit low high (node :: rest) = true ↔
    node.fits low high = true ∧ allFit node.span.stop high rest = true := by
  rw [allFit, Bool.and_eq_true]

/-- Where a node lies does not matter for what is inside it. -/
theorem fits_of_liesIn {node : Node} {low high start stop : Nat} (fit : node.fits low high = true)
    (lies : node.span.LiesIn ⟨start, stop⟩) : node.fits start stop = true := by
  cases node with
  | leaf => exact decide_eq_true lies
  | element => exact fits_element_iff.mpr ⟨lies, (fits_element_iff.mp fit).2⟩

theorem fits_self {node : Node} {low high : Nat} (fit : node.fits low high = true) :
    node.fits node.span.start node.span.stop = true :=
  fits_of_liesIn fit ⟨Nat.le_refl _, (span_liesIn fit).2.1, Nat.le_refl _⟩

theorem fits_mono {node : Node} {start low high stop : Nat} (fit : node.fits low high = true)
    (before : start ≤ low) (behind : high ≤ stop) : node.fits start stop = true :=
  fits_of_liesIn fit ((span_liesIn fit).mono before behind)

theorem fits_of_mem {node : Node} {nodes : List Node} {low high : Nat}
    (fit : allFit low high nodes = true) (member : node ∈ nodes) : node.fits low high = true := by
  induction nodes generalizing low with
  | nil => cases member
  | cons first rest induction =>
      rw [allFit_cons_iff] at fit
      obtain ⟨before, ordered, -⟩ := span_liesIn fit.1
      rcases List.mem_cons.mp member with rfl | later
      · exact fit.1
      · exact fits_mono (induction fit.2 later) (Nat.le_trans before ordered) (Nat.le_refl high)

/-- Nodes that hold no element of some kind end no such element. -/
theorem stop_not_mem {missing : Tag → Bool} {nodes : List Node}
    (regular : areRegular nodes = true) (lacking : allLack missing nodes = true) :
    ∀ event ∈ eventsAll nodes, ∀ tag, event.kind = .stop tag → missing tag = false := by
  induction nodes using forest_induction with
  | nil => simp
  | leaf kind span rest behind =>
      simp only [areRegular, isRegular, allLack, lacks, Bool.and_eq_true] at regular lacking
      rw [eventsAll_leaf, List.forall_mem_cons]
      refine ⟨fun tag stops => ?_, behind regular.2 lacking.2⟩
      rw [show kind = .stop tag from stops] at regular
      cases regular.1
  | element tag span children rest inside behind =>
      simp only [areRegular, isRegular, allLack, lacks, Bool.and_eq_true, Bool.not_eq_true']
        at regular lacking
      obtain ⟨⟨-, regular_inside⟩, regular_behind⟩ := regular
      obtain ⟨⟨other, lacking_inside⟩, lacking_behind⟩ := lacking
      rw [eventsAll_element, List.forall_mem_cons, List.forall_mem_append, List.forall_mem_cons]
      refine ⟨nofun, inside regular_inside lacking_inside, fun _ stops => ?_,
        behind regular_behind lacking_behind⟩
      cases stops
      exact other

end Node

end Markdown

end Gamebook
