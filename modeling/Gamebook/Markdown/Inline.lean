import Gamebook.Markdown.Block
import Gamebook.Markdown.Emphasis

/-!
# Inline content

The pieces of a paragraph or heading are read from left to right.  Backticks, angle brackets and
square brackets are resolved first; a closing bracket makes a link of what stands behind the nearest
opening one, or leaves both as plain text.  Emphasis is resolved within each link and around them.
-/

namespace Gamebook.Markdown

/-- An opening bracket, and what stood in front of it. -/
structure Bracket where
  /-- The bracket's piece. -/
  piece : Piece
  /-- Whether it opens an image. -/
  image : Bool
  /-- Whether it may still open a link; links are not nested. -/
  active : Bool
  /-- The items in front of it since the bracket before, last one first. -/
  before : List Item

/-- What has been read of inline content. -/
structure Reading where
  /-- The items since the last open bracket, last one first. -/
  items : List Item
  /-- The open brackets, innermost first. -/
  brackets : List Bracket

namespace Reading

variable (source : Source)

/-- Add a node. -/
def add (reading : Reading) (node : Node) : Reading :=
  { reading with items := .node node :: reading.items }

/-- Add plain text. -/
def addText (reading : Reading) (start stop : Nat) : Reading :=
  reading.add (textNode source start stop)

/-- Open a bracket. -/
def openBracket (reading : Reading) (piece : Piece) (image : Bool) : Reading :=
  { items := [], brackets := ⟨piece, image, true, reading.items⟩ :: reading.brackets }

/-- Make plain text of the innermost open bracket. -/
def dropBracket (reading : Reading) : Reading :=
  match reading.brackets with
  | [] => reading
  | bracket :: rest =>
    let text := textNode source bracket.piece.start bracket.piece.stop
    { items := reading.items ++ .node text :: bracket.before, brackets := rest }

/-- Close the innermost open bracket with a link or an image that ends at `stop`.  A link takes all
brackets around it out of use. -/
def closeBracket (reading : Reading) (destination : String) (stop : Nat) : Reading :=
  match reading.brackets with
  | [] => reading
  | bracket :: rest =>
    let tag := if bracket.image then Tag.image destination else .link destination
    let children := resolveEmphasis source reading.items.reverse
    let node := Node.element tag (source.span bracket.piece.start stop) children
    let rest :=
      if bracket.image then rest
      else rest.map fun outer => { outer with active := outer.active && outer.image }
    { items := .node node :: bracket.before, brackets := rest }

/-- All items in order; brackets that are still open are plain text. -/
def finish (reading : Reading) : List Item :=
  (reading.brackets.foldl (fun current _ => dropBracket source current) reading).items.reverse

end Reading

/-- The pieces behind a position; one that reaches over it is cut. -/
def piecesFrom (position : Nat) : List Piece → List Piece
  | [] => []
  | piece :: rest =>
    if piece.stop ≤ position then piecesFrom position rest
    else { piece with start := max piece.start position } :: rest

theorem piecesFrom_length (position : Nat) (pieces : List Piece) :
    (piecesFrom position pieces).length ≤ pieces.length := by
  induction pieces with
  | nil => simp [piecesFrom]
  | cons piece rest ih =>
      rw [piecesFrom]
      split
      · simp only [List.length_cons]
        omega
      · simp

variable (source : Source) (containers : List Container) (references : List Reference)

/-! ## Code -/

/-- The text of code: every line end, with what the next line starts with to stay in its containers,
counts as one space. -/
def joinCode : (fuel position stop : Nat) → List Char
  | 0, _, _ => []
  | fuel + 1, position, stop =>
    if stop ≤ position then []
    else
      match (source.upTo stop).at? position with
      | none => []
      | some c =>
        match if Source.isLineEnd c then source.lineEnd? position else none with
        | some next => ' ' :: joinCode fuel (contentStart (source.upTo stop) containers next) stop
        | none => c :: joinCode fuel (position + 1) stop

/-- Drop one space on either side of code that has both, unless it is all spaces. -/
def stripCode (code : List Char) : List Char :=
  if code.all (· = ' ') then code
  else if code.head? = some ' ' && code.getLast? = some ' ' then (code.drop 1).dropLast
  else code

/-- The text of the code between two positions. -/
def codeText (start stop : Nat) : String :=
  String.ofList (stripCode (joinCode source containers (stop - start) start stop))

/-- Split pieces behind the first run of `count` backticks. -/
def closingTicks? (count : Nat) : List Piece → Option (Piece × List Piece)
  | [] => none
  | piece :: rest =>
    match piece.kind with
    | .ticks found _ => if found = count then some (piece, rest) else closingTicks? count rest
    | _ => closingTicks? count rest

theorem closingTicks?_length {count : Nat} {pieces rest : List Piece} {piece : Piece}
    (found : closingTicks? count pieces = some (piece, rest)) : rest.length < pieces.length := by
  induction pieces with
  | nil => simp [closingTicks?] at found
  | cons first others ih =>
      rw [closingTicks?] at found
      simp only [List.length_cons]
      split at found
      · split at found
        · simp only [Option.some.injEq, Prod.mk.injEq] at found
          obtain ⟨_, rfl⟩ := found
          omega
        · have := ih found
          omega
      · have := ih found
        omega

/-! ## Links -/

/-- The position after the destination and title in round brackets at `position`, and the
destination. -/
def inlineTarget? (position : Nat) : Option (String × Nat) := do
  if !source.hasAt position '(' then none
  let space (position : Nat) : Nat :=
    let position := source.skipLineSpace position
    let position :=
      match source.lineEnd? position with
      | some next => contentStart source containers next
      | none => position
    source.skipLineSpace position
  let (destination, stop) ← Link.destination? source (space (position + 1))
  let next := space stop
  let next :=
    match Link.title? source (fun _ => true) next with
    | some after => space after
    | none => next
  if source.hasAt next ')' then some (destination, next + 1) else none

/-- The destination of a reference label. -/
def lookUp (label : List Char) : Option String :=
  (references.find? fun reference => reference.label = label).map Reference.destination

/-- Take from the closing bracket at `position` the right to be a reference by itself. -/
def spendBracket (position : Nat) : List Piece → List Piece
  | [] => []
  | piece :: rest =>
    if piece.stop ≤ position then piece :: spendBracket position rest
    else { piece with kind := .linkClose false } :: rest

theorem spendBracket_length (position : Nat) (pieces : List Piece) :
    (spendBracket position pieces).length = pieces.length := by
  induction pieces with
  | nil => simp [spendBracket]
  | cons piece rest ih =>
      rw [spendBracket]
      split <;> simp [ih]

/-- How a closing bracket ends: the destination and end of a link, if it makes one, and the pieces
that follow. -/
structure Closing where
  /-- The destination of the link and the position after it. -/
  target : Option (String × Nat)
  /-- The pieces that follow. -/
  rest : List Piece

/-- The label between an opening bracket and the closing bracket that ends at `stop`. -/
def ownLabel? (bracket : Piece) (stop : Nat) : Option (List Char) :=
  match Link.label? (source.upTo stop) (fun line => some (contentStart source containers line))
      (bracket.stop - 1) with
  | some (label, after) => if after = stop then some label else none
  | none => none

/-- Resolve the closing bracket that ends at `stop`; `alone` tells whether it may be a reference by
itself. -/
def resolveClosing (bracket : Piece) (stop : Nat) (alone : Bool) (rest : List Piece) : Closing :=
  match inlineTarget? source containers stop with
  | some (destination, after) => ⟨some (destination, after), piecesFrom after rest⟩
  | none =>
    let own (following : List Piece) : Closing :=
      let found :=
        if alone then (ownLabel? source containers bracket stop).bind (lookUp references) else none
      match found with
      | some destination => ⟨some (destination, stop), following⟩
      | none => ⟨none, rest⟩
    match rest with
    | [] => own []
    | next :: others =>
      if source.startsWith next.start ['[', ']'] then own (others.drop 1)
      else
        match Link.label? source (fun line => some (contentStart source containers line))
            next.start with
        | none => own rest
        | some (label, after) =>
          match lookUp references label with
          | some destination => ⟨some (destination, after), piecesFrom after rest⟩
          | none => ⟨none, spendBracket (after - 1) rest⟩

theorem resolveClosing_length (bracket : Piece) (stop : Nat) (alone : Bool) (rest : List Piece) :
    (resolveClosing source containers references bracket stop alone rest).rest.length ≤
      rest.length := by
  unfold resolveClosing
  split
  · exact piecesFrom_length ..
  · dsimp only
    split
    · split <;> simp
    · rename_i next others
      split
      · split
        · simp only [List.length_drop, List.length_cons]
          omega
        · simp
      · split
        · split <;> simp
        · split
          · exact piecesFrom_length ..
          · simp [spendBracket_length]

/-! ## Reading -/

/-- What an opening angle bracket starts, and the position after it. -/
def angle? (start first : Nat) : Option (Node × Nat) :=
  match Html.autolink? source first with
  | some stop =>
    let address := source.sliceText first (stop - 1)
    let text := textNode source (start + 1) (stop - 1)
    some (.element (.link address) (source.span start stop) [text], stop)
  | none =>
    (Html.inline? source (contentStart source containers) (first - 1)).map fun stop =>
      (.leaf (.html (source.sliceText start stop)) (source.span start stop), stop)

/-- Read pieces from left to right. -/
def readPieces (reading : Reading) : List Piece → List Item
  | [] => reading.finish source
  | piece :: rest =>
    let plain := reading.addText source piece.start piece.stop
    let span := source.span piece.start piece.stop
    match piece.kind with
    | .text => readPieces plain rest
    | .reference value => readPieces (reading.add (.leaf (.text value) span)) rest
    | .run run => readPieces { reading with items := .run run piece.start :: reading.items } rest
    | .softBreak => readPieces (reading.add (.leaf .softBreak span)) rest
    | .hardBreak true =>
      readPieces
        { reading with items := .backslashBreak piece.start piece.stop :: reading.items } rest
    | .hardBreak false => readPieces (reading.add (.leaf .hardBreak span)) rest
    | .linkOpen => readPieces (reading.openBracket piece false) rest
    | .imageOpen => readPieces (reading.openBracket piece true) rest
    | .linkClose alone =>
      match reading.brackets with
      | [] => readPieces plain rest
      | bracket :: _ =>
        if bracket.active then
          match closed :
              resolveClosing source containers references bracket.piece piece.stop alone rest with
          | ⟨target, following⟩ =>
            have : following.length < rest.length + 1 := by
              have := resolveClosing_length source containers references bracket.piece piece.stop
                alone rest
              rw [closed] at this
              exact Nat.lt_succ_of_le this
            match target with
            | some (destination, stop) =>
              readPieces (reading.closeBracket source destination stop) following
            | none =>
              readPieces ((reading.dropBracket source).addText source piece.start piece.stop)
                following
        else readPieces ((reading.dropBracket source).addText source piece.start piece.stop) rest
    | .ticks count escaped =>
      let sought := if escaped then count - 1 else count
      match found : if 0 < sought then closingTicks? sought rest else none with
      | none => readPieces plain rest
      | some (closing, others) =>
        have : others.length < rest.length + 1 := by
          split at found
          · have := closingTicks?_length found
            omega
          · simp at found
        let reading := if escaped then reading.addText source piece.start (piece.start + 1) else reading
        let start := if escaped then piece.start + 1 else piece.start
        let code := codeText source containers piece.stop closing.start
        readPieces (reading.add (.leaf (.code code) (source.span start closing.stop))) others
    | .angle =>
      match rest with
      | [] => readPieces plain []
      | next :: others =>
        match angle? source containers piece.start next.start with
        | some (node, stop) =>
          have : (piecesFrom stop (next :: others)).length ≤ others.length + 1 :=
            piecesFrom_length stop (next :: others)
          readPieces (reading.add node) (piecesFrom stop (next :: others))
        | none => readPieces plain (next :: others)
termination_by pieces => pieces.length

/-- The nodes of the pieces of a paragraph or heading. -/
def inlineNodes (pieces : List Piece) : List Node :=
  resolveEmphasis source (readPieces source containers references ⟨[], []⟩ pieces)

end Gamebook.Markdown
