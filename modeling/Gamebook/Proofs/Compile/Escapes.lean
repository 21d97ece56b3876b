import Gamebook.Compile.Unescape
import Gamebook.Proofs.Lists
import Gamebook.Proofs.Text.Replacement
import Mathlib.Data.List.Perm.Basic

/-!
# Escapes in any order

A text loses its escapes kind by kind, each kind all over the text.  No character that is escaped is
a backslash, so that no kind makes or breaks an escape of another one: the order of the kinds does
not matter, and together they do what one reading from left to right does.
-/

namespace Gamebook.Compile

open Text (Replaces replaces_replace)

/-- A text read once from left to right: a backslash directly in front of one of some characters is
dropped, and the reading goes on behind that character. -/
def dropEscapes (kinds : List Char) : List Char → List Char
  | '\\' :: c :: rest =>
    if c ∈ kinds then c :: dropEscapes kinds rest else '\\' :: dropEscapes kinds (c :: rest)
  | c :: rest => c :: dropEscapes kinds rest
  | [] => []

/-- Whether a character in front of a text is not the backslash of an escape. -/
def Copied (kinds : List Char) (c : Char) (rest : List Char) : Prop :=
  c = '\\' → ∀ next ∈ rest.head?, next ∉ kinds

variable {kinds first second chars rest front back before after : List Char} {c kind : Char}

/-! ## One reading -/

theorem Copied.of_ne (other : c ≠ '\\') : Copied kinds c rest :=
  fun same => absurd same other

theorem copied_or_escape (kinds : List Char) (c : Char) (rest : List Char) :
    Copied kinds c rest ∨ ∃ next others, c = '\\' ∧ rest = next :: others ∧ next ∈ kinds := by
  cases rest with
  | nil => exact .inl fun _ => by simp
  | cons next others =>
      rcases eq_or_ne c '\\' with same | other
      · by_cases member : next ∈ kinds
        · exact .inr ⟨next, others, same, rfl, member⟩
        · exact .inl fun _ => by simpa using member
      · exact .inl (.of_ne other)

theorem dropEscapes_escape (member : c ∈ kinds) (rest : List Char) :
    dropEscapes kinds ('\\' :: c :: rest) = c :: dropEscapes kinds rest := by
  rw [dropEscapes, if_pos member]

theorem Copied.dropEscapes_cons (copied : Copied kinds c rest) :
    dropEscapes kinds (c :: rest) = c :: dropEscapes kinds rest := by
  rcases eq_or_ne c '\\' with rfl | other
  · cases rest with
    | nil => rfl
    | cons next rest => rw [dropEscapes, if_neg (copied rfl next rfl)]
  · rw [dropEscapes]
    exact fun _ _ same _ => other same

/-- A text is made of escapes and of characters that are copied. -/
@[elab_as_elim]
theorem escapes_induction {motive : List Char → Prop} (kinds : List Char) (nil : motive [])
    (escape : ∀ c rest, c ∈ kinds → motive rest → motive ('\\' :: c :: rest))
    (copied : ∀ c rest, Copied kinds c rest → motive rest → motive (c :: rest))
    (chars : List Char) : motive chars := by
  induction chars using dropEscapes.induct kinds with
  | case1 c rest member induction => exact escape c rest member induction
  | case2 c rest outside induction =>
      exact copied '\\' (c :: rest) (fun _ => by simpa using outside) induction
  | case3 c rest no_escape induction =>
      refine copied c rest (fun same next starts => ?_) induction
      obtain ⟨others, rfl⟩ := List.head?_eq_some_iff.mp starts
      exact (no_escape next others same rfl).elim
  | case4 => exact nil

theorem dropEscapes_of_no_kinds (chars : List Char) : dropEscapes [] chars = chars := by
  induction chars using escapes_induction [] with
  | nil => rfl
  | escape c rest member induction => cases member
  | copied c rest copied induction => rw [copied.dropEscapes_cons, induction]

theorem dropEscapes_congr (same : ∀ c, c ∈ first ↔ c ∈ second) (chars : List Char) :
    dropEscapes first chars = dropEscapes second chars := by
  induction chars using escapes_induction first with
  | nil => rfl
  | escape c rest member induction =>
      rw [dropEscapes_escape member, dropEscapes_escape ((same c).mp member), induction]
  | copied c rest copied induction =>
      have also : Copied second c rest := fun backslash next starts member =>
        copied backslash next starts ((same next).mpr member)
      rw [copied.dropEscapes_cons, also.dropEscapes_cons, induction]

/-! ## One reading after another -/

/-- What is left of a text starts as the text does, or with a character that was escaped. -/
theorem head?_dropEscapes (kinds chars : List Char) :
    ∀ c ∈ (dropEscapes kinds chars).head?, c ∈ kinds ∨ c ∈ chars.head? := by
  induction chars using escapes_induction kinds with
  | nil => exact fun c starts => .inr starts
  | escape next rest member =>
      rw [dropEscapes_escape member]
      rintro c ⟨⟩
      exact .inl member
  | copied next rest copied =>
      rw [copied.dropEscapes_cons]
      exact fun c starts => .inr starts

/-- Reading what a reading for other characters has left is one reading for all of them. -/
theorem dropEscapes_dropEscapes (disjoint : first.Disjoint second) (no_first : '\\' ∉ first)
    (no_second : '\\' ∉ second) (chars : List Char) :
    dropEscapes second (dropEscapes first chars) = dropEscapes (first ++ second) chars := by
  induction chars using escapes_induction first with
  | nil => rfl
  | escape c rest member induction =>
      have plain : c ≠ '\\' := ne_of_mem_of_not_mem member no_first
      rw [dropEscapes_escape member, dropEscapes_escape (List.mem_append_left second member),
        (Copied.of_ne plain).dropEscapes_cons, induction]
  | copied c rest copied induction =>
      rw [copied.dropEscapes_cons]
      rcases copied_or_escape second c rest with also | ⟨next, rest, rfl, rfl, member⟩
      · have still : Copied second c (dropEscapes first rest) := by
          intro backslash next starts member
          rcases head?_dropEscapes first rest next starts with escaped | starts
          · exact disjoint escaped member
          · exact also backslash next starts member
        have both : Copied (first ++ second) c rest := by
          intro backslash next starts member
          rcases List.mem_append.mp member with member | member
          · exact copied backslash next starts member
          · exact also backslash next starts member
        rw [still.dropEscapes_cons, both.dropEscapes_cons, induction]
      · -- The first reading leaves this escape as it is, since its character is no backslash.
        have plain : next ≠ '\\' := ne_of_mem_of_not_mem member no_second
        have keeps (kinds rest : List Char) :
            dropEscapes kinds (next :: rest) = next :: dropEscapes kinds rest :=
          (Copied.of_ne plain).dropEscapes_cons
        rw [keeps, keeps, keeps] at induction
        rw [keeps, dropEscapes_escape member,
          dropEscapes_escape (List.mem_append_right first member), induction]

/-- In front of a character that is not escaped the reading may stop and start again. -/
theorem dropEscapes_append_cons (outside : c ∉ kinds) (front back : List Char) :
    dropEscapes kinds (front ++ c :: back) =
      dropEscapes kinds front ++ dropEscapes kinds (c :: back) := by
  induction front using escapes_induction kinds with
  | nil => rfl
  | escape next rest member induction =>
      rw [List.cons_append, List.cons_append, dropEscapes_escape member, induction,
        dropEscapes_escape member, List.cons_append]
  | copied next rest copied induction =>
      have also : Copied kinds next (rest ++ c :: back) := by
        cases rest with
        | nil => exact fun _ => by simpa using outside
        | cons head rest => exact copied
      rw [List.cons_append, also.dropEscapes_cons, induction, copied.dropEscapes_cons,
        List.cons_append]

/-- An escape of another character stays, and what is around it is read as it would be alone. -/
theorem dropEscapes_around (no_backslash : '\\' ∉ kinds) (outside : kind ∉ kinds)
    (plain : kind ≠ '\\') (front back : List Char) :
    dropEscapes kinds (front ++ '\\' :: kind :: back) =
      dropEscapes kinds front ++ '\\' :: kind :: dropEscapes kinds back := by
  have behind : Copied kinds '\\' (kind :: back) := fun _ => by simpa using outside
  rw [dropEscapes_append_cons no_backslash, behind.dropEscapes_cons,
    (Copied.of_ne plain).dropEscapes_cons]

/-- The escapes of another character in what is left are those of the text. -/
theorem dropEscapes_eq_append_iff (no_backslash : '\\' ∉ kinds) (outside : kind ∉ kinds)
    (plain : kind ≠ '\\') : dropEscapes kinds chars = before ++ '\\' :: kind :: after ↔
      ∃ front back, chars = front ++ '\\' :: kind :: back ∧ dropEscapes kinds front = before ∧
        dropEscapes kinds back = after := by
  constructor
  · intro left
    induction chars using escapes_induction kinds generalizing before with
    | nil => simp [dropEscapes] at left
    | escape c rest member induction =>
        rw [dropEscapes_escape member] at left
        cases before with
        | nil => exact absurd ((List.cons.inj left).1 ▸ member) no_backslash
        | cons head before =>
            obtain ⟨rfl, others⟩ := List.cons.inj left
            obtain ⟨front, back, rfl, rfl, rfl⟩ := induction others
            exact ⟨'\\' :: c :: front, back, rfl, dropEscapes_escape member front, rfl⟩
    | copied c rest copied induction =>
        rw [copied.dropEscapes_cons] at left
        cases before with
        | nil =>
            obtain ⟨rfl, others⟩ := List.cons.inj left
            have starts : kind ∈ rest.head? :=
              (head?_dropEscapes kinds rest kind (by rw [others]; rfl)).resolve_left outside
            obtain ⟨back, rfl⟩ := List.head?_eq_some_iff.mp starts
            rw [(Copied.of_ne plain).dropEscapes_cons] at others
            exact ⟨[], back, rfl, rfl, (List.cons.inj others).2⟩
        | cons head before =>
            obtain ⟨rfl, others⟩ := List.cons.inj left
            obtain ⟨front, back, rfl, rfl, rfl⟩ := induction others
            have also : Copied kinds c front := fun backslash next starts =>
              copied backslash next (List.mem_head?_append_of_mem_head? starts)
            exact ⟨c :: front, back, rfl, also.dropEscapes_cons, rfl⟩
  · rintro ⟨front, back, rfl, rfl, rfl⟩
    exact dropEscapes_around no_backslash outside plain front back

/-! ## Replacements -/

/-- The escape of a character, and the character. -/
def escapeOf (c : Char) : String × String :=
  ("\\" ++ String.singleton c, String.singleton c)

/-- The characters of the escapes. -/
def escapable : List Char :=
  ['*', '[', ']', '#', '\x60', '(', ')']

/-- Whether escapes of some characters have nothing in common, and none can stand in another one. -/
structure Separate (kinds : List Char) : Prop where
  distinct : kinds.Nodup
  no_backslash : '\\' ∉ kinds

namespace Separate

theorem of_perm (permuted : kinds.Perm escapable) : Separate kinds where
  distinct := permuted.nodup_iff.mpr (by decide)
  no_backslash member := absurd (permuted.subset member) (by decide)

theorem of_cons (separate : Separate (kind :: kinds)) : Separate kinds where
  distinct := separate.distinct.of_cons
  no_backslash member := separate.no_backslash (List.mem_cons_of_mem kind member)

theorem of_append (separate : Separate (first ++ second)) : Separate first where
  distinct := (List.nodup_append.mp separate.distinct).1
  no_backslash member := separate.no_backslash (List.mem_append_left second member)

theorem ne_backslash (separate : Separate kinds) (member : kind ∈ kinds) : kind ≠ '\\' :=
  ne_of_mem_of_not_mem member separate.no_backslash

end Separate

theorem escapes_eq : escapes = escapable.map escapeOf := by
  decide

theorem escapeOf_injective : Function.Injective escapeOf :=
  fun _ _ same => by simpa [escapeOf] using same

/-- What is left when the escape of a character is replaced is what one reading leaves. -/
theorem dropEscapes_of_replaces (replaces : Replaces ['\\', kind] [kind] chars rest) :
    rest = dropEscapes [kind] chars := by
  induction replaces with
  | nil => rfl
  | found _ induction =>
      rw [induction]
      exact (dropEscapes_escape List.mem_cons_self _).symm
  | @copied c rest _ absent _ induction =>
      have copied := (copied_or_escape [kind] c rest).resolve_right fun escape => by
        obtain ⟨next, others, rfl, rfl, member⟩ := escape
        obtain rfl := List.mem_singleton.mp member
        exact absent (List.prefix_append ['\\', next] others)
      rw [copied.dropEscapes_cons, induction]

theorem toList_replace_escape (kind : Char) (text : String) :
    (text.replace (escapeOf kind).1 (escapeOf kind).2).toList = dropEscapes [kind] text.toList := by
  have nonempty : (escapeOf kind).1 ≠ "" := by simp [escapeOf]
  have replaces := replaces_replace nonempty (escapeOf kind).2 text
  exact dropEscapes_of_replaces (by simpa [escapeOf] using replaces)

/-- Replacing the escapes of some characters one after the other is one reading for all of them. -/
theorem toList_replaceEach (separate : Separate kinds) (text : String) :
    (replaceEach (kinds.map escapeOf) text).toList = dropEscapes kinds text.toList := by
  induction kinds generalizing text with
  | nil => exact (dropEscapes_of_no_kinds text.toList).symm
  | cons kind kinds induction =>
      have disjoint : [kind].Disjoint kinds :=
        List.singleton_disjoint.mpr (List.nodup_cons.mp separate.distinct).1
      have plain : '\\' ∉ [kind] :=
        fun member => separate.ne_backslash List.mem_cons_self (List.mem_singleton.mp member).symm
      rw [List.map_cons, replaceEach, List.foldl_cons, ← replaceEach, induction separate.of_cons,
        toList_replace_escape, dropEscapes_dropEscapes disjoint plain separate.of_cons.no_backslash,
        List.singleton_append]

theorem replaceEach_of_perm (permuted : kinds.Perm escapable) (text : String) :
    replaceEach (kinds.map escapeOf) text = String.ofList (dropEscapes escapable text.toList) := by
  rw [← String.toList_inj, toList_replaceEach (.of_perm permuted), String.toList_ofList,
    dropEscapes_congr fun c => permuted.mem_iff]

/-- Escapes that have not been replaced yet are those of the text. -/
theorem replaceEach_eq_append_iff (separate : Separate (kinds ++ kind :: rest))
    (text before after : String) :
    replaceEach (kinds.map escapeOf) text = before ++ (escapeOf kind).1 ++ after ↔
      ∃ front back, text = front ++ (escapeOf kind).1 ++ back ∧
        replaceEach (kinds.map escapeOf) front = before ∧
        replaceEach (kinds.map escapeOf) back = after := by
  have outside : kind ∉ kinds := fun member =>
    (List.nodup_append.mp separate.distinct).2.2 kind member kind List.mem_cons_self rfl
  have plain : kind ≠ '\\' := separate.ne_backslash (by simp)
  have characters (whole front back : String) : whole = front ++ (escapeOf kind).1 ++ back ↔
      whole.toList = front.toList ++ '\\' :: kind :: back.toList := by
    rw [← String.toList_inj]
    simp [escapeOf]
  simp only [characters, ← String.toList_inj, toList_replaceEach separate.of_append]
  rw [dropEscapes_eq_append_iff separate.of_append.no_backslash outside plain]
  constructor
  · rintro ⟨front, back, split, left, right⟩
    exact ⟨String.ofList front, String.ofList back, by simpa using split, by simpa using left,
      by simpa using right⟩
  · rintro ⟨front, back, split, left, right⟩
    exact ⟨front.toList, back.toList, split, left, right⟩

/-- An order of the escapes is an order of their characters. -/
theorem exists_kinds {order : List (String × String)} (reordered : order.Perm escapes) :
    ∃ kinds : List Char, kinds.Perm escapable ∧ order = kinds.map escapeOf := by
  have each : ∀ replacement ∈ order, ∃ kind, kind ∈ escapable ∧ escapeOf kind = replacement :=
    fun replacement member => List.mem_map.mp (escapes_eq ▸ reordered.subset member)
  obtain ⟨kinds, -, rfl⟩ := exists_map_eq each
  rw [escapes_eq] at reordered
  exact ⟨kinds, (List.map_perm_map_iff escapeOf_injective).mp reordered, rfl⟩

/-- Escapes may be replaced in any order.  What is left is always the same, and it is what one
reading of the text leaves, which drops each backslash in front of an escapable character and copies
that character.  When it is the turn of an escape, it stands where it stood in the text: no earlier
replacement has made one, and none has broken one. -/
theorem unescaped_in_any_order (text : String) {order : List (String × String)}
    (reordered : order.Perm escapes) :
    replaceEach order text = unescape text ∧
    unescape text = String.ofList (dropEscapes escapable text.toList) ∧
    ∀ earlier escape plain later, order = earlier ++ (escape, plain) :: later →
      ∀ before after, replaceEach earlier text = before ++ escape ++ after ↔
        ∃ front back, text = front ++ escape ++ back ∧
          replaceEach earlier front = before ∧ replaceEach earlier back = after := by
  obtain ⟨kinds, permuted, rfl⟩ := exists_kinds reordered
  have read : unescape text = String.ofList (dropEscapes escapable text.toList) := by
    rw [unescape, escapes_eq, replaceEach_of_perm (.refl escapable)]
  refine ⟨(replaceEach_of_perm permuted text).trans read.symm, read, ?_⟩
  intro earlier escape plain later split
  obtain ⟨done, others, rfl, rfl, turn⟩ := List.map_eq_append_iff.mp split
  obtain ⟨kind, rest, rfl, same, -⟩ := List.map_eq_cons_iff.mp turn
  obtain ⟨rfl, -⟩ := Prod.mk.inj same
  exact replaceEach_eq_append_iff (.of_perm permuted) text

/-- Of several backslashes in a row only the last one is dropped, and it is in front of its
parenthesis already when the other parenthesis loses its own. -/
theorem unescaped_in_any_order_reversed :
    escapes.reverse.Perm escapes ∧
      replaceEach escapes.reverse "\\) \\\\\\(" = ") \\\\(" ∧
      ∃ front back, "\\) \\\\\\(" = front ++ "\\(" ++ back ∧
        replaceEach [("\\)", ")")] front = ") \\\\" ∧ replaceEach [("\\)", ")")] back = "" := by
  have reversed : escapes.reverse.Perm escapes := escapes.reverse_perm
  obtain ⟨same, read, places⟩ := unescaped_in_any_order "\\) \\\\\\(" reversed
  have first : replaceEach [("\\)", ")")] "\\) \\\\\\(" = ") \\\\" ++ "\\(" ++ "" := by
    rw [← String.toList_inj]
    exact (toList_replace_escape ')' _).trans (by decide)
  refine ⟨reversed, ?_, (places [("\\)", ")")] "\\(" "(" _ rfl _ _).mp first⟩
  rw [same, read]
  decide

end Gamebook.Compile
