import Gamebook.Proofs.Json.Lexing

/-!
# Written values are read back

A value is written in one form.  The text that is written for it is cut into the tokens of that
form if its numbers are read back one by one, and from its tokens the form is read.  Evaluating the
form gives the value again if the value is not nested too deep and all of it is looked at.
-/

namespace Gamebook.Json

variable {tokens : List Token}

/-! ## The tokens of a form -/

mutual

/-- The tokens of a form. -/
def Form.tokens : Form → List Token
  | .null => [.null]
  | .bool value => [.bool value]
  | .number numeral => [.number numeral]
  | .string parts => [.string parts]
  | .array items => .openArray :: ([.comma].intercalate (itemTokens items) ++ [.closeArray])
  | .object members =>
    .openObject :: ([.comma].intercalate (memberTokens members) ++ [.closeObject])

/-- The tokens of each item of an array. -/
def itemTokens : List Form → List (List Token)
  | [] => []
  | item :: rest => item.tokens :: itemTokens rest

/-- The tokens of each member of an object. -/
def memberTokens : List (List StringPart × Form) → List (List Token)
  | [] => []
  | (key, value) :: rest => (.string key :: .colon :: value.tokens) :: memberTokens rest

end

variable {fuel : Nat} {rest : List Token}

theorem readForm_array {items : List Form} (read : readItems fuel tokens = some (items, rest)) :
    readForm (fuel + 1) (.openArray :: tokens) = some (.array items, rest) := by
  rw [readForm.eq_def]
  dsimp only
  split
  case h_5 starts =>
    -- no item starts with a closing bracket
    obtain ⟨-, rfl⟩ := List.cons.inj starts
    cases fuel with
    | zero => simp [readItems] at read
    | succ fuel => cases fuel <;> simp [readItems, readForm] at read
  case h_6 starts =>
    obtain ⟨-, rfl⟩ := List.cons.inj starts
    rw [read, Option.map_some]
  all_goals simp_all

theorem readForm_object {members : List (List StringPart × Form)}
    (read : readMembers fuel tokens = some (members, rest)) :
    readForm (fuel + 1) (.openObject :: tokens) = some (.object members, rest) := by
  rw [readForm.eq_def]
  dsimp only
  split
  case h_7 starts =>
    obtain ⟨-, rfl⟩ := List.cons.inj starts
    cases fuel <;> simp [readMembers] at read
  case h_8 starts =>
    obtain ⟨-, rfl⟩ := List.cons.inj starts
    rw [read, Option.map_some]
  all_goals simp_all

mutual

/-- A form is read from its tokens. -/
theorem readForm_tokens (fuel : Nat) (rest : List Token) : (form : Form) →
    2 * form.tokens.length ≤ fuel → readForm fuel (form.tokens ++ rest) = some (form, rest)
  | .null, enough
  | .bool _, enough
  | .number _, enough
  | .string _, enough => by
      rw [Form.tokens, List.length_singleton] at enough
      obtain ⟨fuel, rfl⟩ := Nat.exists_eq_add_one_of_ne_zero (n := fuel) (by omega)
      rw [Form.tokens, List.cons_append, List.nil_append, readForm]
  | .array [], enough
  | .object [], enough => by
      rw [Form.tokens, List.length_cons] at enough
      obtain ⟨fuel, rfl⟩ := Nat.exists_eq_add_one_of_ne_zero (n := fuel) (by omega)
      simp [Form.tokens, itemTokens, memberTokens, readForm]
  | .array (item :: items), enough => by
      rw [Form.tokens, List.length_cons, List.length_append] at enough
      obtain ⟨fuel, rfl⟩ := Nat.exists_eq_add_one_of_ne_zero (n := fuel) (by omega)
      have read := readItems_tokens fuel rest item items (by omega)
      rw [Form.tokens, List.cons_append, List.append_assoc]
      exact readForm_array read
  | .object (member :: members), enough => by
      rw [Form.tokens, List.length_cons, List.length_append] at enough
      obtain ⟨fuel, rfl⟩ := Nat.exists_eq_add_one_of_ne_zero (n := fuel) (by omega)
      have read := readMembers_tokens fuel rest member members (by omega)
      rw [Form.tokens, List.cons_append, List.append_assoc]
      exact readForm_object read

theorem readItems_tokens (fuel : Nat) (rest : List Token) (item : Form) :
    (items : List Form) →
      2 * ([.comma].intercalate (itemTokens (item :: items))).length + 1 ≤ fuel →
        readItems fuel
          ([.comma].intercalate (itemTokens (item :: items)) ++ ([.closeArray] ++ rest)) =
            some (item :: items, rest)
  | [], enough => by
      simp only [itemTokens, List.intercalate_singleton] at enough ⊢
      obtain ⟨fuel, rfl⟩ := Nat.exists_eq_add_one_of_ne_zero (n := fuel) (by omega)
      have read := readForm_tokens fuel ([.closeArray] ++ rest) item (by omega)
      rw [readItems, read]
      rfl
  | next :: items, enough => by
      have tokens_eq : [.comma].intercalate (itemTokens (item :: next :: items)) =
          item.tokens ++ (.comma :: [.comma].intercalate (itemTokens (next :: items))) := by
        simp [itemTokens, List.intercalate_cons_cons]
      rw [tokens_eq, List.length_append, List.length_cons] at enough
      obtain ⟨fuel, rfl⟩ := Nat.exists_eq_add_one_of_ne_zero (n := fuel) (by omega)
      have read_rest := readItems_tokens fuel rest next items (by omega)
      have read := readForm_tokens fuel
        (.comma :: ([.comma].intercalate (itemTokens (next :: items)) ++ ([.closeArray] ++ rest)))
        item (by omega)
      rw [tokens_eq, List.append_assoc, List.cons_append, readItems, read]
      simp only [Option.bind_eq_bind, Option.bind_some, read_rest]

theorem readMembers_tokens (fuel : Nat) (rest : List Token) :
    (member : List StringPart × Form) → (members : List (List StringPart × Form)) →
      2 * ([.comma].intercalate (memberTokens (member :: members))).length + 1 ≤ fuel →
        readMembers fuel
          ([.comma].intercalate (memberTokens (member :: members)) ++ ([.closeObject] ++ rest)) =
            some (member :: members, rest)
  | (key, value), [], enough => by
      simp only [memberTokens, List.intercalate_singleton, List.length_cons] at enough ⊢
      obtain ⟨fuel, rfl⟩ := Nat.exists_eq_add_one_of_ne_zero (n := fuel) (by omega)
      have read := readForm_tokens fuel ([.closeObject] ++ rest) value (by omega)
      rw [List.cons_append, List.cons_append, readMembers, read]
      rfl
  | (key, value), next :: members, enough => by
      have tokens_eq : [.comma].intercalate (memberTokens ((key, value) :: next :: members)) =
          .string key :: .colon :: (value.tokens ++
            (.comma :: [.comma].intercalate (memberTokens (next :: members)))) := by
        obtain ⟨other, following⟩ := next
        simp [memberTokens, List.intercalate_cons_cons]
      rw [tokens_eq, List.length_cons, List.length_cons, List.length_append,
        List.length_cons] at enough
      obtain ⟨fuel, rfl⟩ := Nat.exists_eq_add_one_of_ne_zero (n := fuel) (by omega)
      have read_rest := readMembers_tokens fuel rest next members (by omega)
      have read := readForm_tokens fuel
        (.comma ::
          ([.comma].intercalate (memberTokens (next :: members)) ++ ([.closeObject] ++ rest)))
        value (by omega)
      rw [tokens_eq, List.cons_append, List.cons_append, List.append_assoc, List.cons_append,
        readMembers, read]
      simp only [Option.bind_eq_bind, Option.bind_some, read_rest]

end

/-! ## Form, numbers and depth of a value -/

mutual

/-- The form in which a value is written. -/
def written : Json → Form
  | null => .null
  | bool value => .bool value
  | number value => .number value.numeral
  | string value => .string (writtenParts value)
  | array items => .array (writtenItems items)
  | object members => .object (writtenMembers members)

/-- The forms in which the items of an array are written. -/
def writtenItems : List Json → List Form
  | [] => []
  | item :: rest => written item :: writtenItems rest

/-- The forms in which the members of an object are written. -/
def writtenMembers : List (String × Json) → List (List StringPart × Form)
  | [] => []
  | (key, value) :: rest => (writtenParts key, written value) :: writtenMembers rest

end

mutual

/-- The numbers in a value. -/
def numbers : Json → List Number
  | number value => [value]
  | array items => itemNumbers items
  | object members => memberNumbers members
  | _ => []

/-- The numbers in the items of an array. -/
def itemNumbers : List Json → List Number
  | [] => []
  | item :: rest => numbers item ++ itemNumbers rest

/-- The numbers in the members of an object. -/
def memberNumbers : List (String × Json) → List Number
  | [] => []
  | (_, value) :: rest => numbers value ++ memberNumbers rest

end

mutual

/-- How deep arrays and objects are nested in a value. -/
def depth : Json → Nat
  | array items => itemsDepth items + 1
  | object members => membersDepth members + 1
  | _ => 0

/-- How deep the items of an array are nested. -/
def itemsDepth : List Json → Nat
  | [] => 0
  | item :: rest => max (depth item) (itemsDepth rest)

/-- How deep the members of an object are nested. -/
def membersDepth : List (String × Json) → Nat
  | [] => 0
  | (_, value) :: rest => max (depth value) (membersDepth rest)

end

/-! ## The text of a value -/

theorem toList_newLine (level : Nat) :
    (newLine level).toList = '\n' :: List.replicate (2 * level) ' ' := by
  simp [newLine]

theorem newLine_blank (level : Nat) : ∀ c ∈ (newLine level).toList, isSpace c = true := by
  intro c member
  rw [toList_newLine] at member
  rcases List.mem_cons.mp member with rfl | space
  · rfl
  · rw [List.eq_of_mem_replicate space]
    rfl

theorem newLine_delimits (level : Nat) (text : List Char) :
    Delimits ((newLine level).toList ++ text) := by
  rw [toList_newLine]
  exact delimits_cons (by decide)

/-- Texts between commas stand for their tokens between commas. -/
theorem standsFor_separated (level : Nat) {texts : List String} {parts : List (List Token)}
    (stand : List.Forall₂ (fun text tokens => StandsFor text.toList tokens) texts parts) :
    StandsFor (("," ++ newLine level).intercalate texts).toList ([.comma].intercalate parts) := by
  rw [String.toList_intercalate]
  induction stand with
  | nil => exact .nil
  | @cons text tokens texts parts stands rest induction =>
      cases rest with
      | nil => simpa using stands
      | cons next others =>
          have comma : (("," ++ newLine level).toList : List Char) =
              ',' :: (newLine level).toList := by
            simp [String.toList_append]
          rw [comma] at induction ⊢
          simp only [List.map_cons, List.intercalate_cons_cons, List.append_assoc,
            List.cons_append, List.nil_append] at induction ⊢
          refine stands.append (.cons (by decide) (fun _ => rfl)
            (induction.behind_spaces (newLine_blank level))) fun tail _ => ?_
          exact delimits_cons (by decide)

/-- Texts in brackets stand for their tokens in brackets. -/
theorem standsFor_bracketed {left right : String} {opening closing : Token} {texts : List String}
    {parts : List (List Token)} (level : Nat)
    (opens : ∀ {text tokens}, StandsFor text tokens →
      StandsFor (left.toList ++ text) (opening :: tokens))
    (closes : StandsFor right.toList [closing])
    (stand : List.Forall₂ (fun text tokens => StandsFor text.toList tokens) texts parts) :
    StandsFor (bracketed left right level texts).toList
      (opening :: ([.comma].intercalate parts ++ [closing])) := by
  rw [bracketed]
  split
  · rename_i none_inside
    obtain rfl := List.isEmpty_iff.mp none_inside
    cases stand
    simpa [String.toList_append] using opens closes
  · have inside := (standsFor_separated (level + 1) stand).append
      (closes.behind_spaces (newLine_blank level)) fun tail _ => by
        rw [List.append_assoc]
        exact newLine_delimits level _
    simpa [String.toList_append] using opens (inside.behind_spaces (newLine_blank (level + 1)))

mutual

/-- The text of a value stands for the tokens of its form if its numbers are read back. -/
theorem standsFor_prettyAt (level : Nat) : (json : Json) →
    (∀ number ∈ json.numbers, number.ReadsBack) →
      StandsFor (prettyAt level json).toList (written json).tokens
  | null, _ => by
      rw [prettyAt, written, Form.tokens]
      change StandsFor ['n', 'u', 'l', 'l'] [.null]
      exact .of_word (by decide) fun _ => rfl
  | bool true, _ => by
      rw [prettyAt, written, Form.tokens]
      change StandsFor ['t', 'r', 'u', 'e'] [.bool true]
      exact .of_word (by decide) fun _ => rfl
  | bool false, _ => by
      rw [prettyAt, written, Form.tokens]
      change StandsFor ['f', 'a', 'l', 's', 'e'] [.bool false]
      exact .of_word (by decide) fun _ => rfl
  | number value, reads => by
      rw [prettyAt, written, Form.tokens]
      exact standsFor_number (reads value (by simp [numbers]))
  | string value, _ => by
      rw [prettyAt, written, Form.tokens]
      exact standsFor_string value
  | array items, reads => by
      rw [prettyAt, written, Form.tokens]
      rw [numbers] at reads
      exact standsFor_bracketed level (fun stands => stands.cons (by decide) fun _ => rfl)
        (show StandsFor [']'] [.closeArray] from .of_word (by decide) fun _ => rfl)
        (standsFor_prettyItems (level + 1) items reads)
  | object members, reads => by
      rw [prettyAt, written, Form.tokens]
      rw [numbers] at reads
      exact standsFor_bracketed level (fun stands => stands.cons (by decide) fun _ => rfl)
        (show StandsFor ['\x7d'] [.closeObject] from .of_word (by decide) fun _ => rfl)
        (standsFor_prettyMembers (level + 1) members reads)

theorem standsFor_prettyItems (level : Nat) : (items : List Json) →
    (∀ number ∈ itemNumbers items, number.ReadsBack) →
      List.Forall₂ (fun text tokens => StandsFor text.toList tokens) (prettyItems level items)
        (itemTokens (writtenItems items))
  | [], _ => by
      rw [prettyItems, writtenItems, itemTokens]
      exact .nil
  | item :: rest, reads => by
      rw [prettyItems, writtenItems, itemTokens]
      rw [itemNumbers] at reads
      exact .cons (standsFor_prettyAt level item fun number member =>
          reads number (List.mem_append_left _ member))
        (standsFor_prettyItems level rest fun number member =>
          reads number (List.mem_append_right _ member))

theorem standsFor_prettyMembers (level : Nat) : (members : List (String × Json)) →
    (∀ number ∈ memberNumbers members, number.ReadsBack) →
      List.Forall₂ (fun text tokens => StandsFor text.toList tokens)
        (prettyMembers level members) (memberTokens (writtenMembers members))
  | [], _ => by
      rw [prettyMembers, writtenMembers, memberTokens]
      exact .nil
  | (key, value) :: rest, reads => by
      rw [prettyMembers, writtenMembers, memberTokens]
      rw [memberNumbers] at reads
      refine .cons ?_ (standsFor_prettyMembers level rest fun number member =>
          reads number (List.mem_append_right _ member))
      have value_stands : StandsFor ([' '] ++ (prettyAt level value).toList) (written value).tokens :=
        (standsFor_prettyAt level value fun number member =>
          reads number (List.mem_append_left _ member)).behind_spaces
            (List.forall_mem_singleton.mpr rfl)
      have colon (behind : List Char) : readToken (':' :: behind) = some (.colon, behind) := rfl
      have colon_stands := value_stands.cons (by decide) colon
      rw [String.toList_append, String.toList_append, List.append_assoc]
      exact (standsFor_string key).append colon_stands fun tail _ => delimits_cons (by decide)

end

/-! ## The value of the form -/

/-- Whether all of a value is looked at. -/
inductive View.Covers : View → Json → Prop
  | whole (json : Json) : View.whole.Covers json
  | list {item : View} {items : List Json} (covers : ∀ json ∈ items, item.Covers json) :
      (View.list item).Covers (array items)
  | record {fields : List (String × View)} {members : List (String × Json)}
      (seen : ∀ member ∈ members, ((View.record fields).member? member.1).isSome)
      (covers : ∀ member ∈ members, ∀ inner,
        (View.record fields).member? member.1 = some inner → inner.Covers member.2) :
      (View.record fields).Covers (object members)

theorem View.member?_record (keys : List String) (views : String → View) (key : String) :
    (View.record (keys.map fun key => (key, views key))).member? key =
      if key ∈ keys then some (views key) else none := by
  induction keys with
  | nil => rfl
  | cons first keys induction =>
      rw [View.member?] at induction ⊢
      by_cases same : first = key
      · subst same
        simp
      · rw [List.map_cons, List.find?_cons_of_neg (by simpa using same), induction]
        simp [Ne.symm same]

/-- A member that is not looked at may be left out, whatever its form. -/
theorem memberValues?_unseen {view : View} {limit : Nat} {parts : List StringPart} {key : String}
    {form : Form} {before behind : List (List StringPart × Form)}
    (spells : stringOfParts? parts = some key) (unseen : view.member? key = none) :
    memberValues? view limit (before ++ (parts, form) :: behind) =
      memberValues? view limit (before ++ behind) := by
  induction before with
  | nil => simp [memberValues?, spells, unseen]
  | cons member before induction =>
      simp only [List.cons_append, memberValues?, induction]

namespace View.Covers

variable {view : View}

theorem item {items : List Json} (covers : view.Covers (array items)) {json : Json}
    (among : json ∈ items) (index : Nat) : (view.item index).Covers json := by
  cases covers with
  | whole => exact .whole json
  | list covers => exact covers json among

theorem member {members : List (String × Json)} (covers : view.Covers (object members))
    {member : String × Json} (among : member ∈ members) :
    ∃ inner, view.member? member.1 = some inner ∧ inner.Covers member.2 := by
  cases covers with
  | whole => exact ⟨.whole, rfl, .whole member.2⟩
  | record seen covers =>
      obtain ⟨inner, found⟩ := Option.isSome_iff_exists.mp (seen member among)
      exact ⟨inner, found, covers member among inner found⟩

/-- A record covers an object whose members all stand under its keys. -/
theorem keyed {keys : List String} {views : String → View} {members : List (String × Json)}
    (covers : ∀ member ∈ members, member.1 ∈ keys ∧ (views member.1).Covers member.2) :
    (View.record (keys.map fun key => (key, views key))).Covers (object members) := by
  refine .record (fun member among => ?_) fun member among inner found => ?_
  · rw [member?_record, if_pos (covers member among).1, Option.isSome_some]
  · rw [member?_record, if_pos (covers member among).1] at found
    cases found
    exact (covers member among).2

end View.Covers

mutual

/-- The form in which a value is written has the value if all of it is looked at, it is not nested
too deep and its numbers are read back. -/
theorem value?_written (view : View) (limit : Nat) : (json : Json) → view.Covers json →
    json.depth ≤ limit → (∀ number ∈ json.numbers, number.ReadsBack) →
      (written json).value? view limit = some json
  | null, _, _, _
  | bool _, _, _, _ => rfl
  | number value, _, _, reads => by
      rw [written, Form.value?, (reads value (by simp [numbers])).numeral.2, Option.map_some]
  | string value, _, _, _ => by
      rw [written, Form.value?, stringOfParts?_written, Option.map_some]
  | array items, covers, deep, reads => by
      rw [depth] at deep
      rw [numbers] at reads
      rw [written, Form.value?, if_neg (by omega),
        itemValues?_written view 0 (limit - 1) items (fun _ => covers.item) (by omega) reads,
        Option.map_some]
  | object members, covers, deep, reads => by
      rw [depth] at deep
      rw [numbers] at reads
      rw [written, Form.value?, if_neg (by omega),
        memberValues?_written view (limit - 1) members (fun _ => covers.member) (by omega) reads,
        Option.map_some]

theorem itemValues?_written (view : View) (index limit : Nat) : (items : List Json) →
    (∀ json ∈ items, ∀ index, (view.item index).Covers json) → itemsDepth items ≤ limit →
      (∀ number ∈ itemNumbers items, number.ReadsBack) →
        itemValues? view index limit (writtenItems items) = some items
  | [], _, _, _ => rfl
  | item :: rest, covers, deep, reads => by
      rw [itemsDepth] at deep
      rw [itemNumbers, List.forall_mem_append] at reads
      rw [List.forall_mem_cons] at covers
      have first := value?_written (view.item index) limit item (covers.1 index) (by omega) reads.1
      have others := itemValues?_written view (index + 1) limit rest covers.2 (by omega) reads.2
      simp only [writtenItems, itemValues?, first, others, Option.bind_eq_bind, Option.bind_some]

theorem memberValues?_written (view : View) (limit : Nat) : (members : List (String × Json)) →
    (∀ member ∈ members, ∃ inner, view.member? member.1 = some inner ∧ inner.Covers member.2) →
      membersDepth members ≤ limit → (∀ number ∈ memberNumbers members, number.ReadsBack) →
        memberValues? view limit (writtenMembers members) = some members
  | [], _, _, _ => rfl
  | (key, value) :: rest, covers, deep, reads => by
      rw [membersDepth] at deep
      rw [memberNumbers, List.forall_mem_append] at reads
      rw [List.forall_mem_cons] at covers
      obtain ⟨⟨inner, seen, covers_value⟩, covers_rest⟩ := covers
      have first := value?_written inner limit value covers_value (by omega) reads.1
      have others := memberValues?_written view limit rest covers_rest (by omega) reads.2
      simp only [writtenMembers, memberValues?, stringOfParts?_written, seen, first, others,
        Option.bind_eq_bind, Option.bind_some]

end

/-- A value that is not nested too deep is read back from its text if its numbers are. -/
theorem readView_pretty {view : View} {json : Json} (covers : view.Covers json)
    (deep : json.depth ≤ maxDepth) (reads : ∀ number ∈ json.numbers, number.ReadsBack) :
    readView view json.pretty = some json := by
  have read_form : Form.read json.pretty = some (written json) := by
    refine Form.read_of_standsFor (standsFor_prettyAt 0 json reads) ?_
    have read := readForm_tokens (2 * (written json).tokens.length + 1) [] (written json)
      (Nat.le_succ _)
    rwa [List.append_nil] at read
  rw [readView, read_form, Option.bind_some]
  exact value?_written view maxDepth json covers deep reads

end Gamebook.Json
