import Gamebook.Proofs.Json.Records
import Gamebook.Proofs.Lists
import Gamebook.Story.Settings

/-!
# The schema of settings

Settings are accepted exactly if every known key holds what the schema says, and then have the
values that are told there.  Other keys do not matter.  Otherwise the fault under the smallest
faulty key is reported, also within the initial context and the settings of behaviour.  Every reader
is shown to decide between what a value tells and what is wrong with it; readers in a row report the
earliest fault, which is the one under the smallest key.
-/

namespace Gamebook

/-! ## Objects in canonical form -/

namespace Json

variable {members : List (String × Json)}

theorem canonicalItems_eq_self {items : List Json}
    (canonical : ∀ item ∈ items, item.canonical = item) : canonicalItems items = items := by
  induction items with
  | nil => rfl
  | cons item items induction =>
      obtain ⟨first, others⟩ := List.forall_mem_cons.mp canonical
      rw [canonicalItems, first, induction others]

theorem canonicalMembers_eq_self (canonical : ∀ entry ∈ members, entry.2.canonical = entry.2) :
    canonicalMembers members = members := by
  induction members with
  | nil => rfl
  | cons entry members induction =>
      obtain ⟨first, others⟩ := List.forall_mem_cons.mp canonical
      rw [canonicalMembers, first, induction others]

mutual

/-- A canonical form is its own canonical form. -/
theorem canonical_canonical : ∀ json : Json, json.canonical.canonical = json.canonical
  | .null => rfl
  | .bool _ => rfl
  | .number _ => rfl
  | .string _ => rfl
  | .array items => by
      rw [canonical, canonical, canonicalItems_eq_self (canonical_of_mem_canonicalItems items)]
  | .object members => by
      rw [canonical, canonical, canonicalMembers_eq_self fun entry member =>
        canonical_of_mem_canonicalMembers members entry (Table.mem_ofList member),
        Table.ofList_entries]

theorem canonical_of_mem_canonicalItems :
    ∀ items : List Json, ∀ item ∈ canonicalItems items, item.canonical = item
  | [] => by simp [canonicalItems]
  | first :: items => by
      rw [canonicalItems]
      exact List.forall_mem_cons.mpr
        ⟨canonical_canonical first, canonical_of_mem_canonicalItems items⟩

theorem canonical_of_mem_canonicalMembers :
    ∀ members : List (String × Json), ∀ entry ∈ canonicalMembers members,
      entry.2.canonical = entry.2
  | [] => by simp [canonicalMembers]
  | (key, value) :: members => by
      rw [canonicalMembers]
      exact List.forall_mem_cons.mpr
        ⟨canonical_canonical value, canonical_of_mem_canonicalMembers members⟩

end

/-- The values of a table of members are in canonical form. -/
theorem canonical_of_get?_toTable {key : String} {json : Json}
    (found : (toTable members).get? key = some json) : json.canonical = json :=
  canonical_of_mem_canonicalMembers members (key, json)
    (Table.mem_ofList (Table.get?_eq_some_iff.mp found))

/-- The members of an object in canonical form are the entries of its table. -/
theorem toTable_entries (canonical : (object members).canonical = object members) :
    (toTable members).entries = members := by
  rw [Json.canonical] at canonical
  exact object.inj canonical

theorem get?_toTable (canonical : (object members).canonical = object members) (key : String) :
    (toTable members).get? key = (object members).member? key := by
  rw [Table.get?, toTable_entries canonical, member?]

theorem members_increasing (canonical : (object members).canonical = object members) :
    members.Pairwise fun first second => first.1 < second.1 := by
  rw [← toTable_entries canonical]
  exact (toTable members).increasing

end Json

namespace Story

/-! ## What settings tell -/

/-- What a name says that options without a link lead to. -/
inductive Names : String → NoLink → Prop
  | exit : Names "exit" .exit
  | back : Names "loopback_to_options" .backToOptions

/-- What a value says that options without a link lead to: by a name, or as an object with the name
as its only key and nothing under it. -/
inductive TellsNoLink : Json → NoLink → Prop
  | name {name : String} {noLink : NoLink} (names : Names name noLink) :
      TellsNoLink (.string name) noLink
  | tag {name : String} {noLink : NoLink} (names : Names name noLink) :
      TellsNoLink (.object [(name, .null)]) noLink

/-- How a text says that white space is treated. -/
inductive TellsWhitespace : Json → Whitespace → Prop
  | normalize : TellsWhitespace (.string "normalize") .normalize
  | retain : TellsWhitespace (.string "retain") .retain
  | unknown {mode : String} (other : mode ≠ "normalize") (another : mode ≠ "retain") :
      TellsWhitespace (.string mode) (.unknown mode)

/-- The state in which a story starts, or nothing. -/
inductive TellsState : Json → Option String → Prop
  | null : TellsState .null none
  | name {name : String} : TellsState (.string name) (some name)

/-- A number or a text is a value of the context. -/
inductive TellsValue : Json → Value → Prop
  | number {number : Json.Number} : TellsValue (.number number) (.number number.toFloat)
  | text {text : String} : TellsValue (.string text) (.string text)

/-- An object of values is a context with these values under the same keys. -/
inductive TellsContext : Json → Table Value → Prop
  | object {members : List (String × Json)} {context : Table Value}
      (values : List.Forall₂ (fun member entry => member.1 = entry.1 ∧ TellsValue member.2 entry.2)
        members context.entries) : TellsContext (.object members) context

/-- What a setting tells that may be left out. -/
inductive Given {α : Type} (tells : Json → α → Prop) (default : α) : Option Json → α → Prop
  | absent : Given tells default none default
  | present {json : Json} {value : α} (told : tells json value) :
      Given tells default (some json) value

/-- What the settings of behaviour tell: an object under its keys, or an array of at most two items
in order. -/
inductive TellsBehaviour : Json → NoLink × Whitespace → Prop
  | object {members : List (String × Json)} {noLink : NoLink} {whitespace : Whitespace}
      (first : Given TellsNoLink .backToOptions
        ((Json.object members).member? "no_link_behaviour") noLink)
      (second : Given TellsWhitespace .normalize ((Json.object members).member? "whitespace")
        whitespace) : TellsBehaviour (.object members) (noLink, whitespace)
  | array {items : List Json} {noLink : NoLink} {whitespace : Whitespace}
      (first : Given TellsNoLink .backToOptions items[0]? noLink)
      (second : Given TellsWhitespace .normalize items[1]? whitespace) (short : items.length ≤ 2) :
      TellsBehaviour (.array items) (noLink, whitespace)

/-- What settings tell by name. -/
structure Settings.Told (table : Table Json) (settings : Settings) : Prop where
  context : Given TellsContext Table.empty (table.get? "initial-context") settings.initialContext
  state : Given TellsState none (table.get? "initial-state") settings.initialState
  behaviour : Given TellsBehaviour (.backToOptions, .normalize) (table.get? "options")
    (settings.noLink, settings.whitespace)

/-! ## Faults -/

/-- A fault under the smallest key that has one. -/
def Smallest {κ : Type} [LT κ] (faulty : κ → SettingsError → Prop) (error : SettingsError) : Prop :=
  ∃ key, faulty key error ∧ ∀ smaller, smaller < key → ∀ other, ¬faulty smaller other

/-- What is wrong with what options without a link lead to. -/
inductive FaultyNoLink : Json → SettingsError → Prop
  | name {name : String} (unknown : ∀ noLink, ¬Names name noLink) :
      FaultyNoLink (.string name) (.unknownVariant name)
  | tag {name : String} {json : Json} (unknown : ∀ noLink, ¬Names name noLink) :
      FaultyNoLink (.object [(name, json)]) (.unknownVariant name)
  | content {name : String} {noLink : NoLink} {json : Json} (names : Names name noLink)
      (other : json ≠ .null) : FaultyNoLink (.object [(name, json)]) (.wrongKind json "unit")
  | count {members : List (String × Json)} (other : members.length ≠ 1) :
      FaultyNoLink (.object members) .notOneKey
  | kind {json : Json} (no_text : ∀ text, json ≠ .string text)
      (no_object : ∀ members, json ≠ .object members) :
      FaultyNoLink json (.wrongKind json "string or map")

/-- A value is no text. -/
inductive FaultyText : Json → SettingsError → Prop
  | kind {json : Json} (no_text : ∀ text, json ≠ .string text) :
      FaultyText json (.wrongKind json "a string")

/-- A value is neither nothing nor a text. -/
inductive FaultyState : Json → SettingsError → Prop
  | kind {json : Json} {error : SettingsError} (given : json ≠ .null)
      (faulty : FaultyText json error) : FaultyState json error

/-- A value of the context is neither a number nor a text. -/
inductive FaultyValue (members : List (String × Json)) : String → SettingsError → Prop
  | kind {key : String} {json : Json} (member : (key, json) ∈ members)
      (other : ∀ value, ¬TellsValue json value) : FaultyValue members key .badValue

/-- What is wrong with the values that the context starts with. -/
inductive FaultyContext : Json → SettingsError → Prop
  | kind {json : Json} (no_object : ∀ members, json ≠ .object members) :
      FaultyContext json (.wrongKind json "a map")
  | value {members : List (String × Json)} {error : SettingsError}
      (smallest : Smallest (FaultyValue members) error) : FaultyContext (.object members) error

/-- What is wrong under a key of an object of behaviour. -/
def FaultyMember (members : List (String × Json)) (key : String) (error : SettingsError) : Prop :=
  ∃ json, (Json.object members).member? key = some json ∧
    (key = "no_link_behaviour" ∧ FaultyNoLink json error ∨
      key = "whitespace" ∧ FaultyText json error)

/-- What is wrong with an item of an array of behaviour, or behind the two that it may have. -/
def FaultyItem (items : List Json) (index : Nat) (error : SettingsError) : Prop :=
  (∃ json, items[index]? = some json ∧
    (index = 0 ∧ FaultyNoLink json error ∨ index = 1 ∧ FaultyText json error)) ∨
      index = 2 ∧ 2 < items.length ∧ error = .tooLong items.length

/-- What is wrong with the settings of behaviour. -/
inductive FaultyBehaviour : Json → SettingsError → Prop
  | object {members : List (String × Json)} {error : SettingsError}
      (smallest : Smallest (FaultyMember members) error) : FaultyBehaviour (.object members) error
  | array {items : List Json} {error : SettingsError}
      (smallest : Smallest (FaultyItem items) error) : FaultyBehaviour (.array items) error
  | kind {json : Json} (no_object : ∀ members, json ≠ .object members)
      (no_array : ∀ items, json ≠ .array items) :
      FaultyBehaviour json (.wrongKind json "struct BehaviourOptions")

/-- What is wrong under a key of the settings. -/
def Settings.Faulty (table : Table Json) (key : String) (error : SettingsError) : Prop :=
  ∃ json, table.get? key = some json ∧
    (key = "initial-context" ∧ FaultyContext json error ∨
      key = "initial-state" ∧ FaultyState json error ∨
      key = "options" ∧ FaultyBehaviour json error)

/-- Settings of behaviour that differ at most under keys without a meaning. -/
inductive AlikeBehaviour : Option Json → Option Json → Prop
  | same (given : Option Json) : AlikeBehaviour given given
  | objects {members others : List (String × Json)}
      (noLink : (Json.object members).member? "no_link_behaviour" =
        (Json.object others).member? "no_link_behaviour")
      (whitespace : (Json.object members).member? "whitespace" =
        (Json.object others).member? "whitespace") :
      AlikeBehaviour (some (.object members)) (some (.object others))

/-- Settings that differ at most under keys without a meaning. -/
structure Settings.Alike (first second : Table Json) : Prop where
  context : first.get? "initial-context" = second.get? "initial-context"
  state : first.get? "initial-state" = second.get? "initial-state"
  behaviour : AlikeBehaviour (first.get? "options") (second.get? "options")

/-! ## Reading in order -/

/-- A fault that one of the parts has, where no earlier part has one. -/
def Earliest : List (SettingsError → Prop) → SettingsError → Prop
  | [], _ => False
  | here :: later, error => here error ∨ (∀ other, ¬here other) ∧ Earliest later error

section Keys

variable {κ : Type} [LT κ] {faulty : κ → SettingsError → Prop} {error : SettingsError}
  {keys : List κ}

theorem earliest_map_iff (asymm : ∀ {left right : κ}, left < right → ¬right < left)
    (sorted : keys.Pairwise (· < ·)) : Earliest (keys.map faulty) error ↔
      ∃ key ∈ keys, faulty key error ∧
        ∀ smaller ∈ keys, smaller < key → ∀ other, ¬faulty smaller other := by
  induction keys with
  | nil => simp [Earliest]
  | cons first keys induction =>
      obtain ⟨above, sorted⟩ := List.pairwise_cons.mp sorted
      rw [List.map_cons, Earliest, induction sorted]
      constructor
      · rintro (found | ⟨fine, key, later, found, least⟩)
        · refine ⟨first, List.mem_cons_self, found, fun smaller member before => ?_⟩
          rcases List.mem_cons.mp member with rfl | later
          · exact absurd before (asymm before)
          · exact absurd before (asymm (above smaller later))
        · refine ⟨key, List.mem_cons_of_mem _ later, found, fun smaller member before => ?_⟩
          rcases List.mem_cons.mp member with rfl | earlier
          · exact fine
          · exact least smaller earlier before
      · rintro ⟨key, member, found, least⟩
        rcases List.mem_cons.mp member with rfl | later
        · exact Or.inl found
        · exact Or.inr ⟨least first List.mem_cons_self (above key later), key, later, found,
            fun smaller member => least smaller (List.mem_cons_of_mem _ member)⟩

/-- The fault under the smallest key is the earliest one in the order of the keys. -/
theorem smallest_iff (asymm : ∀ {left right : κ}, left < right → ¬right < left)
    (sorted : keys.Pairwise (· < ·)) (only : ∀ key error, faulty key error → key ∈ keys) :
    Smallest faulty error ↔ Earliest (keys.map faulty) error := by
  rw [earliest_map_iff asymm sorted]
  constructor
  · rintro ⟨key, found, least⟩
    exact ⟨key, only key error found, found, fun smaller _ => least smaller⟩
  · rintro ⟨key, -, found, least⟩
    exact ⟨key, found, fun smaller before other fault =>
      least smaller (only smaller other fault) before other fault⟩

end Keys

/-! ## Readers that decide -/

/-- A result that is a value just when this is told, and an error just when this is wrong. -/
structure Decides {α : Type} (result : Except SettingsError α) (tells : α → Prop)
    (faulty : SettingsError → Prop) : Prop where
  ok_iff : ∀ value, result = .ok value ↔ tells value
  error_iff : ∀ error, result = .error error ↔ faulty error

namespace Decides

variable {α β : Type} {tells told : α → Prop} {faulty wrong : SettingsError → Prop}

theorem congr {result : Except SettingsError α} (decides : Decides result tells faulty)
    (same_value : ∀ value, told value ↔ tells value)
    (same_error : ∀ error, wrong error ↔ faulty error) : Decides result told wrong :=
  ⟨fun value => (decides.ok_iff value).trans (same_value value).symm,
    fun error => (decides.error_iff error).trans (same_error error).symm⟩

theorem ok {value : α} (tells_iff : ∀ other, tells other ↔ value = other)
    (fine : ∀ error, ¬faulty error) : Decides (.ok value) tells faulty :=
  ⟨fun other => by rw [tells_iff, Except.ok.injEq], fun error => by simp [fine error]⟩

theorem error {found : SettingsError} (nothing : ∀ value, ¬tells value)
    (faulty_iff : ∀ other, faulty other ↔ found = other) : Decides (.error found) tells faulty :=
  ⟨fun value => by simp [nothing value], fun other => by rw [faulty_iff, Except.error.injEq]⟩

theorem map {result : Except SettingsError α} (decides : Decides result tells faulty) (f : α → β) :
    Decides (result.map f) (fun value => ∃ before, tells before ∧ f before = value) faulty := by
  constructor
  · intro value
    simp only [map_ok_iff, decides.ok_iff]
  · intro error
    rw [map_error_iff, decides.error_iff]

/-- Of two results in a row the second one does not matter if the first one is an error. -/
theorem bind {first : Except SettingsError α} {next : α → Except SettingsError β}
    {result : α → β → Prop} {later : SettingsError → Prop} (decides : Decides first tells faulty)
    (behind : ∀ value, Decides (next value) (result value) later) :
    Decides (first >>= next) (fun last => ∃ value, tells value ∧ result value last)
      (fun error => faulty error ∨ (∀ other, ¬faulty other) ∧ later error) := by
  constructor
  · intro last
    simp only [bind_ok_iff, decides.ok_iff, (behind _).ok_iff]
  · intro error
    cases found : first with
    | ok value =>
        have fine (other : SettingsError) : ¬faulty other := by
          rw [← decides.error_iff, found]
          exact nofun
        simp only [fine, false_or, not_false_eq_true, implies_true, true_and]
        exact (behind value).error_iff error
    | error other =>
        have wrong := (decides.error_iff other).mp found
        have only : faulty error ↔ other = error := by
          rw [← decides.error_iff, found, Except.error.injEq]
        have stuck : (Except.error other >>= next) = .error other := rfl
        rw [stuck, Except.error.injEq, ← only]
        exact (or_iff_left fun later => later.1 other wrong).symm

/-- What may be left out is told or wrong as its value is. -/
theorem readOr {read : Json → Except SettingsError α} {tells : Json → α → Prop}
    {faulty : Json → SettingsError → Prop} {default : α} {given : Option Json}
    (decides : ∀ json, given = some json → Decides (read json) (tells json) (faulty json)) :
    Decides (Settings.readOr read default given) (Given tells default given)
      (fun error => ∃ json, given = some json ∧ faulty json error) := by
  cases given with
  | none =>
      refine .ok (fun other => ⟨?_, ?_⟩) (by simp)
      · rintro ⟨⟩
        rfl
      · rintro rfl
        exact .absent
  | some json =>
      refine (decides json rfl).congr (fun value => ⟨?_, .present⟩) (by simp)
      intro told
      cases told with
      | present told => exact told

end Decides

/-! ## Reading single settings -/

namespace Settings

theorem names_iff {name : String} {noLink : NoLink} : Names name noLink ↔
    name = "exit" ∧ noLink = .exit ∨ name = "loopback_to_options" ∧ noLink = .backToOptions := by
  constructor
  · intro names
    cases names with
    | exit => exact Or.inl ⟨rfl, rfl⟩
    | back => exact Or.inr ⟨rfl, rfl⟩
  · rintro (⟨rfl, rfl⟩ | ⟨rfl, rfl⟩)
    · exact .exit
    · exact .back

theorem noLinkOfName_decides (name : String) : Decides (noLinkOfName name) (Names name)
    (fun error => (∀ noLink, ¬Names name noLink) ∧ error = .unknownVariant name) := by
  rw [noLinkOfName]
  split
  next exit => exact .ok (by simp [names_iff, exit, eq_comm]) (by simp [names_iff, exit])
  next no_exit =>
    split
    next back => exact .ok (by simp [names_iff, back, eq_comm]) (by simp [names_iff, back])
    next no_back =>
      have unknown (noLink : NoLink) : ¬Names name noLink := by simp [names_iff, no_exit, no_back]
      exact .error unknown (by simp [unknown, eq_comm])

theorem readString_decides (json : Json) : Decides (readString json)
    (fun text => json = .string text) (FaultyText json) := by
  cases json with
  | string text =>
      refine .ok (by simp) ?_
      rintro error ⟨no_text⟩
      exact no_text text rfl
  | _ =>
      refine .error nofun (fun other => ⟨?_, ?_⟩)
      · rintro ⟨no_text⟩
        rfl
      · rintro rfl
        exact .kind nofun

theorem readWhitespace_decides (json : Json) :
    Decides (readWhitespace json) (TellsWhitespace json) (FaultyText json) := by
  have read := (readString_decides json).map whitespaceOfMode
  refine read.congr (fun whitespace => ⟨?_, ?_⟩) fun _ => Iff.rfl
  · intro told
    cases told with
    | normalize => exact ⟨_, rfl, rfl⟩
    | retain => exact ⟨_, rfl, rfl⟩
    | unknown no_normalize no_retain =>
        refine ⟨_, rfl, ?_⟩
        rw [whitespaceOfMode, if_neg no_retain, if_neg no_normalize]
  · rintro ⟨mode, rfl, rfl⟩
    rw [whitespaceOfMode]
    split
    next retain => exact retain ▸ .retain
    next no_retain =>
      split
      next normalize => exact normalize ▸ .normalize
      next no_normalize => exact .unknown no_normalize no_retain

theorem readOptionalString_decides (json : Json) :
    Decides (readOptionalString json) (TellsState json) (FaultyState json) := by
  by_cases null : json = .null
  · subst null
    refine .ok (fun other => ⟨?_, ?_⟩) ?_
    · rintro ⟨⟩
      rfl
    · rintro rfl
      exact .null
    · rintro error ⟨given, -⟩
      exact given rfl
  · have optional : readOptionalString json = (readString json).map some := by
      cases json with
      | null => exact absurd rfl null
      | _ => rfl
    rw [optional]
    refine ((readString_decides json).map some).congr (fun state => ⟨?_, ?_⟩) fun error =>
      ⟨fun ⟨_, faulty⟩ => faulty, .kind null⟩
    · intro told
      cases told with
      | null => exact absurd rfl null
      | name => exact ⟨_, rfl, rfl⟩
    · rintro ⟨name, rfl, rfl⟩
      exact .name

/-- What is under the name of a variant has to be nothing. -/
theorem readTag_decides (name : String) (json : Json) :
    Decides (readNoLink (.object [(name, json)])) (TellsNoLink (.object [(name, json)]))
      (FaultyNoLink (.object [(name, json)])) := by
  obtain ⟨next, read, last⟩ : ∃ next : NoLink → Except SettingsError NoLink,
      readNoLink (.object [(name, json)]) = noLinkOfName name >>= next ∧
        ∀ noLink, Decides (next noLink) (fun other => json = .null ∧ noLink = other)
          (fun error => json ≠ .null ∧ error = .wrongKind json "unit") := by
    refine ⟨_, rfl, fun noLink => ?_⟩
    cases json with
    | null => exact .ok (by simp) (by simp)
    | _ => exact .error (by simp) (by simp [eq_comm])
  rw [read]
  refine ((noLinkOfName_decides name).bind last).congr (fun noLink => ⟨?_, ?_⟩)
    (fun error => ⟨?_, ?_⟩)
  · intro told
    cases told with
    | tag names => exact ⟨noLink, names, rfl, rfl⟩
  · rintro ⟨_, names, rfl, rfl⟩
    exact .tag names
  · intro faulty
    cases faulty with
    | tag unknown => exact Or.inl ⟨unknown, rfl⟩
    | content names other => exact Or.inr ⟨fun _ wrong => wrong.1 _ names, other, rfl⟩
    | count other => exact absurd rfl other
    | kind _ no_object => exact absurd rfl (no_object _)
  · rintro (⟨unknown, rfl⟩ | ⟨fine, other, rfl⟩)
    · exact .tag unknown
    · have known : ¬∀ noLink, ¬Names name noLink := fun unknown => fine _ ⟨unknown, rfl⟩
      obtain ⟨noLink, names⟩ := not_forall_not.mp known
      exact .content names other

theorem readNoLink_decides (json : Json) :
    Decides (readNoLink json) (TellsNoLink json) (FaultyNoLink json) := by
  cases json with
  | string name =>
      refine (noLinkOfName_decides name).congr (fun noLink => ⟨?_, .name⟩) (fun error => ⟨?_, ?_⟩)
      · intro told
        cases told with
        | name names => exact names
      · intro faulty
        cases faulty with
        | name unknown => exact ⟨unknown, rfl⟩
        | kind no_text _ => exact absurd rfl (no_text name)
      · rintro ⟨unknown, rfl⟩
        exact .name unknown
  | object members =>
      by_cases one : members.length = 1
      · obtain ⟨⟨name, json⟩, rfl⟩ := List.length_eq_one_iff.mp one
        exact readTag_decides name json
      · have many : readNoLink (.object members) = .error .notOneKey := by
          rw [readNoLink]
          rintro name json rfl
          exact one rfl
        rw [many]
        refine .error ?_ (fun other => ⟨?_, ?_⟩)
        · rintro noLink ⟨⟩
          exact one rfl
        · intro faulty
          cases faulty with
          | tag _ => exact absurd rfl one
          | content _ _ => exact absurd rfl one
          | count _ => rfl
          | kind _ no_object => exact absurd rfl (no_object members)
        · rintro rfl
          exact .count one
  | _ =>
      refine .error nofun (fun other => ⟨?_, ?_⟩)
      · rintro ⟨⟩
        rfl
      · rintro rfl
        exact .kind nofun nofun

/-! ## Reading the context -/

section Context

variable {members : List (String × Json)}

theorem tellsValue_iff {json : Json} {value : Value} :
    TellsValue json value ↔ Value.ofJson? json = some value := by
  constructor
  · rintro (_ | _) <;> rfl
  · intro read
    cases json with
    | number number => exact Option.some.inj read ▸ .number
    | string text => exact Option.some.inj read ▸ .text
    | _ => cases read

/-- One value of the context under its key. -/
def readEntry (entry : String × Json) : Except SettingsError (String × Value) :=
  match Value.ofJson? entry.2 with
  | some value => .ok (entry.1, value)
  | none => .error .badValue

theorem readEntry_decides (entry : String × Json) : Decides (readEntry entry)
    (fun result => entry.1 = result.1 ∧ TellsValue entry.2 result.2)
    (fun error => (∀ value, ¬TellsValue entry.2 value) ∧ error = .badValue) := by
  simp only [tellsValue_iff]
  rw [readEntry]
  split
  next value read => exact .ok (by simp [read, Prod.ext_iff]) (by simp [read])
  next unread => exact .error (by simp [unread]) (by simp [unread, eq_comm])

/-- The values of an object with increasing keys are told by the context they are put into. -/
theorem tellsContext_object_iff {context : Table Value}
    (increasing : members.Pairwise fun first second => first.1 < second.1) :
    TellsContext (.object members) context ↔
      ∃ values, members.mapM readEntry = .ok values ∧ Table.ofList values = context := by
  simp only [mapM_eq_ok_iff, (readEntry_decides _).ok_iff]
  constructor
  · rintro ⟨values⟩
    exact ⟨context.entries, values, Table.ofList_entries context⟩
  · rintro ⟨values, each, rfl⟩
    have keys : values.map Prod.fst = members.map Prod.fst :=
      map_eq_of_forall₂ each fun _ _ same => same.1.symm
    have sorted : values.Pairwise fun first second => first.1 < second.1 := by
      rw [← List.pairwise_map (f := Prod.fst), keys, List.pairwise_map]
      exact increasing
    refine .object ?_
    rwa [Table.ofList, Table.entries_insertAll sorted]

/-- The first of the members that are no values is the one with the smallest key. -/
theorem faultyContext_object_iff {error : SettingsError}
    (increasing : members.Pairwise fun first second => first.1 < second.1) :
    FaultyContext (.object members) error ↔ members.mapM readEntry = .error error := by
  rw [mapM_eq_error_iff]
  simp only [(readEntry_decides _).error_iff]
  constructor
  · intro faulty
    cases faulty with
    | kind no_object => exact absurd rfl (no_object members)
    | value smallest =>
        obtain ⟨key, ⟨member, other⟩, least⟩ := smallest
        obtain ⟨before, after, rfl⟩ := List.append_of_mem member
        refine ⟨before, _, after, rfl, fun earlier among => ?_, other, rfl⟩
        have less := (List.pairwise_append.mp increasing).2.2 earlier among _ List.mem_cons_self
        cases read : readEntry earlier with
        | ok value => exact ⟨value, rfl⟩
        | error found =>
            have wrong := ((readEntry_decides earlier).error_iff found).mp read
            exact absurd (.kind (List.mem_append_left _ among) wrong.1) (least _ less .badValue)
  · rintro ⟨before, ⟨key, json⟩, after, rfl, succeed, other, rfl⟩
    refine .value ⟨key, .kind (by simp) other, ?_⟩
    rintro smaller less _ ⟨member, wrong⟩
    rcases List.mem_append.mp member with among | behind
    · obtain ⟨result, read⟩ := succeed _ among
      exact wrong _ (((readEntry_decides _).ok_iff result).mp read).2
    · have later := (List.pairwise_cons.mp (List.pairwise_append.mp increasing).2.1).1
      rcases List.mem_cons.mp behind with same | among
      · obtain ⟨rfl, -⟩ := Prod.mk.inj same
        exact String.lt_irrefl _ less
      · exact String.lt_asymm less (later _ among)

theorem readContext_decides {json : Json} (canonical : json.canonical = json) :
    Decides (readContext json) (TellsContext json) (FaultyContext json) := by
  cases json with
  | object members =>
      have increasing := Json.members_increasing canonical
      have read : readContext (.object members) =
          members.mapM readEntry >>= fun values => .ok (Table.ofList values) := rfl
      constructor
      · intro context
        rw [read, bind_ok_iff, tellsContext_object_iff increasing]
        simp only [Except.ok.injEq]
      · intro error
        rw [read, faultyContext_object_iff increasing]
        cases members.mapM readEntry <;> simp [bind, Except.bind]
  | _ =>
      refine .error nofun (fun other => ⟨?_, ?_⟩)
      · rintro ⟨⟩
        rfl
      · rintro rfl
        exact .kind nofun

end Context

/-! ## Reading the settings of behaviour -/

section Behaviour

variable {members : List (String × Json)}

/-- Both settings of behaviour, and then what follows. -/
theorem readBoth_decides {β : Type} {next : NoLink → Whitespace → Except SettingsError β}
    {result : NoLink → Whitespace → β → Prop} {later : SettingsError → Prop}
    (behind : ∀ noLink whitespace,
      Decides (next noLink whitespace) (result noLink whitespace) later)
    (first second : Option Json) :
    Decides (readOr readNoLink .backToOptions first >>= fun noLink =>
        readOr readWhitespace .normalize second >>= next noLink)
      (fun last => ∃ noLink, Given TellsNoLink .backToOptions first noLink ∧
        ∃ whitespace, Given TellsWhitespace .normalize second whitespace ∧
          result noLink whitespace last)
      (Earliest [fun error => ∃ json, first = some json ∧ FaultyNoLink json error,
        fun error => ∃ json, second = some json ∧ FaultyText json error, later]) := by
  have one : Decides (readOr readNoLink .backToOptions first) _ _ :=
    .readOr fun json _ => readNoLink_decides json
  have other : Decides (readOr readWhitespace .normalize second) _ _ :=
    .readOr fun json _ => readWhitespace_decides json
  have reads := one.bind fun noLink => other.bind (behind noLink)
  refine reads.congr (fun _ => Iff.rfl) fun error => ?_
  simp only [Earliest, and_false, or_false]

theorem readMembers_decides (canonical : (Json.object members).canonical = .object members) :
    Decides (readBehaviour (.object members)) (TellsBehaviour (.object members))
      (FaultyBehaviour (.object members)) := by
  rw [readBehaviour]
  simp only [Json.get?_toTable canonical]
  refine (readBoth_decides (fun _ _ => .ok (fun _ => Iff.rfl) fun _ => id) _ _).congr ?_ ?_
  · rintro ⟨noLink, whitespace⟩
    constructor
    · rintro ⟨first, second⟩
      exact ⟨noLink, first, whitespace, second, rfl⟩
    · rintro ⟨noLink, first, whitespace, second, ⟨⟩⟩
      exact .object first second
  · intro error
    have smallest : Smallest (FaultyMember members) error ↔
        Earliest (["no_link_behaviour", "whitespace"].map (FaultyMember members)) error := by
      refine smallest_iff String.lt_asymm (by decide) ?_
      rintro key error ⟨json, -, ⟨rfl, -⟩ | ⟨rfl, -⟩⟩ <;> simp
    have object : FaultyBehaviour (.object members) error ↔
        Smallest (FaultyMember members) error := by
      refine ⟨fun faulty => ?_, .object⟩
      cases faulty with
      | object smallest => exact smallest
      | kind no_object _ => exact absurd rfl (no_object members)
    rw [object, smallest]
    simp [Earliest, FaultyMember]

theorem readItems_decides (items : List Json) :
    Decides (readBehaviour (.array items)) (TellsBehaviour (.array items))
      (FaultyBehaviour (.array items)) := by
  have last (noLink : NoLink) (whitespace : Whitespace) :
      Decides (if 2 < items.length then .error (.tooLong items.length)
          else return (noLink, whitespace))
        (fun result => items.length ≤ 2 ∧ (noLink, whitespace) = result)
        (fun error => 2 < items.length ∧ error = .tooLong items.length) := by
    split
    next long => exact .error (by simp [long]) (by simp [long, eq_comm])
    next short => exact .ok (by simp [Nat.le_of_not_lt short]) (by simp [short])
  refine (readBoth_decides last _ _).congr ?_ ?_
  · rintro ⟨noLink, whitespace⟩
    constructor
    · rintro (_ | ⟨first, second, short⟩)
      exact ⟨noLink, first, whitespace, second, short, rfl⟩
    · rintro ⟨noLink, first, whitespace, second, short, ⟨⟩⟩
      exact .array first second short
  · intro error
    have smallest : Smallest (FaultyItem items) error ↔
        Earliest ([0, 1, 2].map (FaultyItem items)) error := by
      refine smallest_iff Nat.lt_asymm (by decide) ?_
      rintro index error (⟨json, -, ⟨rfl, -⟩ | ⟨rfl, -⟩⟩ | ⟨rfl, -⟩) <;> simp
    have array : FaultyBehaviour (.array items) error ↔ Smallest (FaultyItem items) error := by
      refine ⟨fun faulty => ?_, .array⟩
      cases faulty with
      | array smallest => exact smallest
      | kind _ no_array => exact absurd rfl (no_array items)
    rw [array, smallest]
    simp [Earliest, FaultyItem]

theorem readBehaviour_decides {json : Json} (canonical : json.canonical = json) :
    Decides (readBehaviour json) (TellsBehaviour json) (FaultyBehaviour json) := by
  cases json with
  | object members => exact readMembers_decides canonical
  | array items => exact readItems_decides items
  | _ =>
      refine .error nofun (fun other => ⟨?_, ?_⟩)
      · rintro ⟨⟩
        rfl
      · rintro rfl
        exact .kind nofun nofun

end Behaviour

/-! ## Reading settings -/

section Whole

variable {table other : Table Json}

theorem ofTable_decides
    (canonical : ∀ {key json}, table.get? key = some json → json.canonical = json) :
    Decides (ofTable table) (Told table) (Smallest (Faulty table)) := by
  have context : Decides (readOr readContext Table.empty (table.get? "initial-context")) _ _ :=
    .readOr fun json found => readContext_decides (canonical found)
  have state : Decides (readOr readOptionalString none (table.get? "initial-state")) _ _ :=
    .readOr fun json _ => readOptionalString_decides json
  have behaviour :
      Decides (readOr readBehaviour (.backToOptions, .normalize) (table.get? "options")) _ _ :=
    .readOr fun json found => readBehaviour_decides (canonical found)
  refine (context.bind fun initialContext => state.bind fun initialState =>
    behaviour.bind fun both => .ok (fun _ => Iff.rfl) fun _ => id).congr ?_ ?_
  · intro settings
    constructor
    · rintro ⟨context, state, behaviour⟩
      exact ⟨_, context, _, state, _, behaviour, rfl⟩
    · rintro ⟨_, context, _, state, _, behaviour, rfl⟩
      exact ⟨context, state, behaviour⟩
  · intro error
    have smallest : Smallest (Faulty table) error ↔
        Earliest (["initial-context", "initial-state", "options"].map (Faulty table)) error := by
      refine smallest_iff String.lt_asymm (by decide) ?_
      rintro key error ⟨json, -, ⟨rfl, -⟩ | ⟨rfl, -⟩ | ⟨rfl, -⟩⟩ <;> simp
    rw [smallest]
    simp [Earliest, Faulty]

theorem readBehaviour_alike {given another : Option Json}
    (canonical : ∀ {json}, given = some json → json.canonical = json)
    (another_canonical : ∀ {json}, another = some json → json.canonical = json)
    (alike : AlikeBehaviour given another) :
    readOr readBehaviour (.backToOptions, .normalize) given =
      readOr readBehaviour (.backToOptions, .normalize) another := by
  cases alike with
  | same given => rfl
  | objects noLink whitespace =>
      rw [readOr, readOr, readBehaviour, readBehaviour]
      simp only [Json.get?_toTable (canonical rfl), Json.get?_toTable (another_canonical rfl),
        noLink, whitespace]

/-- What has no meaning does not matter. -/
theorem ofTable_alike
    (canonical : ∀ {key json}, table.get? key = some json → json.canonical = json)
    (other_canonical : ∀ {key json}, other.get? key = some json → json.canonical = json)
    (alike : Alike table other) : ofTable table = ofTable other := by
  rw [ofTable, ofTable, alike.context, alike.state,
    readBehaviour_alike canonical other_canonical alike.behaviour]

/-- Settings are accepted just if they are as the schema says, and then have the values told there;
otherwise the fault under the smallest key is reported.  Nothing else in them matters. -/
theorem accepts_schema (members others : List (String × Json)) :
    (∀ settings, ofTable (Json.toTable members) = .ok settings ↔
      Told (Json.toTable members) settings) ∧
    (∀ error, ofTable (Json.toTable members) = .error error ↔
      Smallest (Faulty (Json.toTable members)) error) ∧
    (Alike (Json.toTable members) (Json.toTable others) →
      ofTable (Json.toTable members) = ofTable (Json.toTable others)) := by
  have decides : Decides (ofTable (Json.toTable members)) _ _ :=
    ofTable_decides Json.canonical_of_get?_toTable
  exact ⟨decides.ok_iff, decides.error_iff,
    ofTable_alike Json.canonical_of_get?_toTable Json.canonical_of_get?_toTable⟩

/-- Settings with all keys, in no order, and with one more key. -/
theorem accepts_schema_dock :
    let context := ("initial-context", Json.object [("name", .string "Zelnick")])
    let state := ("initial-state", Json.string "Dock")
    let options := ("options", Json.object [("no_link_behaviour", .object [("exit", .null)]),
      ("whitespace", .string "retain")])
    let settings : Settings :=
      { initialContext := Table.ofList [("name", .string "Zelnick")], initialState := some "Dock"
        noLink := .exit, whitespace := .retain }
    ofTable (Json.toTable [options, state, context]) = .ok settings ∧
      ofTable (Json.toTable [options, state, context]) =
        ofTable (Json.toTable [("unrelated", .bool true), options, context, state]) := by
  intro context state options settings
  obtain ⟨accepted, -, alike⟩ := accepts_schema [options, state, context]
    [("unrelated", .bool true), options, context, state]
  refine ⟨(accepted settings).mpr ⟨?_, ?_, ?_⟩, alike ⟨by cbv, by cbv, ?_⟩⟩
  · apply Given.present
    apply TellsContext.object
    exact .cons ⟨rfl, .text⟩ .nil
  · apply Given.present
    exact .name
  · apply Given.present
    apply TellsBehaviour.object
    · exact .present (.tag .exit)
    · exact .present .retain
  · exact AlikeBehaviour.same (some options.2)

end Whole

end Settings

end Story

end Gamebook
