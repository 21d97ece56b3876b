import Gamebook.Machine.Snapshot
import Gamebook.Proofs.Compile.Kept

/-!
# The format of snapshots

A snapshot whose numbers are finite is read back from its text with the braces among its
instructions recognized, and every text that is read as a snapshot is, once the snapshot is written,
read as the same snapshot again.  That the text of a finite number is read back as the number is
assumed of the numbers at hand.
-/

namespace Gamebook

open Instruction (Kept)
open Json (maxWord)

/-! ## Values and offsets -/

namespace Value

theorem ofJson?_toJson (value : Value) : ofJson? value.toJson = some value := by
  cases value <;> rfl

theorem isFinite_of_ofJson? {json : Json} {value : Value} (read : ofJson? json = some value)
    (fits : ∀ number ∈ json.numbers, number.Fits) {number : Float}
    (same : value.number? = some number) : number.isFinite = true := by
  rw [ofJson?.eq_def] at read
  split at read
  · cases read
    cases same
    exact (fits _ (by simp [Json.numbers])).isFinite
  · cases read
    cases same
  · cases read

end Value

theorem Json.asNat?_ofNat (value : Nat) : (Json.ofNat value).asNat? = some value := rfl

theorem Json.le_of_asNat? {json : Json} {value : Nat} (read : json.asNat? = some value)
    (fits : ∀ number ∈ json.numbers, number.Fits) : value ≤ maxWord := by
  rw [asNat?.eq_def] at read
  split at read
  · cases read
    exact fits (.natural value) (by simp [Json.numbers])
  · cases read

namespace PendingChoice

theorem view_covers (choice : PendingChoice) : view.Covers choice.toJson :=
  .keyed fun member among => by
    simp only [List.mem_cons, List.not_mem_nil, or_false] at among
    rcases among with rfl | rfl <;> exact ⟨by simp [keys], .whole _⟩

theorem ofJson?_toJson (choice : PendingChoice) : ofJson? choice.toJson = some choice := by
  simp [toJson, ofJson?, Json.fields?, keys, Json.field?, Json.asString?, Json.asNat?, Json.ofNat]

theorem offset_le_of_ofJson? {json : Json} {choice : PendingChoice}
    (read : ofJson? json = some choice) (fits : ∀ number ∈ json.numbers, number.Fits) :
    choice.offset ≤ maxWord := by
  obtain ⟨fields, found, read⟩ := Option.bind_eq_some_iff.mp read
  split at read
  · rename_i title offset
    obtain ⟨title_text, -, read⟩ := Option.bind_eq_some_iff.mp read
    obtain ⟨offset_value, offset_eq, read⟩ := Option.bind_eq_some_iff.mp read
    cases read
    exact Json.le_of_asNat? offset_eq (Json.numbers_of_fields? found fits (by simp))
  · cases read

end PendingChoice

namespace Snapshot

variable {snapshot : Snapshot}

/-- The numbers of a snapshot: on the stack, in the context and in the instructions. -/
def numbers (snapshot : Snapshot) : List Float :=
  snapshot.stack.filterMap Value.number? ++
    snapshot.context.entries.filterMap (fun entry => entry.2.number?) ++
      snapshot.instructions.filterMap Instruction.number?

/-- The offsets of a snapshot: of the next instruction, of the labels and of the options. -/
def offsets (snapshot : Snapshot) : List Nat :=
  snapshot.counter :: (snapshot.labels.entries.map Prod.snd ++
    snapshot.pending.map PendingChoice.offset)

/-- The offsets are of machine size. -/
def Sized (snapshot : Snapshot) : Prop :=
  ∀ offset ∈ snapshot.offsets, offset ≤ maxWord

/-- The numbers are finite. -/
def Finite (snapshot : Snapshot) : Prop :=
  ∀ value ∈ snapshot.numbers, value.isFinite = true

/-- The text of each number that is finite is read back as the number. -/
def Spelled (snapshot : Snapshot) : Prop :=
  ∀ value ∈ snapshot.numbers, value.isFinite = true → (Json.Number.float value).ReadsBack

/-- The snapshot with the braces among its instructions recognized. -/
def recognized (snapshot : Snapshot) : Snapshot :=
  { snapshot with instructions := snapshot.instructions.map Instruction.recognized }

theorem recognized_eq (kept : Kept snapshot.instructions) : snapshot.recognized = snapshot := by
  rw [recognized, kept.map_eq]

/-! ## Written snapshots -/

theorem fields?_toJson (snapshot : Snapshot) :
    Json.fields? keys snapshot.toJson =
      some [some (.array (snapshot.stack.map Value.toJson)),
        some (.ofTable Value.toJson snapshot.context),
        some (.array (snapshot.instructions.map Instruction.toJson)),
        some (.ofTable .ofNat snapshot.labels), some (.ofNat snapshot.counter),
        some (.bool snapshot.exited), some (.bool snapshot.paused),
        if snapshot.pending.isEmpty then none
        else some (.array (snapshot.pending.map PendingChoice.toJson))] := by
  by_cases none_pending : snapshot.pending.isEmpty <;>
    simp [toJson, Json.fields?, keys, Json.field?, none_pending]

/-- The data of a snapshot stands for the snapshot with its braces recognized. -/
theorem ofJson?_toJson (snapshot : Snapshot) :
    ofJson? snapshot.toJson = some snapshot.recognized := by
  have stack := Json.asList?_map_id Value.ofJson?_toJson snapshot.stack
  have context := Json.asTable?_ofTable Value.ofJson?_toJson snapshot.context
  have instructions := Json.asList?_map Instruction.ofJson?_toJson snapshot.instructions
  have labels := Json.asTable?_ofTable Json.asNat?_ofNat snapshot.labels
  have pending := Json.asList?_map_id PendingChoice.ofJson?_toJson snapshot.pending
  rw [ofJson?, fields?_toJson]
  split
  · rename_i none_pending
    have empty := List.isEmpty_iff.mp none_pending
    simp [stack, context, instructions, labels, Json.asNat?_ofNat, Json.asBool?, recognized, empty]
  · simp [stack, context, instructions, labels, pending, Json.asNat?_ofNat, Json.asBool?,
      recognized]

/-- All of the data of a snapshot is looked at when it is read. -/
theorem view_covers (snapshot : Snapshot) : view.Covers snapshot.toJson := by
  refine .keyed fun member among => ?_
  rcases List.mem_append.mp among with always | sometimes
  · simp only [List.mem_cons, List.not_mem_nil, or_false] at always
    rcases always with rfl | rfl | rfl | rfl | rfl | rfl | rfl <;>
      exact ⟨by simp [keys], .whole _⟩
  · split at sometimes
    · cases sometimes
    · obtain rfl := List.mem_singleton.mp sometimes
      refine ⟨by simp [keys], .list fun json among => ?_⟩
      obtain ⟨choice, -, rfl⟩ := List.mem_map.mp among
      exact choice.view_covers

theorem depth_toJson_le (snapshot : Snapshot) : snapshot.toJson.depth ≤ 3 := by
  have value_depth (value : Value) : value.toJson.depth ≤ 1 := by
    cases value <;> simp [Value.toJson, Json.depth]
  have instruction_depth (instruction : Instruction) : instruction.toJson.depth ≤ 1 := by
    cases instruction <;>
      simp [Instruction.toJson, Instruction.typed, Json.depth, Json.membersDepth]
  have offset_depth (offset : Nat) : (Json.ofNat offset).depth ≤ 1 := by
    simp [Json.ofNat, Json.depth]
  have choice_depth (choice : PendingChoice) : choice.toJson.depth ≤ 1 := by
    simp [PendingChoice.toJson, Json.ofNat, Json.depth, Json.membersDepth]
  rw [toJson, Json.depth]
  refine Nat.succ_le_succ (Json.membersDepth_le.mpr (List.forall_mem_append.mpr ⟨?_, ?_⟩))
  · simp only [List.forall_mem_cons]
    exact ⟨Json.depth_array_map_le value_depth snapshot.stack,
      Json.depth_ofTable_le value_depth snapshot.context,
      Json.depth_array_map_le instruction_depth snapshot.instructions,
      Json.depth_ofTable_le offset_depth snapshot.labels,
      (offset_depth snapshot.counter).trans (by decide), by simp [Json.depth],
      by simp [Json.depth], List.forall_mem_nil _⟩
  · split
    · exact List.forall_mem_nil _
    · exact List.forall_mem_singleton.mpr
        (Json.depth_array_map_le choice_depth snapshot.pending)

/-! ## The numbers of written snapshots -/

theorem number_of_value {value : Value} {number : Json.Number}
    (member : number ∈ value.toJson.numbers) :
    ∃ float, value.number? = some float ∧ number = .float float := by
  cases value with
  | number float => exact ⟨float, rfl, by simpa [Value.toJson, Json.numbers] using member⟩
  | string text => simp [Value.toJson, Json.numbers] at member

theorem number_of_instruction {instruction : Instruction} {number : Json.Number}
    (member : number ∈ instruction.toJson.numbers) :
    ∃ float, instruction.number? = some float ∧ number = .float float := by
  cases instruction with
  | pushNumber float =>
      refine ⟨float, rfl, ?_⟩
      simpa [Instruction.toJson, Instruction.typed, Json.numbers, Json.memberNumbers] using member
  | _ =>
      simp [Instruction.toJson, Instruction.typed, Json.numbers, Json.memberNumbers] at member

/-- The numbers of the data are those of the snapshot and its offsets. -/
theorem exists_of_numbers_toJson {number : Json.Number}
    (member : number ∈ snapshot.toJson.numbers) :
    (∃ value ∈ snapshot.numbers, number = .float value) ∨
      ∃ offset ∈ snapshot.offsets, number = .natural offset := by
  rw [toJson, Json.numbers, Json.mem_memberNumbers] at member
  obtain ⟨⟨key, json⟩, place, member⟩ := member
  simp only [List.mem_append, List.mem_cons, List.not_mem_nil, or_false, Prod.mk.injEq] at place
  dsimp only at member
  rcases place with
    (⟨-, rfl⟩ | ⟨-, rfl⟩ | ⟨-, rfl⟩ | ⟨-, rfl⟩ | ⟨-, rfl⟩ | ⟨-, rfl⟩ | ⟨-, rfl⟩) | place
  · obtain ⟨value, inside, held⟩ := Json.mem_numbers_array_map.mp member
    obtain ⟨float, same, rfl⟩ := number_of_value held
    exact Or.inl ⟨float, by simpa [numbers] using Or.inl ⟨value, inside, same⟩, rfl⟩
  · obtain ⟨entry, inside, held⟩ := Json.mem_numbers_ofTable.mp member
    obtain ⟨float, same, rfl⟩ := number_of_value held
    exact Or.inl ⟨float, by
      simpa [numbers] using Or.inr (Or.inl ⟨entry.1, entry.2, inside, same⟩), rfl⟩
  · obtain ⟨instruction, inside, held⟩ := Json.mem_numbers_array_map.mp member
    obtain ⟨float, same, rfl⟩ := number_of_instruction held
    exact Or.inl ⟨float, by
      simpa [numbers] using Or.inr (Or.inr ⟨instruction, inside, same⟩), rfl⟩
  · obtain ⟨entry, inside, held⟩ := Json.mem_numbers_ofTable.mp member
    obtain rfl : number = .natural entry.2 := by simpa [Json.ofNat, Json.numbers] using held
    exact Or.inr ⟨entry.2, by simpa [offsets] using Or.inr (Or.inl ⟨entry.1, inside⟩), rfl⟩
  · obtain rfl : number = .natural snapshot.counter := by
      simpa [Json.ofNat, Json.numbers] using member
    exact Or.inr ⟨snapshot.counter, by simp [offsets], rfl⟩
  · simp [Json.numbers] at member
  · simp [Json.numbers] at member
  · split at place
    · cases place
    · obtain ⟨-, rfl⟩ := Prod.mk.inj (List.mem_singleton.mp place)
      obtain ⟨choice, inside, held⟩ := Json.mem_numbers_array_map.mp member
      obtain rfl : number = .natural choice.offset := by
        simpa [PendingChoice.toJson, Json.ofNat, Json.numbers, Json.memberNumbers] using held
      exact Or.inr ⟨choice.offset, by simpa [offsets] using Or.inr (Or.inr ⟨choice, inside, rfl⟩),
        rfl⟩

/-- A snapshot of finite numbers is read back from its text with its braces recognized. -/
theorem read_text (sized : snapshot.Sized) (finite : snapshot.Finite)
    (spelled : snapshot.Spelled) : read snapshot.text = .ok snapshot.recognized := by
  have reads (number : Json.Number) (member : number ∈ snapshot.toJson.numbers) :
      number.ReadsBack := by
    obtain ⟨value, among, rfl⟩ | ⟨offset, among, rfl⟩ := exists_of_numbers_toJson member
    · exact spelled value among (finite value among)
    · exact Json.readsBack_natural (sized offset among)
  have shallow : snapshot.toJson.depth ≤ Json.maxDepth :=
    (depth_toJson_le snapshot).trans (by decide)
  rw [read, text, Json.readView_pretty snapshot.view_covers shallow reads, Option.bind_some,
    ofJson?_toJson]

/-! ## Snapshots that were read -/

/-- The fields from which the parts of a snapshot are decoded. -/
theorem exists_fields {json : Json} (decoded : ofJson? json = some snapshot) :
    ∃ stack context instructions labels counter exited paused pending,
      Json.fields? keys json = some [some stack, some context, some instructions, some labels,
        some counter, exited, paused, pending] ∧
      Json.asList? Value.ofJson? stack = some snapshot.stack ∧
      Json.asTable? Value.ofJson? context = some snapshot.context ∧
      Json.asList? Instruction.ofJson? instructions = some snapshot.instructions ∧
      Json.asTable? Json.asNat? labels = some snapshot.labels ∧
      counter.asNat? = some snapshot.counter ∧
      ∀ choice ∈ snapshot.pending, ∃ list, pending = some list ∧
        Json.asList? PendingChoice.ofJson? list = some snapshot.pending := by
  obtain ⟨fields, found, decoded⟩ := Option.bind_eq_some_iff.mp decoded
  split at decoded
  · rename_i stack context instructions labels counter exited paused pending
    refine ⟨stack, context, instructions, labels, counter, some exited, some paused, pending, found,
      ?_⟩
    rcases pending with _ | list <;>
      simp only [Option.bind_eq_bind, Option.bind_some, Option.bind_eq_some_iff, Option.pure_def,
        Option.some.injEq] at decoded
    · obtain ⟨_, stack_eq, _, context_eq, _, instructions_eq, _, labels_eq, _, counter_eq, _, -, _,
        -, rfl⟩ := decoded
      exact ⟨stack_eq, context_eq, instructions_eq, labels_eq, counter_eq, by rintro choice ⟨⟩⟩
    · obtain ⟨_, pending_eq, _, stack_eq, _, context_eq, _, instructions_eq, _, labels_eq, _,
        counter_eq, _, -, _, -, rfl⟩ := decoded
      exact ⟨stack_eq, context_eq, instructions_eq, labels_eq, counter_eq,
        fun _ _ => ⟨list, rfl, pending_eq⟩⟩
  · cases decoded

/-- A snapshot that was decoded from numbers that fit has offsets of machine size, finite numbers
and recognized braces. -/
theorem of_ofJson? {json : Json} (decoded : ofJson? json = some snapshot)
    (fits : ∀ number ∈ json.numbers, number.Fits) :
    snapshot.Sized ∧ snapshot.Finite ∧ Kept snapshot.instructions := by
  obtain ⟨stack, context, instructions, labels, counter, exited, paused, pending, found, stack_eq,
    context_eq, instructions_eq, labels_eq, counter_eq, pending_eq⟩ := exists_fields decoded
  have part_fits {part : Json} (among : some part ∈ _) : ∀ number ∈ part.numbers, number.Fits :=
    Json.numbers_of_fields? found fits among
  refine ⟨fun offset member => ?_, fun value member => ?_, fun instruction member => ?_⟩
  · simp only [offsets, List.mem_cons, List.mem_append, List.mem_map] at member
    rcases member with rfl | ⟨entry, among, rfl⟩ | ⟨choice, among, rfl⟩
    · exact Json.le_of_asNat? counter_eq (part_fits (by simp))
    · obtain ⟨item, item_eq, item_fits⟩ :=
        Json.exists_of_asTable? labels_eq (part_fits (by simp)) among
      exact Json.le_of_asNat? item_eq item_fits
    · obtain ⟨list, rfl, list_eq⟩ := pending_eq choice among
      obtain ⟨item, item_eq, item_fits⟩ :=
        Json.exists_of_asList? list_eq (part_fits (by simp)) among
      exact PendingChoice.offset_le_of_ofJson? item_eq item_fits
  · simp only [numbers, List.mem_append, List.mem_filterMap] at member
    rcases member with (⟨item, among, same⟩ | ⟨entry, among, same⟩) | ⟨instruction, among, same⟩
    · obtain ⟨json, json_eq, json_fits⟩ :=
        Json.exists_of_asList? stack_eq (part_fits (by simp)) among
      exact Value.isFinite_of_ofJson? json_eq json_fits same
    · obtain ⟨json, json_eq, json_fits⟩ :=
        Json.exists_of_asTable? context_eq (part_fits (by simp)) among
      exact Value.isFinite_of_ofJson? json_eq json_fits same
    · obtain ⟨json, json_eq, json_fits⟩ :=
        Json.exists_of_asList? instructions_eq (part_fits (by simp)) among
      exact Instruction.isFinite_of_ofJson? json_eq json_fits same
  · obtain ⟨item, item_eq, -⟩ :=
      Json.exists_of_asList? instructions_eq (part_fits (by simp)) member
    exact Instruction.recognized_of_ofJson? item_eq

/-- A member under another key than those of a snapshot does not count, whatever its form. -/
theorem read_eq_of_unknown {text shorter : String} {parts : List Json.StringPart} {key : String}
    {form : Json.Form} {before behind : List (List Json.StringPart × Json.Form)}
    (read_form : Json.Form.read text = some (.object (before ++ (parts, form) :: behind)))
    (read_shorter : Json.Form.read shorter = some (.object (before ++ behind)))
    (spells : Json.stringOfParts? parts = some key) (unknown : key ∉ keys) :
    read text = read shorter := by
  have unseen : view.member? key = none := by
    rw [view, Json.View.member?_record, if_neg unknown]
  have same : Json.readView view text = Json.readView view shorter := by
    rw [Json.readView, Json.readView, read_form, read_shorter, Option.bind_some, Option.bind_some,
      Json.Form.value?, Json.Form.value?, Json.memberValues?_unseen spells unseen]
  rw [read, read, same]

theorem of_read {text : String} (reads : read text = .ok snapshot) :
    snapshot.Sized ∧ snapshot.Finite ∧ Kept snapshot.instructions := by
  rw [read] at reads
  split at reads
  · rename_i found
    cases reads
    obtain ⟨json, read_json, decoded⟩ := Option.bind_eq_some_iff.mp found
    exact of_ofJson? decoded (Json.fits_of_readView read_json)
  · cases reads

/-! ## Machines -/

/-- Instructions of a compiled document, of compiled code, or of stored data that was read. -/
inductive Sourced : List Instruction → Prop
  | document {document : Story.Document} {compiled : Compile.Compiled}
      (accepted : Compile.compile document = .ok compiled) : Sourced compiled.program.instructions
  | code {code : String} {fragment : Code.Fragment} (compiles : Code.compile code = .ok fragment) :
      Sourced fragment.instructions
  | stored {text : String} {instructions : List Instruction}
      (reads : Instruction.readStored text = some instructions) : Sourced instructions
  | snapshot {text : String} {snapshot : Snapshot} (reads : read text = .ok snapshot) :
      Sourced snapshot.instructions

theorem Sourced.kept {instructions : List Instruction} (sourced : Sourced instructions) :
    Kept instructions := by
  cases sourced with
  | document accepted => exact Compile.kept_of_compile accepted
  | code compiles => exact Code.kept_of_compile compiles
  | stored reads => exact Instruction.recognized_of_readStored reads
  | snapshot reads => exact (of_read reads).2.2

/-- A snapshot of finite numbers is read back from its text with its braces recognized; exactly as
it was if it is one of a machine whose program was compiled or read.  A snapshot that was read from
any text is read back exactly from its own text. -/
theorem format_round_trip :
    (∀ snapshot : Snapshot, snapshot.Sized → snapshot.Finite → snapshot.Spelled →
      read snapshot.text = .ok snapshot.recognized) ∧
    (∀ machine : Machine, Sourced machine.program.instructions → machine.snapshot.Sized →
      machine.snapshot.Finite → machine.snapshot.Spelled →
        read machine.snapshot.text = .ok machine.snapshot) ∧
    ∀ (text : String) (snapshot : Snapshot), read text = .ok snapshot → snapshot.Spelled →
      read snapshot.text = .ok snapshot := by
  refine ⟨fun snapshot => read_text, fun machine sourced sized finite spelled => ?_,
    fun text snapshot reads spelled => ?_⟩
  · rw [read_text sized finite spelled, recognized_eq sourced.kept]
  · obtain ⟨sized, finite, kept⟩ := of_read reads
    rw [read_text sized finite spelled, recognized_eq kept]

/-- A snapshot with a call of a native by the name of a brace. -/
private def bracedSnapshot : Snapshot where
  stack := [.number 3, .string "north"]
  context := Table.ofList [("gold", .number (-0.5)), ("name", .string "Ada")]
  instructions := [.pushNumber 1, .invoke Instruction.openText, .invoke "exit", .closeBlock]
  labels := Table.ofList [("start", 0)]
  counter := 1
  exited := false
  paused := true
  pending := [⟨"Go", 3⟩]

/-- A machine that is about to set a value. -/
private def settingMachine : Machine where
  program :=
    { instructions := [.pushNumber 1, .pushString "gold", .invoke "setContext"]
      labels := Table.empty, blocks := [], linked := rfl, labels_le := by simp [Table.empty] }
  natives := Registry.quest
  stack := []
  context := Table.empty
  counter := 0
  exited := false
  paused := false
  queued := []
  offered := []
  random := .ofSeed 0
  output := []

/-- The fields of a snapshot in order; what else the option holds is passed over. -/
private def listedText : String :=
  "[[3], \x7b\"b\": 2, \"a\": \"x\", \"b\": 0\x7d, [], \x7b\x7d, 0, false, true, " ++
    "[\x7b\"hint\": [1e400, \"\\ud800\"], \"programCounter\": 3, \"title\": \"Go\"\x7d]]"

private def listedSnapshot : Snapshot where
  stack := [.number 3]
  context := Table.ofList [("a", .string "x"), ("b", .number 0)]
  instructions := []
  labels := Table.empty
  counter := 0
  exited := false
  paused := true
  pending := [⟨"Go", 3⟩]

theorem format_round_trip_gold :
    read bracedSnapshot.text = .ok bracedSnapshot.recognized ∧
      bracedSnapshot.recognized.instructions = [.pushNumber 1, .openBlock, .invoke "exit",
        .closeBlock] ∧
      Sourced settingMachine.program.instructions ∧
        read settingMachine.snapshot.text = .ok settingMachine.snapshot ∧
          read listedText = .ok listedSnapshot ∧ read listedSnapshot.text = .ok listedSnapshot := by
  obtain ⟨writes, machines, reads⟩ := format_round_trip
  have compiles : Code.compile "1 \"gold\" setContext" =
      .ok ⟨settingMachine.program.instructions, Table.empty⟩ := by decide +kernel
  have sourced : Sourced settingMachine.program.instructions := .code compiles
  have listed : read listedText = .ok listedSnapshot := by
    have decoded : (Json.readView view listedText).bind ofJson? = some listedSnapshot := by
      decide +kernel
    rw [read, decoded]
  refine ⟨writes bracedSnapshot ?_ ?_ ?_, by decide, sourced,
    machines settingMachine sourced ?_ ?_ ?_, listed, reads listedText listedSnapshot listed ?_⟩
  · unfold Sized; decide
  · unfold Finite; decide +kernel
  · unfold Spelled; decide +kernel
  · unfold Sized; decide
  · unfold Finite; decide +kernel
  · unfold Spelled; decide +kernel
  · unfold Spelled; decide +kernel

end Snapshot

end Gamebook
