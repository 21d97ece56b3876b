import Gamebook.Program.Stored
import Gamebook.Proofs.Json.Numbers
import Gamebook.Proofs.Json.Records

/-!
# Stored instructions are read back

A stored instruction is read back as it was, except that a call of a native by the name of a brace
becomes the brace.  Instructions that were read are recognized already.
-/

namespace Gamebook

namespace Instruction

/-- The instruction as which a stored one is read. -/
def recognized : Instruction → Instruction
  | invoke name => ofWord name
  | other => other

/-- The number that an instruction pushes. -/
def number? : Instruction → Option Float
  | pushNumber value => some value
  | _ => none

theorem recognized_ofWord (word : String) : (ofWord word).recognized = ofWord word := by
  by_cases opens : word = openText
  · rw [ofWord, if_pos opens]
    rfl
  · by_cases closes : word = closeText
    · rw [ofWord, if_neg opens, if_pos closes]
      rfl
    · have called : ofWord word = invoke word := by rw [ofWord, if_neg opens, if_neg closes]
      rw [called, recognized, called]

theorem ofJson?_typed {type key : String} {value : Json} (named : fieldKey? type = some key)
    (apart : key ≠ "type") : ofJson? (typed type key value) = ofField? type value := by
  have own : Json.field? [("type", .string type), (key, value)] "type" =
      some (some (.string type)) := by
    simp [Json.field?, apart]
  have field : Json.field? [("type", .string type), (key, value)] key = some (some value) := by
    simp [Json.field?, apart.symm]
  simp only [typed, ofJson?, own, field, Option.bind_eq_bind, Option.bind_some, Json.asString?,
    named]

/-- A stored instruction is read as the one that is recognized in it. -/
theorem ofJson?_toJson (instruction : Instruction) :
    ofJson? instruction.toJson = some instruction.recognized := by
  cases instruction <;> rw [toJson, ofJson?_typed rfl (by decide)] <;> rfl

theorem ofField?_cases {type : String} {value : Json} {instruction : Instruction}
    (read : ofField? type value = some instruction) :
    (∃ number, value = .number number ∧ instruction = pushNumber number.toFloat) ∨
      (∃ text, instruction = pushString text) ∨ ∃ word, instruction = ofWord word := by
  rw [ofField?.eq_def] at read
  split at read
  · split at read
    · cases read
      exact Or.inl ⟨_, rfl, rfl⟩
    · cases read
  · split at read
    · cases read
      exact Or.inr (Or.inl ⟨_, rfl⟩)
    · split at read
      · cases read
        exact Or.inr (Or.inr ⟨_, rfl⟩)
      · cases read
  · cases read

/-- What is read of a stored instruction is its field. -/
theorem exists_field {json : Json} {instruction : Instruction}
    (read : ofJson? json = some instruction) :
    ∃ type value, ofField? type value = some instruction ∧
      ∀ number ∈ value.numbers, number ∈ json.numbers := by
  rw [ofJson?.eq_def] at read
  split at read
  · rename_i members
    obtain ⟨stored, -, read⟩ := Option.bind_eq_some_iff.mp read
    obtain ⟨type, -, read⟩ := Option.bind_eq_some_iff.mp read
    obtain ⟨key, -, read⟩ := Option.bind_eq_some_iff.mp read
    obtain ⟨field, found, read⟩ := Option.bind_eq_some_iff.mp read
    obtain ⟨value, rfl, read⟩ := Option.bind_eq_some_iff.mp read
    refine ⟨type, value, read, fun number inside => ?_⟩
    rw [Json.numbers]
    exact Json.numbers_of_field? found (fun _ => id) number inside
  · rename_i type value
    refine ⟨type, value, read, fun number inside => ?_⟩
    rw [Json.numbers]
    exact Json.mem_itemNumbers.mpr ⟨value, by simp, inside⟩
  · cases read

theorem recognized_of_ofJson? {json : Json} {instruction : Instruction}
    (read : ofJson? json = some instruction) : instruction.recognized = instruction := by
  obtain ⟨type, value, read, -⟩ := exists_field read
  obtain ⟨number, -, rfl⟩ | ⟨text, rfl⟩ | ⟨word, rfl⟩ := ofField?_cases read
  · rfl
  · rfl
  · exact recognized_ofWord word

/-- The number of an instruction that is read is finite if the numbers of its data fit. -/
theorem isFinite_of_ofJson? {json : Json} {instruction : Instruction}
    (read : ofJson? json = some instruction) (fits : ∀ number ∈ json.numbers, number.Fits)
    {value : Float} (pushes : instruction.number? = some value) : value.isFinite = true := by
  obtain ⟨type, field, read, inside⟩ := exists_field read
  obtain ⟨number, rfl, rfl⟩ | ⟨text, rfl⟩ | ⟨word, rfl⟩ := ofField?_cases read
  · cases pushes
    exact (fits number (inside number (by simp [Json.numbers]))).isFinite
  · cases pushes
  · rw [ofWord] at pushes
    split at pushes
    · cases pushes
    · split at pushes <;> cases pushes

theorem recognized_of_readStored {text : String} {instructions : List Instruction}
    (read : readStored text = some instructions) :
    ∀ instruction ∈ instructions, instruction.recognized = instruction := by
  intro instruction member
  obtain ⟨json, -, decoded⟩ := Option.bind_eq_some_iff.mp read
  obtain ⟨item, item_eq, -⟩ :=
    Json.exists_of_asList? (P := fun _ => True) decoded (fun _ _ => trivial) member
  exact recognized_of_ofJson? item_eq

end Instruction

end Gamebook
