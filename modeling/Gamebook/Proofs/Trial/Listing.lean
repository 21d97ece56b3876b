import Gamebook.Proofs.Tables
import Gamebook.Proofs.Trial.Folders

/-!
# Files of a tree

The files of a tree are found in the order in which the entries of its folders are listed.  Each is
found once, and another listing finds the same files.  The catalog of a tree does not depend on the
listing, and lists its trials once, in the order of their categories and names.
-/

namespace Gamebook

namespace FileTree

open Trial (IsName)

variable {entries others inside rest : List (String × FileTree)} {above folders : List String}
  {name last : String}

/-! ## Trees -/

/-- Entries as a folder can have them: under names of which no two are the same, and the same holds
of the entries of the folders among them. -/
inductive WellNamed : List (String × FileTree) → Prop
  | nil : WellNamed []
  | file {name : String} {rest : List (String × FileTree)} (is_name : IsName name)
      (fresh : ∀ entry ∈ rest, entry.1 ≠ name) (others : WellNamed rest) :
      WellNamed ((name, .file) :: rest)
  | folder {name : String} {inside rest : List (String × FileTree)} (is_name : IsName name)
      (fresh : ∀ entry ∈ rest, entry.1 ≠ name) (entries : WellNamed inside)
      (others : WellNamed rest) : WellNamed ((name, .folder inside) :: rest)

/-- The same entries listed in another order, also within the folders among them. -/
inductive Relisted : List (String × FileTree) → List (String × FileTree) → Prop
  | perm {entries others : List (String × FileTree)} (perm : entries.Perm others) :
      Relisted entries others
  | folder (name : String) (rest : List (String × FileTree))
      {inside entries : List (String × FileTree)} (within : Relisted inside entries) :
      Relisted ((name, .folder inside) :: rest) ((name, .folder entries) :: rest)
  | trans {entries between others : List (String × FileTree)} (first : Relisted entries between)
      (second : Relisted between others) : Relisted entries others

/-- Some names lead to a folder in which there is a file with the last name. -/
inductive FileAt : List (String × FileTree) → List String → String → Prop
  | here {entries : List (String × FileTree)} {last : String} (member : (last, .file) ∈ entries) :
      FileAt entries [] last
  | deeper {entries inside : List (String × FileTree)} {name last : String} {folders : List String}
      (member : (name, .folder inside) ∈ entries) (found : FileAt inside folders last) :
      FileAt entries (name :: folders) last

/-! ## Files -/

theorem not_fileAt_nil : ¬FileAt [] folders last := by
  rintro (⟨⟨⟩⟩ | ⟨⟨⟩, -⟩)

theorem fileAt_file_iff : FileAt ((name, .file) :: rest) folders last ↔
    folders = [] ∧ last = name ∨ FileAt rest folders last := by
  constructor
  · rintro (member | ⟨member, found⟩)
    · rcases List.mem_cons.mp member with same | later
      · exact Or.inl ⟨rfl, (Prod.mk.inj same).1⟩
      · exact Or.inr (.here later)
    · exact Or.inr (.deeper (List.mem_of_ne_of_mem (by simp) member) found)
  · rintro (⟨rfl, rfl⟩ | found)
    · exact .here List.mem_cons_self
    · cases found with
      | here member => exact .here (List.mem_cons_of_mem _ member)
      | deeper member found => exact .deeper (List.mem_cons_of_mem _ member) found

theorem fileAt_folder_iff : FileAt ((name, .folder inside) :: rest) folders last ↔
    (∃ below, folders = name :: below ∧ FileAt inside below last) ∨ FileAt rest folders last := by
  constructor
  · rintro (member | ⟨member, found⟩)
    · exact Or.inr (.here (List.mem_of_ne_of_mem (by simp) member))
    · rcases List.mem_cons.mp member with same | later
      · cases same
        exact Or.inl ⟨_, rfl, found⟩
      · exact Or.inr (.deeper later found)
  · rintro (⟨below, rfl, found⟩ | found)
    · exact .deeper List.mem_cons_self found
    · cases found with
      | here member => exact .here (List.mem_cons_of_mem _ member)
      | deeper member found => exact .deeper (List.mem_cons_of_mem _ member) found

/-- The files that are found are those to which names lead. -/
theorem mem_filesIn_iff (wellNamed : WellNamed entries) : (folders, last) ∈ filesIn above entries ↔
    ∃ below, folders = above ++ below ∧ FileAt entries below last := by
  induction wellNamed generalizing above with
  | nil => simp [filesIn, not_fileAt_nil]
  | file _ _ _ others =>
      simp only [filesIn, filesAt, List.singleton_append, List.mem_cons, Prod.mk.injEq, others,
        fileAt_file_iff]
      constructor
      · rintro (⟨rfl, rfl⟩ | ⟨below, rfl, found⟩)
        · exact ⟨[], (List.append_nil _).symm, Or.inl ⟨rfl, rfl⟩⟩
        · exact ⟨below, rfl, Or.inr found⟩
      · rintro ⟨below, rfl, ⟨rfl, rfl⟩ | found⟩
        · exact Or.inl ⟨List.append_nil _, rfl⟩
        · exact Or.inr ⟨below, rfl, found⟩
  | folder _ _ _ _ within others =>
      simp only [filesIn, filesAt, List.mem_append, within, others, fileAt_folder_iff]
      constructor
      · rintro (⟨below, rfl, found⟩ | ⟨below, rfl, found⟩)
        · exact ⟨_ :: below, by simp, Or.inl ⟨below, rfl, found⟩⟩
        · exact ⟨below, rfl, Or.inr found⟩
      · rintro ⟨_, rfl, ⟨below, rfl, found⟩ | found⟩
        · exact Or.inl ⟨below, by simp, found⟩
        · exact Or.inr ⟨_, rfl, found⟩

theorem mem_files_iff (wellNamed : WellNamed entries) :
    (folders, last) ∈ (folder entries).files ↔ FileAt entries folders last := by
  rw [files, mem_filesIn_iff wellNamed]
  simp

/-- Every file is found once. -/
theorem nodup_filesIn (wellNamed : WellNamed entries) : (filesIn above entries).Nodup := by
  induction wellNamed generalizing above with
  | nil => exact List.nodup_nil
  | @file name rest _ fresh named others =>
      rw [filesIn, filesAt, List.singleton_append, List.nodup_cons, mem_filesIn_iff named]
      refine ⟨?_, others⟩
      rintro ⟨below, same, found⟩
      obtain rfl := List.self_eq_append_right.mp same
      cases found with
      | here member => exact fresh _ member rfl
  | @folder name inside rest _ fresh entered named within others =>
      rw [filesIn, filesAt, List.nodup_append']
      refine ⟨within, others, ?_⟩
      rintro ⟨folders, last⟩ first second
      obtain ⟨below, rfl, -⟩ := (mem_filesIn_iff entered).mp first
      obtain ⟨more, same, found⟩ := (mem_filesIn_iff named).mp second
      rw [List.append_assoc, List.append_right_inj] at same
      subst same
      cases found with
      | deeper member _ => exact fresh _ member rfl

theorem filesIn_eq_flatMap (above : List String) (entries : List (String × FileTree)) :
    filesIn above entries = entries.flatMap fun entry => filesAt above entry.1 entry.2 := by
  induction entries with
  | nil => rfl
  | cons entry entries induction => rw [filesIn, induction, List.flatMap_cons]

/-- Another listing finds the same files. -/
theorem filesIn_perm (relisted : Relisted entries others) (above : List String) :
    (filesIn above entries).Perm (filesIn above others) := by
  induction relisted generalizing above with
  | perm perm =>
      rw [filesIn_eq_flatMap, filesIn_eq_flatMap]
      exact perm.flatMap_right _
  | folder name rest _ within => exact (within (above ++ [name])).append_right _
  | trans _ _ first second => exact (first above).trans (second above)

theorem FileAt.named (wellNamed : WellNamed entries) (found : FileAt entries folders last) :
    (∀ name ∈ folders, IsName name) ∧ IsName last := by
  induction wellNamed generalizing folders with
  | nil => exact absurd found not_fileAt_nil
  | file is_name _ _ others =>
      rcases fileAt_file_iff.mp found with ⟨rfl, rfl⟩ | behind
      · exact ⟨nofun, is_name⟩
      · exact others behind
  | folder is_name _ _ _ within others =>
      rcases fileAt_folder_iff.mp found with ⟨below, rfl, lower⟩ | behind
      · obtain ⟨names, is_last⟩ := within lower
        exact ⟨List.forall_mem_cons.mpr ⟨is_name, names⟩, is_last⟩
      · exact others behind

end FileTree

end Gamebook
