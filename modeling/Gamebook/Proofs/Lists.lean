import Mathlib.Data.List.Forall2

/-!
# Lists

Where an item of a concatenation stands, how lists start, lists whose items are related in order,
and actions on the items of a list that may fail.
-/

namespace Gamebook

section Append

variable {α : Type} {first second before after : List α} {item : α}

/-- An item among two lists is in one of them. -/
theorem append_eq_append_cons (split : first ++ second = before ++ item :: after) :
    (∃ rest, first = before ++ item :: rest ∧ after = rest ++ second) ∨
      ∃ rest, second = rest ++ item :: after ∧ before = first ++ rest := by
  rcases List.append_eq_append_iff.mp split with ⟨rest, rfl, same⟩ | ⟨rest, rfl, same⟩
  · exact Or.inr ⟨rest, same, rfl⟩
  · cases rest with
    | nil => exact Or.inr ⟨[], by simpa using same.symm, by simp⟩
    | cons head rest =>
        obtain ⟨rfl, rfl⟩ := List.cons.inj same
        exact Or.inl ⟨rest, rfl, rfl⟩

/-- An item among a list with a last item is in the list or the last one. -/
theorem append_singleton_eq_append_cons {last : α}
    (split : first ++ [last] = before ++ item :: after) :
    (∃ rest, first = before ++ item :: rest ∧ after = rest ++ [last]) ∨
      (last = item ∧ before = first ∧ after = []) := by
  rcases append_eq_append_cons split with inside | ⟨rest, same, rfl⟩
  · exact Or.inl inside
  · cases rest with
    | nil =>
        obtain ⟨rfl, rfl⟩ := List.cons.inj same
        exact Or.inr ⟨rfl, by simp, rfl⟩
    | cons head rest => simp at same

/-- A list has a longest part in front whose items have a property. -/
theorem exists_front (holds : α → Prop) [DecidablePred holds] (items : List α) :
    ∃ front back, items = front ++ back ∧ (∀ item ∈ front, holds item) ∧
      ∀ item ∈ back.head?, ¬holds item := by
  induction items with
  | nil => exact ⟨[], [], rfl, by simp, by simp⟩
  | cons item items induction =>
      by_cases held : holds item
      · obtain ⟨front, back, rfl, hold, fails⟩ := induction
        exact ⟨item :: front, back, rfl, List.forall_mem_cons.mpr ⟨held, hold⟩, fails⟩
      · exact ⟨[], item :: items, rfl, by simp, by simpa using held⟩

end Append

section Related

variable {α β : Type} {related equally : α → β → Prop} {items : List α} {results : List β}

theorem related_congr (same : ∀ item ∈ items, ∀ result, related item result ↔ equally item result) :
    List.Forall₂ related items results ↔ List.Forall₂ equally items results := by
  induction items generalizing results with
  | nil => rw [List.forall₂_nil_left_iff, List.forall₂_nil_left_iff]
  | cons item items induction =>
      obtain ⟨first, others⟩ := List.forall_mem_cons.mp same
      simp only [List.forall₂_cons_left_iff, first, induction others]

theorem exists_left_of_forall₂ (each : List.Forall₂ related items results) {result : β}
    (member : result ∈ results) : ∃ item ∈ items, related item result := by
  induction each with
  | nil => cases member
  | cons first _ induction =>
      rcases List.mem_cons.mp member with rfl | member
      · exact ⟨_, List.mem_cons_self, first⟩
      · obtain ⟨item, among, found⟩ := induction member
        exact ⟨item, List.mem_cons_of_mem _ among, found⟩

/-- Lists that differ in one item are related if those items are and every item is to itself. -/
theorem forall₂_around {related : α → α → Prop} (refl : ∀ item, related item item) {item other : α}
    (before after : List α) (changed : related item other) :
    List.Forall₂ related (before ++ item :: after) (before ++ other :: after) :=
  List.rel_append (List.forall₂_same.mpr fun item _ => refl item)
    (.cons changed (List.forall₂_same.mpr fun item _ => refl item))

theorem map_eq_of_forall₂ {γ : Type} {left : α → γ} {right : β → γ}
    (each : List.Forall₂ related items results)
    (same : ∀ item result, related item result → right result = left item) :
    results.map right = items.map left := by
  induction each with
  | nil => rfl
  | cons first _ induction => rw [List.map_cons, List.map_cons, same _ _ first, induction]

/-- A list whose items are all values of a function is the list of the values of some items. -/
theorem exists_map_eq {f : α → β} {p : α → Prop} {l : List β}
    (each : ∀ result ∈ l, ∃ item, p item ∧ f item = result) :
    ∃ items : List α, (∀ item ∈ items, p item) ∧ items.map f = l := by
  induction l with
  | nil => exact ⟨[], nofun, rfl⟩
  | cons result l induction =>
      obtain ⟨⟨item, holds, rfl⟩, others⟩ := List.forall_mem_cons.mp each
      obtain ⟨items, hold, rfl⟩ := induction others
      exact ⟨item :: items, List.forall_mem_cons.mpr ⟨holds, hold⟩, rfl⟩

end Related

section Actions

variable {α β ε : Type} {action : α → Except ε β} {items : List α} {results : List β} {error : ε}

/-- An action succeeds on a list if it does so on every item. -/
theorem mapM_eq_ok_iff : items.mapM action = .ok results ↔
    List.Forall₂ (fun item result => action item = .ok result) items results := by
  induction items generalizing results with
  | nil =>
      rw [List.mapM_nil, List.forall₂_nil_left_iff]
      exact ⟨fun same => (Except.ok.inj same).symm, fun same => same ▸ rfl⟩
  | cons item items induction =>
      rw [List.mapM_cons, List.forall₂_cons_left_iff]
      cases result : action item with
      | error error => simp [bind, Except.bind]
      | ok value =>
          cases others : items.mapM action with
          | error error =>
              simp only [← induction, others, bind, Except.bind]
              simp
          | ok values =>
              simp only [← induction, others, bind, Except.bind, pure, Except.pure]
              simp [eq_comm]

theorem exists_mapM_iff : (∃ results, items.mapM action = .ok results) ↔
    ∀ item ∈ items, ∃ result, action item = .ok result := by
  constructor
  · rintro ⟨results, succeeds⟩
    have each := mapM_eq_ok_iff.mp succeeds
    clear succeeds
    induction each with
    | nil => simp
    | cons first _ induction => exact List.forall_mem_cons.mpr ⟨⟨_, first⟩, induction⟩
  · intro succeed
    induction items with
    | nil => exact ⟨[], rfl⟩
    | cons item items induction =>
        obtain ⟨⟨result, first⟩, others⟩ := List.forall_mem_cons.mp succeed
        obtain ⟨results, each⟩ := induction others
        exact ⟨result :: results, mapM_eq_ok_iff.mpr (.cons first (mapM_eq_ok_iff.mp each))⟩

/-- An action fails on a list with the error of the first item on which it fails. -/
theorem mapM_eq_error_iff : items.mapM action = .error error ↔
    ∃ before item after, items = before ++ item :: after ∧
      (∀ other ∈ before, ∃ result, action other = .ok result) ∧ action item = .error error := by
  induction items with
  | nil => simp [pure, Except.pure]
  | cons first items induction =>
      rw [List.mapM_cons]
      constructor
      · intro fails
        cases result : action first with
        | error found =>
            rw [result] at fails
            cases fails
            exact ⟨[], first, items, rfl, by simp, result⟩
        | ok value =>
            rw [result] at fails
            cases others : items.mapM action with
            | error found =>
                rw [others] at fails
                cases fails
                obtain ⟨before, item, after, rfl, succeed, fails⟩ := induction.mp others
                exact ⟨first :: before, item, after, rfl,
                  List.forall_mem_cons.mpr ⟨⟨value, result⟩, succeed⟩, fails⟩
            | ok values =>
                rw [others] at fails
                cases fails
      · rintro ⟨before, item, after, split, succeed, fails⟩
        cases before with
        | nil =>
            obtain ⟨rfl, rfl⟩ := List.cons.inj split
            rw [fails]
            rfl
        | cons head before =>
            obtain ⟨rfl, rfl⟩ := List.cons.inj split
            obtain ⟨⟨value, result⟩, succeed⟩ := List.forall_mem_cons.mp succeed
            rw [result, induction.mpr ⟨before, item, after, rfl, succeed, fails⟩]
            rfl

theorem isOk_iff {result : Except ε α} : result.isOk = true ↔ ∃ value, result = .ok value := by
  cases result <;> simp [Except.isOk, Except.toBool]

theorem bind_ok_iff {first : Except ε α} {next : α → Except ε β} {value : β} :
    first >>= next = .ok value ↔ ∃ between, first = .ok between ∧ next between = .ok value := by
  cases first <;> simp [bind, Except.bind]

theorem map_ok_iff {result : Except ε α} {f : α → β} {value : β} :
    result.map f = .ok value ↔ ∃ before, result = .ok before ∧ f before = value := by
  cases result <;> simp [Except.map]

theorem map_error_iff {result : Except ε α} {f : α → β} :
    result.map f = .error error ↔ result = .error error := by
  cases result <;> simp [Except.map]

section Fold

variable {take : β → α → Except ε β} {start result : β}

theorem foldlM_cons_ok_iff {item : α} : (item :: items).foldlM take start = .ok result ↔
    ∃ between, take start item = .ok between ∧ items.foldlM take between = .ok result := by
  rw [List.foldlM_cons, bind_ok_iff]

theorem foldlM_append_ok_iff {first second : List α} :
    (first ++ second).foldlM take start = .ok result ↔
      ∃ between, first.foldlM take start = .ok between ∧
        second.foldlM take between = .ok result := by
  rw [List.foldlM_append, bind_ok_iff]

/-- A fold with an action that commutes with a function on its states does so too. -/
theorem foldlM_map {state : Type} {f : β → state} {other : state → α → Except ε state}
    (commutes : ∀ before item, (take before item).map f = other (f before) item)
    (items : List α) (start : β) :
    (items.foldlM take start).map f = items.foldlM other (f start) := by
  induction items generalizing start with
  | nil => rfl
  | cons item items induction =>
      rw [List.foldlM_cons, List.foldlM_cons, ← commutes]
      cases take start item with
      | error error => rfl
      | ok between => exact induction between

end Fold

end Actions

end Gamebook
