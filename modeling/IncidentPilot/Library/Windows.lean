import Mathlib.Algebra.GroupWithZero.Nat

/-!
# Greedy windows

A list is read in windows.  A window takes items while their weights fit a
limit, and its first item always, so that every window makes progress and only a
window of one item is heavier than the limit.
-/

namespace Windows

variable {Item : Type u} (weight : Item → Nat) (limit : Nat)

/-- The loop that fills a window, which has some items of some size already. -/
def fill : Nat → List Item → List Item → List Item
  | _, window, [] => window
  | size, window, item :: rest =>
      if window ≠ [] ∧ limit < size + weight item then
        window
      else
        fill (size + weight item) (window ++ [item]) rest

/-- The window at the front of a list. -/
def front (items : List Item) : List Item :=
  fill weight limit 0 [] items

variable {weight} {limit}

/-- A filled window goes on with the items it was filled from. -/
theorem fill_starts
    (size : Nat)
    (window items : List Item) :
    ∃ taken left,
      items = taken ++ left ∧
        fill weight limit size window items = window ++ taken := by
  induction items generalizing size window with
  | nil =>
      exact ⟨[], [], rfl, by simp [fill]⟩
  | cons item rest inductionHypothesis =>
      by_cases full : window ≠ [] ∧ limit < size + weight item
      · exact ⟨[], item :: rest, rfl, by simp [fill, full]⟩
      · obtain ⟨taken, left, split, filled⟩ :=
          inductionHypothesis (size + weight item) (window ++ [item])
        refine ⟨item :: taken, left, by rw [split, List.cons_append], ?_⟩
        rw [fill, if_neg full, filled]
        simp

/-- A window that is within the limit stays so. -/
theorem fill_within
    {size : Nat}
    {window items : List Item}
    (sized : size = (window.map weight).sum)
    (some : window ≠ [])
    (within : size ≤ limit ∨ window.length = 1) :
    ((fill weight limit size window items).map weight).sum ≤ limit ∨
      (fill weight limit size window items).length = 1 := by
  induction items generalizing size window with
  | nil =>
      exact within.imp_left fun small => sized ▸ small
  | cons item rest inductionHypothesis =>
      by_cases full : window ≠ [] ∧ limit < size + weight item
      · rw [fill, if_pos full]
        exact within.imp_left fun small => sized ▸ small
      · rw [fill, if_neg full]
        have fits : size + weight item ≤ limit :=
          Nat.le_of_not_lt fun heavy => full ⟨some, heavy⟩
        apply inductionHypothesis
        · simp [sized]
        · simp
        · exact .inl fits

/-- A window is what the list starts with. -/
theorem front_starts (items : List Item) :
    ∃ left, items = front weight limit items ++ left := by
  obtain ⟨taken, left, split, filled⟩ :=
    @fill_starts Item weight limit 0 [] items
  exact ⟨left, by rw [front, filled, split, List.nil_append]⟩

/-- The window of a list that has items has its first item. -/
theorem front_cons (item : Item) (rest : List Item) :
    front weight limit (item :: rest) =
      fill weight limit (weight item) [item] rest := by
  simp [front, fill]

/-- The window of a list that has items is not empty. -/
theorem front_ne_nil
    {items : List Item}
    (some : items ≠ []) :
    front weight limit items ≠ [] := by
  cases items with
  | nil =>
      exact absurd rfl some
  | cons item rest =>
      obtain ⟨taken, left, -, filled⟩ :=
        @fill_starts Item weight limit (weight item) [item] rest
      rw [front_cons, filled]
      simp

/-- Only a window of one item is heavier than the limit. -/
theorem front_within
    {items : List Item}
    (some : items ≠ []) :
    ((front weight limit items).map weight).sum ≤ limit ∨
      (front weight limit items).length = 1 := by
  cases items with
  | nil =>
      exact absurd rfl some
  | cons item rest =>
      rw [front_cons]
      exact fill_within (by simp) (by simp) (.inr rfl)

end Windows
