import Mathlib.Data.List.DropRight

/-!
# The latest items

The items of a list from the latest that satisfies a predicate, the last few of
a list, and both together: newest first, they are a walk that stops at the
first such item or when there are enough.
-/

namespace Latest

variable {α : Type}

/-- The items of a list up to the first that satisfies a predicate. -/
def upTo (marks : α → Bool) : List α → List α
  | [] => []
  | item :: rest =>
      if marks item = true then [item] else item :: upTo marks rest

/-- The items from the latest that satisfies a predicate, or all of them. -/
def sinceLatest (marks : α → Bool) (items : List α) : List α :=
  (upTo marks items.reverse).reverse

section

variable {marks : α → Bool}

/-- Nothing is left out if no item satisfies the predicate. -/
theorem upTo_eq_self
    {items : List α}
    (unmarked : ∀ item ∈ items, marks item = false) :
    upTo marks items = items := by
  induction items with
  | nil =>
      rfl
  | cons first rest inductionHypothesis =>
      have firstUnmarked := unmarked first List.mem_cons_self
      rw [upTo, firstUnmarked, if_neg (by simp),
        inductionHypothesis fun item member =>
          unmarked item (List.mem_cons_of_mem _ member)]

/-- The first item that satisfies the predicate is the last of these. -/
theorem upTo_append
    {newer older : List α}
    {item : α}
    (unmarked : ∀ other ∈ newer, marks other = false)
    (marked : marks item = true) :
    upTo marks (newer ++ item :: older) = newer ++ [item] := by
  induction newer with
  | nil =>
      simp [upTo, marked]
  | cons first rest inductionHypothesis =>
      have firstUnmarked := unmarked first List.mem_cons_self
      rw [List.cons_append, upTo, firstUnmarked, if_neg (by simp),
        inductionHypothesis fun other member =>
          unmarked other (List.mem_cons_of_mem _ member),
        List.cons_append]

/-- All items are since the latest if there is none. -/
theorem sinceLatest_eq_self
    {items : List α}
    (unmarked : ∀ item ∈ items, marks item = false) :
    sinceLatest marks items = items := by
  rw [sinceLatest, upTo_eq_self, List.reverse_reverse]
  intro item member
  exact unmarked item (List.mem_reverse.mp member)

/-- The items since the latest are that item and all after it. -/
theorem sinceLatest_append
    {before after : List α}
    {item : α}
    (marked : marks item = true)
    (unmarked : ∀ other ∈ after, marks other = false) :
    sinceLatest marks (before ++ item :: after) = item :: after := by
  have turned :
      (before ++ item :: after).reverse =
        after.reverse ++ item :: before.reverse := by
    simp
  have unmarkedReverse :
      ∀ other ∈ after.reverse, marks other = false := by
    intro other member
    exact unmarked other (List.mem_reverse.mp member)
  rw [sinceLatest, turned, upTo_append unmarkedReverse marked]
  simp

/-- The last of the last items are the same. -/
theorem rtake_rtake (limit : Nat) (items : List α) :
    (items.rtake limit).rtake limit = items.rtake limit := by
  rw [List.rtake_eq_reverse_take_reverse (items.rtake limit),
    List.rtake_eq_reverse_take_reverse, List.reverse_reverse,
    List.take_take, Nat.min_self]

/-- The last items since the latest are a walk from the newest item. -/
theorem rtake_sinceLatest (limit : Nat) (items : List α) :
    (sinceLatest marks items).rtake limit =
      ((upTo marks items.reverse).take limit).reverse := by
  rw [List.rtake_eq_reverse_take_reverse, sinceLatest,
    List.reverse_reverse]

/-- An item of the walk has few newer ones, and none that stops the walk. -/
theorem mem_take_upTo
    {limit : Nat}
    {items : List α}
    {item : α} :
    item ∈ (upTo marks items).take limit ↔
      ∃ newer older,
        items = newer ++ item :: older ∧
          (∀ other ∈ newer, marks other = false) ∧
          newer.length < limit := by
  induction items generalizing limit with
  | nil =>
      simp [upTo]
  | cons first rest inductionHypothesis =>
      cases limit with
      | zero =>
          simp
      | succ limit =>
          constructor
          · intro member
            rw [upTo] at member
            split at member
            · obtain rfl : item = first := by
                simpa using member
              exact ⟨[], rest, rfl, by simp, Nat.succ_pos limit⟩
            · rename_i unmarked
              rw [List.take_succ_cons] at member
              rcases List.mem_cons.mp member with rfl | inRest
              · exact ⟨[], rest, rfl, by simp, Nat.succ_pos limit⟩
              · obtain ⟨newer, older, rfl, others, few⟩ :=
                  inductionHypothesis.mp inRest
                refine
                  ⟨first :: newer, older, rfl, ?_,
                    Nat.succ_lt_succ few⟩
                intro other among
                rcases List.mem_cons.mp among with rfl | inNewer
                · simpa using unmarked
                · exact others other inNewer
          · rintro ⟨newer, older, split, unmarked, few⟩
            cases newer with
            | nil =>
                obtain ⟨rfl, -⟩ := List.cons.inj split
                rw [upTo]
                split
                · simp
                · simp
            | cons head newer =>
                obtain ⟨rfl, isRest⟩ := List.cons.inj split
                have firstUnmarked := unmarked first List.mem_cons_self
                rw [upTo, firstUnmarked, if_neg (by simp),
                  List.take_succ_cons]
                apply List.mem_cons_of_mem
                refine
                  inductionHypothesis.mpr
                    ⟨newer, older, isRest, ?_,
                      Nat.lt_of_succ_lt_succ few⟩
                intro other member
                exact unmarked other (List.mem_cons_of_mem _ member)

/-- The walk finds the same items if only others are taken away. -/
theorem take_upTo_filter
    {keeps : α → Bool}
    {limit : Nat}
    {items : List α}
    (kept :
      ∀ item ∈ (upTo marks items).take limit, keeps item = true) :
    (upTo marks (items.filter keeps)).take limit =
      (upTo marks items).take limit := by
  induction items generalizing limit with
  | nil =>
      rfl
  | cons first rest inductionHypothesis =>
      cases limit with
      | zero =>
          simp
      | succ limit =>
          rw [upTo] at kept ⊢
          split
          · rename_i marked
            rw [if_pos marked] at kept
            have firstKept := kept first (by simp)
            rw [List.filter_cons_of_pos firstKept, upTo, if_pos marked]
          · rename_i unmarked
            rw [if_neg unmarked, List.take_succ_cons] at kept
            have firstKept := kept first List.mem_cons_self
            have others :=
              inductionHypothesis fun item member =>
                kept item (List.mem_cons_of_mem _ member)
            rw [List.filter_cons_of_pos firstKept, upTo,
              if_neg unmarked, List.take_succ_cons,
              List.take_succ_cons, others]

/-- One of the last items since the latest, by the items after it. -/
theorem mem_rtake_sinceLatest
    {limit : Nat}
    {items : List α}
    {item : α} :
    item ∈ (sinceLatest marks items).rtake limit ↔
      ∃ before after,
        items = before ++ item :: after ∧
          (∀ other ∈ after, marks other = false) ∧
          after.length < limit := by
  rw [rtake_sinceLatest, List.mem_reverse, mem_take_upTo]
  constructor
  · rintro ⟨newer, older, split, unmarked, few⟩
    refine ⟨older.reverse, newer.reverse, ?_, ?_, by simpa using few⟩
    · have turned := congrArg List.reverse split
      simpa using turned
    · intro other member
      exact unmarked other (List.mem_reverse.mp member)
  · rintro ⟨before, after, rfl, unmarked, few⟩
    refine ⟨after.reverse, before.reverse, by simp, ?_, by simpa using few⟩
    intro other member
    exact unmarked other (List.mem_reverse.mp member)

/-- An item with none after it that satisfies the predicate is since then. -/
theorem mem_sinceLatest
    {items before after : List α}
    {item : α}
    (split : items = before ++ item :: after)
    (unmarked : ∀ other ∈ after, marks other = false) :
    item ∈ sinceLatest marks items := by
  have last :
      item ∈ (sinceLatest marks items).rtake (after.length + 1) :=
    mem_rtake_sinceLatest.mpr
      ⟨before, after, split, unmarked, Nat.lt_succ_self _⟩
  exact List.mem_of_mem_drop last

/-- The last items since the latest stay if only others are taken away. -/
theorem rtake_sinceLatest_filter
    {keeps : α → Bool}
    {limit : Nat}
    {items : List α}
    (kept :
      ∀ item ∈ (sinceLatest marks items).rtake limit,
        keeps item = true) :
    (sinceLatest marks (items.filter keeps)).rtake limit =
      (sinceLatest marks items).rtake limit := by
  rw [rtake_sinceLatest] at kept
  rw [rtake_sinceLatest, rtake_sinceLatest,
    ← List.filter_reverse, take_upTo_filter]
  intro item member
  exact kept item (List.mem_reverse.mpr member)

end

end Latest
