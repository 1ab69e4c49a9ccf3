import Mathlib.Data.List.Basic

/-!
# Keeping the first of each key

A filter that keeps an item if it is accepted and no kept item has its key.
What it keeps is a sublist with different keys, which the filter keeps as it is,
and every key of an accepted item is kept with the first such item.
-/

namespace KeepFirst

variable {α κ : Type} [DecidableEq κ]

/-- The accepted items whose keys have not been seen before. -/
def keepFirst
    (accepts : α → Bool)
    (key : α → κ) : List κ → List α → List α
  | _, [] => []
  | seen, item :: rest =>
      if accepts item = true ∧ key item ∉ seen then
        item :: keepFirst accepts key (key item :: seen) rest
      else
        keepFirst accepts key seen rest

/-- An item is the first accepted one with its key. -/
def IsFirst
    (accepts : α → Bool)
    (key : α → κ)
    (items : List α)
    (first : α) : Prop :=
  ∃ before after,
    items = before ++ first :: after ∧
      accepts first = true ∧
      ∀ earlier ∈ before, accepts earlier = true → key earlier ≠ key first

section

variable {accepts : α → Bool} {key : α → κ} {seen : List κ} {items : List α}

/-- What is kept is a sublist. -/
theorem keepFirst_sublist :
    (keepFirst accepts key seen items).Sublist items := by
  induction items generalizing seen with
  | nil =>
      exact List.Sublist.slnil
  | cons first rest inductionHypothesis =>
      rw [keepFirst]
      split
      · exact inductionHypothesis.cons_cons first
      · exact inductionHypothesis.cons first

/-- A kept item is accepted and its key was not seen. -/
theorem accepted_of_mem
    {item : α}
    (member : item ∈ keepFirst accepts key seen items) :
    accepts item = true ∧ key item ∉ seen := by
  induction items generalizing seen with
  | nil =>
      cases member
  | cons first rest inductionHypothesis =>
      rw [keepFirst] at member
      split at member
      · rename_i kept
        rcases List.mem_cons.mp member with rfl | inRest
        · exact kept
        · obtain ⟨accepted, unseen⟩ := inductionHypothesis inRest
          exact
            ⟨accepted, fun inSeen =>
              unseen (List.mem_cons_of_mem _ inSeen)⟩
      · exact inductionHypothesis member

/-- An accepted last item with a new key is kept behind the others. -/
theorem keepFirst_append
    {last : α}
    (accepted : accepts last = true)
    (new : ∀ item ∈ items, key last ≠ key item)
    (unseen : key last ∉ seen) :
    keepFirst accepts key seen (items ++ [last]) =
      keepFirst accepts key seen items ++ [last] := by
  induction items generalizing seen with
  | nil =>
      simp [keepFirst, accepted, unseen]
  | cons first rest inductionHypothesis =>
      have newInRest :=
        fun item member => new item (List.mem_cons_of_mem first member)
      simp only [List.cons_append, keepFirst]
      split
      · have stillUnseen : key last ∉ key first :: seen :=
          fun seenBefore =>
            (List.mem_cons.mp seenBefore).elim
              (new first List.mem_cons_self) unseen
        rw [inductionHypothesis newInRest stillUnseen,
          List.cons_append]
      · exact inductionHypothesis newInRest unseen

/-- No two kept items have one key. -/
theorem keepFirst_distinct :
    (keepFirst accepts key seen items).Pairwise fun item other =>
      key item ≠ key other := by
  induction items generalizing seen with
  | nil =>
      exact List.Pairwise.nil
  | cons first rest inductionHypothesis =>
      rw [keepFirst]
      split
      · apply List.Pairwise.cons _ inductionHypothesis
        intro other member same
        obtain ⟨-, unseen⟩ := accepted_of_mem member
        exact unseen (same ▸ List.mem_cons_self)
      · exact inductionHypothesis

/-- The key of an accepted item was seen, or is kept with its first item. -/
theorem first_kept
    {item : α}
    (member : item ∈ items)
    (accepted : accepts item = true)
    (unseen : key item ∉ seen) :
    ∃ first ∈ keepFirst accepts key seen items,
      key first = key item ∧ IsFirst accepts key items first := by
  induction items generalizing seen with
  | nil =>
      cases member
  | cons head rest inductionHypothesis =>
      by_cases same : accepts head = true ∧ key head = key item
      · obtain ⟨headAccepted, sameKey⟩ := same
        have kept : accepts head = true ∧ key head ∉ seen :=
          ⟨headAccepted, sameKey ▸ unseen⟩
        refine ⟨head, ?_, sameKey, [], rest, rfl, headAccepted, ?_⟩
        · rw [keepFirst, if_pos kept]
          exact List.mem_cons_self
        · intro earlier none
          cases none
      · have inRest : item ∈ rest := by
          rcases List.mem_cons.mp member with rfl | inRest
          · exact absurd ⟨accepted, rfl⟩ same
          · exact inRest
        have later
            {first : α}
            (sameKey : key first = key item)
            (isFirst : IsFirst accepts key rest first) :
            IsFirst accepts key (head :: rest) first := by
          obtain ⟨before, after, split, firstAccepted, none⟩ := isFirst
          refine
            ⟨head :: before, after, by rw [split]; rfl, firstAccepted, ?_⟩
          intro earlier among earlierAccepted
          rcases List.mem_cons.mp among with rfl | inBefore
          · intro isKey
            exact same ⟨earlierAccepted, isKey.trans sameKey⟩
          · exact none earlier inBefore earlierAccepted
        rw [keepFirst]
        split
        · rename_i kept
          have stillUnseen : key item ∉ key head :: seen := by
            intro inSeen
            rcases List.mem_cons.mp inSeen with isHead | inOld
            · exact same ⟨kept.1, isHead.symm⟩
            · exact unseen inOld
          obtain ⟨first, inKept, sameKey, isFirst⟩ :=
            inductionHypothesis inRest stillUnseen
          exact
            ⟨first, List.mem_cons_of_mem _ inKept, sameKey,
              later sameKey isFirst⟩
        · obtain ⟨first, inKept, sameKey, isFirst⟩ :=
            inductionHypothesis inRest unseen
          exact ⟨first, inKept, sameKey, later sameKey isFirst⟩

/-- Accepted items with different unseen keys are all kept. -/
theorem keepFirst_eq_self
    (accepted : ∀ item ∈ items, accepts item = true)
    (unseen : ∀ item ∈ items, key item ∉ seen)
    (distinct :
      items.Pairwise fun item other => key item ≠ key other) :
    keepFirst accepts key seen items = items := by
  induction items generalizing seen with
  | nil =>
      rfl
  | cons first rest inductionHypothesis =>
      obtain ⟨others, restDistinct⟩ := List.pairwise_cons.mp distinct
      have kept : accepts first = true ∧ key first ∉ seen :=
        ⟨accepted first List.mem_cons_self,
          unseen first List.mem_cons_self⟩
      rw [keepFirst, if_pos kept]
      congr 1
      apply inductionHypothesis _ _ restDistinct
      · intro item member
        exact accepted item (List.mem_cons_of_mem _ member)
      · intro item member inSeen
        rcases List.mem_cons.mp inSeen with isFirst | inOld
        · exact others item member isFirst.symm
        · exact unseen item (List.mem_cons_of_mem _ member) inOld

end

end KeepFirst
