import Mathlib.Data.List.Basic

/-!
# Fields between separators

Splitting a list at the first few separators, and what the fields can be: their
concatenation is the list, and none but the last has a separator.
-/

namespace Delimited

variable {α : Type} [DecidableEq α]

/-- The fields before the first so many separators, and what is left. -/
def splitAtMost (separator : α) : Nat → List α → List (List α)
  | 0, text => [text]
  | splits + 1, text =>
      if separator ∈ text then
        text.takeWhile (fun char => decide (char ≠ separator)) ::
          splitAtMost separator splits
            ((text.dropWhile fun char => decide (char ≠ separator)).drop 1)
      else
        [text]

/-- A field without separators, before a separator, is split off. -/
theorem splitAtMost_append
    {separator : α}
    {field : List α}
    (plain : separator ∉ field)
    (splits : Nat)
    (rest : List α) :
    splitAtMost separator (splits + 1) (field ++ separator :: rest) =
      field :: splitAtMost separator splits rest := by
  have inField : ∀ char ∈ field, decide (char ≠ separator) = true := by
    intro char member
    have differs : char ≠ separator :=
      fun same => plain (same ▸ member)
    exact decide_eq_true differs
  have present : separator ∈ field ++ separator :: rest := by
    simp
  rw [splitAtMost, if_pos present,
    List.takeWhile_append_of_pos inField,
    List.dropWhile_append_of_pos inField]
  simp

/-- A text with a separator is a field without any, and what is after it. -/
theorem split_first
    {separator : α}
    {text : List α}
    (present : separator ∈ text) :
    text =
      text.takeWhile (fun char => decide (char ≠ separator)) ++
        separator ::
          (text.dropWhile fun char =>
            decide (char ≠ separator)).drop 1 := by
  induction text with
  | nil =>
      cases present
  | cons first rest inductionHypothesis =>
      by_cases same : first = separator
      · simp [same]
      · have inRest : separator ∈ rest := by
          rcases List.mem_cons.mp present with isFirst | inRest
          · exact absurd isFirst.symm same
          · exact inRest
        have split := inductionHypothesis inRest
        simpa [same] using split

/-- There is always a field. -/
theorem splitAtMost_ne_nil
    (separator : α)
    (splits : Nat)
    (text : List α) :
    splitAtMost separator splits text ≠ [] := by
  cases splits with
  | zero =>
      simp [splitAtMost]
  | succ splits =>
      rw [splitAtMost]
      split
      · exact List.cons_ne_nil _ _
      · exact List.cons_ne_nil _ _

/-- The fields with separators between them are the text. -/
theorem intercalate_splitAtMost
    (separator : α)
    (splits : Nat)
    (text : List α) :
    [separator].intercalate (splitAtMost separator splits text) = text := by
  induction splits generalizing text with
  | zero =>
      simp [splitAtMost]
  | succ splits inductionHypothesis =>
      rw [splitAtMost]
      split
      · rename_i present
        rw [List.intercalate_cons_of_ne_nil (splitAtMost_ne_nil _ _ _),
          inductionHypothesis, List.append_assoc]
        exact (split_first present).symm
      · simp

/-- No field but the last has a separator. -/
theorem not_mem_of_mem_dropLast
    {separator : α}
    {splits : Nat}
    {text field : List α}
    (member :
      field ∈ (splitAtMost separator splits text).dropLast) :
    separator ∉ field := by
  induction splits generalizing text with
  | zero =>
      simp [splitAtMost] at member
  | succ splits inductionHypothesis =>
      rw [splitAtMost] at member
      split at member
      · rw [List.dropLast_cons_of_ne_nil (splitAtMost_ne_nil _ _ _)]
          at member
        rcases List.mem_cons.mp member with rfl | inRest
        · intro inField
          have differs :=
            List.all_eq_true.mp List.all_takeWhile separator inField
          simp at differs
        · exact inductionHypothesis inRest
      · simp at member

omit [DecidableEq α] in
/-- What is in a text of fields is a separator or is in a field. -/
theorem mem_intercalate
    {separator item : α}
    {fields : List (List α)}
    (member : item ∈ [separator].intercalate fields) :
    item = separator ∨ ∃ field ∈ fields, item ∈ field := by
  induction fields with
  | nil =>
      cases member
  | cons field rest inductionHypothesis =>
      cases rest with
      | nil =>
          rw [List.intercalate_singleton] at member
          exact .inr ⟨field, by simp, member⟩
      | cons next rest =>
          rw [List.intercalate_cons_cons, List.append_assoc] at member
          rcases List.mem_append.mp member with inField | inRest
          · exact .inr ⟨field, by simp, inField⟩
          · rcases List.mem_append.mp inRest with first | inOthers
            · exact .inl (List.mem_singleton.mp first)
            · rcases inductionHypothesis inOthers with same | inner
              · exact .inl same
              · obtain ⟨found, among, inFound⟩ := inner
                exact .inr ⟨found, List.mem_cons_of_mem _ among, inFound⟩

end Delimited
