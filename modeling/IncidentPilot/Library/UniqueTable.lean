import Mathlib.Data.List.Pairwise

/-!
# Tables under unique constraints

A table is a list of rows no two of which conflict, where the conflict relation
stands for the unique indexes of the table.  A query whose matches all conflict
with each other has at most one answer, inserting a conflicting row fails, and
rows once inserted stay unless an update rewrites them.
-/

/-- Rows in insertion order, no two of which conflict. -/
structure UniqueTable (Row : Type u) (conflicts : Row → Row → Bool) where
  rows : List Row
  unique : rows.Pairwise fun first second => conflicts first second = false

namespace UniqueTable

variable {Row : Type u} {conflicts : Row → Row → Bool}

instance : Membership Row (UniqueTable Row conflicts) where
  mem table row := row ∈ table.rows

@[simp] theorem mem_rows
    {table : UniqueTable Row conflicts}
    {row : Row} :
    row ∈ table.rows ↔ row ∈ table :=
  Iff.rfl

/-- The table without rows. -/
def empty : UniqueTable Row conflicts :=
  ⟨[], .nil⟩

@[simp] theorem not_mem_empty (row : Row) :
    row ∉ (empty : UniqueTable Row conflicts) :=
  List.not_mem_nil

/-- The first row a query matches. -/
def find
    (table : UniqueTable Row conflicts)
    (query : Row → Bool) : Option Row :=
  table.rows.find? query

/-- A found row is in the table and matches. -/
theorem find_some
    {table : UniqueTable Row conflicts}
    {query : Row → Bool}
    {row : Row}
    (found : table.find query = some row) :
    row ∈ table ∧ query row = true :=
  ⟨List.mem_of_find?_eq_some found, List.find?_some found⟩

/-- A query whose matches conflict finds the only row that matches it. -/
theorem find_eq_some_iff
    {table : UniqueTable Row conflicts}
    {query : Row → Bool}
    {row : Row}
    (exclusive :
      ∀ {first second},
        query first = true →
        query second = true →
        conflicts first second = true) :
    table.find query = some row ↔ row ∈ table ∧ query row = true := by
  refine ⟨find_some, ?_⟩
  rintro ⟨member, wanted⟩
  obtain ⟨rows, unique⟩ := table
  change row ∈ rows at member
  change rows.find? query = some row
  induction rows with
  | nil =>
      simp at member
  | cons head rest inductionHypothesis =>
      obtain ⟨apart, restUnique⟩ := List.pairwise_cons.mp unique
      cases headMatches : query head with
      | true =>
          rcases List.mem_cons.mp member with isHead | inRest
          · subst isHead
            exact List.find?_cons_of_pos wanted
          · have clash := exclusive headMatches wanted
            rw [apart row inRest] at clash
            cases clash
      | false =>
          rw [List.find?_cons_of_neg (by simp [headMatches])]
          apply inductionHypothesis restUnique
          rcases List.mem_cons.mp member with isHead | inRest
          · rw [isHead, headMatches] at wanted
            cases wanted
          · exact inRest

/-- `INSERT`, which fails when a row of the table conflicts. -/
def insert
    (table : UniqueTable Row conflicts)
    (row : Row) : Option (UniqueTable Row conflicts) :=
  if free : ∀ existing ∈ table.rows, conflicts existing row = false then
    some
      ⟨table.rows ++ [row],
        List.pairwise_append.mpr
          ⟨table.unique, List.pairwise_singleton _ _, by simpa using free⟩⟩
  else
    none

/-- An insertion that succeeds appends its row. -/
theorem insert_rows
    {before after : UniqueTable Row conflicts}
    {row : Row}
    (inserted : before.insert row = some after) :
    after.rows = before.rows ++ [row] := by
  unfold insert at inserted
  split at inserted
  · cases inserted
    rfl
  · cases inserted

/-- An insertion that succeeds adds exactly its row. -/
theorem mem_insert
    {before after : UniqueTable Row conflicts}
    {row : Row}
    (inserted : before.insert row = some after)
    (other : Row) :
    other ∈ after ↔ other ∈ before ∨ other = row := by
  unfold insert at inserted
  split at inserted
  · cases inserted
    change other ∈ before.rows ++ [row] ↔ _
    simp
  · cases inserted

/-- An insertion that succeeds met no conflicting row. -/
theorem insert_free
    {before after : UniqueTable Row conflicts}
    {row existing : Row}
    (inserted : before.insert row = some after)
    (member : existing ∈ before) :
    conflicts existing row = false := by
  unfold insert at inserted
  split at inserted
  · rename_i free
    exact free existing member
  · cases inserted

/-- An insertion that fails conflicts with a row of the table. -/
theorem insert_conflicts
    {table : UniqueTable Row conflicts}
    {row : Row}
    (failed : table.insert row = none) :
    ∃ existing, existing ∈ table ∧ conflicts existing row = true := by
  unfold insert at failed
  split at failed
  · cases failed
  · rename_i taken
    obtain ⟨existing, taken⟩ := Classical.not_forall.mp taken
    obtain ⟨member, clash⟩ := Classical.not_imp.mp taken
    exact ⟨existing, member, eq_true_of_ne_false clash⟩

/-- The rows of one table are all rows of another. -/
def Extends (earlier later : UniqueTable Row conflicts) : Prop :=
  ∀ row, row ∈ earlier → row ∈ later

namespace Extends

/-- A table extends itself. -/
theorem refl (table : UniqueTable Row conflicts) :
    Extends table table :=
  fun _ member => member

/-- Extension is transitive. -/
theorem trans
    {first second third : UniqueTable Row conflicts}
    (left : Extends first second)
    (right : Extends second third) :
    Extends first third :=
  fun row member => right row (left row member)

/-- What a query with exclusive matches found, it finds in every extension. -/
theorem find
    {earlier later : UniqueTable Row conflicts}
    {query : Row → Bool}
    {row : Row}
    (grows : Extends earlier later)
    (exclusive :
      ∀ {first second},
        query first = true →
        query second = true →
        conflicts first second = true)
    (found : earlier.find query = some row) :
    later.find query = some row := by
  obtain ⟨member, wanted⟩ := find_some found
  exact (find_eq_some_iff exclusive).mpr ⟨grows row member, wanted⟩

end Extends

/-- Inserting extends. -/
theorem insert_extends
    {before after : UniqueTable Row conflicts}
    {row : Row}
    (inserted : before.insert row = some after) :
    before.Extends after :=
  fun other member => (mem_insert inserted other).mpr (.inl member)

/-- `INSERT` of several rows, all or none. -/
def insertAll
    (table : UniqueTable Row conflicts) :
    List Row → Option (UniqueTable Row conflicts)
  | [] => some table
  | row :: rest => (table.insert row).bind fun next => next.insertAll rest

/-- Inserting several rows adds exactly them. -/
theorem mem_insertAll
    {before after : UniqueTable Row conflicts}
    {rows : List Row}
    (inserted : before.insertAll rows = some after)
    (other : Row) :
    other ∈ after ↔ other ∈ before ∨ other ∈ rows := by
  induction rows generalizing before with
  | nil =>
      simp only [insertAll, Option.some.injEq] at inserted
      simp [inserted]
  | cons row rest inductionHypothesis =>
      simp only [insertAll, Option.bind_eq_some_iff] at inserted
      obtain ⟨middle, first, remaining⟩ := inserted
      rw [inductionHypothesis remaining, mem_insert first,
        List.mem_cons, or_assoc]

/-- Inserting several rows extends. -/
theorem insertAll_extends
    {before after : UniqueTable Row conflicts}
    {rows : List Row}
    (inserted : before.insertAll rows = some after) :
    before.Extends after :=
  fun other member => (mem_insertAll inserted other).mpr (.inl member)

/-- The rows that the table holds no row with the same key for. -/
def missing
    (table : UniqueTable Row conflicts)
    (sameKey : Row → Row → Bool)
    (rows : List Row) : List Row :=
  rows.filter fun row =>
    table.rows.all fun existing => !sameKey existing row

/-- Every one of some rows has a row with the same key in the table. -/
def Covers
    (table : UniqueTable Row conflicts)
    (sameKey : Row → Row → Bool)
    (rows : List Row) : Prop :=
  ∀ row ∈ rows, ∃ existing, existing ∈ table ∧ sameKey existing row = true

/-- What is covered stays covered. -/
theorem Covers.extends
    {earlier later : UniqueTable Row conflicts}
    {sameKey : Row → Row → Bool}
    {rows : List Row}
    (covers : earlier.Covers sameKey rows)
    (grows : earlier.Extends later) :
    later.Covers sameKey rows := by
  intro row member
  obtain ⟨existing, inTable, same⟩ := covers row member
  exact ⟨existing, grows existing inTable, same⟩

/-- Of rows that are covered, none is missing. -/
theorem missing_of_covers
    {table : UniqueTable Row conflicts}
    {sameKey : Row → Row → Bool}
    {rows : List Row}
    (covers : table.Covers sameKey rows) :
    table.missing sameKey rows = [] := by
  refine List.filter_eq_nil_iff.mpr ?_
  intro row member all
  obtain ⟨existing, inTable, same⟩ := covers row member
  have different := List.all_eq_true.mp all existing inTable
  rw [same] at different
  cases different

/-- Rows are covered once those that are missing have been inserted. -/
theorem covers_of_insertAll_missing
    {before after : UniqueTable Row conflicts}
    {sameKey : Row → Row → Bool}
    {rows : List Row}
    (reflexive : ∀ row ∈ rows, sameKey row row = true)
    (inserted :
      before.insertAll (before.missing sameKey rows) = some after) :
    after.Covers sameKey rows := by
  intro row member
  by_cases absent :
      before.rows.all (fun existing => !sameKey existing row) = true
  · have isMissing : row ∈ before.missing sameKey rows :=
      List.mem_filter.mpr ⟨member, absent⟩
    exact
      ⟨row, (mem_insertAll inserted row).mpr (.inr isMissing),
        reflexive row member⟩
  · obtain ⟨existing, inTable, same⟩ :=
      List.all_eq_false.mp (Bool.eq_false_iff.mpr absent)
    refine ⟨existing, insertAll_extends inserted existing inTable, ?_⟩
    simpa using same

/-- `UPDATE` of the matching rows in columns outside the unique indexes. -/
def update
    (table : UniqueTable Row conflicts)
    (query : Row → Bool)
    (change : Row → Row)
    (keeps :
      ∀ first second,
        conflicts (change first) second = conflicts first second ∧
          conflicts second (change first) = conflicts second first) :
    UniqueTable Row conflicts where
  rows := table.rows.map fun row => if query row then change row else row
  unique := by
    refine List.pairwise_map.mpr (table.unique.imp ?_)
    intro first second apart
    split <;> split <;> simp [keeps, apart]

/-- The rows of an updated table. -/
theorem mem_update
    {table : UniqueTable Row conflicts}
    {query : Row → Bool}
    {change : Row → Row}
    {keeps :
      ∀ first second,
        conflicts (change first) second = conflicts first second ∧
          conflicts second (change first) = conflicts second first}
    {row : Row} :
    row ∈ table.update query change keeps ↔
      ∃ old, old ∈ table ∧ row = if query old then change old else old := by
  change row ∈ table.rows.map _ ↔ _
  rw [List.mem_map]
  constructor
  · rintro ⟨old, member, rfl⟩
    exact ⟨old, member, rfl⟩
  · rintro ⟨old, member, rfl⟩
    exact ⟨old, member, rfl⟩

/-- Updating the one row a query matches changes a count by that row. -/
theorem countP_update
    {table : UniqueTable Row conflicts}
    {query : Row → Bool}
    {change : Row → Row}
    (keeps :
      ∀ first second,
        conflicts (change first) second = conflicts first second ∧
          conflicts second (change first) = conflicts second first)
    {row : Row}
    (exclusive :
      ∀ {first second},
        query first = true →
        query second = true →
        conflicts first second = true)
    (found : table.find query = some row)
    (counted : Row → Bool) :
    (table.update query change keeps).rows.countP counted +
        (if counted row = true then 1 else 0) =
      table.rows.countP counted +
        if counted (change row) = true then 1 else 0 := by
  obtain ⟨rows, unique⟩ := table
  change rows.find? query = some row at found
  change
    (rows.map fun row => if query row then change row else row).countP
          counted + _ =
      rows.countP counted + _
  induction rows with
  | nil =>
      cases found
  | cons head rest inductionHypothesis =>
      obtain ⟨apart, restUnique⟩ := List.pairwise_cons.mp unique
      by_cases headMatches : query head = true
      · rw [List.find?_cons_of_pos headMatches] at found
        cases found
        have others :
            (rest.map fun row => if query row then change row else row) =
              rest := by
          have unmatched : ∀ other ∈ rest, query other = false := by
            intro other member
            rw [Bool.eq_false_iff]
            intro wanted
            have clash := exclusive headMatches wanted
            rw [apart other member] at clash
            cases clash
          calc
            (rest.map fun row => if query row then change row else row) =
                rest.map id :=
              List.map_congr_left fun other member => by
                simp [unmatched other member]
            _ = rest := List.map_id rest
        simp only [List.map_cons, others, List.countP_cons, headMatches,
          if_true]
        omega
      · rw [List.find?_cons_of_neg headMatches] at found
        have later := inductionHypothesis restUnique found
        simp only [List.map_cons, List.countP_cons, headMatches]
        simp only [Bool.false_eq_true, if_false]
        omega

/-- Two rows that conflict are one row. -/
theorem eq_of_conflict
    {table : UniqueTable Row conflicts}
    {first second : Row}
    (symmetric : ∀ left right, conflicts left right = conflicts right left)
    (firstMember : first ∈ table)
    (secondMember : second ∈ table)
    (clash : conflicts first second = true) :
    first = second := by
  obtain ⟨rows, unique⟩ := table
  change first ∈ rows at firstMember
  change second ∈ rows at secondMember
  by_cases same : first = second
  · exact same
  · have : Std.Symm fun left right => conflicts left right = false :=
      ⟨fun left right apart => by rw [symmetric, apart]⟩
    have apart : conflicts first second = false :=
      unique.forall firstMember secondMember same
    rw [apart] at clash
    cases clash

end UniqueTable
