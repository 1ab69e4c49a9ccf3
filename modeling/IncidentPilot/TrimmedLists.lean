import Mathlib.Algebra.Order.BigOperators.Group.List
import IncidentPilot.UntrustedContext

/-!
# What the trimming loop leaves

The loop drops the first entry of the longest list, of those with equal lengths
from the one with the greatest key.  So it levels the lists: an entry of one is
dropped only when all others are cut to its level.  The text gets no longer with
any of the dropped entries but the first, whose number has yet to be noted, and
what is left of a list follows from the levels that fit.
-/

namespace IncidentPilot

/-- A list cut to its last entries; how many depends on its key. -/
def keepLast (kept : String → Nat) : String × Json → String × Json
  | (key, .array items) => (key, .array (lastEntries (kept key) items))
  | field => field

/-- The fields with the number of omitted entries, if there are any. -/
def noted
    (omitted : Nat)
    (fields : List (String × Json)) : List (String × Json) :=
  if omitted = 0 then
    fields
  else
    setItem "omitted_items" (.int omitted) fields

/--
The state of the loop when only the last entries of its lists are left, and some
entries had been omitted before.
-/
def cutFrom
    (before : Nat)
    (start : List (String × Json))
    (kept : String → Nat) : Trimming :=
  let left := start.map (keepLast kept)
  let omitted := before + (entries start - entries left)
  { fields := noted omitted left
    omitted := omitted }

/-- A number of entries for the keys up to one, and one less for the others. -/
def level (count : Nat) (key other : String) : Nat :=
  if other ≤ key then count else count - 1

/-- The number of omitted entries overwrites no entries. -/
def Unnoted (start : List (String × Json)) : Prop :=
  ∀ items, ("omitted_items", Json.array items) ∈ start → items = []

/-- The keys after one is set. -/
theorem map_fst_setItem
    (key : String)
    (value : Json)
    (fields : List (String × Json)) :
    (setItem key value fields).map Prod.fst =
      if key ∈ fields.map Prod.fst then
        fields.map Prod.fst
      else
        fields.map Prod.fst ++ [key] := by
  induction fields with
  | nil =>
      simp [setItem]
  | cons field rest inductionHypothesis =>
      obtain ⟨name, old⟩ := field
      by_cases same : name = key
      · simp [setItem, same]
      · have other : key ≠ name := fun equal => same equal.symm
        simp only [setItem, same, if_false, List.map_cons,
          inductionHypothesis, List.mem_cons, other, false_or]
        split <;> rfl

/-- Setting a key twice leaves the second value. -/
theorem setItem_setItem
    (key : String)
    (first second : Json)
    (fields : List (String × Json)) :
    setItem key second (setItem key first fields) =
      setItem key second fields := by
  induction fields with
  | nil =>
      simp [setItem]
  | cons field rest inductionHypothesis =>
      obtain ⟨name, old⟩ := field
      by_cases same : name = key <;>
        simp [setItem, same, inductionHypothesis]

/-- A change of fields that leaves their keys, and the field that was set. -/
theorem map_setItem
    {change : String × Json → String × Json}
    {key : String}
    {value : Json}
    (keys : ∀ field, (change field).1 = field.1)
    (unchanged : change (key, value) = (key, value))
    (fields : List (String × Json)) :
    (setItem key value fields).map change =
      setItem key value (fields.map change) := by
  induction fields with
  | nil =>
      simp [setItem, unchanged]
  | cons field rest inductionHypothesis =>
      obtain ⟨name, old⟩ := field
      have shape :
          change (name, old) = (name, (change (name, old)).2) :=
        Prod.ext (keys (name, old)) rfl
      by_cases same : name = key
      · rw [List.map_cons, shape]
        simp [setItem, same, unchanged]
      · rw [List.map_cons, shape]
        simp [setItem, same, inductionHypothesis, ← shape]

/-- A field after one was set. -/
theorem mem_setItem
    {key name : String}
    {value other : Json}
    {fields : List (String × Json)}
    (distinct : (fields.map Prod.fst).Nodup) :
    (name, other) ∈ setItem key value fields ↔
      (name = key ∧ other = value) ∨
        (name ≠ key ∧ (name, other) ∈ fields) := by
  induction fields with
  | nil =>
      simp [setItem]
  | cons field rest inductionHypothesis =>
      obtain ⟨first, old⟩ := field
      simp only [List.map_cons, List.nodup_cons] at distinct
      by_cases same : first = key
      · subst same
        have absent : name = first → (name, other) ∉ rest := by
          rintro rfl member
          exact distinct.1 (List.mem_map_of_mem member)
        simp only [setItem, if_true, List.mem_cons, Prod.mk.injEq]
        grind
      · simp only [setItem, same, if_false, List.mem_cons,
          inductionHypothesis distinct.2, Prod.mk.injEq]
        grind

/-- Dropping entries leaves the keys. -/
@[simp] theorem withoutFirst_key
    (dropped : String → Nat)
    (field : String × Json) :
    (withoutFirst dropped field).1 = field.1 := by
  obtain ⟨key, value⟩ := field
  cases value <;> rfl

/-- Keeping the last entries leaves the keys. -/
@[simp] theorem keepLast_key
    (kept : String → Nat)
    (field : String × Json) :
    (keepLast kept field).1 = field.1 := by
  obtain ⟨key, value⟩ := field
  cases value <;> rfl

/-- Keeping the last entries leaves the keys of all fields. -/
@[simp] theorem fst_comp_keepLast (kept : String → Nat) :
    Prod.fst ∘ keepLast kept = Prod.fst :=
  funext fun field => keepLast_key kept field

/-- As many of the last entries as there are, or as are kept. -/
theorem length_lastEntries (count : Nat) (items : List Json) :
    (lastEntries count items).length = min count items.length := by
  simp [lastEntries]
  omega

/-- All entries are among the last. -/
theorem lastEntries_of_le
    {count : Nat}
    {items : List Json}
    (all : items.length ≤ count) :
    lastEntries count items = items := by
  simp [lastEntries, Nat.sub_eq_zero_of_le all]

/-- The last of the last entries. -/
theorem lastEntries_lastEntries
    {fewer count : Nat}
    {items : List Json}
    (le : fewer ≤ count) :
    lastEntries fewer (lastEntries count items) =
      lastEntries fewer items := by
  simp only [lastEntries, List.length_drop, List.drop_drop]
  congr 1
  omega

/-- Without another field of its key, no list loses an entry. -/
theorem map_withoutFirst_absent
    {key : String}
    {fields : List (String × Json)}
    (absent : key ∉ fields.map Prod.fst) :
    fields.map (withoutFirst (oneOf key)) = fields := by
  refine (List.map_congr_left fun field member => ?_).trans (List.map_id _)
  obtain ⟨name, value⟩ := field
  have other : name ≠ key := by
    rintro rfl
    exact absent (List.mem_map_of_mem member)
  cases value <;> simp [withoutFirst, oneOf, other]

/-- Among fields of different keys, one list loses one entry. -/
theorem entries_withoutFirst_one
    {key : String}
    {items : List Json}
    {fields : List (String × Json)}
    (distinct : (fields.map Prod.fst).Nodup)
    (member : (key, Json.array items) ∈ fields)
    (nonempty : items ≠ []) :
    entries (fields.map (withoutFirst (oneOf key))) + 1 =
      entries fields := by
  induction fields with
  | nil =>
      cases member
  | cons field rest inductionHypothesis =>
      simp only [List.map_cons, List.nodup_cons] at distinct
      rcases List.mem_cons.mp member with rfl | later
      · have positive := List.length_pos_iff.mpr nonempty
        simp only [entries, List.map_cons, List.sum_cons,
          map_withoutFirst_absent distinct.1]
        simp [withoutFirst, oneOf, fieldEntries]
        omega
      · have other : field.1 ≠ key := by
          rintro rfl
          exact distinct.1 (List.mem_map.mpr ⟨_, later, rfl⟩)
        have same : withoutFirst (oneOf key) field = field := by
          obtain ⟨name, value⟩ := field
          cases value <;> simp_all [withoutFirst, oneOf]
        have rest := inductionHypothesis distinct.2 later
        simp only [entries, List.map_cons, List.sum_cons, same]
          at rest ⊢
        omega

/-- Keeping the last entries leaves no more of them. -/
theorem entries_keepLast_le
    (kept : String → Nat)
    (start : List (String × Json)) :
    entries (start.map (keepLast kept)) ≤ entries start := by
  rw [entries, entries, List.map_map]
  refine List.sum_le_sum fun field _ => ?_
  obtain ⟨key, value⟩ := field
  cases value <;>
    simp [keepLast, fieldEntries, length_lastEntries]

/-- No more entries of a list are kept than it has. -/
def Within
    (start : List (String × Json))
    (kept : String → Nat) : Prop :=
  ∀ key items, (key, Json.array items) ∈ start → kept key ≤ items.length

/-- One entry less of one list is kept. -/
def dropOne (kept : String → Nat) (key : String) : String → Nat :=
  fun name => kept name - oneOf key name

/-- The first of the last entries of a list is dropped. -/
theorem withoutFirst_keepLast
    {start : List (String × Json)}
    {kept : String → Nat}
    {key : String}
    (within : Within start kept)
    (some : 0 < kept key) :
    (start.map (keepLast kept)).map (withoutFirst (oneOf key)) =
      start.map (keepLast (dropOne kept key)) := by
  rw [List.map_map]
  refine List.map_congr_left fun field member => ?_
  obtain ⟨name, value⟩ := field
  cases value with
  | array items =>
      have le := within name items member
      simp only [Function.comp, keepLast, withoutFirst, lastEntries,
        List.drop_drop, dropOne, oneOf]
      congr 3
      split
      · rename_i same
        subst same
        omega
      · omega
  | _ => rfl

/-- The note is no list, and its key comes once. -/
theorem mem_noted
    {omitted : Nat}
    {key : String}
    {items : List Json}
    {fields : List (String × Json)}
    (distinct : (fields.map Prod.fst).Nodup)
    (unnoted : Unnoted fields)
    (nonempty : items ≠ []) :
    (key, Json.array items) ∈ noted omitted fields ↔
      (key, Json.array items) ∈ fields := by
  unfold noted
  split
  · rfl
  · rw [mem_setItem distinct]
    constructor
    · rintro (⟨-, noArray⟩ | ⟨-, member⟩)
      · cases noArray
      · exact member
    · intro member
      refine .inr ⟨?_, member⟩
      rintro rfl
      exact nonempty (unnoted items member)

/-- What is left of a list. -/
theorem mem_map_keepLast
    {start : List (String × Json)}
    {kept : String → Nat}
    {key : String}
    {left : List Json} :
    (key, Json.array left) ∈ start.map (keepLast kept) ↔
      ∃ items, (key, Json.array items) ∈ start ∧
        left = lastEntries (kept key) items := by
  simp only [List.mem_map]
  constructor
  · rintro ⟨⟨name, value⟩, member, same⟩
    cases value with
    | array items =>
        cases same
        exact ⟨items, member, rfl⟩
    | _ => cases same
  · rintro ⟨items, member, rfl⟩
    exact ⟨_, member, rfl⟩

/-- When entries are omitted, their number is noted. -/
theorem cutFrom_fields
    {before : Nat}
    {start : List (String × Json)}
    {kept : String → Nat}
    (omits : (cutFrom before start kept).omitted ≠ 0) :
    (cutFrom before start kept).fields =
      setItem "omitted_items" (.int (cutFrom before start kept).omitted)
        (start.map (keepLast kept)) :=
  if_neg omits

/-- Without entries there is no list under the key of the note. -/
theorem Unnoted.keepLast
    {start : List (String × Json)}
    (unnoted : Unnoted start)
    (kept : String → Nat) :
    Unnoted (start.map (keepLast kept)) := by
  intro left member
  obtain ⟨items, isStart, rfl⟩ := mem_map_keepLast.mp member
  simp [unnoted items isStart, lastEntries]

/-- The lists of a state of the loop. -/
theorem mem_cutFrom
    {before : Nat}
    {start : List (String × Json)}
    {kept : String → Nat}
    {key : String}
    {left : List Json}
    (distinct : (start.map Prod.fst).Nodup)
    (unnoted : Unnoted start)
    (nonempty : left ≠ []) :
    (key, Json.array left) ∈ (cutFrom before start kept).fields ↔
      ∃ items, (key, Json.array items) ∈ start ∧
        left = lastEntries (kept key) items := by
  rw [← mem_map_keepLast]
  exact
    mem_noted (by simpa using distinct) (unnoted.keepLast kept) nonempty

/-- A round notes one more omitted entry. -/
theorem setItem_noted
    (omitted : Nat)
    (key : String)
    (fields : List (String × Json)) :
    setItem "omitted_items" (.int (omitted + 1 : Nat))
        ((noted omitted fields).map (withoutFirst (oneOf key))) =
      noted (omitted + 1) (fields.map (withoutFirst (oneOf key))) := by
  unfold noted
  by_cases none : omitted = 0
  · simp [none]
  · rw [if_neg none, if_neg (Nat.succ_ne_zero omitted),
      map_setItem (withoutFirst_key _) rfl, setItem_setItem]

/--
A round drops an entry of the list that is greatest by its length and its key.
-/
theorem trimRound_cutFrom
    {dumps : Json → String}
    {limit before : Nat}
    {start : List (String × Json)}
    {kept : String → Nat}
    {next : Trimming}
    (distinct : (start.map Prod.fst).Nodup)
    (unnoted : Unnoted start)
    (within : Within start kept)
    (round : trimRound dumps limit (cutFrom before start kept) = some next) :
    ∃ key items, (key, Json.array items) ∈ start ∧ 0 < kept key ∧
      (∀ other others, (other, Json.array others) ∈ start →
        toLex (kept other, other) ≤ toLex (kept key, key)) ∧
      next = cutFrom before start (dropOne kept key) := by
  obtain ⟨-, key, left, isLeft, nonempty, longest, rfl⟩ :=
    trimRound_some round
  obtain ⟨items, isStart, rfl⟩ :=
    (mem_cutFrom distinct unnoted nonempty).mp isLeft
  have length :
      ∀ {name named}, (name, Json.array named) ∈ start →
        (lastEntries (kept name) named).length = kept name := by
    intro name named member
    rw [length_lastEntries, Nat.min_eq_left (within name named member)]
  have positive : 0 < kept key :=
    length isStart ▸ List.length_pos_iff.mpr nonempty
  refine ⟨key, items, isStart, positive, ?_, ?_⟩
  · intro other others isOther
    by_cases empty : kept other = 0
    · exact Prod.Lex.le_iff.mpr (.inl (empty ▸ positive))
    · have some : lastEntries (kept other) others ≠ [] := by
        refine List.ne_nil_of_length_pos ?_
        rw [length isOther]
        exact Nat.pos_of_ne_zero empty
      have listed :=
        longest _
          (mem_entryLists.mpr
            ⟨_, (mem_cutFrom distinct unnoted some).mpr
              ⟨others, isOther, rfl⟩, some, rfl⟩)
      rwa [length isOther, length isStart] at listed
  · have one :
        entries (start.map (keepLast (dropOne kept key))) + 1 =
          entries (start.map (keepLast kept)) := by
      rw [← withoutFirst_keepLast within positive]
      exact
        entries_withoutFirst_one (by simpa using distinct)
          (mem_map_keepLast.mpr ⟨items, isStart, rfl⟩) nonempty
    have most := entries_keepLast_le kept start
    have omitted :
        before +
              (entries start -
                entries (start.map (keepLast (dropOne kept key)))) =
          before +
              (entries start - entries (start.map (keepLast kept))) +
            1 := by
      omega
    simp only [cutFrom, omitted, setItem_noted,
      withoutFirst_keepLast within positive]

/-- Fewer entries of every list are kept, if not all of its entries are. -/
def KeepsFewer
    (start : List (String × Json))
    (fewer kept : String → Nat) : Prop :=
  ∀ key items, (key, Json.array items) ∈ start →
    fewer key ≤ kept key ∨ items.length ≤ kept key

section Text

variable {repr : Rat → List Char}

/-- The characters of some fields, without what is between them. -/
def fieldsLength
    (repr : Rat → List Char)
    (fields : List (String × Json)) : Nat :=
  (fields.map fun field => (Json.fieldText repr field).length).sum

/-- The length of a dictionary, by its fields. -/
theorem length_dumps_object (fields : List (String × Json)) :
    (Json.dumps repr (.object fields)).length =
      2 + fieldsLength repr fields + 2 * (fields.length - 1) := by
  rw [Json.length_dumps, Json.length_object]
  rfl

/-- A list is shorter by at least its entries that are not kept. -/
theorem length_fieldText_lastEntries
    (floats : ∀ value, repr value ≠ [])
    (key : String)
    {fewer count : Nat}
    {items : List Json}
    (less : fewer ≤ count ∨ items.length ≤ count) :
    (Json.fieldText repr (key, .array (lastEntries fewer items))).length +
        (lastEntries count items).length ≤
      (Json.fieldText repr
            (key, .array (lastEntries count items))).length +
        (lastEntries fewer items).length := by
  have dropped :
      lastEntries fewer items =
        (lastEntries count items).drop
          (min count items.length - fewer) := by
    simp only [lastEntries, List.drop_drop]
    congr 1
    omega
  have shorter :=
    Json.length_array_drop floats
      (show min count items.length - fewer ≤
          (lastEntries count items).length by
        rw [length_lastEntries]
        omega)
  rw [← dropped] at shorter
  simp only [Json.fieldText, List.length_append] at shorter ⊢
  rw [length_lastEntries, length_lastEntries]
  omega

/-- Fields of lists with fewer entries are shorter by at least these. -/
theorem length_fieldText_keepLast
    (floats : ∀ value, repr value ≠ [])
    {start : List (String × Json)}
    {fewer kept : String → Nat}
    {field : String × Json}
    (less : KeepsFewer start fewer kept)
    (member : field ∈ start) :
    (Json.fieldText repr (keepLast fewer field)).length +
        fieldEntries (keepLast kept field) ≤
      (Json.fieldText repr (keepLast kept field)).length +
        fieldEntries (keepLast fewer field) := by
  obtain ⟨key, value⟩ := field
  cases value with
  | array items =>
      exact
        length_fieldText_lastEntries floats key (less key items member)
  | _ => exact Nat.le_refl _

/-- Of a part of the fields fewer entries are kept, too. -/
theorem KeepsFewer.tail
    {fewer kept : String → Nat}
    {field : String × Json}
    {rest : List (String × Json)}
    (less : KeepsFewer (field :: rest) fewer kept) :
    KeepsFewer rest fewer kept :=
  fun key items member => less key items (List.mem_cons_of_mem _ member)

/-- All fields are shorter by at least the entries that are not kept. -/
theorem fieldsLength_keepLast
    (floats : ∀ value, repr value ≠ [])
    {start : List (String × Json)}
    {fewer kept : String → Nat}
    (less : KeepsFewer start fewer kept) :
    fieldsLength repr (start.map (keepLast fewer)) +
        entries (start.map (keepLast kept)) ≤
      fieldsLength repr (start.map (keepLast kept)) +
        entries (start.map (keepLast fewer)) := by
  induction start with
  | nil =>
      exact Nat.le_refl _
  | cons field rest inductionHypothesis =>
      have first :=
        length_fieldText_keepLast floats less List.mem_cons_self
      have later := inductionHypothesis less.tail
      simp only [fieldsLength, entries, List.map_cons, List.sum_cons]
        at later ⊢
      omega

/-- The field under the key of the note has no entries. -/
theorem fieldEntries_keepLast_note
    {start : List (String × Json)}
    {kept : String → Nat}
    {field : String × Json}
    (unnoted : Unnoted start)
    (member : field ∈ start)
    (same : field.1 = "omitted_items") :
    fieldEntries (keepLast kept field) = 0 := by
  obtain ⟨key, value⟩ := field
  cases value with
  | array items =>
      cases same
      simp [unnoted items member, keepLast, fieldEntries, lastEntries]
  | _ => rfl

/-- The note does not change by how much the fields are shorter. -/
theorem fieldsLength_setItem_keepLast
    (floats : ∀ value, repr value ≠ [])
    (note : Json)
    {start : List (String × Json)}
    {fewer kept : String → Nat}
    (unnoted : Unnoted start)
    (less : KeepsFewer start fewer kept) :
    fieldsLength repr
          (setItem "omitted_items" note (start.map (keepLast fewer))) +
        entries (start.map (keepLast kept)) ≤
      fieldsLength repr
          (setItem "omitted_items" note (start.map (keepLast kept))) +
        entries (start.map (keepLast fewer)) := by
  induction start with
  | nil =>
      exact Nat.le_refl _
  | cons field rest inductionHypothesis =>
      have unnotedRest : Unnoted rest := fun items member =>
        unnoted items (List.mem_cons_of_mem _ member)
      have first :=
        length_fieldText_keepLast floats less List.mem_cons_self
      have later := inductionHypothesis unnotedRest less.tail
      have rest := fieldsLength_keepLast floats less.tail
      have shape :
          ∀ kept, keepLast kept field =
            (field.1, (keepLast kept field).2) :=
        fun kept => Prod.ext (keepLast_key kept field) rfl
      rw [List.map_cons, List.map_cons, shape fewer, shape kept]
      by_cases same : field.1 = "omitted_items"
      · have none : ∀ kept, fieldEntries (keepLast kept field) = 0 :=
          fun kept =>
            fieldEntries_keepLast_note unnoted List.mem_cons_self same
        simp only [setItem, same, if_true, fieldsLength, entries,
          List.map_cons, List.sum_cons] at rest ⊢
        rw [← same, ← shape fewer, ← shape kept, none, none]
        omega
      · simp only [setItem, same, if_false, fieldsLength, entries,
          List.map_cons, List.sum_cons] at later ⊢
        rw [← shape fewer, ← shape kept]
        omega

/-- A larger number of omitted entries is written with more digits. -/
theorem fieldsLength_setItem_add
    (key : String)
    (number more : Nat)
    (fields : List (String × Json)) :
    fieldsLength repr (setItem key (.int (number + more : Nat)) fields) ≤
      fieldsLength repr (setItem key (.int number) fields) + more := by
  have longer := @Json.length_natural_add repr number more
  induction fields with
  | nil =>
      simp only [setItem, fieldsLength, Json.fieldText, List.map_cons,
        List.map_nil, List.sum_cons, List.sum_nil, List.length_append]
      omega
  | cons field rest inductionHypothesis =>
      obtain ⟨name, old⟩ := field
      by_cases same : name = key
      · simp only [setItem, same, if_true, fieldsLength, Json.fieldText,
          List.map_cons, List.sum_cons, List.length_append]
        omega
      · simp only [setItem, same, if_false, fieldsLength, List.map_cons,
          List.sum_cons] at inductionHypothesis ⊢
        omega

/-- Setting a key adds as many fields, whatever the values are. -/
theorem length_setItem_keepLast
    (key : String)
    (first second : Json)
    (fewer kept : String → Nat)
    (start : List (String × Json)) :
    (setItem key first (start.map (keepLast fewer))).length =
      (setItem key second (start.map (keepLast kept))).length := by
  have keys :
      (setItem key first (start.map (keepLast fewer))).map Prod.fst =
        (setItem key second (start.map (keepLast kept))).map Prod.fst := by
    simp only [map_fst_setItem, List.map_map, fst_comp_keepLast]
  simpa using congrArg List.length keys

/-- Fewer entries of lists that are kept. -/
theorem entries_keepLast_fewer
    {start : List (String × Json)}
    {fewer kept : String → Nat}
    (less : KeepsFewer start fewer kept) :
    entries (start.map (keepLast fewer)) ≤
      entries (start.map (keepLast kept)) := by
  rw [entries, entries, List.map_map, List.map_map]
  refine List.sum_le_sum fun field member => ?_
  obtain ⟨key, value⟩ := field
  cases value with
  | array items =>
      have one := less key items member
      simp only [Function.comp, keepLast, fieldEntries,
        length_lastEntries]
      omega
  | _ => exact Nat.le_refl _

/-- Once entries are omitted, the text gets no longer with fewer of them. -/
theorem length_cutFrom_le
    (floats : ∀ value, repr value ≠ [])
    {before : Nat}
    {start : List (String × Json)}
    {fewer kept : String → Nat}
    (unnoted : Unnoted start)
    (less : KeepsFewer start fewer kept)
    (omits : (cutFrom before start kept).omitted ≠ 0) :
    (Json.dumps repr (.object (cutFrom before start fewer).fields)).length ≤
      (Json.dumps repr
        (.object (cutFrom before start kept).fields)).length := by
  have most := entries_keepLast_le kept start
  have less' := entries_keepLast_fewer less
  obtain ⟨more, isMore⟩ :
      ∃ more, entries (start.map (keepLast kept)) =
        entries (start.map (keepLast fewer)) + more :=
    Nat.exists_eq_add_of_le less'
  have omitted :
      (cutFrom before start fewer).omitted =
        (cutFrom before start kept).omitted + more := by
    simp only [cutFrom]
    omega
  have shorter :=
    fieldsLength_setItem_keepLast floats
      (.int (cutFrom before start kept).omitted) unnoted less
  have digits :=
    @fieldsLength_setItem_add repr "omitted_items"
      (cutFrom before start kept).omitted more
      (start.map (keepLast fewer))
  have omitsFewer : (cutFrom before start fewer).omitted ≠ 0 := by
    omega
  rw [cutFrom_fields omits, cutFrom_fields omitsFewer,
    length_dumps_object, length_dumps_object,
    length_setItem_keepLast _ _
      (.int (cutFrom before start kept).omitted) fewer kept, omitted]
  omega

end Text

/-- A list that is cut to its entries is as it was. -/
theorem keepLast_of_fieldEntries
    {kept : String → Nat}
    {field : String × Json}
    (same : fieldEntries field ≤ fieldEntries (keepLast kept field)) :
    keepLast kept field = field := by
  obtain ⟨key, value⟩ := field
  cases value with
  | array items =>
      simp only [keepLast, fieldEntries, length_lastEntries] at same ⊢
      rw [lastEntries_of_le (Nat.le_trans same (Nat.min_le_left _ _))]
  | _ => rfl

/-- If no entries are missing, then the lists are as they were. -/
theorem map_keepLast_of_entries
    {kept : String → Nat}
    {start : List (String × Json)}
    (same : entries start ≤ entries (start.map (keepLast kept))) :
    start.map (keepLast kept) = start := by
  induction start with
  | nil =>
      rfl
  | cons field rest inductionHypothesis =>
      have first := entries_keepLast_le kept [field]
      have later := entries_keepLast_le kept rest
      simp only [entries, List.map_cons, List.map_nil, List.sum_cons,
        List.sum_nil] at same first later inductionHypothesis ⊢
      rw [keepLast_of_fieldEntries (by omega),
        inductionHypothesis (by omega)]

/-- As long as nothing is omitted, the fields are as they were. -/
theorem cutFrom_of_omitted_eq_zero
    {before : Nat}
    {start : List (String × Json)}
    {kept : String → Nat}
    (none : (cutFrom before start kept).omitted = 0) :
    before = 0 ∧ (cutFrom before start kept).fields = start := by
  simp only [cutFrom] at none ⊢
  refine ⟨by omega, ?_⟩
  rw [none, noted, if_pos rfl]
  exact map_keepLast_of_entries (by omega)

/-- Lists that are all below a level keep fewer entries than it. -/
theorem keepsFewer_level
    {start : List (String × Json)}
    {kept : String → Nat}
    {count : Nat}
    {key : String}
    (below :
      ∀ other others, (other, Json.array others) ∈ start →
        toLex (kept other, other) ≤ toLex (count, key)) :
    KeepsFewer start kept (level count key) := by
  intro other others isOther
  refine .inl ?_
  rcases Prod.Lex.le_iff.mp (below other others isOther) with
    less | ⟨same, first⟩
  · simp only [ofLex_toLex] at less
    unfold level
    split <;> omega
  · simp only [ofLex_toLex] at same first
    rw [level, if_pos first]
    exact Nat.le_of_eq same

/--
What the rounds so far have left: no list is above the level that an entry was
dropped from last, and an entry is dropped only if its level does not fit.
-/
structure Levelled
    (dumps : Json → String)
    (limit before : Nat)
    (start : List (String × Json))
    (kept : String → Nat) : Prop where
  within : Within start kept
  below :
    ∀ key items, (key, Json.array items) ∈ start →
      kept key < items.length →
      ∀ other others, (other, Json.array others) ∈ start →
        toLex (kept other, other) ≤ toLex (kept key + 1, key)
  tooLong :
    ∀ key items count, (key, Json.array items) ∈ start →
      kept key < count → count ≤ items.length →
      ¬ Fits dumps limit (cutFrom before start (level count key)).fields

/-- A level that a list has kept keeps fewer entries of all lists. -/
theorem Levelled.keepsFewer
    {dumps : Json → String}
    {limit before count : Nat}
    {start : List (String × Json)}
    {kept : String → Nat}
    {key : String}
    {items : List Json}
    (levelled : Levelled dumps limit before start kept)
    (member : (key, Json.array items) ∈ start)
    (some : count ≤ kept key) :
    KeepsFewer start (level count key) kept := by
  intro other others isOther
  by_cases cut : kept other < others.length
  · refine .inl ?_
    rcases Prod.Lex.le_iff.mp
        (levelled.below other others isOther cut key items member) with
      less | ⟨same, first⟩
    · simp only [ofLex_toLex] at less
      unfold level
      split <;> omega
    · simp only [ofLex_toLex] at same first
      by_cases isKey : other = key
      · subst isKey
        omega
      · have greater : ¬ other ≤ key := fun le =>
          isKey (le_antisymm le first)
        rw [level, if_neg greater]
        omega
  · exact .inr (Nat.le_of_not_lt cut)

/-- A round keeps the lists levelled. -/
theorem Levelled.round
    {repr : Rat → List Char}
    (floats : ∀ value, repr value ≠ [])
    {limit before : Nat}
    {start : List (String × Json)}
    {kept : String → Nat}
    {next : Trimming}
    (distinct : (start.map Prod.fst).Nodup)
    (unnoted : Unnoted start)
    (whole : before = 0 → ¬ Fits (Json.dumps repr) limit start)
    (levelled : Levelled (Json.dumps repr) limit before start kept)
    (round :
      trimRound (Json.dumps repr) limit (cutFrom before start kept) =
        some next) :
    ∃ fewer, next = cutFrom before start fewer ∧
      Levelled (Json.dumps repr) limit before start fewer := by
  have tooLong := (trimRound_some round).1
  obtain ⟨key, items, isStart, positive, greatest, rfl⟩ :=
    trimRound_cutFrom distinct unnoted levelled.within round
  have dropped : ∀ name, dropOne kept key name ≤ kept name :=
    fun name => Nat.sub_le _ _
  have one : dropOne kept key key + 1 = kept key := by
    simp only [dropOne, oneOf, if_true]
    omega
  have others :
      ∀ name, name ≠ key → dropOne kept key name = kept name := by
    intro name other
    simp [dropOne, oneOf, other]
  have least :
      ∀ name, toLex (dropOne kept key name, name) ≤
        toLex (kept name, name) := by
    intro name
    rcases Nat.lt_or_eq_of_le (dropped name) with less | same
    · exact Prod.Lex.le_iff.mpr (.inl less)
    · rw [same]
  refine ⟨_, rfl, ?_, ?_, ?_⟩
  · intro name named member
    exact Nat.le_trans (dropped name) (levelled.within name named member)
  · intro name named member cut other otherItems isOther
    by_cases same : name = key
    · subst same
      rw [one]
      exact (least other).trans (greatest other otherItems isOther)
    · rw [others name same] at cut ⊢
      exact
        (least other).trans
          (levelled.below name named member cut other otherItems isOther)
  · intro name named count member less most
    by_cases before' : kept name < count
    · exact levelled.tooLong name named count member before' most
    · -- The entry that this round drops is the last one of its level.
      have same : name = key := by
        by_contra other
        rw [others name other] at less
        exact before' less
      subst same
      have isCount : count = kept name := by omega
      subst isCount
      intro fits
      by_cases none :
          (cutFrom before start (level (kept name) name)).omitted = 0
      · obtain ⟨first, fields⟩ := cutFrom_of_omitted_eq_zero none
        exact whole first (fields ▸ fits)
      · have longer :=
          length_cutFrom_le floats unnoted (keepsFewer_level greatest) none
        exact
          Nat.not_le.mpr tooLong (Nat.le_trans longer fits)

/-- Among fields of different keys, a key tells the length of its list. -/
theorem exists_length
    {start : List (String × Json)}
    (distinct : (start.map Prod.fst).Nodup) :
    ∃ full : String → Nat,
      ∀ key items, (key, Json.array items) ∈ start →
        full key = items.length := by
  refine
    ⟨fun key =>
      entries (start.filter fun field => field.1 = key), ?_⟩
  intro key items member
  induction start with
  | nil =>
      cases member
  | cons field rest inductionHypothesis =>
      simp only [List.map_cons, List.nodup_cons] at distinct
      rcases List.mem_cons.mp member with rfl | later
      · have absent :
            (rest.filter fun field => field.1 = key) = [] := by
          refine List.filter_eq_nil_iff.mpr fun other isOther same => ?_
          refine distinct.1 (List.mem_map.mpr ⟨other, isOther, ?_⟩)
          simpa using same
        simp [absent, entries, fieldEntries]
      · have other : field.1 ≠ key := by
          rintro rfl
          exact distinct.1 (List.mem_map.mpr ⟨_, later, rfl⟩)
        simpa [other] using inductionHypothesis distinct.2 later

/-- Before the first round all entries are kept. -/
theorem Levelled.initial
    (dumps : Json → String)
    (limit before : Nat)
    {start : List (String × Json)}
    {full : String → Nat}
    (isFull :
      ∀ key items, (key, Json.array items) ∈ start →
        full key = items.length) :
    (⟨noted before start, before⟩ : Trimming) =
        cutFrom before start full ∧
      Levelled dumps limit before start full := by
  have whole : start.map (keepLast full) = start := by
    refine
      (List.map_congr_left fun field member => ?_).trans (List.map_id _)
    obtain ⟨key, value⟩ := field
    cases value with
    | array items =>
        simp only [keepLast, id]
        rw [lastEntries_of_le (Nat.le_of_eq (isFull key items member).symm)]
    | _ => rfl
  refine ⟨by simp [cutFrom, whole], ?_, ?_, ?_⟩
  · intro key items member
    exact Nat.le_of_eq (isFull key items member)
  · intro key items member cut
    exact absurd (isFull key items member) (Nat.ne_of_lt cut)
  · intro key items count member less most
    exact
      absurd (Nat.lt_of_lt_of_le less most)
        (Nat.not_lt.mpr (Nat.le_of_eq (isFull key items member).symm))

/-- Every round of a run keeps the lists levelled. -/
theorem levelled_run
    {repr : Rat → List Char}
    (floats : ∀ value, repr value ≠ [])
    {limit before : Nat}
    {start : List (String × Json)}
    {trimming : Trimming}
    (distinct : (start.map Prod.fst).Nodup)
    (unnoted : Unnoted start)
    (run :
      Relation.ReflTransGen (TrimRound (Json.dumps repr) limit)
        ⟨noted before start, before⟩ trimming) :
    ∃ kept, trimming = cutFrom before start kept ∧
      Levelled (Json.dumps repr) limit before start kept := by
  induction run with
  | refl =>
      obtain ⟨full, isFull⟩ := exists_length distinct
      exact ⟨full, Levelled.initial _ limit before isFull⟩
  | tail earlier round inductionHypothesis =>
      obtain ⟨kept, rfl, levelled⟩ := inductionHypothesis
      have tooLong := (trimRound_some round).1
      refine levelled.round floats distinct unnoted ?_ round
      rintro rfl fits
      have same :=
        @Fits.untrimmed _ limit ⟨noted 0 start, 0⟩ _ fits earlier
      rw [same] at tooLong
      exact absurd fits (Nat.not_le.mpr tooLong)

/-- When the loop is over, the text fits, or no list has entries left. -/
theorem trimRound_none
    {dumps : Json → String}
    {limit : Nat}
    {trimming : Trimming}
    (ended : trimRound dumps limit trimming = none) :
    Fits dumps limit trimming.fields ∨ entryLists trimming.fields = [] := by
  unfold trimRound at ended
  split at ended
  · exact .inl ‹_›
  · exact .inr (by simpa using ended)

/--
How many entries the loop leaves of a list when it ends with a text that fits:
as many as make a level that fits.
-/
theorem trim_kept
    {repr : Rat → List Char}
    (floats : ∀ value, repr value ≠ [])
    {limit : Nat}
    {start : List (String × Json)}
    (distinct : (start.map Prod.fst).Nodup)
    (unnoted : Unnoted start)
    (tooLong : ¬ Fits (Json.dumps repr) limit start)
    (fits :
      Fits (Json.dumps repr) limit
        (trim (Json.dumps repr) limit ⟨start, 0⟩).fields) :
    ∃ kept,
      trim (Json.dumps repr) limit ⟨start, 0⟩ = cutFrom 0 start kept ∧
        Within start kept ∧
        ∀ key items count, (key, Json.array items) ∈ start →
          count ≤ items.length →
            (count ≤ kept key ↔
              Fits (Json.dumps repr) limit
                (cutFrom 0 start (level count key)).fields) := by
  obtain ⟨run, -⟩ := trim_ends (Json.dumps repr) limit ⟨start, 0⟩
  generalize trim (Json.dumps repr) limit ⟨start, 0⟩ = final
    at run fits ⊢
  obtain ⟨kept, rfl, levelled⟩ :=
    @levelled_run repr floats limit 0 start final distinct unnoted run
  refine ⟨kept, rfl, levelled.within, ?_⟩
  intro key items count member most
  constructor
  · intro some
    have omits : (cutFrom 0 start kept).omitted ≠ 0 := by
      intro none
      rw [(cutFrom_of_omitted_eq_zero none).2] at fits
      exact tooLong fits
    exact
      Nat.le_trans
        (length_cutFrom_le floats unnoted
          (levelled.keepsFewer member some) omits)
        fits
  · intro levelFits
    by_contra less
    exact
      levelled.tooLong key items count member (Nat.not_le.mp less) most
        levelFits

/--
The number of rounds until no list has an entry left.  The first one overwrites
a list under the key of the note, which does not count unless it is the longest.
-/
def roundsToEmpty (start : List (String × Json)) : Nat :=
  entries (start.filter fun field => field.1 ≠ "omitted_items") +
    if (entryLists start).max?.map (fun longest => (ofLex longest).2) =
        some "omitted_items" then
      1
    else
      0

/-- What is left when no list has an entry left. -/
def emptied (start : List (String × Json)) : List (String × Json) :=
  noted (roundsToEmpty start) (start.map (keepLast fun _ => 0))

/-- Fields without a list that has entries are empty already. -/
theorem emptied_of_entryLists
    {start : List (String × Json)}
    (none : entryLists start = []) :
    emptied start = start := by
  have empty :
      ∀ key items, (key, Json.array items) ∈ start → items = [] := by
    intro key items member
    by_contra nonempty
    have listed :=
      mem_entryLists.mpr ⟨items, member, nonempty, rfl⟩
    rw [none] at listed
    cases listed
  have zero :
      entries (start.filter fun field => field.1 ≠ "omitted_items") =
        0 := by
    refine List.sum_eq_zero fun count isCount => ?_
    obtain ⟨⟨key, value⟩, member, rfl⟩ := List.mem_map.mp isCount
    cases value with
    | array items =>
        simp [fieldEntries, empty key items (List.mem_filter.mp member).1]
    | _ => rfl
  have whole : start.map (keepLast fun _ => 0) = start := by
    refine
      (List.map_congr_left fun field member => ?_).trans (List.map_id _)
    obtain ⟨key, value⟩ := field
    cases value with
    | array items =>
        simp [keepLast, empty key items member, lastEntries]
    | _ => rfl
  rw [emptied, roundsToEmpty, zero, none, whole]
  rfl

/-- A note counts as no entries, and what it overwrites is not counted. -/
theorem entries_setItem_note
    {key : String}
    {number : Int}
    {fields : List (String × Json)}
    (distinct : (fields.map Prod.fst).Nodup) :
    entries (setItem key (.int number) fields) =
      entries (fields.filter fun field => field.1 ≠ key) := by
  induction fields with
  | nil =>
      rfl
  | cons field rest inductionHypothesis =>
      obtain ⟨name, old⟩ := field
      simp only [List.map_cons, List.nodup_cons] at distinct
      by_cases same : name = key
      · have others :
            (rest.filter fun field => field.1 ≠ key) = rest := by
          refine List.filter_eq_self.mpr fun other isOther => ?_
          have distinctKey : other.1 ≠ key := by
            rintro rfl
            exact distinct.1 (same ▸ List.mem_map_of_mem isOther)
          simpa using distinctKey
        rw [List.filter_cons_of_neg (by simp [same]), others]
        simp [setItem, same, entries, fieldEntries]
      · have later := inductionHypothesis distinct.2
        simp only [setItem, same, if_false, entries, List.map_cons,
          List.sum_cons] at later ⊢
        simp [same, later]

/-- No entry is left of any list. -/
theorem entries_keepLast_zero (start : List (String × Json)) :
    entries (start.map (keepLast fun _ => 0)) = 0 := by
  refine List.sum_eq_zero fun count isCount => ?_
  obtain ⟨field, member, rfl⟩ := List.mem_map.mp isCount
  obtain ⟨⟨key, value⟩, -, rfl⟩ := List.mem_map.mp member
  cases value <;> simp [keepLast, fieldEntries, length_lastEntries]

/-- The fields after the first round. -/
def firstRound
    (longest : Nat ×ₗ String)
    (start : List (String × Json)) : List (String × Json) :=
  setItem "omitted_items" (.int (1 : Nat))
    (start.map (withoutFirst (oneOf (ofLex longest).2)))

/-- The first round is one of those in which all lists are emptied. -/
theorem roundsToEmpty_firstRound
    {start : List (String × Json)}
    {longest : Nat ×ₗ String}
    (distinct : (start.map Prod.fst).Nodup)
    (isLongest : (entryLists start).max? = some longest) :
    1 + entries (firstRound longest start) = roundsToEmpty start := by
  unfold firstRound
  set key := (ofLex longest).2 with isKey
  have distinctDropped :
      ((start.map (withoutFirst (oneOf key))).map Prod.fst).Nodup := by
    simpa [Function.comp_def] using distinct
  have filtered :
      (start.map (withoutFirst (oneOf key))).filter
          (fun field => field.1 ≠ "omitted_items") =
        (start.filter fun field => field.1 ≠ "omitted_items").map
          (withoutFirst (oneOf key)) := by
    simp [List.filter_map, Function.comp_def]
  rw [entries_setItem_note distinctDropped, filtered, roundsToEmpty,
    isLongest, Option.map_some, ← isKey]
  by_cases note : key = "omitted_items"
  · have absent :
        key ∉
          (start.filter fun field =>
            field.1 ≠ "omitted_items").map Prod.fst := by
      simp [note]
    rw [map_withoutFirst_absent absent, note, if_pos rfl, Nat.add_comm]
  · obtain ⟨items, member, nonempty, -⟩ :=
      mem_entryLists.mp
        (show toLex (ofLex longest) ∈ entryLists start from
          (List.max?_eq_some_iff.mp isLongest).1)
    have counted :
        (key, Json.array items) ∈
          start.filter fun field => field.1 ≠ "omitted_items" :=
      List.mem_filter.mpr ⟨member, decide_eq_true note⟩
    have one :=
      entries_withoutFirst_one
        (distinct.sublist (List.filter_sublist.map Prod.fst)) counted
        nonempty
    have other : ¬ some key = some "omitted_items" := by
      simpa using note
    rw [if_neg other, ← one]
    omega

/-- After the first round, emptying leaves what it would have left before. -/
theorem emptied_firstRound
    {start : List (String × Json)}
    {longest : Nat ×ₗ String}
    (distinct : (start.map Prod.fst).Nodup)
    (isLongest : (entryLists start).max? = some longest) :
    (cutFrom 1 (firstRound longest start) fun _ => 0).fields =
      emptied start := by
  have rounds := roundsToEmpty_firstRound distinct isLongest
  unfold firstRound at rounds ⊢
  set key := (ofLex longest).2
  have dropped :
      (start.map (withoutFirst (oneOf key))).map (keepLast fun _ => 0) =
        start.map (keepLast fun _ => 0) := by
    rw [List.map_map]
    refine List.map_congr_left fun field _ => ?_
    obtain ⟨name, value⟩ := field
    cases value with
    | array items =>
        simp [withoutFirst, keepLast, lastEntries]
        omega
    | _ => rfl
  have kept :
      (setItem "omitted_items" (.int (1 : Nat))
          (start.map (withoutFirst (oneOf key)))).map
          (keepLast fun _ => 0) =
        setItem "omitted_items" (.int (1 : Nat))
          (start.map (keepLast fun _ => 0)) := by
    rw [map_setItem (keepLast_key _) rfl, dropped]
  have positive : roundsToEmpty start ≠ 0 := by omega
  have nothing :
      entries
          (setItem "omitted_items" (.int (1 : Nat))
            (start.map (keepLast fun _ => 0))) =
        0 :=
    Nat.le_zero.mp
      ((entries_setItem_le _ _ _).trans_eq (entries_keepLast_zero start))
  simp only [cutFrom, kept, nothing, Nat.sub_zero, rounds]
  rw [emptied, noted, noted, if_neg positive, if_neg positive,
    setItem_setItem]

/-- Setting a key leaves the keys different. -/
theorem nodup_setItem
    {key : String}
    {value : Json}
    {fields : List (String × Json)}
    (distinct : (fields.map Prod.fst).Nodup) :
    ((setItem key value fields).map Prod.fst).Nodup := by
  rw [map_fst_setItem]
  split
  · exact distinct
  · rename_i absent
    refine List.nodup_append.mpr ⟨distinct, List.nodup_singleton _, ?_⟩
    intro name member other isKey
    rw [List.mem_singleton.mp isKey]
    rintro rfl
    exact absent member

/-- The note overwrites a list under its key. -/
theorem unnoted_setItem
    {number : Int}
    {fields : List (String × Json)}
    (distinct : (fields.map Prod.fst).Nodup) :
    Unnoted (setItem "omitted_items" (.int number) fields) := by
  intro items member
  rcases (mem_setItem distinct).mp member with
    ⟨-, noArray⟩ | ⟨other, -⟩
  · cases noArray
  · exact absurd rfl other

/-- After a round the number of omitted entries is noted. -/
theorem noted_run
    {dumps : Json → String}
    {limit : Nat}
    {start : List (String × Json)}
    {trimming : Trimming}
    (distinct : (start.map Prod.fst).Nodup)
    (run :
      Relation.ReflTransGen (TrimRound dumps limit) ⟨start, 0⟩ trimming) :
    (trimming.fields.map Prod.fst).Nodup ∧
      (trimming = ⟨start, 0⟩ ∨
        (Unnoted trimming.fields ∧
          "omitted_items" ∈ trimming.fields.map Prod.fst)) := by
  induction run with
  | refl =>
      exact ⟨distinct, .inl rfl⟩
  | @tail earlier next _ round inductionHypothesis =>
      obtain ⟨-, key, -, -, -, -, rfl⟩ := trimRound_some round
      have dropped :
          ((earlier.fields.map (withoutFirst (oneOf key))).map
            Prod.fst).Nodup := by
        simpa [Function.comp_def] using inductionHypothesis.1
      refine ⟨nodup_setItem dropped, .inr ⟨unnoted_setItem dropped, ?_⟩⟩
      rw [map_fst_setItem]
      split
      · assumption
      · simp

/-- When no list of a state has entries left, all are dropped. -/
theorem cutFrom_of_entryLists
    {before : Nat}
    {start : List (String × Json)}
    {kept : String → Nat}
    (distinct : (start.map Prod.fst).Nodup)
    (unnoted : Unnoted start)
    (none : entryLists (cutFrom before start kept).fields = []) :
    cutFrom before start kept = cutFrom before start fun _ => 0 := by
  have same :
      start.map (keepLast kept) = start.map (keepLast fun _ => 0) := by
    refine List.map_congr_left fun field member => ?_
    obtain ⟨key, value⟩ := field
    cases value with
    | array items =>
        have nothing : lastEntries (kept key) items = [] := by
          by_contra nonempty
          have isLeft :
              (key, Json.array (lastEntries (kept key) items)) ∈
                (cutFrom before start kept).fields :=
            (mem_cutFrom distinct unnoted nonempty).mpr
              ⟨items, member, rfl⟩
          have listed :=
            mem_entryLists.mpr ⟨_, isLeft, nonempty, rfl⟩
          rw [none] at listed
          cases listed
        simp only [keepLast, nothing]
        simp [lastEntries]
    | _ => rfl
  simp only [cutFrom, same]

/-- The text that the loop ends with fits if some text on the way can. -/
theorem fits_trim_iff
    {repr : Rat → List Char}
    (floats : ∀ value, repr value ≠ [])
    {limit : Nat}
    {start : List (String × Json)}
    (distinct : (start.map Prod.fst).Nodup) :
    Fits (Json.dumps repr) limit
        (trim (Json.dumps repr) limit ⟨start, 0⟩).fields ↔
      Fits (Json.dumps repr) limit start ∨
        Fits (Json.dumps repr) limit (emptied start) := by
  obtain ⟨run, ended⟩ := trim_ends (Json.dumps repr) limit ⟨start, 0⟩
  generalize trim (Json.dumps repr) limit ⟨start, 0⟩ = final
    at run ended ⊢
  rcases run.cases_head with rfl | ⟨next, first, later⟩
  · constructor
    · exact .inl
    · rintro (fits | fits)
      · exact fits
      · rcases trimRound_none ended with fitsStart | none
        · exact fitsStart
        · rwa [emptied_of_entryLists none] at fits
  · have tooLong : ¬ Fits (Json.dumps repr) limit start :=
      Nat.not_le.mpr (trimRound_some first).1
    rw [or_iff_right tooLong]
    obtain ⟨longest, isLongest, rfl⟩ :
        ∃ longest, (entryLists start).max? = some longest ∧
          ⟨firstRound longest start, 1⟩ = next := by
      simpa [TrimRound, trimRound, tooLong, firstRound] using first
    have distinctDropped :
        ((start.map (withoutFirst (oneOf (ofLex longest).2))).map
          Prod.fst).Nodup := by
      simpa [Function.comp_def] using distinct
    have distinctFirst :
        ((firstRound longest start).map Prod.fst).Nodup :=
      nodup_setItem distinctDropped
    have unnoted : Unnoted (firstRound longest start) :=
      unnoted_setItem distinctDropped
    have isNoted :
        noted 1 (firstRound longest start) = firstRound longest start :=
      setItem_setItem _ _ _ _
    rw [← isNoted] at later
    obtain ⟨kept, rfl, levelled⟩ :=
      levelled_run floats distinctFirst unnoted later
    rw [← emptied_firstRound distinct isLongest]
    have fewer :
        KeepsFewer (firstRound longest start) (fun _ => 0) kept :=
      fun _ _ _ => .inl (Nat.zero_le _)
    have omits :
        (cutFrom 1 (firstRound longest start) kept).omitted ≠ 0 :=
      Nat.ne_of_gt (Nat.add_pos_left Nat.one_pos _)
    constructor
    · intro fits
      exact
        Nat.le_trans (length_cutFrom_le floats unnoted fewer omits) fits
    · intro fits
      rcases trimRound_none ended with fitsFinal | none
      · exact fitsFinal
      · rwa [cutFrom_of_entryLists distinctFirst unnoted none]

end IncidentPilot
