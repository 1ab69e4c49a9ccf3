import IncidentPilot.TrimmedLists

/-!
# The newest entries of an envelope

Which lists of an object are shown with their newest entries: none if the object
becomes an excerpt, and otherwise those that redaction and bounding leave and
whose newest entry is on a level that fits.
-/

namespace IncidentPilot

/-- The fields that the trimming loop starts with. -/
def startFields
    (tools : JsonTools)
    (fields : List (String × Json)) : List (String × Json) :=
  (fields.take 40).map (shownField tools)

/-- The shown fields hold the newest entries of every list. -/
def ShowsNewest
    (tools : JsonTools)
    (fields shown : List (String × Json)) : Prop :=
  ∀ key items,
    (key, Json.array items) ∈ fields → items ≠ [] →
    ∃ suffix,
      (key, Json.array suffix) ∈ shown ∧ suffix ≠ [] ∧
        suffix <:+ items.map (shownEntry tools)

/-- The data became an excerpt, or shows the newest entries of every list. -/
def NewestShown
    (tools : JsonTools)
    (dumps : Json → String)
    (fields : List (String × Json)) : Prop :=
  (∃ excerpt,
      untrustedData tools dumps 24000 (.object fields) =
        truncatedForm excerpt) ∨
    ∃ shown,
      untrustedData tools dumps 24000 (.object fields) = .object shown ∧
        ShowsNewest tools fields shown

/-- The trimming loop ends. -/
def TrimmingEnds
    (tools : JsonTools)
    (dumps : Json → String)
    (fields : List (String × Json)) : Prop :=
  ∃ start final,
    bounded 0 (redact tools 0 (.object fields)) = .object start ∧
      Relation.ReflTransGen (TrimRound dumps 24000) ⟨start, 0⟩ final ∧
      trimRound dumps 24000 final = none

/--
The text is short enough as it is, or it is when the list with the key and those
before it are cut to some number of entries and the others to one less.
-/
def LevelFits
    (dumps : Json → String)
    (start : List (String × Json))
    (count : Nat)
    (key : String) : Prop :=
  Fits dumps 24000 start ∨
    Fits dumps 24000 (cutFrom 0 start (level count key)).fields

/--
The newest entry of a list is on a level that fits, neither hidden nor cut off,
and no level that fits begins or ends in the wrong place.
-/
structure NewestEntryFits
    (tools : JsonTools)
    (dumps : Json → String)
    (fields : List (String × Json))
    (key : String)
    (items : List Json) : Prop where
  among : (key, Json.array items) ∈ fields.take 40
  plain : ¬ hiddenKey key
  fits : LevelFits dumps (startFields tools fields) 1 key
  newest :
    ∀ count ≤ 20, LevelFits dumps (startFields tools fields) count key →
      lastEntries count (shownEntries tools items) <:+
        items.map (shownEntry tools)

/--
The object is too long even when it has no entries left, or the newest entries
of its lists fit and the note of the omitted ones overwrites none.
-/
def NewestEntriesFit
    (tools : JsonTools)
    (dumps : Json → String)
    (fields : List (String × Json)) : Prop :=
  (¬ Fits dumps 24000 (startFields tools fields) ∧
      ¬ Fits dumps 24000 (emptied (startFields tools fields))) ∨
    ((Fits dumps 24000 (startFields tools fields) ∨
        Unnoted (startFields tools fields)) ∧
      ∀ key items, (key, Json.array items) ∈ fields → items ≠ [] →
        NewestEntryFits tools dumps fields key items)

/-- Bounding and redaction leave lists, and make none. -/
theorem mem_startFields
    {tools : JsonTools}
    {fields : List (String × Json)}
    {key : String}
    {shown : List Json} :
    (key, Json.array shown) ∈ startFields tools fields ↔
      ∃ items, (key, Json.array items) ∈ fields.take 40 ∧
        ¬ hiddenKey key ∧ shown = shownEntries tools items := by
  simp only [startFields, List.mem_map]
  constructor
  · rintro ⟨⟨name, value⟩, member, same⟩
    simp only [shownField, Prod.mk.injEq] at same
    obtain ⟨rfl, same⟩ := same
    by_cases hidden : hiddenKey name
    · simp [hidden, bounded] at same
    · rw [if_neg hidden] at same
      cases value with
      | array items =>
          rw [bounded_redact_array] at same
          cases same
          exact ⟨items, member, hidden, rfl⟩
      | _ => simp [redact, bounded] at same
  · rintro ⟨items, member, plain, rfl⟩
    refine ⟨_, member, ?_⟩
    rw [shownField, if_neg plain, bounded_redact_array]

/-- The fields that the loop starts with have different keys. -/
theorem nodup_startFields
    (tools : JsonTools)
    {fields : List (String × Json)}
    (distinct : (fields.map Prod.fst).Nodup) :
    ((startFields tools fields).map Prod.fst).Nodup := by
  have keys :
      (startFields tools fields).map Prod.fst =
        (fields.take 40).map Prod.fst := by
    simp [startFields, shownField, Function.comp_def]
  rw [keys]
  exact distinct.sublist ((List.take_sublist 40 fields).map Prod.fst)

/-- The fields that the trimming loop leaves. -/
def trimmedFields
    (tools : JsonTools)
    (dumps : Json → String)
    (fields : List (String × Json)) : List (String × Json) :=
  (trim dumps 24000 ⟨startFields tools fields, 0⟩).fields

/-- What fits in the end is shown. -/
theorem untrustedData_of_fits
    {tools : JsonTools}
    {dumps : Json → String}
    {fields : List (String × Json)}
    (fits : Fits dumps 24000 (trimmedFields tools dumps fields)) :
    untrustedData tools dumps 24000 (.object fields) =
      .object (trimmedFields tools dumps fields) := by
  unfold untrustedData
  rw [bounded_redact_object]
  exact if_neg (Nat.not_lt.mpr fits)

/-- What does not fit in the end becomes an excerpt. -/
theorem untrustedData_of_not_fits
    {tools : JsonTools}
    {dumps : Json → String}
    {fields : List (String × Json)}
    (tooLong : ¬ Fits dumps 24000 (trimmedFields tools dumps fields)) :
    ∃ excerpt,
      untrustedData tools dumps 24000 (.object fields) =
        truncatedForm excerpt := by
  unfold untrustedData
  rw [bounded_redact_object]
  exact ⟨_, if_pos (Nat.not_le.mp tooLong)⟩

/-- The trimming loop ends. -/
theorem trimmingEnds
    (tools : JsonTools)
    (dumps : Json → String)
    (fields : List (String × Json)) :
    TrimmingEnds tools dumps fields :=
  ⟨_, _, bounded_redact_object tools fields, trim_ends dumps 24000 _⟩

/-- What is left is what the loop starts with, or a number is noted. -/
theorem noted_trimmedFields
    (tools : JsonTools)
    (dumps : Json → String)
    {fields : List (String × Json)}
    (distinct : (fields.map Prod.fst).Nodup) :
    trimmedFields tools dumps fields = startFields tools fields ∨
      (Unnoted (trimmedFields tools dumps fields) ∧
        "omitted_items" ∈
          (trimmedFields tools dumps fields).map Prod.fst) := by
  obtain ⟨run, -⟩ :=
    trim_ends dumps 24000 ⟨startFields tools fields, 0⟩
  obtain ⟨-, same | isNoted⟩ :=
    noted_run (nodup_startFields tools distinct) run
  · exact .inl (congrArg Trimming.fields same)
  · exact .inr isNoted

/-- What is left of the lists when the text fits in the end. -/
theorem mem_trimmedFields
    {tools : JsonTools}
    {repr : Rat → List Char}
    (floats : ∀ value, repr value ≠ [])
    {fields : List (String × Json)}
    (distinct : (fields.map Prod.fst).Nodup)
    (fits :
      Fits (Json.dumps repr) 24000
        (trimmedFields tools (Json.dumps repr) fields))
    (noted :
      Fits (Json.dumps repr) 24000 (startFields tools fields) ∨
        Unnoted (startFields tools fields)) :
    ∃ kept, Within (startFields tools fields) kept ∧
      (∀ key left, left ≠ [] →
        ((key, Json.array left) ∈
            trimmedFields tools (Json.dumps repr) fields ↔
          ∃ shown, (key, Json.array shown) ∈ startFields tools fields ∧
            left = lastEntries (kept key) shown)) ∧
      ∀ key shown count,
        (key, Json.array shown) ∈ startFields tools fields →
        count ≤ shown.length →
          (count ≤ kept key ↔
            LevelFits (Json.dumps repr) (startFields tools fields) count
              key) := by
  have distinctStart := nodup_startFields tools distinct
  unfold trimmedFields at fits ⊢
  by_cases short :
      Fits (Json.dumps repr) 24000 (startFields tools fields)
  · obtain ⟨full, isFull⟩ := exists_length distinctStart
    obtain ⟨run, -⟩ :=
      trim_ends (Json.dumps repr) 24000 ⟨startFields tools fields, 0⟩
    rw [@Fits.untrimmed _ _ ⟨startFields tools fields, 0⟩ _ short run]
    refine ⟨full, ?_, ?_, ?_⟩
    · intro key shown member
      exact Nat.le_of_eq (isFull key shown member)
    · intro key left _
      constructor
      · intro member
        refine ⟨left, member, ?_⟩
        rw [lastEntries_of_le (Nat.le_of_eq (isFull key left member).symm)]
      · rintro ⟨shown, member, rfl⟩
        rwa [lastEntries_of_le
          (Nat.le_of_eq (isFull key shown member).symm)]
    · intro key shown count member most
      exact iff_of_true (isFull key shown member ▸ most) (.inl short)
  · have unnoted := noted.resolve_left short
    obtain ⟨kept, same, within, levels⟩ :=
      trim_kept floats distinctStart unnoted short fits
    rw [same]
    refine ⟨kept, within, ?_, ?_⟩
    · intro key left nonempty
      exact mem_cutFrom distinctStart unnoted nonempty
    · intro key shown count member most
      rw [levels key shown count member most, LevelFits,
        or_iff_right short]

/-- An object that looks like an excerpt has no lists. -/
theorem showsNewest_of_truncatedForm
    {tools : JsonTools}
    {dumps : Json → String}
    {fields : List (String × Json)}
    {excerpt : String}
    (distinct : (fields.map Prod.fst).Nodup)
    (same :
      Json.object (trimmedFields tools dumps fields) =
        truncatedForm excerpt) :
    ShowsNewest tools fields (trimmedFields tools dumps fields) := by
  simp only [truncatedForm, Json.object.injEq] at same
  have start :
      startFields tools fields =
        [("truncated", .bool true), ("data_excerpt", .string excerpt)] := by
    rcases noted_trimmedFields tools dumps distinct with whole | isNoted
    · rw [← whole, same]
    · exact absurd isNoted.2 (by simp [same])
  have all : fields.take 40 = fields := by
    have two := congrArg List.length start
    simp only [startFields, List.length_map, List.length_take,
      List.length_cons, List.length_nil] at two
    exact List.take_of_length_le (by omega)
  intro key items member _
  have isStart : shownField tools (key, .array items) ∈
      startFields tools fields :=
    List.mem_map_of_mem (all.symm ▸ member)
  have excerptPlain : ¬ hiddenKey "data_excerpt" := by decide
  rw [start] at isStart
  simp only [shownField, List.mem_cons, Prod.mk.injEq, List.not_mem_nil,
    or_false] at isStart
  rcases isStart with ⟨rfl, isBool⟩ | ⟨rfl, isText⟩
  · split at isBool
    · simp [bounded] at isBool
    · simp [bounded_redact_array] at isBool
  · rw [if_neg excerptPlain, bounded_redact_array] at isText
    cases isText

/-- At most twenty entries of a list are shown. -/
theorem length_shownEntries (tools : JsonTools) (items : List Json) :
    (shownEntries tools items).length = min 20 items.length := by
  rw [shownEntries, length_lastEntries, List.length_map,
    List.length_take]
  omega

/-- The last entries of at most 200 entries are the newest. -/
theorem lastEntries_shownEntries
    (tools : JsonTools)
    (count : Nat)
    {items : List Json}
    (few : items.length ≤ 200) :
    lastEntries count (shownEntries tools items) <:+
      items.map (shownEntry tools) := by
  rw [shownEntries, List.take_of_length_le few]
  exact (List.drop_suffix _ _).trans (List.drop_suffix _ _)

/-- The newest entries of the lists that the note leaves are shown. -/
theorem showsNewest_iff
    {tools : JsonTools}
    {repr : Rat → List Char}
    (floats : ∀ value, repr value ≠ [])
    {fields : List (String × Json)}
    (distinct : (fields.map Prod.fst).Nodup)
    (fits :
      Fits (Json.dumps repr) 24000
        (trimmedFields tools (Json.dumps repr) fields))
    (noted :
      Fits (Json.dumps repr) 24000 (startFields tools fields) ∨
        Unnoted (startFields tools fields)) :
    ShowsNewest tools fields
        (trimmedFields tools (Json.dumps repr) fields) ↔
      ∀ key items, (key, Json.array items) ∈ fields → items ≠ [] →
        NewestEntryFits tools (Json.dumps repr) fields key items := by
  obtain ⟨kept, within, left, levels⟩ :=
    mem_trimmedFields floats distinct fits noted
  refine forall₄_congr fun key items member nonempty => ?_
  constructor
  · rintro ⟨suffix, isLeft, some, isSuffix⟩
    obtain ⟨shown, isShown, rfl⟩ := (left key suffix some).mp isLeft
    obtain ⟨others, among, plain, rfl⟩ := mem_startFields.mp isShown
    have same : others = items := by
      have one :=
        List.inj_on_of_nodup_map distinct (List.mem_of_mem_take among)
          member rfl
      cases one
      rfl
    subst same
    have positive := List.length_pos_iff.mpr some
    rw [length_lastEntries] at positive
    refine ⟨among, plain, ?_, ?_⟩
    · exact (levels key _ 1 isShown (by omega)).mp (by omega)
    · intro count few levelFits
      by_cases most : count ≤ (shownEntries tools others).length
      · have less := (levels key _ count isShown most).mpr levelFits
        rw [← lastEntries_lastEntries less]
        exact (List.drop_suffix _ _).trans isSuffix
      · rw [length_shownEntries] at most
        exact lastEntries_shownEntries tools count (by omega)
  · rintro ⟨among, plain, levelFits, newest⟩
    have isShown :
        (key, Json.array (shownEntries tools items)) ∈
          startFields tools fields :=
      mem_startFields.mpr ⟨items, among, plain, rfl⟩
    have positive := List.length_pos_iff.mpr nonempty
    have length := length_shownEntries tools items
    have one := (levels key _ 1 isShown (by omega)).mpr levelFits
    have most := within key _ isShown
    have some :
        lastEntries (kept key) (shownEntries tools items) ≠ [] := by
      refine List.ne_nil_of_length_pos ?_
      rw [length_lastEntries]
      omega
    refine ⟨_, (left key _ some).mpr ⟨_, isShown, rfl⟩, some, ?_⟩
    exact
      newest _ (by omega)
        ((levels key _ _ isShown most).mp (Nat.le_refl _))

/-- A list that the note overwrites is not shown. -/
theorem noted_of_showsNewest
    {tools : JsonTools}
    {dumps : Json → String}
    {fields : List (String × Json)}
    (distinct : (fields.map Prod.fst).Nodup)
    (fits : Fits dumps 24000 (trimmedFields tools dumps fields))
    (shows :
      ShowsNewest tools fields (trimmedFields tools dumps fields)) :
    Fits dumps 24000 (startFields tools fields) ∨
      Unnoted (startFields tools fields) := by
  rcases noted_trimmedFields tools dumps distinct with same | isNoted
  · exact .inl (same ▸ fits)
  · refine .inr fun shown isShown => ?_
    obtain ⟨items, among, -, rfl⟩ := mem_startFields.mp isShown
    by_contra some
    have nonempty : items ≠ [] := by
      rintro rfl
      exact some rfl
    obtain ⟨suffix, isLeft, entry, -⟩ :=
      shows _ items (List.mem_of_mem_take among) nonempty
    exact entry (isNoted.1 suffix isLeft)

/-- What fits in the end is shown, and no excerpt. -/
theorem newestShown_iff_showsNewest
    {tools : JsonTools}
    {dumps : Json → String}
    {fields : List (String × Json)}
    (distinct : (fields.map Prod.fst).Nodup)
    (fits : Fits dumps 24000 (trimmedFields tools dumps fields)) :
    NewestShown tools dumps fields ↔
      ShowsNewest tools fields (trimmedFields tools dumps fields) := by
  have data := untrustedData_of_fits fits
  constructor
  · rintro (⟨excerpt, same⟩ | ⟨others, same, shows⟩)
    · rw [data] at same
      exact showsNewest_of_truncatedForm distinct same
    · rw [data] at same
      cases same
      exact shows
  · exact fun shows => .inr ⟨_, data, shows⟩

/--
The trimming loop ends.  The data becomes an excerpt or shows the newest entries
of every list if and only if the object is too long even without entries, or
these entries fit, are neither hidden nor cut off, and are not overwritten.
-/
theorem newest_entries_shown_iff
    (tools : JsonTools)
    {repr : Rat → List Char}
    (floats : ∀ value, repr value ≠ [])
    {fields : List (String × Json)}
    (distinct : (fields.map Prod.fst).Nodup) :
    TrimmingEnds tools (Json.dumps repr) fields ∧
        NewestShown tools (Json.dumps repr) fields ↔
      NewestEntriesFit tools (Json.dumps repr) fields := by
  have ends := trimmingEnds tools (Json.dumps repr) fields
  have inTheEnd :=
    @fits_trim_iff repr floats 24000 _ (nodup_startFields tools distinct)
  rw [and_iff_right ends]
  by_cases fits :
      Fits (Json.dumps repr) 24000
        (trimmedFields tools (Json.dumps repr) fields)
  · have noExcerpt := inTheEnd.mp fits
    rw [newestShown_iff_showsNewest distinct fits]
    constructor
    · intro shows
      have noted := noted_of_showsNewest distinct fits shows
      have newest :=
        (showsNewest_iff floats distinct fits noted).mp shows
      exact .inr ⟨noted, newest⟩
    · rintro (⟨tooLong, tooLongEmpty⟩ | ⟨noted, newest⟩)
      · exact absurd noExcerpt (not_or.mpr ⟨tooLong, tooLongEmpty⟩)
      · exact (showsNewest_iff floats distinct fits noted).mpr newest
  · have tooLong := not_or.mp (mt inTheEnd.mpr fits)
    exact
      iff_of_true (.inl (untrustedData_of_not_fits fits)) (.inl tooLong)

/-- How a float is written, when none occurs. -/
def plainFloat (_ : Rat) : List Char :=
  "0.0".toList

/-- It is written with some character. -/
theorem plainFloat_ne_nil (value : Rat) : plainFloat value ≠ [] :=
  List.cons_ne_nil _ _

/-- `json.dumps`, when no float occurs. -/
def plainJson : Json → String :=
  Json.dumps plainFloat

/-- What fits, by the characters of its text. -/
theorem fits_plainJson
    {limit : Nat}
    {fields : List (String × Json)} :
    Fits plainJson limit fields ↔
      (Json.characters plainFloat (.object fields)).length ≤ limit := by
  rw [Fits, plainJson, Json.length_dumps]

/-- A text of zeros. -/
def zeros (count : Nat) : Json :=
  .string (String.ofList (List.replicate count '0'))

/-- No credential starts with a zero. -/
theorem inlineSecret_zero
    (tools : JsonTools)
    (rest : List Char) :
    inlineSecret tools ('0' :: rest) = none := by
  have other :
      ("bpats".toList.any fun letter => matchesCaseless letter '0') =
        false := by
    decide
  have scheme : schemeChar '0' = false := by decide
  simp_all [inlineSecret, bearerSecret, assignedSecret, afterSecretName,
    afterApiKey, afterWord, urlSecret]

/-- Zeros are not redacted. -/
theorem substituteFrom_zeros
    (tools : JsonTools)
    (count : Nat) :
    substituteFrom tools 0 (List.replicate count '0') =
      List.replicate count '0' := by
  induction count with
  | zero =>
      rfl
  | succ count inductionHypothesis =>
      rw [List.replicate_succ, substituteFrom, inlineSecret_zero]
      simp [inductionHypothesis]

/-- A text of zeros is shown as it is. -/
theorem bounded_redact_zeros
    (tools : JsonTools)
    {depth width : Nat}
    (shallow : depth ≤ 10)
    (few : width ≤ 4000) :
    bounded depth (redact tools depth (zeros width)) = zeros width := by
  rw [zeros, redact, if_neg (by omega), bounded, if_neg (by omega)]
  simp [redactInline, substituteFrom_zeros, few]

/-- An event of a log. -/
def logEvent (width : Nat) : Json :=
  .object [("message", zeros width)]

/-- An evidence item of `read_logs`. -/
def logItem (count width : Nat) : Json :=
  .object
    [("result",
      .object [("events", .array (List.replicate count (logEvent width)))])]

/-- A list of such items. -/
def logFields
    (key : String)
    (items count width : Nat) : List (String × Json) :=
  [(key, .array (List.replicate items (logItem count width)))]

/-- An event is shown as it is. -/
theorem bounded_redact_logEvent
    (tools : JsonTools)
    {width : Nat}
    (few : width ≤ 4000) :
    bounded 5 (redact tools 5 (logEvent width)) = logEvent width := by
  have plain : ¬ hiddenKey "message" := by decide
  rw [logEvent, redact, if_neg (by decide), bounded, if_neg (by decide)]
  simp [redactFields_eq_map, boundedFields_eq_map, plain,
    bounded_redact_zeros tools (show 6 ≤ 10 by decide) few]

/-- Of the events of an item, the last twenty are shown. -/
theorem shownEntry_logItem
    (tools : JsonTools)
    {count width : Nat}
    (many : count ≤ 200)
    (few : width ≤ 4000) :
    shownEntry tools (logItem count width) =
      logItem (min 20 count) width := by
  have events :
      bounded 4
          (redact tools 4
            (.array (List.replicate count (logEvent width)))) =
        .array (List.replicate (min 20 count) (logEvent width)) := by
    rw [redact, if_neg (by decide), bounded, if_neg (by decide)]
    simp [redactItems_eq_map, boundedItems_eq_map,
      bounded_redact_logEvent tools few, many]
    omega
  have result :
      bounded 3
          (redact tools 3
            (.object
              [("events",
                .array (List.replicate count (logEvent width)))])) =
        .object
          [("events",
            .array (List.replicate (min 20 count) (logEvent width)))] := by
    have plain : ¬ hiddenKey "events" := by decide
    rw [redact, if_neg (by decide), bounded, if_neg (by decide)]
    simp [redactFields_eq_map, boundedFields_eq_map, plain, events]
  have plain : ¬ hiddenKey "result" := by decide
  rw [shownEntry, logItem, redact, if_neg (by decide), bounded,
    if_neg (by decide)]
  simp [redactFields_eq_map, boundedFields_eq_map, plain, result, logItem]

/-- What the loop starts with. -/
theorem startFields_logFields
    (tools : JsonTools)
    {key : String}
    {items count width : Nat}
    (plain : ¬ hiddenKey key)
    (several : items ≤ 20)
    (many : count ≤ 200)
    (few : width ≤ 4000) :
    startFields tools (logFields key items count width) =
      logFields key items (min 20 count) width := by
  simp [startFields, logFields, shownField, plain, bounded_redact_array,
    shownEntries, shownEntry_logItem tools many few, lastEntries]
  omega

/-- The length of a text of zeros. -/
theorem length_zeros (width : Nat) :
    (Json.characters plainFloat (zeros width)).length = width + 2 := by
  have zero : Json.escaped '0' = ['0'] := by decide
  simp [zeros, Json.characters, Json.quotedText, zero]

/-- The length of an evidence item. -/
theorem length_logItem (count width : Nat) :
    (Json.characters plainFloat (logItem count width)).length =
      26 + count * (width + 15) + 2 * (count - 1) := by
  have message : (Json.quotedText "message").length = 9 := by
    decide +kernel
  have events : (Json.quotedText "events").length = 8 := by
    decide +kernel
  have result : (Json.quotedText "result").length = 8 := by
    decide +kernel
  simp [logItem, logEvent, Json.length_object, Json.length_array,
    Json.fieldText, length_zeros, message, events, result]
  rw [show 2 + (9 + (width + 2 + 1 + 1)) = width + 15 by omega]
  omega

/-- The length of a list of them. -/
theorem fits_logFields
    (key : String)
    (items count width : Nat) :
    Fits plainJson 24000 (logFields key items count width) ↔
      6 + (Json.quotedText key).length +
          items * (26 + count * (width + 15) + 2 * (count - 1)) +
          2 * (items - 1) ≤
        24000 := by
  rw [fits_plainJson]
  simp [logFields, Json.length_object, Json.length_array, Json.fieldText,
    length_logItem]
  omega

/-- The length of a list of them and a note. -/
theorem fits_logFields_noted
    (key : String)
    (items count width omitted : Nat) :
    Fits plainJson 24000
        (logFields key items count width ++
          [("omitted_items", .int omitted)]) ↔
      25 + (Json.quotedText key).length +
          items * (26 + count * (width + 15) + 2 * (count - 1)) +
          2 * (items - 1) + omitted.repr.length ≤
        24000 := by
  have note : (Json.quotedText "omitted_items").length = 15 := by
    decide +kernel
  have digits :
      (Json.characters plainFloat (.int omitted)).length =
        omitted.repr.length :=
    rfl
  rw [fits_plainJson]
  simp [logFields, Json.length_object, Json.length_array, Json.fieldText,
    length_logItem, note, digits]
  omega

/-- What is left of a list that is cut. -/
theorem cutFrom_logFields
    {key : String}
    {items count width : Nat}
    {kept : String → Nat}
    (other : key ≠ "omitted_items")
    (fewer : kept key < items) :
    (cutFrom 0 (logFields key items count width) kept).fields =
      logFields key (kept key) count width ++
        [("omitted_items", .int (items - kept key : Nat))] := by
  have left :
      (logFields key items count width).map (keepLast kept) =
        logFields key (kept key) count width := by
    simp [logFields, keepLast, lastEntries]
    omega
  have size :
      ∀ number, entries (logFields key number count width) = number := by
    simp [logFields, entries, fieldEntries]
  have some : items - kept key ≠ 0 := by omega
  simp only [cutFrom, left, size, Nat.zero_add]
  simp [noted, some, setItem, logFields, other]

/-- Of three items that do not fit, the newest ones are shown. -/
theorem newest_entries_shown_trimmed :
    ¬ Fits plainJson 24000
          (startFields sampleJsonTools
            (logFields "evidence" 3 10 1000)) ∧
      TrimmingEnds sampleJsonTools plainJson
          (logFields "evidence" 3 10 1000) ∧
        NewestShown sampleJsonTools plainJson
          (logFields "evidence" 3 10 1000) := by
  have key : (Json.quotedText "evidence").length = 10 := by
    decide +kernel
  have plain : ¬ hiddenKey "evidence" := by decide
  have start :
      startFields sampleJsonTools (logFields "evidence" 3 10 1000) =
        logFields "evidence" 3 10 1000 :=
    startFields_logFields sampleJsonTools plain (by decide) (by decide)
      (by decide)
  refine ⟨?_, ?_⟩
  · rw [start, fits_logFields, key]
    decide
  · refine
      (newest_entries_shown_iff sampleJsonTools plainFloat_ne_nil
        (by simp [logFields])).mpr
        (.inr ⟨.inr ?_, ?_⟩)
    · rw [start]
      simp [Unnoted, logFields]
    · intro name items member _
      simp only [logFields, List.mem_singleton, Prod.mk.injEq,
        Json.array.injEq] at member
      obtain ⟨rfl, rfl⟩ := member
      refine ⟨by simp [logFields], plain, .inr ?_, ?_⟩
      · rw [start, cutFrom_logFields (by decide) (by decide)]
        refine (fits_logFields_noted _ _ _ _ _).mpr ?_
        rw [key]
        decide
      · intro count _ _
        exact
          lastEntries_shownEntries sampleJsonTools count (by simp)

/-- An item of twenty long events does not fit. -/
theorem not_fits_logFields
    {key : String}
    (plain : ¬ hiddenKey key) :
    ¬ Fits plainJson 24000
      (startFields sampleJsonTools (logFields key 1 50 1200)) := by
  rw [startFields_logFields sampleJsonTools plain (by decide) (by decide)
    (by decide), fits_logFields]
  omega

/-- Without entries, the text of an item that does not fit is short. -/
theorem fits_trimmed_logFields
    {key : String}
    (plain : ¬ hiddenKey key)
    (fits :
      Fits plainJson 24000
        (setItem "omitted_items" (.int 1) [(key, .array [])])) :
    Fits plainJson 24000
      (trimmedFields sampleJsonTools plainJson
        (logFields key 1 50 1200)) := by
  have start :=
    startFields_logFields sampleJsonTools plain (show 1 ≤ 20 by decide)
      (show 50 ≤ 200 by decide) (show 1200 ≤ 4000 by decide)
  have empty :
      emptied (logFields key 1 20 1200) =
        setItem "omitted_items" (.int 1) [(key, .array [])] := by
    by_cases note : key = "omitted_items" <;>
      simp [emptied, roundsToEmpty, logFields, entryLists, entries,
        fieldEntries, keepLast, lastEntries, noted, note]
  refine
    (fits_trim_iff plainFloat_ne_nil
      (nodup_startFields sampleJsonTools (by simp [logFields]))).mpr
      (.inr ?_)
  rw [start]
  exact empty ▸ fits

/-- What fits from the start is not trimmed. -/
theorem trimmedFields_of_fits
    {tools : JsonTools}
    {dumps : Json → String}
    {fields : List (String × Json)}
    (fits : Fits dumps 24000 (startFields tools fields)) :
    trimmedFields tools dumps fields = startFields tools fields := by
  obtain ⟨run, -⟩ :=
    trim_ends dumps 24000 ⟨startFields tools fields, 0⟩
  exact
    congrArg Trimming.fields
      (@Fits.untrimmed _ _ ⟨startFields tools fields, 0⟩ _ fits run)

/-- What fits from the start shows the lists that it has. -/
theorem showsNewest_of_fits
    {tools : JsonTools}
    {dumps : Json → String}
    {fields : List (String × Json)}
    (distinct : (fields.map Prod.fst).Nodup)
    (fits : Fits dumps 24000 (startFields tools fields))
    (shown : NewestShown tools dumps fields) :
    ShowsNewest tools fields (startFields tools fields) := by
  have whole := trimmedFields_of_fits fits
  rw [newestShown_iff_showsNewest distinct (whole ▸ fits), whole] at shown
  exact shown

/-- A list under a secret key. -/
def credentialFields : List (String × Json) :=
  [("credentials", .array [.string "a"])]

/-- A list behind forty other fields. -/
def manyFields : List (String × Json) :=
  (List.range 40).map (fun index => (toString index, .null)) ++
    [("evidence", .array [.int 1])]

/-- A list of more than two hundred entries. -/
def longListFields : List (String × Json) :=
  [("evidence",
    .array ((List.range 201).map fun index : Nat => .int index))]

set_option maxRecDepth 4000 in
/-- Of the long list the last entries of the first two hundred are shown. -/
theorem startFields_longListFields :
    startFields sampleJsonTools longListFields =
      [("evidence",
        .array
          ((List.range 20).map fun index : Nat =>
            .int (180 + index)))] :=
  rfl

/--
The newest entries are not shown of a list whose only entry does not fit, of one
under the key for the number of omitted entries, of one of more than two hundred
entries, of one under a secret key, and of one behind forty other fields.
-/
theorem newest_entries_unshown :
    ¬ NewestShown sampleJsonTools plainJson
          (logFields "evidence" 1 50 1200) ∧
      ¬ NewestShown sampleJsonTools plainJson
          (logFields "omitted_items" 1 50 1200) ∧
      ¬ NewestShown sampleJsonTools plainJson longListFields ∧
      ¬ NewestShown sampleJsonTools plainJson credentialFields ∧
      ¬ NewestShown sampleJsonTools plainJson manyFields := by
  refine ⟨fun shown => ?_, fun shown => ?_, fun shown => ?_,
    fun shown => ?_, fun shown => ?_⟩
  · have distinct :
        ((logFields "evidence" 1 50 1200).map Prod.fst).Nodup := by
      simp [logFields]
    have plain : ¬ hiddenKey "evidence" := by decide
    have fits :=
      fits_trimmed_logFields plain (fits_plainJson.mpr (by decide +kernel))
    have unnoted :
        Unnoted
          (startFields sampleJsonTools (logFields "evidence" 1 50 1200)) := by
      intro items member
      obtain ⟨others, among, -⟩ := mem_startFields.mp member
      simp [logFields] at among
    rw [newestShown_iff_showsNewest distinct fits] at shown
    have newest :=
      (showsNewest_iff plainFloat_ne_nil distinct fits (.inr unnoted)).mp
        shown "evidence" _ List.mem_cons_self (by simp)
    rcases newest.fits with whole | levelFits
    · exact not_fits_logFields plain whole
    · have none :
          (cutFrom 0
            (startFields sampleJsonTools (logFields "evidence" 1 50 1200))
            (level 1 "evidence")).omitted = 0 := by
        rw [startFields_logFields sampleJsonTools plain (by decide)
          (by decide) (by decide)]
        simp [cutFrom, logFields, entries, fieldEntries, keepLast,
          lastEntries, level]
      rw [(cutFrom_of_omitted_eq_zero none).2] at levelFits
      exact not_fits_logFields plain levelFits
  · have distinct :
        ((logFields "omitted_items" 1 50 1200).map Prod.fst).Nodup := by
      simp [logFields]
    have plain : ¬ hiddenKey "omitted_items" := by decide
    have fits :=
      fits_trimmed_logFields plain (fits_plainJson.mpr (by decide +kernel))
    rw [newestShown_iff_showsNewest distinct fits] at shown
    rcases noted_of_showsNewest distinct fits shown with whole | unnoted
    · exact not_fits_logFields plain whole
    · rw [startFields_logFields sampleJsonTools plain (by decide)
        (by decide) (by decide)] at unnoted
      simpa using unnoted _ List.mem_cons_self
  · obtain ⟨suffix, member, -, front, whole⟩ :=
      showsNewest_of_fits (by decide)
        (fits_plainJson.mpr (by decide +kernel)) shown "evidence" _
        List.mem_cons_self (by simp)
    rw [startFields_longListFields] at member
    have last := congrArg List.getLast? whole
    simp only [List.mem_singleton, Prod.mk.injEq, Json.array.injEq,
      true_and] at member
    rw [member, List.getLast?_append] at last
    simp [List.getLast?_map, List.getLast?_range, shownEntry, redact,
      bounded] at last
  · obtain ⟨suffix, member, -⟩ :=
      showsNewest_of_fits (by decide)
        (fits_plainJson.mpr (by decide +kernel)) shown "credentials" _
        List.mem_cons_self (by simp)
    obtain ⟨-, -, plain, -⟩ := mem_startFields.mp member
    exact plain (by decide)
  · obtain ⟨suffix, member, -⟩ :=
      showsNewest_of_fits (by decide +kernel)
        (fits_plainJson.mpr (by decide +kernel)) shown "evidence" _
        (List.mem_append_right _ List.mem_cons_self) (by simp)
    obtain ⟨items, among, -⟩ := mem_startFields.mp member
    simp [manyFields] at among

end IncidentPilot
