import IncidentPilot.Evidence

/-!
# One item of evidence for each observation

What `valid_evidence` returns: a sublist of backed items, one for each content,
the first that the evidence has, and the same when it is filtered again.
-/

namespace IncidentPilot

/-- A dictionary, which has `get`. -/
def isDictionary : Json → Bool
  | .object _ => true
  | _ => false

/-- The checks before `output.get("error")` pass, and there is no `get`. -/
def getRaises
    (tools : JsonTools)
    (calls : List ToolCall)
    (runId : String)
    (item : EvidenceItem) : Bool :=
  (successfulCall calls item.toolCallId).any fun call =>
    decide (item.runId = runId) &&
      item.result.truthy &&
      item.result.equal call.output &&
      decide (item.hash = contentHash tools item.result) &&
      !isDictionary item.result

/-- `valid_evidence`, or none if it raises. -/
def checkedEvidence
    (tools : JsonTools)
    (evidence : List EvidenceItem)
    (calls : List ToolCall)
    (runId : String) : Option (List EvidenceItem) :=
  if evidence.any (getRaises tools calls runId) = true then
    none
  else
    some (validEvidence tools evidence calls runId)

/-- A call is the last that succeeded under an id. -/
def LastSucceeded
    (calls : List ToolCall)
    (toolCallId : Uuid)
    (call : ToolCall) : Prop :=
  ∃ before after,
    calls = before ++ call :: after ∧
      call.status = .succeeded ∧
      call.toolCallId = toolCallId ∧
      ∀ later ∈ after,
        later.status = .succeeded → later.toolCallId ≠ toolCallId

/-- An item records the whole output of a call of this run. -/
structure Backed
    (tools : JsonTools)
    (calls : List ToolCall)
    (runId : String)
    (item : EvidenceItem) : Prop where
  call :
    ∃ call,
      LastSucceeded calls item.toolCallId call ∧
        item.result.equal call.output = true
  ownRun : item.runId = runId
  hashed : item.hash = contentHash tools item.result
  some : item.result.truthy = true
  noError : item.result.flag "error" = false
  notPartial : item.result.flag "partial" = false
  notTruncated : item.result.flag "truncated" = false

/-- An item is the first backed one with its content. -/
def FirstBacked
    (tools : JsonTools)
    (evidence : List EvidenceItem)
    (calls : List ToolCall)
    (runId : String)
    (first : EvidenceItem) : Prop :=
  ∃ before after,
    evidence = before ++ first :: after ∧
      ∀ earlier ∈ before,
        Backed tools calls runId earlier →
        contentHash tools earlier.result ≠ contentHash tools first.result

/-- What is kept of the evidence: one backed item for each content. -/
structure OneForEachContent
    (tools : JsonTools)
    (evidence : List EvidenceItem)
    (calls : List ToolCall)
    (runId : String)
    (kept : List EvidenceItem) : Prop where
  sublist : kept.Sublist evidence
  backed : ∀ item ∈ kept, Backed tools calls runId item
  distinct :
    kept.Pairwise fun item other =>
      contentHash tools item.result ≠ contentHash tools other.result
  represented :
    ∀ item ∈ evidence,
      Backed tools calls runId item →
      ∃ first ∈ kept,
        contentHash tools first.result = contentHash tools item.result ∧
          FirstBacked tools evidence calls runId first
  again : checkedEvidence tools kept calls runId = some kept
  stable :
    ∀ more : List ToolCall,
      (∀ call ∈ more, ∀ old ∈ calls, call.toolCallId ≠ old.toolCallId) →
      checkedEvidence tools kept (calls ++ more) runId = some kept

/-- The entry for an id is the last call that succeeded under it. -/
theorem successfulCall_eq_some
    {calls : List ToolCall}
    {toolCallId : Uuid}
    {call : ToolCall} :
    successfulCall calls toolCallId = some call ↔
      LastSucceeded calls toolCallId call := by
  unfold successfulCall LastSucceeded
  rw [List.find?_eq_some_iff_append]
  simp only [Bool.and_eq_true, decide_eq_true_eq, Bool.not_eq_true',
    Bool.and_eq_false_iff, decide_eq_false_iff_not]
  constructor
  · rintro ⟨⟨succeeded, named⟩, after, before, split, others⟩
    refine ⟨before.reverse, after.reverse, ?_, succeeded, named, ?_⟩
    · have turned := congrArg List.reverse split
      simpa using turned
    · intro later member laterSucceeded
      rcases others later (List.mem_reverse.mp member) with failed | other
      · exact absurd laterSucceeded failed
      · exact other
  · rintro ⟨before, after, rfl, succeeded, named, others⟩
    refine
      ⟨⟨succeeded, named⟩, after.reverse, before.reverse, by simp, ?_⟩
    intro later member
    by_cases laterSucceeded : later.status = .succeeded
    · exact
        .inr (others later (List.mem_reverse.mp member) laterSucceeded)
    · exact .inl laterSucceeded

/-- The checks on an item say that it is backed. -/
theorem validItem_iff_backed
    {tools : JsonTools}
    {calls : List ToolCall}
    {runId : String}
    {item : EvidenceItem} :
    validItem tools calls runId item = true ↔
      Backed tools calls runId item := by
  unfold validItem
  constructor
  · intro valid
    split at valid
    · cases valid
    · rename_i call found
      simp only [Bool.and_eq_true, decide_eq_true_eq, Bool.not_eq_true',
        Bool.or_eq_false_iff] at valid
      obtain
        ⟨⟨⟨⟨ownRun, some⟩, sameOutput⟩, hashed⟩,
          ⟨noError, notPartial⟩, notTruncated⟩ := valid
      exact
        { call := ⟨call, successfulCall_eq_some.mp found, sameOutput⟩
          ownRun := ownRun
          hashed := hashed
          some := some
          noError := noError
          notPartial := notPartial
          notTruncated := notTruncated }
  · intro backed
    obtain ⟨call, last, sameOutput⟩ := backed.call
    rw [successfulCall_eq_some.mpr last]
    simp [backed.ownRun, backed.some, sameOutput, backed.hashed,
      backed.noError, backed.notPartial, backed.notTruncated]

section

variable {tools : JsonTools} {calls : List ToolCall} {runId : String}

/-- Only a dictionary equals a dictionary. -/
theorem isDictionary_of_equal
    {result output : Json}
    (same : result.equal output = true)
    (dictionary : isDictionary output = true) :
    isDictionary result = true := by
  cases output with
  | object fields =>
      cases result with
      | object others =>
          rfl
      | null =>
          simp [Json.equal] at same
      | bool value =>
          simp [Json.equal, Json.number?] at same
      | int value =>
          simp [Json.equal, Json.number?] at same
      | float value =>
          simp [Json.equal, Json.number?] at same
      | string value =>
          simp [Json.equal] at same
      | array items =>
          simp [Json.equal] at same
  | _ =>
      cases dictionary

/-- An item of a call whose output is a dictionary does not raise. -/
theorem getRaises_eq_false
    {item : EvidenceItem}
    (dictionaries :
      ∀ call,
        LastSucceeded calls item.toolCallId call →
        isDictionary call.output = true) :
    getRaises tools calls runId item = false := by
  unfold getRaises
  cases found : successfulCall calls item.toolCallId with
  | none =>
      rfl
  | some call =>
      have dictionary :=
        dictionaries call (successfulCall_eq_some.mp found)
      rw [Option.any_some]
      by_cases same : item.result.equal call.output = true
      · simp [isDictionary_of_equal same dictionary]
      · simp [same]

/-- The last call of an item stays the last before calls under other ids. -/
theorem LastSucceeded.append
    {toolCallId : Uuid}
    {call : ToolCall}
    {more : List ToolCall}
    (last : LastSucceeded calls toolCallId call)
    (fresh :
      ∀ call ∈ more, ∀ old ∈ calls, call.toolCallId ≠ old.toolCallId) :
    LastSucceeded (calls ++ more) toolCallId call := by
  obtain ⟨before, after, rfl, succeeded, named, others⟩ := last
  refine
    ⟨before, after ++ more, by simp, succeeded, named, ?_⟩
  intro later member laterSucceeded
  rcases List.mem_append.mp member with inAfter | inMore
  · exact others later inAfter laterSucceeded
  · rw [← named]
    exact fresh later inMore call (by simp)

/-- Backed items of different contents are all kept. -/
theorem checkedEvidence_eq_self
    {kept : List EvidenceItem}
    (backed : ∀ item ∈ kept, Backed tools calls runId item)
    (dictionaries :
      ∀ item ∈ kept,
        ∀ call,
          LastSucceeded calls item.toolCallId call →
          isDictionary call.output = true)
    (distinct :
      kept.Pairwise fun item other =>
        contentHash tools item.result ≠
          contentHash tools other.result) :
    checkedEvidence tools kept calls runId = some kept := by
  have noRaise : ¬ kept.any (getRaises tools calls runId) = true := by
    rw [List.any_eq_true]
    rintro ⟨item, member, raises⟩
    rw [getRaises_eq_false (dictionaries item member)] at raises
    cases raises
  have all :
      validEvidenceFrom tools calls runId [] kept = kept := by
    rw [validEvidenceFrom_eq_keepFirst]
    apply KeepFirst.keepFirst_eq_self _ _ distinct
    · intro item member
      exact validItem_iff_backed.mpr (backed item member)
    · intro item member none
      cases none
  rw [checkedEvidence, if_neg noRaise, validEvidence, all]

/-- A backed item stays backed when there are calls under other ids. -/
theorem Backed.append
    {item : EvidenceItem}
    {more : List ToolCall}
    (backed : Backed tools calls runId item)
    (fresh :
      ∀ call ∈ more, ∀ old ∈ calls, call.toolCallId ≠ old.toolCallId) :
    Backed tools (calls ++ more) runId item := by
  obtain ⟨call, last, sameOutput⟩ := backed.call
  exact { backed with call := ⟨call, last.append fresh, sameOutput⟩ }

/-- The call that backs an item is the last one under other ids, too. -/
theorem Backed.dictionary_append
    {item : EvidenceItem}
    {more : List ToolCall}
    (backed : Backed tools calls runId item)
    (dictionaries : ∀ call ∈ calls, isDictionary call.output = true)
    (fresh :
      ∀ call ∈ more, ∀ old ∈ calls, call.toolCallId ≠ old.toolCallId)
    {other : ToolCall}
    (otherLast : LastSucceeded (calls ++ more) item.toolCallId other) :
    isDictionary other.output = true := by
  obtain ⟨call, last, -⟩ := backed.call
  have found := successfulCall_eq_some.mpr (last.append fresh)
  have otherFound := successfulCall_eq_some.mpr otherLast
  obtain rfl : call = other := Option.some.inj (found.symm.trans otherFound)
  obtain ⟨before, after, split, -⟩ := last
  apply dictionaries
  rw [split]
  simp

/-- The first accepted item of a content is the first backed one. -/
theorem firstBacked_of_isFirst
    {evidence : List EvidenceItem}
    {first : EvidenceItem}
    (isFirst :
      KeepFirst.IsFirst (validItem tools calls runId)
        (fun item => contentHash tools item.result) evidence first) :
    FirstBacked tools evidence calls runId first := by
  obtain ⟨before, after, split, -, none⟩ := isFirst
  refine ⟨before, after, split, ?_⟩
  intro earlier member backed
  exact none earlier member (validItem_iff_backed.mpr backed)

/-- Among dictionaries no item makes the filter raise. -/
theorem not_getRaises
    (dictionaries : ∀ call ∈ calls, isDictionary call.output = true)
    (evidence : List EvidenceItem) :
    ¬ evidence.any (getRaises tools calls runId) = true := by
  rw [List.any_eq_true]
  rintro ⟨item, -, raises⟩
  have quiet : getRaises tools calls runId item = false := by
    apply getRaises_eq_false
    rintro call ⟨before, after, rfl, -⟩
    exact dictionaries call (by simp)
  rw [quiet] at raises
  cases raises

/-- Every item that the filter keeps is backed. -/
theorem validEvidence_backed
    {evidence : List EvidenceItem}
    {item : EvidenceItem}
    (member : item ∈ validEvidence tools evidence calls runId) :
    Backed tools calls runId item :=
  validItem_iff_backed.mp (mem_validEvidenceFrom member).2.1

/-- No two items that the filter keeps have one content. -/
theorem validEvidence_distinct (evidence : List EvidenceItem) :
    (validEvidence tools evidence calls runId).Pairwise fun item other =>
      contentHash tools item.result ≠ contentHash tools other.result := by
  rw [validEvidence, validEvidenceFrom_eq_keepFirst]
  exact KeepFirst.keepFirst_distinct

/-- Calls under other ids do not change what has been filtered. -/
theorem checkedEvidence_stable
    (dictionaries : ∀ call ∈ calls, isDictionary call.output = true)
    (evidence : List EvidenceItem)
    (more : List ToolCall)
    (fresh :
      ∀ call ∈ more, ∀ old ∈ calls, call.toolCallId ≠ old.toolCallId) :
    checkedEvidence tools (validEvidence tools evidence calls runId)
        (calls ++ more) runId =
      some (validEvidence tools evidence calls runId) := by
  apply checkedEvidence_eq_self
  · intro item member
    exact (validEvidence_backed member).append fresh
  · intro item member other last
    exact
      (validEvidence_backed member).dictionary_append dictionaries fresh
        last
  · exact validEvidence_distinct evidence

end

/-- `valid_evidence` returns one backed item for each content. -/
theorem valid_evidence_one_for_each
    (tools : JsonTools)
    (evidence : List EvidenceItem)
    (calls : List ToolCall)
    (runId : String)
    (dictionaries : ∀ call ∈ calls, isDictionary call.output = true) :
    ∃ kept,
      checkedEvidence tools evidence calls runId = some kept ∧
        OneForEachContent tools evidence calls runId kept := by
  have isFilter :=
    @validEvidenceFrom_eq_keepFirst tools calls runId [] evidence
  refine
    ⟨validEvidence tools evidence calls runId,
      by rw [checkedEvidence, if_neg (not_getRaises dictionaries _)], ?_⟩
  exact
    { sublist := by
        rw [validEvidence, isFilter]
        exact KeepFirst.keepFirst_sublist
      backed := fun item => validEvidence_backed
      distinct := validEvidence_distinct evidence
      represented := by
        intro item member itemBacked
        rw [validEvidence, isFilter]
        obtain ⟨first, inKept, same, isFirst⟩ :=
          @KeepFirst.first_kept _ _ _ (validItem tools calls runId)
            (fun item => contentHash tools item.result) [] evidence item
            member (validItem_iff_backed.mpr itemBacked)
            List.not_mem_nil
        exact ⟨first, inKept, same, firstBacked_of_isFirst isFirst⟩
      again := by
        have same :=
          @checkedEvidence_stable tools calls runId dictionaries evidence
            [] (fun _ none => by cases none)
        rwa [List.append_nil] at same
      stable := checkedEvidence_stable dictionaries evidence }

/-- A call that returned the metrics of a service. -/
def metricsCall : ToolCall where
  toolCallId := 1
  toolName := "read_metrics"
  status := .succeeded
  output := .object [("p95", .int 900)]
  input := .object []

/-- Evidence for a call, under some id. -/
def metricsEvidence (evidenceId : Uuid) : EvidenceItem where
  evidenceId := evidenceId
  runId := "run"
  source := "read_metrics"
  sourceType := "metrics"
  toolCallId := 1
  summary := "latency"
  hash := ""
  result := .object [("p95", .int 900)]

/-- Of two items with one content, the first is kept. -/
theorem valid_evidence_one_for_each_metrics :
    checkedEvidence sampleJsonTools
          [metricsEvidence 2, metricsEvidence 3] [metricsCall] "run" =
        some [metricsEvidence 2] ∧
      OneForEachContent sampleJsonTools
        [metricsEvidence 2, metricsEvidence 3] [metricsCall] "run"
        [metricsEvidence 2] := by
  have dictionaries :
      ∀ call ∈ [metricsCall], isDictionary call.output = true := by
    intro call member
    obtain rfl := List.mem_singleton.mp member
    rfl
  obtain ⟨kept, checked, one⟩ :=
    valid_evidence_one_for_each sampleJsonTools
      [metricsEvidence 2, metricsEvidence 3] [metricsCall] "run"
      dictionaries
  have first :
      checkedEvidence sampleJsonTools
          [metricsEvidence 2, metricsEvidence 3] [metricsCall] "run" =
        some [metricsEvidence 2] := by
    simp [checkedEvidence, getRaises, validEvidence, validEvidenceFrom,
      validItem, successfulCall, metricsEvidence, metricsCall,
      contentHash, sampleJsonTools, isDictionary, Json.truthy,
      Json.equal_refl, Json.flag, Json.get?, List.lookup_cons]
  obtain rfl : kept = [metricsEvidence 2] :=
    Option.some.inj (checked.symm.trans first)
  exact ⟨first, one⟩

end IncidentPilot
