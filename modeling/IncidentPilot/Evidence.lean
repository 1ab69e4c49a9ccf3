import IncidentPilot.Library.KeepFirst
import IncidentPilot.ToolGateway

/-!
# Evidence provenance

`agent/evidence.py`: the content hash of an output, and the filter that keeps
the items of evidence which a successful call of this run vouches for, one for
each content.
-/

namespace IncidentPilot

/-- `content_hash`. -/
def contentHash (tools : JsonTools) (output : Json) : String :=
  tools.sha256 (tools.dumpsSorted output)

/-- The entry of `successful` for a call; a later call replaces an earlier one. -/
def successfulCall
    (calls : List ToolCall)
    (toolCallId : Uuid) : Option ToolCall :=
  calls.reverse.find? fun call =>
    decide (call.status = .succeeded) &&
      decide (call.toolCallId = toolCallId)

/-- The provenance checks on one item. -/
def validItem
    (tools : JsonTools)
    (calls : List ToolCall)
    (runId : String)
    (item : EvidenceItem) : Bool :=
  match successfulCall calls item.toolCallId with
  | none => false
  | some call =>
      decide (item.runId = runId) &&
        item.result.truthy &&
        item.result.equal call.output &&
        decide (item.hash = contentHash tools item.result) &&
        !(item.result.flag "error" || item.result.flag "partial" ||
          item.result.flag "truncated")

/-- The loop of `valid_evidence`, with the digests it has seen. -/
def validEvidenceFrom
    (tools : JsonTools)
    (calls : List ToolCall)
    (runId : String) :
    List String → List EvidenceItem → List EvidenceItem
  | _, [] => []
  | seen, item :: rest =>
      let digest := contentHash tools item.result
      if validItem tools calls runId item = true ∧ digest ∉ seen then
        item ::
          validEvidenceFrom tools calls runId (digest :: seen) rest
      else
        validEvidenceFrom tools calls runId seen rest

/-- `valid_evidence`. -/
def validEvidence
    (tools : JsonTools)
    (evidence : List EvidenceItem)
    (calls : List ToolCall)
    (runId : String) : List EvidenceItem :=
  validEvidenceFrom tools calls runId [] evidence

/-- A successful call of this run vouches for an item. -/
structure Vouches
    (tools : JsonTools)
    (runId : String)
    (call : ToolCall)
    (item : EvidenceItem) : Prop where
  ownRun : item.runId = runId
  named : call.toolCallId = item.toolCallId
  succeeded : call.status = .succeeded
  sameOutput : item.result.equal call.output = true
  hashed : item.hash = contentHash tools item.result

/-- A valid item has a successful call that vouches for it. -/
theorem validItem_vouched
    {tools : JsonTools}
    {calls : List ToolCall}
    {runId : String}
    {item : EvidenceItem}
    (valid : validItem tools calls runId item = true) :
    ∃ call ∈ calls, Vouches tools runId call item := by
  unfold validItem at valid
  split at valid
  · cases valid
  · rename_i call found
    simp only [Bool.and_eq_true, decide_eq_true_eq] at valid
    obtain ⟨⟨⟨⟨ownRun, -⟩, sameOutput⟩, hashed⟩, -⟩ := valid
    have member := List.mem_of_find?_eq_some found
    have matched := List.find?_some found
    simp only [Bool.and_eq_true, decide_eq_true_eq] at matched
    exact
      ⟨call, List.mem_reverse.mp member, ownRun, matched.2, matched.1,
        sameOutput, hashed⟩

section

variable {tools : JsonTools} {calls : List ToolCall} {runId : String}

/-- The loop keeps the first valid item of each content. -/
theorem validEvidenceFrom_eq_keepFirst
    (seen : List String)
    (evidence : List EvidenceItem) :
    validEvidenceFrom tools calls runId seen evidence =
      KeepFirst.keepFirst (validItem tools calls runId)
        (fun item => contentHash tools item.result) seen evidence := by
  induction evidence generalizing seen with
  | nil =>
      rfl
  | cons item rest inductionHypothesis =>
      simp only [validEvidenceFrom, KeepFirst.keepFirst,
        inductionHypothesis]

/-- What the loop keeps was there, is valid and has an unseen digest. -/
theorem mem_validEvidenceFrom
    {seen : List String}
    {evidence : List EvidenceItem}
    {item : EvidenceItem}
    (member :
      item ∈ validEvidenceFrom tools calls runId seen evidence) :
    item ∈ evidence ∧
      validItem tools calls runId item = true ∧
      contentHash tools item.result ∉ seen := by
  rw [validEvidenceFrom_eq_keepFirst] at member
  exact
    ⟨KeepFirst.keepFirst_sublist.subset member,
      KeepFirst.accepted_of_mem member⟩

/-- Valid evidence was evidence, and a successful call vouches for it. -/
theorem mem_validEvidence
    {evidence : List EvidenceItem}
    {item : EvidenceItem}
    (member : item ∈ validEvidence tools evidence calls runId) :
    item ∈ evidence ∧ ∃ call ∈ calls, Vouches tools runId call item := by
  obtain ⟨was, valid, -⟩ := mem_validEvidenceFrom member
  exact ⟨was, validItem_vouched valid⟩

/-- The newest successful call is the one its id names. -/
theorem successfulCall_append
    {call : ToolCall}
    (succeeded : call.status = .succeeded) :
    successfulCall (calls ++ [call]) call.toolCallId = some call := by
  simp [successfulCall, succeeded]

/-- Filtering keeps a valid last item whose content is new. -/
theorem validEvidenceFrom_append
    {seen : List String}
    {evidence : List EvidenceItem}
    {last : EvidenceItem}
    (valid : validItem tools calls runId last = true)
    (new :
      ∀ item ∈ evidence,
        contentHash tools last.result ≠ contentHash tools item.result)
    (unseen : contentHash tools last.result ∉ seen) :
    validEvidenceFrom tools calls runId seen (evidence ++ [last]) =
      validEvidenceFrom tools calls runId seen evidence ++ [last] := by
  rw [validEvidenceFrom_eq_keepFirst, validEvidenceFrom_eq_keepFirst]
  exact KeepFirst.keepFirst_append valid new unseen

end

end IncidentPilot
