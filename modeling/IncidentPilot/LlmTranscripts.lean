import IncidentPilot.LlmProvider
import Mathlib.Data.List.Chain

/-!
# What is posted to a model

The posts of a structured decision, in the order they were made.  Each follows
from the one before it: a gateway that failed is asked the same again, and an
answer that the schema rejected is sent back with the reason.
-/

namespace IncidentPilot

/-- A post and what became of it. -/
abbrev ModelPost := ModelPayload × PostAnswer

section

variable {World : Type}

/-- The post of an exchange, if it is one. -/
def postOf :
    Program.Exchange World ModelRequest ModelAnswer → Option ModelPost
  | ⟨_, .post payload, answer⟩ => some (payload, answer)
  | _ => none

/-- The posts of an execution. -/
def postsOf
    (exchanges :
      List (Program.Exchange World ModelRequest ModelAnswer)) :
    List ModelPost :=
  exchanges.filterMap postOf

/-- The posts of one execution and of another. -/
@[simp] theorem postsOf_append
    (earlier later :
      List (Program.Exchange World ModelRequest ModelAnswer)) :
    postsOf (earlier ++ later) = postsOf earlier ++ postsOf later :=
  List.filterMap_append ..

/-- No exchange is no post. -/
@[simp] theorem postsOf_nil :
    postsOf ([] : List (Program.Exchange World ModelRequest ModelAnswer)) =
      [] :=
  rfl

end

/-- The content a post is told, if it is told one. -/
def PostAnswer.content (answer : PostAnswer) : Except ProviderError Json :=
  answer.completion.map Prod.fst

/-- A post that goes on after another: the same again, or the same repaired. -/
inductive StructuredCall.Follows
    {Value : Type}
    (call : StructuredCall Value) : ModelPost → ModelPost → Prop where
  | again
      {payload : ModelPayload}
      {answer next : PostAnswer}
      {error : ProviderError}
      (failed : answer.read = .error error)
      (transient : error.transient = true) :
      Follows call (payload, answer) (payload, next)
  | repaired
      {payload : ModelPayload}
      {answer next : PostAnswer}
      {text error : String}
      (told : answer.content = .ok (.string text))
      (rejected : call.validate (unfenced text) = .error error) :
      Follows call (payload, answer)
        (call.payload
          (call.messages ++ [repairMessage (unfenced text) error]), next)

/--
Posts that start with a payload and each follow from the one before; there are
at most so many, and none of them is over the budget.
-/
structure StructuredCall.Posted
    {Value : Type}
    (call : StructuredCall Value)
    (first : ModelPayload)
    (most : Nat)
    (posts : List ModelPost) : Prop where
  few : posts.length ≤ most
  starts : ∀ post ∈ posts.head?, post.1 = first
  follows : posts.IsChain call.Follows
  fits : ∀ post ∈ posts, post.1.size ≤ 40000

namespace StructuredCall.Posted

variable {Value : Type} {call : StructuredCall Value}
variable {first second : ModelPayload} {most more : Nat}
variable {posts later : List ModelPost}

/-- Nothing was posted. -/
theorem nothing : call.Posted first most [] where
  few := Nat.zero_le _
  starts := by simp
  follows := .nil
  fits := by simp

/-- One post. -/
theorem one
    (answer : PostAnswer)
    (fits : first.size ≤ 40000) :
    call.Posted first (most + 1) [(first, answer)] where
  few := Nat.succ_le_succ (Nat.zero_le _)
  starts post member := by
    cases member
    rfl
  follows := .singleton _
  fits post member := by
    obtain rfl := List.mem_singleton.mp member
    exact fits

/-- There may be more posts. -/
theorem mono
    (posted : call.Posted first most posts)
    (fewer : most ≤ more) :
    call.Posted first more posts :=
  { posted with few := posted.few.trans fewer }

/-- One post, and what goes on after it. -/
theorem cons
    {answer : PostAnswer}
    (fits : first.size ≤ 40000)
    (rest : call.Posted second most later)
    (goesOn : ∀ next, call.Follows (first, answer) (second, next)) :
    call.Posted first (most + 1) ((first, answer) :: later) where
  few := by
    rw [List.length_cons]
    exact Nat.succ_le_succ rest.few
  starts post member := by
    cases member
    rfl
  follows := by
    apply List.isChain_cons.mpr
    refine ⟨?_, rest.follows⟩
    intro post member
    have isSecond := rest.starts post member
    obtain ⟨payload, next⟩ := post
    change payload = second at isSecond
    subst isSecond
    exact goesOn next
  fits post member := by
    rcases List.mem_cons.mp member with rfl | inRest
    · exact fits
    · exact rest.fits post inRest

/-- Posts, and the posts that go on after the last of them. -/
theorem append
    (posted : call.Posted first most posts)
    (rest : call.Posted second more later)
    (goesOn :
      ∀ last ∈ posts.getLast?,
        ∀ next, call.Follows last (second, next))
    (posts_ne_nil : posts ≠ []) :
    call.Posted first (most + more) (posts ++ later) where
  few := by
    rw [List.length_append]
    exact Nat.add_le_add posted.few rest.few
  starts post member := by
    rw [List.head?_append_of_ne_nil _ posts_ne_nil] at member
    exact posted.starts post member
  follows := by
    apply List.isChain_append.mpr
    refine ⟨posted.follows, rest.follows, ?_⟩
    intro last isLast post member
    have isSecond := rest.starts post member
    obtain ⟨payload, next⟩ := post
    change payload = second at isSecond
    subst isSecond
    exact goesOn last isLast next
  fits post member := by
    rcases List.mem_append.mp member with inFirst | inRest
    · exact posted.fits post inFirst
    · exact rest.fits post inRest

end StructuredCall.Posted

/-- The last post was told this. -/
def LastTold {Told : Type}
    (read : PostAnswer → Except ProviderError Told)
    (posts : List ModelPost)
    (told : Told) : Prop :=
  ∃ last, posts.getLast? = some last ∧ read last.2 = .ok told

/-- The last post is the last one of a longer list. -/
theorem LastTold.prepend
    {Told : Type}
    {read : PostAnswer → Except ProviderError Told}
    {posts : List ModelPost}
    {told : Told}
    (lastTold : LastTold read posts told)
    (earlier : List ModelPost) :
    LastTold read (earlier ++ posts) told := by
  obtain ⟨last, isLast, reads⟩ := lastTold
  refine ⟨last, ?_, reads⟩
  rw [List.getLast?_append, isLast]
  rfl

section Posts

variable {World Value : Type} (call : StructuredCall Value)
variable
  {surroundings : Program.Surroundings World ModelRequest ModelAnswer}
variable {payload : ModelPayload}

/-- One completion posts the same payload until the gateway answers. -/
theorem postLoop_posted
    (fits : payload.size ≤ 40000)
    (remaining attempt : Nat)
    (world : World) :
    Program.Ensures surroundings (postLoop payload remaining attempt) world
      fun exchanges outcome _ =>
        call.Posted payload (remaining + 1) (postsOf exchanges) ∧
          ∀ data,
            outcome = .returned data →
            LastTold PostAnswer.read (postsOf exchanges) data := by
  induction remaining generalizing attempt world with
  | zero =>
      refine Program.Ensures.ask ⟨.nothing, by simp⟩ ?_
      intro disturbed answer served interferes serves
      cases read : answer.read with
      | ok data =>
          refine Program.Ensures.done ⟨.one answer fits, ?_⟩
          rintro told ⟨⟩
          exact ⟨(payload, answer), rfl, read⟩
      | error error =>
          exact Program.Ensures.raise ⟨.one answer fits, by simp⟩
  | succ remaining inductionHypothesis =>
      refine Program.Ensures.ask ⟨.nothing, by simp⟩ ?_
      intro disturbed answer served interferes serves
      cases read : answer.read with
      | ok data =>
          refine Program.Ensures.done ⟨.one answer fits, ?_⟩
          rintro told ⟨⟩
          exact ⟨(payload, answer), rfl, read⟩
      | error error =>
          by_cases transient : error.transient = true
          · simp only [if_pos transient]
            refine
              Program.Ensures.ask ⟨.one answer fits, by simp⟩ ?_
            intro waiting slept woken interferesAgain servesSleep
            by_cases goesOn : slept = true
            · rw [if_pos goesOn]
              refine (inductionHypothesis (attempt + 1) woken).mono ?_
              rintro exchanges outcome final ⟨posted, told⟩
              refine
                ⟨posted.cons fits fun next => .again read transient, ?_⟩
              intro data returned
              exact (told data returned).prepend [(payload, answer)]
            · rw [if_neg goesOn]
              exact Program.Ensures.raise ⟨.one answer fits, by simp⟩
          · simp only [if_neg transient]
            exact Program.Ensures.raise ⟨.one answer fits, by simp⟩

/-- What is read of a response is read without another post. -/
theorem readCompletion_posts_none
    (data : Json)
    (world : World) :
    Program.Ensures surroundings (readCompletion data) world
      fun exchanges outcome _ =>
        postsOf exchanges = [] ∧
          ∀ content,
            outcome = .returned content →
            responseContent data = .ok content ∧
              ∃ usage, responseUsage data = .ok usage := by
  unfold readCompletion
  cases hasContent : responseContent data with
  | error error =>
      exact Program.Ensures.raise ⟨rfl, by simp⟩
  | ok content =>
      cases hasUsage : responseUsage data with
      | error error =>
          exact Program.Ensures.raise ⟨rfl, by simp⟩
      | ok usage =>
          cases usage with
          | none =>
              refine Program.Ensures.done ⟨rfl, ?_⟩
              rintro told ⟨⟩
              exact ⟨rfl, none, rfl⟩
          | some usage =>
              refine Program.Ensures.ask ⟨rfl, by simp⟩ ?_
              intro disturbed answer served interferes serves
              refine Program.Ensures.done ⟨rfl, ?_⟩
              rintro told ⟨⟩
              exact ⟨rfl, some usage, rfl⟩

/-- A completion returns what its last post was told. -/
theorem complete_posted (world : World) :
    Program.Ensures surroundings (complete payload) world
      fun exchanges outcome _ =>
        call.Posted payload 3 (postsOf exchanges) ∧
          ∀ content,
            outcome = .returned content →
            LastTold PostAnswer.content (postsOf exchanges) content := by
  unfold complete
  by_cases exceeds : 40000 < payload.size
  · rw [if_pos exceeds]
    exact Program.Ensures.raise ⟨.nothing, by simp⟩
  · rw [if_neg exceeds]
    apply Program.Ensures.bind
    refine
      (postLoop_posted call (Nat.le_of_not_lt exceeds) (retryAttempts - 1)
        1 world).mono ?_
    rintro earlier outcome middle ⟨posted, told⟩
    cases outcome with
    | died => exact ⟨posted, by simp⟩
    | raised error => exact ⟨posted, by simp⟩
    | returned data =>
        refine (readCompletion_posts_none data middle).mono ?_
        rintro later outcome final ⟨none, reads⟩
        rw [postsOf_append, none, List.append_nil]
        refine ⟨posted, ?_⟩
        intro content returned
        obtain ⟨hasContent, usage, hasUsage⟩ := reads content returned
        obtain ⟨last, isLast, read⟩ := told data rfl
        refine ⟨last, isLast, ?_⟩
        simp [PostAnswer.content, PostAnswer.completion, read, hasContent,
          hasUsage, Except.map, bind, Except.bind, pure, Except.pure]

/-- A decision returns what the schema accepts of its last post. -/
theorem decideLoop_posted
    (remaining : Nat)
    (messages : List LLMMessage)
    (world : World) :
    Program.Ensures surroundings (call.decideLoop remaining messages) world
      fun exchanges outcome _ =>
        call.Posted (call.payload messages) (3 * remaining)
            (postsOf exchanges) ∧
          ∀ value,
            outcome = .returned value →
            ∃ text,
              LastTold PostAnswer.content (postsOf exchanges)
                  (.string text) ∧
                call.validate (unfenced text) = .ok value := by
  induction remaining generalizing messages world with
  | zero =>
      exact Program.Ensures.raise ⟨.nothing, by simp⟩
  | succ remaining inductionHypothesis =>
      unfold StructuredCall.decideLoop
      apply Program.Ensures.bind
      refine (complete_posted call world).mono ?_
      rintro earlier outcome middle ⟨posted, told⟩
      have most : 3 ≤ 3 * (remaining + 1) := by omega
      cases outcome with
      | died => exact ⟨posted.mono most, by simp⟩
      | raised error => exact ⟨posted.mono most, by simp⟩
      | returned content =>
          change Program.Ensures surroundings
            (readOr (contentText content) >>=
              call.judge (call.decideLoop remaining))
            middle _
          cases stripped : contentText content with
          | error error =>
              refine Program.Ensures.raise ?_
              rw [postsOf_append]
              exact ⟨by simpa using posted.mono most, by simp⟩
          | ok text =>
              have isText := contentText_ok stripped
              subst isText
              have last := told _ rfl
              change Program.Ensures surroundings
                (call.judge (call.decideLoop remaining) text) middle _
              unfold StructuredCall.judge
              cases judged : call.validate (unfenced text) with
              | ok value =>
                  refine Program.Ensures.done ?_
                  rw [postsOf_append]
                  refine ⟨by simpa using posted.mono most, ?_⟩
                  rintro result ⟨⟩
                  exact ⟨text, by simpa using last, judged⟩
              | error error =>
                  refine (inductionHypothesis _ middle).mono ?_
                  rintro later outcome final ⟨laterPosted, laterTold⟩
                  rw [postsOf_append]
                  obtain ⟨lastPost, isLast, tells⟩ := last
                  refine ⟨?_, ?_⟩
                  · have together :=
                      posted.append laterPosted
                        (fun other isOther next => by
                          rw [isLast] at isOther
                          cases isOther
                          exact .repaired tells judged)
                        (by
                          rintro empty
                          rw [empty] at isLast
                          cases isLast)
                    exact together.mono (by omega)
                  · intro value returned
                    obtain ⟨laterText, laterLast, accepted⟩ :=
                      laterTold value returned
                    exact ⟨laterText, laterLast.prepend _, accepted⟩

end Posts

/-- The exception as the graph sees it. -/
def ProviderError.graphError : ProviderError → GraphError
  | .contextBudget => budgetExceeded
  | .structuredOutput =>
      .structuredOutput "structured output invalid after 3 attempts"
  | .invalidJson text => .value text
  | .transport text => .other text
  | .request text => .other text
  | .status code => .other (toString code)
  | .malformed => .other "malformed response"
  | .cancelled => .other "cancelled"

/-- A program ended as an answer says, unless it died. -/
def EndsAs {Value : Type}
    (answer : Except GraphError Value) :
    Program.Outcome ProviderError Value → Prop
  | .returned value => answer = .ok value
  | .raised error => answer = .error error.graphError
  | .died => True

/-- A post is made again after this answer, with the attempts that are left. -/
def PostAnswer.retried (answer : PostAnswer) (remaining : Nat) : Bool :=
  match remaining, answer.read with
  | _ + 1, .error error => error.transient
  | _, _ => false

/--
What the completions among the posts came to, each with its payload; so many
attempts are left of the completion that is under way.  A completion ends with
the first answer that is not retried, or is cancelled while it waits.
-/
def completions :
    Nat → List ModelPost → List (ModelPayload × Except ProviderError Json)
  | _, [] => []
  | remaining, (payload, answer) :: rest =>
      if answer.retried remaining = true then
        if rest.isEmpty = true then
          [(payload, .error .cancelled)]
        else
          completions (remaining - 1) rest
      else
        (payload, answer.content) :: completions (retryAttempts - 1) rest

/-- What a completion came to, as the loop of a model sees it. -/
def modelAnswer
    (answer : Except ProviderError Json) : Except GraphError String :=
  (answer.bind contentText).mapError ProviderError.graphError

/-- The answer to what was not asked. -/
def unheard : GraphError :=
  .other "unheard"

/--
The model that answers the request of a number what the completion of that number
came to, if it was posted with the very messages of the request.
-/
def StructuredCall.answering
    {Value : Type}
    (call : StructuredCall Value)
    (heard : List (ModelPayload × Except ProviderError Json)) : Completion :=
  fun number messages =>
    match heard[number]? with
    | some (payload, answer) =>
        if payload = call.payload messages then
          modelAnswer answer
        else
          .error unheard
    | none => .error unheard

/-- A response that is not read has no content. -/
theorem content_of_read_error
    {answer : PostAnswer}
    {error : ProviderError}
    (read : answer.read = .error error) :
    answer.content = .error error := by
  simp [PostAnswer.content, PostAnswer.completion, read, bind, Except.bind,
    Except.map]

/-- A response that is read is not retried. -/
theorem retried_of_read_ok
    {answer : PostAnswer}
    {data : Json}
    (read : answer.read = .ok data)
    (remaining : Nat) :
    answer.retried remaining = false := by
  cases remaining with
  | zero => simp [PostAnswer.retried]
  | succ remaining => simp [PostAnswer.retried, read]

/-- A failure is retried if it is transient, and attempts are left. -/
theorem retried_of_read_error
    {answer : PostAnswer}
    {error : ProviderError}
    (read : answer.read = .error error)
    (remaining : Nat) :
    answer.retried (remaining + 1) = error.transient := by
  simp [PostAnswer.retried, read]

section Completions

variable {payload : ModelPayload} {answer : PostAnswer}
variable {remaining : Nat} {rest : List ModelPost}

/-- A completion ends with an answer that is not retried. -/
theorem completions_ended
    (last : answer.retried remaining = false) :
    completions remaining ((payload, answer) :: rest) =
      (payload, answer.content) :: completions (retryAttempts - 1) rest := by
  simp [completions, last]

/-- A completion goes on after an answer that is retried. -/
theorem completions_retried
    {one : ModelPayload × Except ProviderError Json}
    {others : List (ModelPayload × Except ProviderError Json)}
    (retried : answer.retried (remaining + 1) = true)
    (goesOn : completions remaining rest = one :: others) :
    completions (remaining + 1) ((payload, answer) :: rest) =
      one :: others := by
  have rest_ne_nil : rest ≠ [] := by
    rintro rfl
    cases goesOn
  simp [completions, retried, rest_ne_nil, goesOn]

/-- A completion that is not posted again was cancelled. -/
theorem completions_cancelled
    (retried : answer.retried remaining = true) :
    completions remaining [(payload, answer)] =
      [(payload, .error .cancelled)] := by
  simp [completions, retried]

variable {World : Type}
variable
  {surroundings : Program.Surroundings World ModelRequest ModelAnswer}

/-- The posts of a completion are one completion. -/
theorem postLoop_completes
    (payload : ModelPayload)
    (remaining attempt : Nat)
    (world : World) :
    Program.Ensures surroundings (postLoop payload remaining attempt) world
      fun exchanges outcome _ =>
        (∀ data,
            outcome = .returned data →
            ∃ answer : PostAnswer,
              answer.read = .ok data ∧
                ∀ later,
                  completions remaining (postsOf exchanges ++ later) =
                    (payload, answer.content) ::
                      completions (retryAttempts - 1) later) ∧
          ∀ error,
            outcome = .raised error →
            completions remaining (postsOf exchanges) =
              [(payload, .error error)] := by
  induction remaining generalizing attempt world with
  | zero =>
      refine Program.Ensures.ask ⟨by simp, by simp⟩ ?_
      intro disturbed answer served interferes serves
      cases read : answer.read with
      | ok data =>
          refine Program.Ensures.done ⟨?_, by simp⟩
          rintro told ⟨⟩
          exact
            ⟨answer, read, fun later =>
              completions_ended (retried_of_read_ok read 0)⟩
      | error error =>
          refine Program.Ensures.raise ⟨by simp, ?_⟩
          rintro raised ⟨⟩
          rw [← content_of_read_error read]
          exact completions_ended rfl
  | succ remaining inductionHypothesis =>
      refine Program.Ensures.ask ⟨by simp, by simp⟩ ?_
      intro disturbed answer served interferes serves
      cases read : answer.read with
      | ok data =>
          refine Program.Ensures.done ⟨?_, by simp⟩
          rintro told ⟨⟩
          exact
            ⟨answer, read, fun later =>
              completions_ended (retried_of_read_ok read _)⟩
      | error error =>
          have again := retried_of_read_error read remaining
          by_cases transient : error.transient = true
          · rw [transient] at again
            simp only [if_pos transient]
            refine Program.Ensures.ask ⟨by simp, by simp⟩ ?_
            intro waiting slept woken interferesAgain servesSleep
            by_cases goesOn : slept = true
            · rw [if_pos goesOn]
              refine (inductionHypothesis (attempt + 1) woken).mono ?_
              rintro exchanges outcome final ⟨returned, raised⟩
              refine ⟨?_, ?_⟩
              · intro data isReturned
                obtain ⟨last, reads, one⟩ := returned data isReturned
                exact
                  ⟨last, reads, fun later =>
                    completions_retried again (one later)⟩
              · intro failure isRaised
                exact completions_retried again (raised failure isRaised)
            · rw [if_neg goesOn]
              refine Program.Ensures.raise ⟨by simp, ?_⟩
              rintro raised ⟨⟩
              exact completions_cancelled again
          · have last : answer.retried (remaining + 1) = false := by
              rw [again]
              exact Bool.eq_false_iff.mpr transient
            simp only [if_neg transient]
            refine Program.Ensures.raise ⟨by simp, ?_⟩
            rintro raised ⟨⟩
            rw [← content_of_read_error read]
            exact completions_ended last

/-- The end of a completion reads the content that its last post was told. -/
theorem readCompletion_content
    {answer : PostAnswer}
    {data : Json}
    (read : answer.read = .ok data)
    (world : World) :
    Program.Ensures surroundings (readCompletion data) world
      fun exchanges outcome _ =>
        postsOf exchanges = [] ∧
          (∀ content,
            outcome = .returned content → answer.content = .ok content) ∧
          ∀ error,
            outcome = .raised error → answer.content = .error error := by
  unfold readCompletion
  cases hasContent : responseContent data with
  | error error =>
      refine Program.Ensures.raise ⟨rfl, by simp, ?_⟩
      rintro raised ⟨⟩
      simp [PostAnswer.content, PostAnswer.completion, read, hasContent,
        bind, Except.bind, Except.map]
  | ok content =>
      cases hasUsage : responseUsage data with
      | error error =>
          refine Program.Ensures.raise ⟨rfl, by simp, ?_⟩
          rintro raised ⟨⟩
          simp [PostAnswer.content, PostAnswer.completion, read, hasContent,
            hasUsage, bind, Except.bind, Except.map]
      | ok usage =>
          have told : answer.content = .ok content := by
            simp [PostAnswer.content, PostAnswer.completion, read,
              hasContent, hasUsage, Except.map, bind, Except.bind, pure,
              Except.pure]
          cases usage with
          | none =>
              refine Program.Ensures.done ⟨rfl, ?_, by simp⟩
              rintro returned ⟨⟩
              exact told
          | some usage =>
              refine Program.Ensures.ask ⟨rfl, by simp, by simp⟩ ?_
              intro disturbed answered served interferes serves
              refine Program.Ensures.done ⟨rfl, ?_, by simp⟩
              rintro returned ⟨⟩
              exact told

/-- A completion within the budget is one completion of its payload. -/
theorem complete_completes
    {payload : ModelPayload}
    (fits : ¬ 40000 < payload.size)
    (world : World) :
    Program.Ensures surroundings (complete payload) world
      fun exchanges outcome _ =>
        (∀ content,
            outcome = .returned content →
            ∀ later,
              completions (retryAttempts - 1)
                  (postsOf exchanges ++ later) =
                (payload, .ok content) ::
                  completions (retryAttempts - 1) later) ∧
          ∀ error,
            outcome = .raised error →
            completions (retryAttempts - 1) (postsOf exchanges) =
              [(payload, .error error)] := by
  unfold complete
  rw [if_neg fits]
  apply Program.Ensures.bind
  refine
    (postLoop_completes payload (retryAttempts - 1) 1 world).mono ?_
  rintro earlier outcome middle ⟨returned, raised⟩
  cases outcome with
  | died => exact ⟨by simp, by simp⟩
  | raised error =>
      refine ⟨by simp, ?_⟩
      rintro same ⟨⟩
      exact raised error rfl
  | returned data =>
      obtain ⟨answer, read, one⟩ := returned data rfl
      refine (readCompletion_content read middle).mono ?_
      rintro later outcome final ⟨none, told, failed⟩
      rw [postsOf_append, none, List.append_nil]
      refine ⟨?_, ?_⟩
      · intro content isReturned rest
        rw [one rest, told content isReturned]
      · intro error isRaised
        have alone := one []
        rw [List.append_nil, failed error isRaised] at alone
        exact alone

end Completions

namespace StructuredCall

variable {World Value : Type} (call : StructuredCall Value)
variable
  {surroundings : Program.Surroundings World ModelRequest ModelAnswer}

/-- What is posted is as long as the context of the decision. -/
theorem size_payload (messages : List LLMMessage) :
    (call.payload messages).size =
      contextLength call.instruction messages := by
  unfold ModelPayload.size payload contextLength
  by_cases empty : call.instruction = ""
  · simp [empty]
  · simp [empty]

/-- The model answers a request within the budget what its posts were told. -/
theorem budgeted_answering
    {messages : List LLMMessage}
    (fits : ¬ 40000 < contextLength call.instruction messages)
    (prior later : List (ModelPayload × Except ProviderError Json))
    (answer : Except ProviderError Json) :
    budgeted call.instruction
        (call.answering
          (prior ++ (call.payload messages, answer) :: later))
        prior.length messages =
      modelAnswer answer := by
  simp [budgeted, fits, answering]

/-- A decision over HTTP is that of the model that answers what was heard. -/
theorem decideLoop_refines
    (remaining : Nat)
    (messages : List LLMMessage)
    (prior : List (ModelPayload × Except ProviderError Json))
    (world : World) :
    Program.Ensures surroundings (call.decideLoop remaining messages) world
      fun exchanges outcome _ =>
        EndsAs
          (repairLoop
            (budgeted call.instruction
              (call.answering
                (prior ++
                  completions (retryAttempts - 1) (postsOf exchanges))))
            call.validate call.messages remaining prior.length messages)
          outcome := by
  induction remaining generalizing messages prior world with
  | zero =>
      exact Program.Ensures.raise rfl
  | succ remaining inductionHypothesis =>
      unfold StructuredCall.decideLoop
      by_cases exceeds : 40000 < (call.payload messages).size
      · have tooLong :
            40000 < contextLength call.instruction messages := by
          rwa [← size_payload]
        have refused :
            complete (call.payload messages) = .raise .contextBudget :=
          if_pos exceeds
        rw [refused]
        refine Program.Ensures.raise ?_
        simp [EndsAs, repairLoop, budgeted, tooLong, bind, Except.bind,
          ProviderError.graphError]
      · have fits :
            ¬ 40000 < contextLength call.instruction messages := by
          rwa [← size_payload]
        apply Program.Ensures.bind
        refine (complete_completes exceeds world).mono ?_
        rintro earlier outcome middle ⟨returned, raised⟩
        cases outcome with
        | died => trivial
        | raised error =>
            have heard := raised error rfl
            change EndsAs _ (.raised error)
            rw [heard]
            simp [EndsAs, repairLoop, budgeted_answering call fits,
              modelAnswer, Except.bind, Except.mapError, bind]
        | returned content =>
            have heard := returned content rfl
            change Program.Ensures surroundings
              (readOr (contentText content) >>=
                call.judge (call.decideLoop remaining))
              middle _
            cases stripped : contentText content with
            | error error =>
                refine Program.Ensures.raise ?_
                rw [postsOf_append, heard]
                simp [EndsAs, repairLoop, budgeted_answering call fits,
                  modelAnswer, stripped, Except.bind, Except.mapError,
                  bind]
            | ok text =>
                change Program.Ensures surroundings
                  (call.judge (call.decideLoop remaining) text) middle _
                unfold StructuredCall.judge
                cases judged : call.validate (unfenced text) with
                | ok value =>
                    refine Program.Ensures.done ?_
                    rw [postsOf_append, heard]
                    simp [EndsAs, repairLoop, budgeted_answering call fits,
                      modelAnswer, stripped, Except.bind, Except.mapError,
                      bind, judged]
                | error error =>
                    refine
                      (inductionHypothesis
                        (call.messages ++
                          [repairMessage (unfenced text) error])
                        (prior ++
                          [(call.payload messages, .ok content)])
                        middle).mono ?_
                    intro later outcome final ends
                    rw [List.append_assoc, List.length_append] at ends
                    rw [postsOf_append, heard]
                    simp only [repairLoop, budgeted_answering call fits,
                      modelAnswer, stripped, Except.bind, Except.mapError,
                      bind, judged]
                    exact ends

end StructuredCall

/-- What a provider has counted, and how often it has posted. -/
structure ModelWorld where
  totals : Option Usage
  posts : Nat
  deriving Repr, DecidableEq

/-- A gateway may answer anything; `usage_totals` is the provider's own. -/
inductive ServesModel :
    ModelWorld → (asked : ModelRequest) → ModelAnswer asked → ModelWorld →
      Prop where
  | post
      (world : ModelWorld)
      (payload : ModelPayload)
      (answer : PostAnswer) :
      ServesModel world (.post payload) answer
        { world with posts := world.posts + 1 }
  | sleep
      (world : ModelWorld)
      (seconds : Nat)
      (slept : Bool) :
      ServesModel world (.sleep seconds) slept world
  | countUsage
      (world : ModelWorld)
      (usage : Usage) :
      ServesModel world (.countUsage usage) ()
        { world with totals := some (Usage.add world.totals usage) }

/-- A provider is used by one graph, one decision after the other. -/
def modelGateway :
    Program.Surroundings ModelWorld ModelRequest ModelAnswer where
  serves := ServesModel
  interferes := Eq

/-- The usage a post is told of, if the rest of its response can be read. -/
def PostAnswer.usage? (answer : PostAnswer) : Option Usage :=
  answer.completion.toOption.bind Prod.snd

/-- The totals with one usage more, if there is one. -/
def tally (totals usage : Option Usage) : Option Usage :=
  match usage with
  | some usage => some (Usage.add totals usage)
  | none => totals

/-- The totals with the usage of each post in turn. -/
def tallied (totals : Option Usage) (posts : List ModelPost) :
    Option Usage :=
  posts.foldl (fun totals post => tally totals post.2.usage?) totals

/-- Posts, and then other posts. -/
theorem tallied_append
    (totals : Option Usage)
    (earlier later : List ModelPost) :
    tallied totals (earlier ++ later) =
      tallied (tallied totals earlier) later :=
  List.foldl_append ..

/-- A response that is not read tells no usage. -/
theorem usage?_of_read_error
    {answer : PostAnswer}
    {error : ProviderError}
    (read : answer.read = .error error) :
    answer.usage? = none := by
  simp [PostAnswer.usage?, PostAnswer.completion, read, bind, Except.bind,
    Except.toOption]

section Usage

variable {payload : ModelPayload} {Value : Type}

/-- The posts of a completion are not counted, but for the last one. -/
theorem postLoop_tallied
    (remaining attempt : Nat)
    (world : ModelWorld) :
    Program.Ensures modelGateway (postLoop payload remaining attempt) world
      fun exchanges outcome final =>
        final.totals = world.totals ∧
          (∀ error,
            outcome = .raised error →
            tallied world.totals (postsOf exchanges) = world.totals) ∧
          ∀ data,
            outcome = .returned data →
            ∃ answer : PostAnswer,
              answer.read = .ok data ∧
                tallied world.totals (postsOf exchanges) =
                  tally world.totals answer.usage? := by
  induction remaining generalizing attempt world with
  | zero =>
      refine Program.Ensures.ask ⟨rfl, by simp, by simp⟩ ?_
      rintro disturbed answer served ⟨⟩ serves
      cases serves
      cases read : answer.read with
      | ok data =>
          refine Program.Ensures.done ⟨rfl, by simp, ?_⟩
          rintro told ⟨⟩
          exact ⟨answer, read, rfl⟩
      | error error =>
          refine Program.Ensures.raise ⟨rfl, ?_, by simp⟩
          intro _ _
          change tally world.totals answer.usage? = world.totals
          rw [usage?_of_read_error read]
          rfl
  | succ remaining inductionHypothesis =>
      refine Program.Ensures.ask ⟨rfl, by simp, by simp⟩ ?_
      rintro disturbed answer served ⟨⟩ serves
      cases serves
      cases read : answer.read with
      | ok data =>
          refine Program.Ensures.done ⟨rfl, by simp, ?_⟩
          rintro told ⟨⟩
          exact ⟨answer, read, rfl⟩
      | error error =>
          have uncounted (posts : List ModelPost) :
              tallied world.totals ((payload, answer) :: posts) =
                tallied world.totals posts := by
            change
              tallied (tally world.totals answer.usage?) posts = _
            rw [usage?_of_read_error read]
            rfl
          by_cases transient : error.transient = true
          · simp only [if_pos transient]
            refine Program.Ensures.ask ⟨rfl, by simp, by simp⟩ ?_
            rintro waiting slept woken ⟨⟩ servesSleep
            cases servesSleep
            by_cases goesOn : slept = true
            · rw [if_pos goesOn]
              refine (inductionHypothesis (attempt + 1) _).mono ?_
              rintro exchanges outcome final ⟨kept, raised, told⟩
              refine ⟨kept, ?_, ?_⟩
              · intro failure isRaised
                exact (uncounted _).trans (raised failure isRaised)
              · intro data returned
                obtain ⟨last, reads, counted⟩ := told data returned
                exact ⟨last, reads, (uncounted _).trans counted⟩
            · rw [if_neg goesOn]
              exact
                Program.Ensures.raise
                  ⟨rfl, fun _ _ => uncounted [], by simp⟩
          · simp only [if_neg transient]
            exact
              Program.Ensures.raise
                ⟨rfl, fun _ _ => uncounted [], by simp⟩

/-- What is read of a response is counted. -/
theorem readCompletion_tallied
    {answer : PostAnswer}
    {data : Json}
    (read : answer.read = .ok data)
    (world : ModelWorld) :
    Program.Ensures modelGateway (readCompletion data) world
      fun exchanges outcome final =>
        postsOf exchanges = [] ∧
          (outcome ≠ .died →
            final.totals = tally world.totals answer.usage?) := by
  unfold readCompletion
  cases hasContent : responseContent data with
  | error error =>
      refine Program.Ensures.raise ⟨rfl, fun _ => ?_⟩
      simp [PostAnswer.usage?, PostAnswer.completion, read, hasContent,
        bind, Except.bind, Except.toOption, tally]
  | ok content =>
      cases hasUsage : responseUsage data with
      | error error =>
          refine Program.Ensures.raise ⟨rfl, fun _ => ?_⟩
          simp [PostAnswer.usage?, PostAnswer.completion, read, hasContent,
            hasUsage, bind, Except.bind, Except.toOption, tally]
      | ok usage =>
          have told : answer.usage? = usage := by
            simp [PostAnswer.usage?, PostAnswer.completion, read,
              hasContent, hasUsage, bind, Except.bind, pure, Except.pure,
              Except.toOption]
          rw [told]
          cases usage with
          | none => exact Program.Ensures.done ⟨rfl, fun _ => rfl⟩
          | some usage =>
              refine Program.Ensures.ask ⟨rfl, by simp⟩ ?_
              rintro disturbed answered served ⟨⟩ serves
              cases serves
              exact Program.Ensures.done ⟨rfl, fun _ => rfl⟩

/-- A completion counts what its posts were told. -/
theorem complete_tallied (world : ModelWorld) :
    Program.Ensures modelGateway (complete payload) world
      fun exchanges outcome final =>
        outcome ≠ .died →
        final.totals = tallied world.totals (postsOf exchanges) := by
  unfold complete
  by_cases exceeds : 40000 < payload.size
  · rw [if_pos exceeds]
    exact Program.Ensures.raise fun _ => rfl
  · rw [if_neg exceeds]
    apply Program.Ensures.bind
    refine (postLoop_tallied (retryAttempts - 1) 1 world).mono ?_
    rintro earlier outcome middle ⟨kept, raised, told⟩
    cases outcome with
    | died => simp
    | raised error =>
        intro _
        exact kept.trans (raised error rfl).symm
    | returned data =>
        obtain ⟨answer, read, counted⟩ := told data rfl
        refine (readCompletion_tallied read middle).mono ?_
        rintro later outcome final ⟨none, counts⟩ ended
        rw [postsOf_append, none, List.append_nil, counted, counts ended,
          kept]

/-- A decision counts what its posts were told. -/
theorem decideLoop_tallied
    (call : StructuredCall Value)
    (remaining : Nat)
    (messages : List LLMMessage)
    (world : ModelWorld) :
    Program.Ensures modelGateway (call.decideLoop remaining messages) world
      fun exchanges outcome final =>
        outcome ≠ .died →
        final.totals = tallied world.totals (postsOf exchanges) := by
  induction remaining generalizing messages world with
  | zero =>
      exact Program.Ensures.raise fun _ => rfl
  | succ remaining inductionHypothesis =>
      unfold StructuredCall.decideLoop
      apply Program.Ensures.bind
      refine (complete_tallied world).mono ?_
      intro earlier outcome middle counts
      cases outcome with
      | died => simp
      | raised error =>
          intro _
          exact counts (by simp)
      | returned content =>
          have counted := counts (by simp)
          change Program.Ensures modelGateway
            (readOr (contentText content) >>=
              call.judge (call.decideLoop remaining))
            middle _
          cases stripped : contentText content with
          | error error =>
              refine Program.Ensures.raise fun _ => ?_
              simpa using counted
          | ok text =>
              change Program.Ensures modelGateway
                (call.judge (call.decideLoop remaining) text) middle _
              unfold StructuredCall.judge
              cases judged : call.validate (unfenced text) with
              | ok value =>
                  refine Program.Ensures.done fun _ => ?_
                  simpa using counted
              | error error =>
                  refine (inductionHypothesis _ middle).mono ?_
                  intro later outcome final countsLater ended
                  rw [postsOf_append, tallied_append, ← counted]
                  exact countsLater ended

end Usage

section Decisions

variable {World Value : Type} {call : StructuredCall Value}
variable {outcome : Program.Outcome ProviderError Value}

/--
A structured decision makes at most nine posts, none of them over the budget,
each of which follows from the one before it, and it returns what the schema
accepts of its last one.
-/
theorem decision_posts_follow
    {surroundings : Program.Surroundings World ModelRequest ModelAnswer}
    {exchanges :
      List (Program.Exchange World ModelRequest ModelAnswer)}
    {start final : World}
    (ran :
      Program.Execution surroundings call.completeStructured start exchanges
        outcome final) :
    call.Posted (call.payload call.messages) 9 (postsOf exchanges) ∧
      ∀ value,
        outcome = .returned value →
        ∃ text,
          LastTold PostAnswer.content (postsOf exchanges) (.string text) ∧
            call.validate (unfenced text) = .ok value :=
  decideLoop_posted call 3 call.messages start _ _ _ ran

/--
A decision over HTTP, whose posts are retried while the gateway fails, ends as
the decision of the model that answers each request what the posts of its very
messages were told: the graph does not see the difference.
-/
theorem decision_refines_model
    {surroundings : Program.Surroundings World ModelRequest ModelAnswer}
    {exchanges :
      List (Program.Exchange World ModelRequest ModelAnswer)}
    {start final : World}
    (ran :
      Program.Execution surroundings call.completeStructured start exchanges
        outcome final) :
    EndsAs
      (completeStructured
        (budgeted call.instruction
          (call.answering
            (completions (retryAttempts - 1) (postsOf exchanges))))
        call.validate call.messages)
      outcome :=
  call.decideLoop_refines 3 call.messages [] start _ _ _ ran

/--
The usage of every response that was read is counted once, also when its text
was rejected, and that of a failed post is not.
-/
theorem usage_counted_once
    {exchanges :
      List (Program.Exchange ModelWorld ModelRequest ModelAnswer)}
    {start final : ModelWorld}
    (ended : outcome ≠ .died)
    (ran :
      Program.Execution modelGateway call.completeStructured start exchanges
        outcome final) :
    final.totals = tallied start.totals (postsOf exchanges) :=
  decideLoop_tallied call 3 call.messages start _ _ _ ran ended

end Decisions

/-- A decision that accepts one text. -/
def sampleDecision : StructuredCall String where
  model := "m"
  system := none
  schema := "{}"
  messages := [{ role := "user", content := "incident" }]
  validate text := if text = "yes" then .ok text else .error "no"

/-- A response with a text, and a token for each direction. -/
def sampleResponse (text : String) : Json :=
  .object
    [("choices",
        .array
          [.object [("message", .object [("content", .string text)])]]),
      ("usage",
        .object
          [("prompt_tokens", .int 1), ("completion_tokens", .int 1),
            ("total_tokens", .int 2)])]

/-- A gateway that first fails, then answers what is rejected, then answers. -/
def stumblingGateway : Nat → PostAnswer
  | 0 => .answered 503 (.error "unavailable")
  | 1 => .answered 200 (.ok (sampleResponse "perhaps"))
  | _ => .answered 200 (.ok (sampleResponse "yes"))

/-- How that gateway serves. -/
def serveStumbling
    (world : ModelWorld) :
    (asked : ModelRequest) → Option (ModelAnswer asked × ModelWorld)
  | .post _ =>
      some
        (stumblingGateway world.posts,
          { world with posts := world.posts + 1 })
  | .sleep _ => some (true, world)
  | .countUsage usage =>
      some
        ((), { world with totals := some (Usage.add world.totals usage) })

/-- The gateway may be as that one. -/
theorem serves_stumbling
    {world served : ModelWorld}
    {asked : ModelRequest}
    {answer : ModelAnswer asked}
    (answered : serveStumbling world asked = some (answer, served)) :
    ServesModel world asked answer served := by
  cases asked with
  | post payload =>
      cases answered
      exact .post world payload _
  | sleep seconds =>
      cases answered
      exact .sleep world seconds _
  | countUsage usage =>
      cases answered
      exact .countUsage world usage

/-- A recorded decision was accepted, after three posts and two responses. -/
def acceptedAtThird
    (ended :
      List (Program.Exchange ModelWorld ModelRequest ModelAnswer) ×
        Program.Outcome ProviderError String × ModelWorld) : Bool :=
  match ended.2.1 with
  | .returned value =>
      decide (value = "yes") &&
        decide ((postsOf ended.1).length = 3) &&
        decide (ended.2.2.totals = some ⟨2, 2, 4⟩)
  | _ => false

/-- The sample decision is accepted at its third post. -/
theorem sampleDecision_execution :
    ∃ exchanges final,
      Program.Execution modelGateway sampleDecision.completeStructured
          ⟨none, 0⟩ exchanges (.returned "yes") final ∧
        (postsOf exchanges).length = 3 ∧
        final.totals = some ⟨2, 2, 4⟩ := by
  have accepted :
      (sampleDecision.completeStructured.record (fun world _ => world)
            serveStumbling ⟨none, 0⟩).any acceptedAtThird =
        true := by
    decide +kernel
  obtain ⟨⟨exchanges, outcome, final⟩, recorded, success⟩ :=
    (Option.any_eq_true _ _).mp accepted
  have ran :
      Program.Execution modelGateway sampleDecision.completeStructured
        ⟨none, 0⟩ exchanges outcome final :=
    Program.execution_of_record (fun _ _ => rfl)
      (fun _ _ _ _ => serves_stumbling) recorded
  cases outcome with
  | returned value =>
      simp only [acceptedAtThird, Bool.and_eq_true,
        decide_eq_true_eq] at success
      obtain ⟨⟨rfl, three⟩, counted⟩ := success
      exact ⟨exchanges, final, ran, three, counted⟩
  | raised error => cases success
  | died => cases success

/-- The three posts of the sample decision follow from each other. -/
theorem decision_posts_follow_sample :
    ∃ posts : List ModelPost,
      posts.length = 3 ∧
        posts.IsChain sampleDecision.Follows ∧
        ∃ text,
          LastTold PostAnswer.content posts (.string text) ∧
            sampleDecision.validate (unfenced text) = .ok "yes" := by
  obtain ⟨exchanges, final, ran, three, -⟩ := sampleDecision_execution
  obtain ⟨posted, told⟩ := decision_posts_follow ran
  exact ⟨postsOf exchanges, three, posted.follows, told "yes" rfl⟩

/-- The sample decision is that of the model that its three posts tell of. -/
theorem decision_refines_model_sample :
    ∃ posts : List ModelPost,
      posts.length = 3 ∧
        completeStructured
            (budgeted sampleDecision.instruction
              (sampleDecision.answering
                (completions (retryAttempts - 1) posts)))
            sampleDecision.validate sampleDecision.messages =
          .ok "yes" := by
  obtain ⟨exchanges, final, ran, three, -⟩ := sampleDecision_execution
  have refines := decision_refines_model ran
  exact ⟨postsOf exchanges, three, refines⟩

/-- Two responses of the sample decision are counted. -/
theorem usage_counted_once_sample :
    ∃ posts : List ModelPost,
      posts.length = 3 ∧ tallied none posts = some ⟨2, 2, 4⟩ := by
  obtain ⟨exchanges, final, ran, three, counted⟩ :=
    sampleDecision_execution
  have once := usage_counted_once (by simp) ran
  exact ⟨postsOf exchanges, three, once.symm.trans counted⟩

end IncidentPilot
