import OpenRill.Connectors.Delivery
import OpenRill.Lib.JsonText
import OpenRill.Lib.Utf8

/-!
# How certain the outcome of a Mattermost post is

`deliver` of the Mattermost connector down to its one call of `fetch`, and what its four
catch blocks tell the connector runtime. The URL is made of constants and of a base URL
that the constructor has accepted. The server, the name lookup and the timer are a
`World`. Only a failure whose answer shows that no post was created may be tried again.
-/

namespace OpenRill.Connectors.PostCertainty

open Lib Lib.Text Lib.Utf8 Delivery

structure MattermostError where
  code : String
  message : String
  retryable : Bool
  deliveryCertainty : Option DeliveryCertainty

def MattermostError.fatal (code message : String) : MattermostError :=
  ⟨code, message, false, none⟩

inductive Thrown where
  | mattermost (error : MattermostError)
  | other

def ConnectorDeliveryError (code message : String) (certainty : DeliveryCertainty)
    (retryable : Bool) : FailureReport :=
  ⟨code, message, certainty, retryable, none⟩

/-- An answer of the server. Its body may break off after these chunks; a declared length
that is no number counts as none. -/
structure Response where
  status : Nat
  contentLength : Nat
  chunks : List (List UInt8)
  broken : Bool
  noContent : status = 204 → chunks = []

def Response.ok (response : Response) : Bool :=
  decide (200 ≤ response.status) && decide (response.status ≤ 299)

/-- What the outside does to a delivery. `fetched` is `none` when `fetch` rejects, and a
failed lookup has no addresses. -/
structure World where
  allowPrivateNetwork : Bool
  addresses : List String
  headersValid : Bool
  fetched : Option Response
  timedOut : Bool

structure DeliveryPayload where
  payload : Json
  targetKey : String
  threadKey : String

structure PostRequest where
  channelId : String
  rootId : Option String
  message : String

structure CreatedPost where
  id : String
  channelId : String
  rootId : Option String
  createAt : Option String

def MAX_SUCCESS_BYTES : Nat := 1048576

def MAX_ERROR_BYTES : Nat := 8192

def deliveryInvalid (message : String) : Thrown :=
  .mattermost (.fatal "MATTERMOST_DELIVERY_INVALID" message)

def badKey (key : String) : Bool :=
  decide (256 < utf16Length key) || key.toList.any isTrimmed

def parseMattermostDelivery (claim : DeliveryPayload) : Except Thrown PostRequest :=
  match claim.payload with
  | .object _ =>
    match claim.payload.textMember "text" with
    | some text =>
      if trim text = "" ∨ 65536 < utf16Length text then
        .error (deliveryInvalid "Mattermost delivery text is invalid")
      else if claim.targetKey = "" ∨ badKey claim.targetKey then
        .error (deliveryInvalid "Mattermost delivery channel is invalid")
      else if badKey claim.threadKey then
        .error (deliveryInvalid "Mattermost delivery thread is invalid")
      else .ok ⟨claim.targetKey, if claim.threadKey = "" then none else some claim.threadKey,
        trim text⟩
    | none => .error (deliveryInvalid "Mattermost delivery text is invalid")
  | _ => .error (deliveryInvalid "Mattermost delivery payload is invalid")

def responseInvalid (message : String) : Thrown :=
  .mattermost (.fatal "MATTERMOST_RESPONSE_INVALID" message)

def parseCreatedPost (value : Json) : Except Thrown CreatedPost :=
  match value.textMember "id", value.textMember "channel_id" with
  | some id, some channelId =>
    if id = "" ∨ channelId = "" then
      .error (responseInvalid "Mattermost post response is invalid")
    else .ok ⟨id, channelId, value.textMember "root_id",
      match value.member "create_at" with
      | some (.number literal) => some literal
      | _ => none⟩
  | _, _ => .error (responseInvalid "Mattermost post response is invalid")

def tooLarge : Thrown :=
  .mattermost (.fatal "MATTERMOST_RESPONSE_TOO_LARGE"
    "Mattermost response exceeds the size limit")

/-- `TextDecoder` drops one leading byte order mark. -/
def decoded (bytes : List UInt8) : List Char :=
  match decodeFrom .ready bytes with
  | [] => []
  | first :: rest => if first = byteOrderMark then rest else first :: rest

def readChunks (maximumBytes : Nat) (broken : Bool) : Nat → List (List UInt8) →
    Except Thrown (List UInt8)
  | _, [] => if broken then .error .other else .ok []
  | total, chunk :: rest =>
    if maximumBytes < total + chunk.length then .error tooLarge
    else (readChunks maximumBytes broken (total + chunk.length) rest).map (chunk ++ ·)

def readLimited (response : Response) (maximumBytes : Nat) : Except Thrown (List Char) :=
  if maximumBytes < response.contentLength then .error tooLarge
  else (readChunks maximumBytes response.broken 0 response.chunks).map decoded

section Delivering

variable (privateAddress : String → Bool)

def assertMattermostNetworkAllowed (world : World) : Except Thrown Unit :=
  if world.allowPrivateNetwork then .ok ()
  else if world.addresses = [] then
    .error (.mattermost ⟨"MATTERMOST_API_UNAVAILABLE", "Mattermost host resolution failed",
      true, some .notSent⟩)
  else if world.addresses.any privateAddress then
    .error (.mattermost ⟨"MATTERMOST_CONFIG_INVALID",
      "Mattermost private network access requires explicit opt-in", false, some .notSent⟩)
  else .ok ()

def rejection (response : Response) (delivery : Bool) : MattermostError :=
  let body := match readLimited response MAX_ERROR_BYTES with
    | .ok text => String.ofList text
    | .error _ => ""
  { code := if response.status = 401 ∨ response.status = 403 then "MATTERMOST_AUTH_FAILED"
      else "MATTERMOST_API_REJECTED"
    message := "Mattermost API rejected request (" ++ toString response.status ++ ")" ++
      (if body = "" then "" else ": " ++ sliceUnits 256 body)
    retryable := decide (response.status = 408) || decide (response.status = 429) ||
      decide (500 ≤ response.status)
    deliveryCertainty := if delivery then some .rejected else none }

def readBody (body : List Char) : Except Thrown Json :=
  if body = [] then .ok .null
  else
    match parseJson body with
    | some value => .ok value
    | none => .error (responseInvalid "Mattermost response is not valid JSON")

/-- The body of the `try` once `fetch` has answered. -/
def readResponse (response : Response) (delivery : Bool) : Except Thrown Json :=
  if response.ok then
    if response.status = 204 then .ok .null
    else (readLimited response MAX_SUCCESS_BYTES).bind readBody
  else .error (.mattermost (rejection response delivery))

def unavailable (timedOut delivery : Bool) : MattermostError where
  code := "MATTERMOST_API_UNAVAILABLE"
  message := if timedOut then "Mattermost request timed out"
    else "Mattermost request failed before a response was accepted"
  retryable := true
  deliveryCertainty := if delivery then some .maybeAccepted else none

/-- What `fetch` was called with, if it was, and how the call ended. -/
structure Outcome (Failure Value : Type) where
  sent : Option Json
  result : Except Failure Value

def caught (world : World) (delivery : Bool) : Except Thrown Json → Except Thrown Json
  | .error .other => .error (.mattermost (unavailable world.timedOut delivery))
  | settled => settled

def request (body : Json) (delivery : Bool) (world : World) : Outcome Thrown Json :=
  match assertMattermostNetworkAllowed privateAddress world with
  | .error refused => ⟨none, .error refused⟩
  | .ok () =>
    if world.headersValid then
      ⟨some body, caught world delivery
        (world.fetched.elim (.error .other) (readResponse · delivery))⟩
    else ⟨none, .error .other⟩

def postBody (input : PostRequest) : Json :=
  .object ([("channel_id", .text input.channelId), ("message", .text input.message)] ++
    (input.rootId.map (fun rootId => ("root_id", Json.text rootId))).toList)

def createPostFailure : Thrown → FailureReport
  | .mattermost error =>
    let certainty := error.deliveryCertainty.getD
      (if error.code = "MATTERMOST_AUTH_FAILED" ∨ error.code = "MATTERMOST_API_REJECTED" then
        .rejected else .maybeAccepted)
    ConnectorDeliveryError error.code error.message certainty
      (if certainty = .maybeAccepted then false else error.retryable)
  | .other => ConnectorDeliveryError "MATTERMOST_API_UNAVAILABLE"
    "Mattermost request failed before dispatch" .notSent true

structure AcceptedPost where
  providerMessageId : String
  providerConversationId : String
  providerThreadId : Option String
  receipt : Json

def acceptedPost (post : CreatedPost) : AcceptedPost where
  providerMessageId := post.id
  providerConversationId := post.channelId
  providerThreadId := post.rootId.filter (· ≠ "")
  receipt := .object [("id", .text post.id), ("channelId", .text post.channelId),
    ("rootId", .text (post.rootId.getD "")), ("createAt", .number (post.createAt.getD "0"))]

def createPost (input : PostRequest) (world : World) : Outcome FailureReport CreatedPost :=
  let requested := request privateAddress (postBody input) true world
  ⟨requested.sent,
    match requested.result.bind parseCreatedPost with
    | .ok post => .ok post
    | .error thrown => .error (createPostFailure thrown)⟩

def deliver (claim : DeliveryPayload) (world : World) : Outcome FailureReport AcceptedPost :=
  match parseMattermostDelivery claim with
  | .ok input =>
    let posted := createPost privateAddress input world
    ⟨posted.sent, posted.result.map acceptedPost⟩
  | .error (.mattermost error) =>
    ⟨none, .error (ConnectorDeliveryError error.code error.message .notSent error.retryable)⟩
  | .error .other => ⟨none, .error (ConnectorDeliveryError "MATTERMOST_API_UNAVAILABLE"
    "Mattermost delivery failed before request dispatch" .notSent true)⟩

/-! ## What a report may say -/

/-- Neither a success nor an answer that a server may give after it created the post. -/
def Response.ProvesNoPost (response : Response) : Prop :=
  response.ok = false ∧ response.status ≠ 408 ∧ response.status < 500

def WellFormedPost (value : Json) : Prop :=
  ∃ id channelId, value.textMember "id" = some id ∧ id ≠ "" ∧
    value.textMember "channel_id" = some channelId ∧ channelId ≠ ""

/-- A success whose whole body, within the size limit, is the created post. -/
structure Response.Accepts (response : Response) : Prop where
  success : response.ok = true
  declared : response.contentLength ≤ MAX_SUCCESS_BYTES
  whole : response.broken = false
  limited : response.chunks.flatten.length ≤ MAX_SUCCESS_BYTES
  post : ∃ value, parseJson (decoded response.chunks.flatten) = some value ∧
    WellFormedPost value

def Answers (world : World) (property : Response → Prop) : Prop :=
  ∃ response, world.fetched = some response ∧ property response

variable {world : World} {response : Response} {claim : DeliveryPayload}

theorem answers_iff (answered : world.fetched = some response)
    (property : Response → Prop) : Answers world property ↔ property response := by
  simp [Answers, answered]

structure Truthful (world : World) (sent : Option Json) (report : FailureReport) : Prop where
  notSent : report.certainty = .notSent ↔ sent = none
  retried : sent ≠ none → report.retryable = true → Answers world Response.ProvesNoPost
  unknown : sent ≠ none → ¬ Answers world Response.ProvesNoPost →
    report.certainty = .maybeAccepted ∧ report.retryable = false

structure Exact (world : World) (delivered : Outcome FailureReport AcceptedPost) : Prop where
  failed : ∀ report, delivered.result = .error report → Truthful world delivered.sent report
  accepted : (∃ receipt, delivered.result = .ok receipt) ↔
    delivered.sent ≠ none ∧ Answers world Response.Accepts

/-- The claim is a post, the network check passes and the headers can be written. -/
structure Dispatches (claim : DeliveryPayload) (world : World) : Prop where
  parsed : ∃ input, parseMattermostDelivery claim = .ok input
  allowed : assertMattermostNetworkAllowed privateAddress world = .ok ()
  written : world.headersValid = true

/-- The answers that the code takes for a refusal although they prove nothing. -/
def Response.Doubtful (response : Response) : Prop :=
  response.status = 408 ∨ 500 ≤ response.status

/-! ## Reading an answer -/

theorem readChunks_eq {total : Nat} (inside : total ≤ maximumBytes)
    (chunks : List (List UInt8)) :
    readChunks maximumBytes broken total chunks =
      if maximumBytes < total + chunks.flatten.length then .error tooLarge
      else if broken then .error .other else .ok chunks.flatten := by
  induction chunks generalizing total with
  | nil => simp [readChunks, Nat.not_lt.mpr inside]
  | cons chunk rest ih =>
    rw [readChunks, List.flatten_cons, List.length_append, ← Nat.add_assoc]
    split
    · next large => rw [if_pos (by omega)]
    · next small =>
      rw [ih (Nat.le_of_not_lt small)]
      split
      · rfl
      · cases broken <;> rfl

theorem readLimited_eq (response : Response) :
    readLimited response maximumBytes =
      if maximumBytes < response.contentLength then .error tooLarge
      else if maximumBytes < response.chunks.flatten.length then .error tooLarge
      else if response.broken then .error .other
      else .ok (decoded response.chunks.flatten) := by
  rw [readLimited, readChunks_eq (Nat.zero_le _), Nat.zero_add]
  split
  · rfl
  · split
    · rfl
    · cases response.broken <;> rfl

/-- An error that names no certainty and no refusal. -/
def MattermostError.Unsure (error : MattermostError) : Prop :=
  error.deliveryCertainty.getD
    (if error.code = "MATTERMOST_AUTH_FAILED" ∨ error.code = "MATTERMOST_API_REJECTED" then
      .rejected else .maybeAccepted) = .maybeAccepted

theorem createPostFailure_unsure {error : MattermostError} (unsure : error.Unsure) :
    (createPostFailure (.mattermost error)).certainty = .maybeAccepted ∧
      (createPostFailure (.mattermost error)).retryable = false := by
  unfold MattermostError.Unsure at unsure
  simp only [createPostFailure, ConnectorDeliveryError, unsure, ite_true, and_self]

/-- Accepted, or failed in a way that leaves open what the server did. -/
def Settles (accepts : Prop) (result : Except Thrown CreatedPost) : Prop :=
  (accepts ∧ ∃ post, result = .ok post) ∨
    (¬ accepts ∧ ∃ error : MattermostError, result = .error (.mattermost error) ∧ error.Unsure)

theorem parseCreatedPost_settles (value : Json) :
    Settles (WellFormedPost value) (parseCreatedPost value) := by
  unfold parseCreatedPost WellFormedPost
  split
  · next id channelId isId isChannel =>
    simp only [isId, isChannel, Option.some.injEq]
    split
    · next empty => exact .inr ⟨by rintro ⟨_, _, rfl, _, rfl, _⟩; tauto, _, rfl, rfl⟩
    · next full => exact .inl ⟨⟨id, channelId, rfl, by tauto, rfl, by tauto⟩, _, rfl⟩
  · next incomplete =>
    refine .inr ⟨?_, _, rfl, rfl⟩
    rintro ⟨id, channelId, isId, _, isChannel, _⟩
    exact incomplete id channelId isId isChannel

def postedWorld (world : World) : Except Thrown CreatedPost :=
  (caught world true (world.fetched.elim (.error .other) (readResponse · true))).bind
    parseCreatedPost

theorem decoded_nil : parseJson (decoded []) = none := by rfl

theorem posted_success (answered : world.fetched = some response)
    (good : response.ok = true) : Settles response.Accepts (postedWorld world) := by
  have unread (unreadable : parseJson (decoded response.chunks.flatten) = none) :
      ¬ response.Accepts := by
    rintro ⟨_, _, _, _, value, parsed, _⟩
    simp [unreadable] at parsed
  simp only [postedWorld, answered, Option.elim, readResponse, good, ite_true, readLimited_eq]
  split
  · next noContent =>
    refine .inr ⟨unread ?_, _, rfl, rfl⟩
    rw [response.noContent noContent, List.flatten_nil, decoded_nil]
  split
  · next long => exact .inr ⟨fun accepts => absurd accepts.declared (by omega), _, rfl, rfl⟩
  split
  · next long => exact .inr ⟨fun accepts => absurd accepts.limited (by omega), _, rfl, rfl⟩
  split
  · next broken => exact .inr ⟨fun accepts => absurd accepts.whole (by simp [broken]), _, rfl, rfl⟩
  rw [show (Except.ok (decoded response.chunks.flatten)).bind readBody =
    readBody (decoded response.chunks.flatten) from rfl, readBody]
  cases parsed : parseJson (decoded response.chunks.flatten) with
  | none => split <;> exact .inr ⟨unread parsed, _, rfl, rfl⟩
  | some value =>
    have filled : decoded response.chunks.flatten ≠ [] := by
      intro empty
      rw [empty] at parsed
      cases parsed
    have onlyValue : response.Accepts ↔ WellFormedPost value := by
      constructor
      · rintro ⟨_, _, _, _, other, alsoParsed, formed⟩
        rw [parsed] at alsoParsed
        cases alsoParsed
        exact formed
      · exact fun formed => ⟨good, by omega, by simp_all, by omega, value, parsed, formed⟩
    rw [onlyValue, if_neg filled]
    exact parseCreatedPost_settles value

theorem posted_refused
    (answered : world.fetched = some response) (bad : response.ok = false) :
    postedWorld world = .error (.mattermost (rejection response true)) := by
  simp [postedWorld, answered, readResponse, bad, caught, Except.bind]

/-! ## What a delivery reports -/

theorem deliver_unsent
    (stopped : ¬ Dispatches privateAddress claim world) :
    ∃ report, deliver privateAddress claim world = ⟨none, .error report⟩ ∧
      report.certainty = .notSent := by
  unfold deliver
  split
  · next input parsed =>
    unfold createPost request
    split
    · next refused notAllowed =>
      have named : (createPostFailure refused).certainty = .notSent := by
        unfold assertMattermostNetworkAllowed at notAllowed
        split_ifs at notAllowed
        · rw [← Except.error.inj notAllowed]
          rfl
        · rw [← Except.error.inj notAllowed]
          rfl
      exact ⟨_, rfl, named⟩
    · next allowed =>
      split
      · next written => exact absurd ⟨⟨input, parsed⟩, allowed, written⟩ stopped
      · exact ⟨_, rfl, rfl⟩
  · exact ⟨_, rfl, rfl⟩
  · exact ⟨_, rfl, rfl⟩

theorem deliver_sent
    (dispatches : Dispatches privateAddress claim world) :
    ∃ body, deliver privateAddress claim world = ⟨some body,
      match postedWorld world with
      | .ok post => .ok (acceptedPost post)
      | .error thrown => .error (createPostFailure thrown)⟩ := by
  obtain ⟨⟨input, parsed⟩, allowed, written⟩ := dispatches
  refine ⟨postBody input, ?_⟩
  simp only [deliver, parsed, createPost, request, allowed, written, ite_true, postedWorld]
  split <;> simp [*, Except.map]

theorem posted_rejected (rejected : world.fetched = none) :
    postedWorld world = .error (.mattermost (unavailable world.timedOut true)) := by
  simp [postedWorld, rejected, caught, Except.bind]

theorem failed_exact_iff (sent : Option Json) (report : FailureReport) :
    Exact world ⟨sent, .error report⟩ ↔
      Truthful world sent report ∧ ¬ (sent ≠ none ∧ Answers world Response.Accepts) := by
  constructor
  · intro exact
    exact ⟨exact.failed report rfl, fun both => by simpa using exact.accepted.mpr both⟩
  · rintro ⟨truthful, refused⟩
    refine ⟨?_, by simp [refused]⟩
    rintro _ ⟨⟩
    exact truthful

theorem unsure_exact (body : Json) {error : MattermostError}
    (unsure : error.Unsure) (refused : ¬ Answers world Response.Accepts) :
    Exact world ⟨some body, .error (createPostFailure (.mattermost error))⟩ := by
  obtain ⟨certainty, settled⟩ := createPostFailure_unsure unsure
  rw [failed_exact_iff]
  exact ⟨⟨by simp [certainty], by simp [settled], fun _ _ => ⟨certainty, settled⟩⟩,
    fun both => refused both.2⟩

/-- A refusal is reported as one that the server certainly gave. -/
theorem refused_exact_iff (body : Json)
    (answered : world.fetched = some response) (bad : response.ok = false) :
    Exact world ⟨some body, .error (createPostFailure
      (.mattermost (rejection response true)))⟩ ↔ ¬ response.Doubtful := by
  have certainty : (createPostFailure (.mattermost (rejection response true))).certainty =
      .rejected := rfl
  have refused : ¬ response.Accepts := fun accepts => by simpa [bad] using accepts.success
  rw [failed_exact_iff]
  simp only [answers_iff answered, refused, and_false, not_false_eq_true, and_true]
  constructor
  · intro truthful doubtful
    have proves : ¬ response.ProvesNoPost := by
      rintro ⟨_, noTimeout, noServer⟩
      unfold Response.Doubtful at doubtful
      omega
    have wrong := (truthful.unknown nofun ((answers_iff answered _).not.mpr proves)).1
    simp [certainty] at wrong
  · intro definite
    have proves : response.ProvesNoPost := by
      unfold Response.Doubtful at definite
      exact ⟨bad, by omega, by omega⟩
    have answers := (answers_iff answered _).mpr proves
    exact ⟨by simp [certainty], fun _ _ => answers, fun _ unproved => absurd answers unproved⟩

/-- A delivery is reported for what it is unless the server was called and answered with a
timeout or a failure of its own. -/
theorem delivery_certainty_iff (claim : DeliveryPayload) (world : World) :
    Exact world (deliver privateAddress claim world) ↔
      ¬ (Dispatches privateAddress claim world ∧ Answers world Response.Doubtful) := by
  by_cases dispatches : Dispatches privateAddress claim world
  · obtain ⟨body, reported⟩ := deliver_sent privateAddress dispatches
    rw [reported]
    simp only [dispatches, true_and]
    cases answered : world.fetched with
    | none =>
      have silent : ∀ property, ¬ Answers world property := by
        simp [Answers, answered]
      have unsure : (unavailable world.timedOut true).Unsure := rfl
      rw [posted_rejected answered]
      exact iff_of_true (unsure_exact body unsure (silent _)) (silent _)
    | some response =>
      rw [answers_iff answered]
      cases good : response.ok with
      | false =>
        rw [posted_refused answered good]
        exact refused_exact_iff body answered good
      | true =>
        have definite : ¬ response.Doubtful := by
          simp only [Response.ok, Bool.and_eq_true, decide_eq_true_eq] at good
          unfold Response.Doubtful
          omega
        refine iff_of_true ?_ definite
        obtain ⟨accepts, post, posted⟩ | ⟨refused, error, posted, unsure⟩ :=
          posted_success answered good
        · rw [posted]
          exact ⟨nofun, by simp [answers_iff answered, accepts]⟩
        · rw [posted]
          exact unsure_exact body unsure ((answers_iff answered _).not.mpr refused)
  · obtain ⟨report, reported, unsure⟩ := deliver_unsent privateAddress dispatches
    rw [reported, failed_exact_iff]
    exact iff_of_true ⟨⟨by simp [unsure], nofun, nofun⟩, by simp⟩ (by simp [dispatches])

end Delivering

def serverFailure : World :=
  ⟨true, [], true, some ⟨500, 0, [], false, by decide⟩, false⟩

def helloDelivery : DeliveryPayload := ⟨.object [("text", .text "hello")], "channel", ""⟩

/-- An answer 500, which a server may give after it stored the post, is reported as a
rejection that may be tried again. -/
theorem server_failure_is_retried :
    ¬ Exact serverFailure (deliver (fun _ => false) helloDelivery serverFailure) := by
  intro exact
  have retried := (exact.failed _ rfl).retried nofun rfl
  simp [Answers, serverFailure, Response.ProvesNoPost] at retried

end OpenRill.Connectors.PostCertainty
