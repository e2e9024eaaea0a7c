import XrayChecker.Go.Time

/-
Requests to Telegram through the nodes.  A node can lose or rewrite an answer
after Telegram processed the request, and the bot cannot see which.
-/

namespace XrayChecker.Telegram

open Go

/-- The fields of `apiResponse`; `result` stays undecoded. -/
structure ApiResponse where
  ok : Bool
  result : Text := []
  description : Text := []
  errorCode : Int := 0
  retryAfter : Option Int := none
deriving DecidableEq

/-- `time.Duration(n) * time.Second`, which wraps at 64 bits. -/
def secondsDuration (n : Int) : Int :=
  (n * 1000000000).bmod (2 ^ 64)

/-- The digits after the point, without trailing zeros. -/
def fractionText (value digits : Nat) : Text :=
  let text := itoa (value % 10 ^ digits)
  let kept := (List.replicate (digits - text.length) '0' ++ text).rdropWhile
    (· = '0')
  if kept = [] then [] else '.' :: kept

/-- `Duration.String` of a positive duration in nanoseconds. -/
def durationText (d : Nat) : Text :=
  if d < 10 ^ 3 then itoa d ++ "ns"
  else if d < 10 ^ 6 then itoa (d / 10 ^ 3) ++ fractionText d 3 ++ "µs"
  else if d < 10 ^ 9 then itoa (d / 10 ^ 6) ++ fractionText d 6 ++ "ms"
  else
    let seconds := d / 10 ^ 9
    let text := itoa (seconds % 60) ++ fractionText d 9 ++ "s"
    if seconds < 60 then text
    else
      let text := itoa (seconds / 60 % 60) ++ "m" ++ text
      if seconds < 3600 then text else itoa (seconds / 3600) ++ "h" ++ text

/-- `apiError`. -/
structure ApiError where
  method : Text
  errorCode : Int
  description : Text
  retryAfter : Int := 0
deriving DecidableEq

def ApiError.text (e : ApiError) : Text :=
  let text :=
    if e.errorCode > 0 then
      "Telegram API error " ++ itoaInt e.errorCode ++ " on " ++ e.method ++
        ": " ++ e.description
    else "Telegram API error on " ++ e.method ++ ": " ++ e.description
  if e.retryAfter > 0 then
    text ++ " (retry after " ++ durationText e.retryAfter.toNat ++ ")"
  else text

/-- The errors of `doAPI`: an answer of Telegram, a `deliveryUnknownError`,
or any other. -/
inductive TransportError where
  | api (e : ApiError)
  | deliveryUnknown (method node text : Text)
  | other (text : Text)
deriving DecidableEq

def TransportError.text : TransportError → Text
  | .api e => e.text
  | .deliveryUnknown method node text =>
      node ++ ": " ++ method ++ " delivery result is unknown: " ++ text
  | .other text => text

/-- `newAPIError`. -/
def newAPIError (method : Text) (statusCode : Nat) (resp : ApiResponse) :
    ApiError where
  method := method
  errorCode := if resp.errorCode = 0 then statusCode else resp.errorCode
  description :=
    let description := trimSpace resp.description
    if description = [] then "HTTP " ++ itoa statusCode else description
  retryAfter :=
    match resp.retryAfter with
    | some n => if n > 0 then secondsDuration n else 0
    | none => 0

/-- What `doAPI` makes of a body that parses. -/
def verdict (method : Text) (status : Nat) (resp : ApiResponse) :
    Except TransportError Text :=
  if !resp.ok then .error (.api (newAPIError method status resp))
  else if status < 200 ∨ 300 ≤ status then
    .error (.api
      { method := method, errorCode := status
        description := "HTTP " ++ itoa status })
  else .ok resp.result

/-- An answer of Telegram: a message it accepted is answered with a status of
success. -/
structure Answer where
  status : Nat
  response : ApiResponse
  success : response.ok = true → 200 ≤ status ∧ status < 300

/-- What the bot sees of a request where no answer of Telegram comes back. -/
inductive Seen where
  /-- The connection is lost before any answer, or the caller gives up. -/
  | lost (text : Text) (cancelled : Bool)
  | cut (text : Text)
  /-- The body is not one of Telegram; it may parse all the same. -/
  | replaced (status : Nat) (body : Except Text ApiResponse)

/-- The end of a request through a node. -/
inductive Outcome where
  /-- There is no client for the node. -/
  | noClient (text : Text)
  | unreached (seen : Seen)
  /-- Telegram processed the request and its answer did not come back. -/
  | processed (accepted : Bool) (seen : Seen)
  | answered (answer : Answer)

namespace Outcome

/-- A request went out. -/
def requested : Outcome → Bool
  | .noClient _ => false
  | _ => true

/-- Telegram processed the request. -/
def reached : Outcome → Bool
  | .processed _ _ => true
  | .answered _ => true
  | _ => false

/-- Telegram accepted the message. -/
def accepted : Outcome → Bool
  | .processed accepted _ => accepted
  | .answered answer => answer.response.ok
  | _ => false

/-- Telegram itself refused the message, and said so. -/
def refused : Outcome → Bool
  | .answered answer => !answer.response.ok
  | _ => false

/-- An answer of Telegram came back. -/
def isAnswered : Outcome → Bool
  | .answered _ => true
  | _ => false

end Outcome

/-- A node to try, by its name, with the end of the request through it. -/
structure Candidate where
  name : Text
  outcome : Outcome

/-- What one iteration of `doAPI` ends in: the next candidate, or a return. -/
inductive Attempt where
  | next (lastErr : TransportError)
  | done (result : Except TransportError Text)

/-- The arguments `doAPI` makes its requests of; `unbuilt` is the error of
`http.NewRequestWithContext`, which does not depend on the node. -/
structure Api where
  botToken : Text
  method : Text
  unbuilt : Option Text := none

namespace Api

variable (api : Api)

/-- `telegramAPIErrorText`. -/
def errorText (text : Text) : Text :=
  if api.botToken = [] then text
  else replaceAll text api.botToken "[REDACTED]"

def see (name : Text) : Seen → Attempt
  | .lost text true =>
      .done (.error (.other (name ++ ": " ++ api.errorText text)))
  | .lost text false => .next (.other (name ++ ": " ++ api.errorText text))
  | .cut text => .done (.error (.deliveryUnknown api.method name text))
  | .replaced status (.error text) =>
      .next (.other (name ++ ": invalid Telegram response (HTTP " ++
        itoa status ++ "): " ++ text))
  | .replaced status (.ok resp) => .done (verdict api.method status resp)

/-- One iteration of the loop of `doAPI`. -/
def attempt (candidate : Candidate) : Attempt :=
  match candidate.outcome, api.unbuilt with
  | .noClient text, _ => .next (.other text)
  | _, some text =>
      .done (.error (.other
        ("build Telegram request: " ++ api.errorText text)))
  | .unreached seen, none => api.see candidate.name seen
  | .processed _ seen, none => api.see candidate.name seen
  | .answered answer, none =>
      .done (verdict api.method answer.status answer.response)

/-- The request of an iteration, if one goes out. -/
def request (candidate : Candidate) : List Outcome :=
  if candidate.outcome.requested ∧ api.unbuilt = none then [candidate.outcome]
  else []

/-- The loop of `doAPI`, with the requests it makes. -/
def loop (lastErr : TransportError) :
    List Candidate → List Outcome × Except TransportError Text
  | [] => ([], .error lastErr)
  | candidate :: rest =>
      match api.attempt candidate with
      | .done result => (api.request candidate, result)
      | .next err =>
          let (requests, result) := loop err rest
          (api.request candidate ++ requests, result)

/-- `doAPI`, with the requests it makes. -/
def doAPI (candidates : List Candidate) :
    List Outcome × Except TransportError Text :=
  if api.botToken = [] then
    ([], .error (.other "Telegram bot token is empty"))
  else if candidates = [] then
    ([], .error (.other "no available Xray node for Telegram API"))
  else api.loop (.other "Telegram API request failed") candidates

end Api

def maxRichMessageRunes : Nat := 32768

def canSendRichMessage (value : Text) : Bool :=
  let value := trimSpace value
  value ≠ [] && decide (runeCount value ≤ maxRichMessageRunes)

def TransportError.asAPIError : TransportError → Option ApiError
  | .api e => some e
  | _ => none

def shouldFallbackRichMessage (err : TransportError) : Bool :=
  let limited := err.asAPIError.any fun e =>
    e.retryAfter > 0 || e.errorCode == 429
  let text := toLower err.text
  !limited && (contains text "http 400" || contains text "http 404" ||
    contains text "bad request" || contains text "telegram api error")

def richMessageUnsupported (err : TransportError) : Bool :=
  let text := toLower err.text
  contains text "http 404" || contains text "method not found" ||
    contains text "unknown method"

/-- The service and the content a message is sent with; each of the two
variants asks for its candidates when it is its turn. -/
structure Sending where
  botToken : Text
  richHTML : Text
  richMessages : Int
  unbuilt : Option Text := none
  rich : List Candidate
  compact : List Candidate

/-- What one call does: the requests for either variant, the calls of
`setRichMessageSupport` and what it returns. -/
structure Sent where
  rich : List Outcome := []
  compact : Option (List Outcome) := none
  support : List Int := []
  result : Except TransportError Text

namespace Sending

variable (s : Sending)

def richApi : Api where
  botToken := s.botToken
  method := "sendRichMessage"
  unbuilt := s.unbuilt

def compactApi : Api where
  botToken := s.botToken
  method := "sendMessage"
  unbuilt := s.unbuilt

/-- The rich variant is tried. -/
def triesRich : Bool :=
  canSendRichMessage s.richHTML && decide (0 ≤ s.richMessages)

/-- `sendHTMLToWithMarkup`, after what the rich variant did. -/
def sendHTMLToWithMarkup (rich : List Outcome) (support : List Int) : Sent :=
  let (compact, result) := s.compactApi.doAPI s.compact
  { rich := rich, compact := some compact, support := support
    result := result }

def sendFormattedToWithMarkup : Sent :=
  if s.triesRich then
    match s.richApi.doAPI s.rich with
    | (rich, .ok result) =>
        { rich := rich, support := [1], result := .ok result }
    | (rich, .error err) =>
        if shouldFallbackRichMessage err then
          s.sendHTMLToWithMarkup rich
            (if richMessageUnsupported err then [-1] else [])
        else { rich := rich, result := .error err }
  else s.sendHTMLToWithMarkup [] []

end Sending

/-- Telegram accepts at most one message of a call. -/
structure AtMostOne (s : Sending) : Prop where
  accepted : (s.sendFormattedToWithMarkup.rich ++
    s.sendFormattedToWithMarkup.compact.getD []).countP Outcome.accepted ≤ 1
  /-- No request follows one that Telegram processed. -/
  richOnce : ∀ o ∈ s.sendFormattedToWithMarkup.rich.dropLast,
    o.reached = false
  compactOnce : ∀ requests ∈ s.sendFormattedToWithMarkup.compact,
    ∀ o ∈ requests.dropLast, o.reached = false
  /-- The compact variant follows a rich one only when Telegram refused it. -/
  refused : s.triesRich = true →
    s.sendFormattedToWithMarkup.compact.isSome = true →
    ∃ o ∈ s.sendFormattedToWithMarkup.rich.getLast?, o.refused = true
  /-- Rich messages are switched off by an answer of Telegram. -/
  switchedOff : -1 ∈ s.sendFormattedToWithMarkup.support →
    ∃ o ∈ s.sendFormattedToWithMarkup.rich.getLast?, o.isAnswered = true

namespace Api

variable (api : Api)

/-- The loop goes on after a candidate. -/
def goesOn (candidate : Candidate) : Bool :=
  match api.attempt candidate with
  | .next _ => true
  | .done _ => false

/-- The candidate a call ends at: the first one the loop does not go on
after, or the last one. -/
def ending (candidates : List Candidate) : Option Candidate :=
  (candidates.find? fun candidate => !api.goesOn candidate).or
    candidates.getLast?

/-- An answer of Telegram comes back through a candidate. -/
def hears (candidate : Candidate) : Bool :=
  api.unbuilt.isNone && candidate.outcome.isAnswered

/-- A candidate whose request Telegram processed, and after which the loop
goes on, has no candidate with a client behind it. -/
def NoRepeat (candidates : List Candidate) : Prop :=
  ∀ before candidate after, candidates = before ++ candidate :: after →
    (∀ earlier ∈ before, api.goesOn earlier = true) →
    api.goesOn candidate = true → candidate.outcome.reached = true →
    ∀ later ∈ after, later.outcome.requested = false

end Api

/-- What a call returns that ends after an iteration. -/
def Attempt.result : Attempt → Except TransportError Text
  | .next err => .error err
  | .done result => result

/-- The error the rich variant ends with lets the compact one be sent. -/
def Sending.FallsBack (s : Sending) : Prop :=
  ∃ candidate ∈ s.richApi.ending s.rich,
    ∃ err, (s.richApi.attempt candidate).result = .error err ∧
      shouldFallbackRichMessage err = true

/-- The condition on the candidates of a call. -/
structure Sending.Unambiguous (s : Sending) : Prop where
  rich : s.triesRich = true → s.richApi.NoRepeat s.rich
  /-- An error that is not an answer of Telegram does not look like one. -/
  refusal : s.triesRich = true → ∀ candidate ∈ s.richApi.ending s.rich,
    s.richApi.hears candidate = false →
    ∀ err, (s.richApi.attempt candidate).result = .error err →
      shouldFallbackRichMessage err = false
  compact : s.triesRich = false ∨ s.FallsBack →
    s.compactApi.NoRepeat s.compact

namespace Api

variable {api : Api} {lastErr : TransportError} {candidate : Candidate}
  {candidates rest : List Candidate}

theorem goesOn_of_next {err : TransportError}
    (h : api.attempt candidate = .next err) : api.goesOn candidate = true := by
  rw [goesOn, h]

theorem not_goesOn_of_done {result : Except TransportError Text}
    (h : api.attempt candidate = .done result) :
    api.goesOn candidate = false := by
  rw [goesOn, h]

theorem loop_next {err : TransportError}
    (h : api.attempt candidate = .next err) :
    api.loop lastErr (candidate :: rest) =
      (api.request candidate ++ (api.loop err rest).1,
        (api.loop err rest).2) := by
  rw [loop, h]

theorem loop_done {result : Except TransportError Text}
    (h : api.attempt candidate = .done result) :
    api.loop lastErr (candidate :: rest) = (api.request candidate, result) := by
  rw [loop, h]

theorem ending_next (h : api.goesOn candidate = true) :
    api.ending (candidate :: rest) =
      (api.ending rest).or (some candidate) := by
  rw [ending, ending, List.find?_cons_of_neg (by simp [h])]
  cases rest.find? fun candidate => !api.goesOn candidate with
  | some found => rfl
  | none =>
      cases rest with
      | nil => rfl
      | cons head tail =>
          rw [List.getLast?_cons_cons]
          cases hlast : (head :: tail).getLast? with
          | none => simp at hlast
          | some last => rfl

theorem ending_done (h : api.goesOn candidate = false) :
    api.ending (candidate :: rest) = some candidate := by
  rw [ending, List.find?_cons_of_pos (by simp [h])]
  rfl

/-- A call returns what the candidate it ends at leaves. -/
theorem loop_result (lastErr : TransportError) (candidates : List Candidate) :
    (api.loop lastErr candidates).2 =
      match api.ending candidates with
      | none => .error lastErr
      | some c => (api.attempt c).result := by
  induction candidates generalizing lastErr with
  | nil => rfl
  | cons candidate rest ih =>
      cases hattempt : api.attempt candidate with
      | done result =>
          rw [loop_done hattempt, ending_done (not_goesOn_of_done hattempt)]
          dsimp only
          rw [hattempt]
          rfl
      | next next =>
          rw [loop_next hattempt, ending_next (goesOn_of_next hattempt), ih]
          cases api.ending rest with
          | none =>
              dsimp only [Option.or]
              rw [hattempt]
              rfl
          | some c => rfl

theorem exists_ending (h : candidates ≠ []) :
    ∃ c, api.ending candidates = some c := by
  rw [ending, List.getLast?_eq_getLast_of_ne_nil h]
  cases candidates.find? fun candidate => !api.goesOn candidate with
  | none => exact ⟨_, rfl⟩
  | some c => exact ⟨c, rfl⟩

/-- With a token a call makes the requests of its loop. -/
theorem doAPI_requests (htoken : api.botToken ≠ [])
    (candidates : List Candidate) :
    (api.doAPI candidates).1 =
      (api.loop (.other "Telegram API request failed") candidates).1 := by
  rw [doAPI, if_neg htoken]
  split_ifs with hnone
  · rw [hnone]
    rfl
  · rfl

theorem doAPI_no_token (htoken : api.botToken = [])
    (candidates : List Candidate) :
    api.doAPI candidates =
      ([], .error (.other "Telegram bot token is empty")) := by
  rw [doAPI, if_pos htoken]

/-- A candidate through which an answer came back is the one a call ends
at. -/
theorem answered_ends {o : Outcome}
    (ho : o ∈ (api.loop lastErr candidates).1) (hanswered : o.isAnswered) :
    ∃ c ∈ api.ending candidates, api.hears c = true ∧ c.outcome = o := by
  have hrequest : ∀ c : Candidate, o ∈ api.request c →
      c.outcome = o ∧ api.hears c = true ∧ api.goesOn c = false := by
    intro c hc
    rw [request] at hc
    split_ifs at hc with hmade
    · obtain rfl := List.mem_singleton.mp hc
      refine ⟨rfl, by simp [hears, hmade.2, hanswered], ?_⟩
      cases houtcome : c.outcome with
      | answered answer => simp only [goesOn, attempt, houtcome, hmade.2]
      | noClient text => simp [houtcome, Outcome.isAnswered] at hanswered
      | unreached seen => simp [houtcome, Outcome.isAnswered] at hanswered
      | processed accepted seen =>
          simp [houtcome, Outcome.isAnswered] at hanswered
    · exact absurd hc List.not_mem_nil
  induction candidates generalizing lastErr with
  | nil => exact absurd ho List.not_mem_nil
  | cons candidate rest ih =>
      cases hattempt : api.attempt candidate with
      | done result =>
          rw [loop_done hattempt] at ho
          rw [ending_done (not_goesOn_of_done hattempt)]
          obtain ⟨hsame, hhears, -⟩ := hrequest candidate ho
          exact ⟨candidate, rfl, hhears, hsame⟩
      | next next =>
          rw [loop_next hattempt] at ho
          rw [ending_next (goesOn_of_next hattempt)]
          rcases List.mem_append.mp ho with hfirst | hlater
          · have hends := (hrequest candidate hfirst).2.2
            rw [goesOn_of_next hattempt] at hends
            exact Bool.noConfusion hends
          · obtain ⟨c, hc, hhears⟩ := ih hlater
            rw [Option.mem_def.mp hc]
            exact ⟨c, rfl, hhears⟩

/-- The answer that comes back is the end of the last request. -/
theorem ends_answered {c : Candidate} (hc : c ∈ api.ending candidates)
    (hhears : api.hears c = true) :
    (api.loop lastErr candidates).1.getLast? = some c.outcome := by
  have hmade : api.request c = [c.outcome] := by
    simp only [hears, Bool.and_eq_true, Option.isNone_iff_eq_none] at hhears
    rw [request, if_pos]
    refine ⟨?_, hhears.1⟩
    cases houtcome : c.outcome with
    | noClient text => simp [houtcome, Outcome.isAnswered] at hhears
    | unreached seen => rfl
    | processed accepted seen => rfl
    | answered answer => rfl
  have hends : api.goesOn c = false := by
    simp only [hears, Bool.and_eq_true, Option.isNone_iff_eq_none] at hhears
    cases houtcome : c.outcome with
    | answered answer => simp only [goesOn, attempt, houtcome, hhears.1]
    | noClient text => simp [houtcome, Outcome.isAnswered] at hhears
    | unreached seen => simp [houtcome, Outcome.isAnswered] at hhears
    | processed accepted seen => simp [houtcome, Outcome.isAnswered] at hhears
  induction candidates generalizing lastErr with
  | nil => exact nomatch hc
  | cons candidate rest ih =>
      cases hattempt : api.attempt candidate with
      | done result =>
          rw [ending_done (not_goesOn_of_done hattempt)] at hc
          obtain rfl := Option.some.inj hc
          rw [loop_done hattempt, hmade]
          rfl
      | next next =>
          rw [ending_next (goesOn_of_next hattempt)] at hc
          cases hrest : api.ending rest with
          | none =>
              rw [hrest] at hc
              obtain rfl := Option.some.inj hc
              rw [goesOn_of_next hattempt] at hends
              exact Bool.noConfusion hends
          | some last =>
              rw [hrest] at hc
              have hlast := @ih next (by rw [hrest]; exact hc)
              rw [loop_next hattempt, List.getLast?_append, hlast]
              rfl

theorem reached_requested {o : Outcome} (h : o.reached = true) :
    o.requested = true := by
  cases o with
  | noClient text => exact Bool.noConfusion h
  | unreached seen => rfl
  | processed accepted seen => rfl
  | answered answer => rfl

theorem unbuilt_of_goesOn (h : api.goesOn candidate = true)
    (hreached : candidate.outcome.reached = true) : api.unbuilt = none := by
  cases hunbuilt : api.unbuilt with
  | none => rfl
  | some text =>
      cases houtcome : candidate.outcome with
      | noClient text => simp [houtcome, Outcome.reached] at hreached
      | unreached seen => simp [goesOn, attempt, houtcome, hunbuilt] at h
      | processed accepted seen =>
          simp [goesOn, attempt, houtcome, hunbuilt] at h
      | answered answer => simp [goesOn, attempt, houtcome, hunbuilt] at h

/-- No request is made exactly where no candidate has a client. -/
theorem loop_requests_eq_nil (hbuilt : api.unbuilt = none) :
    (api.loop lastErr candidates).1 = [] ↔
      ∀ c ∈ candidates, c.outcome.requested = false := by
  have hrequest : ∀ c : Candidate,
      api.request c = [] ↔ c.outcome.requested = false := by
    intro c
    rw [request]
    split_ifs with hmade
    · simp [hmade.1]
    · simpa [hbuilt] using hmade
  induction candidates generalizing lastErr with
  | nil => exact iff_of_true rfl nofun
  | cons candidate rest ih =>
      rw [List.forall_mem_cons]
      cases hattempt : api.attempt candidate with
      | done result =>
          rw [loop_done hattempt, hrequest]
          have hclient : candidate.outcome.requested = true := by
            cases houtcome : candidate.outcome with
            | noClient text => simp [attempt, houtcome] at hattempt
            | unreached seen => rfl
            | processed accepted seen => rfl
            | answered answer => rfl
          simp [hclient]
      | next next =>
          rw [loop_next hattempt, List.append_eq_nil_iff, hrequest]
          exact and_congr_right fun _ => ih

theorem noRepeat_cons_done (h : api.goesOn candidate = false) :
    api.NoRepeat (candidate :: rest) := by
  intro before c after hsplit hbefore hc
  cases before with
  | nil =>
      obtain ⟨rfl, -⟩ := List.cons.inj hsplit
      rw [h] at hc
      exact Bool.noConfusion hc
  | cons first others =>
      obtain ⟨rfl, -⟩ := List.cons.inj hsplit
      rw [hbefore _ List.mem_cons_self] at h
      exact Bool.noConfusion h

theorem noRepeat_cons_next (h : api.goesOn candidate = true) :
    api.NoRepeat (candidate :: rest) ↔
      (candidate.outcome.reached = true →
        ∀ later ∈ rest, later.outcome.requested = false) ∧
      api.NoRepeat rest := by
  constructor
  · intro hall
    constructor
    · exact hall [] candidate rest rfl nofun h
    · intro before c after hsplit hbefore
      exact hall (candidate :: before) c after (by rw [hsplit]; rfl)
        (List.forall_mem_cons.mpr ⟨h, hbefore⟩)
  · rintro ⟨hfirst, hrest⟩ before c after hsplit hbefore hc hreached
    cases before with
    | nil =>
        obtain ⟨rfl, rfl⟩ := List.cons.inj hsplit
        exact hfirst hreached
    | cons first others =>
        obtain ⟨rfl, htail⟩ := List.cons.inj hsplit
        exact hrest others c after htail
          (List.forall_mem_cons.mp hbefore).2 hc hreached

/-- A request is repeated exactly where the loop goes on to another client
after Telegram processed one. -/
theorem loop_once_iff :
    (∀ o ∈ (api.loop lastErr candidates).1.dropLast, o.reached = false) ↔
      api.NoRepeat candidates := by
  induction candidates generalizing lastErr with
  | nil =>
      refine iff_of_true nofun ?_
      intro before c after hsplit
      exact absurd hsplit.symm (by simp)
  | cons candidate rest ih =>
      cases hattempt : api.attempt candidate with
      | done result =>
          refine iff_of_true ?_
            (noRepeat_cons_done (not_goesOn_of_done hattempt))
          rw [loop_done hattempt, request]
          split_ifs <;> simp
      | next next =>
          have hgoes := goesOn_of_next hattempt
          rw [loop_next hattempt, noRepeat_cons_next hgoes, ← ih]
          by_cases hmore : (api.loop next rest).1 = []
          · rw [hmore, List.append_nil]
            have hnone : ∀ o ∈ (api.request candidate).dropLast,
                o.reached = false := by
              rw [request]
              split_ifs <;> simp
            refine iff_of_true hnone ⟨fun hreached => ?_, nofun⟩
            exact (loop_requests_eq_nil (unbuilt_of_goesOn hgoes hreached)).mp
              hmore
          · rw [List.dropLast_append_of_ne_nil hmore, List.forall_mem_append]
            refine and_congr_left fun _ => ?_
            constructor
            · intro hfirst hreached
              have hmade : candidate.outcome ∈ api.request candidate := by
                rw [request, if_pos ⟨reached_requested hreached,
                  unbuilt_of_goesOn hgoes hreached⟩]
                exact List.mem_singleton_self _
              rw [hfirst _ hmade] at hreached
              exact Bool.noConfusion hreached
            · intro hfirst o ho
              by_contra hreached
              rw [request] at ho
              split_ifs at ho with hmade
              · obtain rfl := List.mem_singleton.mp ho
                exact hmore ((loop_requests_eq_nil hmade.2).mpr
                  (hfirst (by simpa using hreached)))
              · exact absurd ho List.not_mem_nil

end Api

namespace Sending

variable {s : Sending}

/-- Where the rich variant leaves a call that goes on to the compact one. -/
theorem compact_iff :
    s.sendFormattedToWithMarkup.compact.isSome = true ↔
      s.triesRich = false ∨ ∃ err, (s.richApi.doAPI s.rich).2 = .error err ∧
        shouldFallbackRichMessage err = true := by
  rw [sendFormattedToWithMarkup]
  by_cases hrich : s.triesRich = true
  · rw [if_pos hrich]
    rcases hapi : s.richApi.doAPI s.rich with ⟨requests, result⟩
    cases result with
    | ok result => simp [hrich]
    | error err =>
        by_cases hfalls : shouldFallbackRichMessage err = true
        · simp [hrich, hfalls, sendHTMLToWithMarkup]
        · simp [hrich, hfalls]
  · rw [if_neg hrich]
    simp [sendHTMLToWithMarkup, hrich]

theorem rich_requests : s.sendFormattedToWithMarkup.rich =
    if s.triesRich then (s.richApi.doAPI s.rich).1 else [] := by
  rw [sendFormattedToWithMarkup]
  split_ifs
  · rcases s.richApi.doAPI s.rich with ⟨requests, result⟩
    cases result with
    | ok result => rfl
    | error err =>
        dsimp only
        split_ifs <;> rfl
  · rfl

theorem compact_requests {requests : List Outcome}
    (h : requests ∈ s.sendFormattedToWithMarkup.compact) :
    requests = (s.compactApi.doAPI s.compact).1 := by
  rw [sendFormattedToWithMarkup] at h
  split_ifs at h
  · rcases hapi : s.richApi.doAPI s.rich with ⟨rich, result⟩
    rw [hapi] at h
    cases result with
    | ok result => exact nomatch h
    | error err =>
        dsimp only at h
        by_cases hfalls : shouldFallbackRichMessage err = true
        · rw [if_pos hfalls] at h
          exact (Option.some.inj h).symm
        · rw [if_neg hfalls] at h
          exact absurd h (Option.not_mem_none requests)
  · exact (Option.some.inj h).symm

/-- With a token, the rich variant falls back on the error of the candidate
it ends at. -/
theorem fallsBack_iff (htoken : s.botToken ≠ []) :
    (∃ err, (s.richApi.doAPI s.rich).2 = .error err ∧
      shouldFallbackRichMessage err = true) ↔ s.FallsBack := by
  have hrich : s.richApi.botToken ≠ [] := htoken
  rw [Api.doAPI, if_neg hrich]
  by_cases hnone : s.rich = []
  · rw [if_pos hnone, FallsBack, hnone]
    constructor
    · rintro ⟨err, herr, hfalls⟩
      obtain rfl := Except.error.inj herr
      exact absurd hfalls (by decide)
    · rintro ⟨c, hc, -⟩
      exact absurd hc (Option.not_mem_none c)
  · obtain ⟨c, hc⟩ := @Api.exists_ending s.richApi s.rich hnone
    rw [if_neg hnone, Api.loop_result, FallsBack, hc]
    constructor
    · rintro ⟨err, herr, hfalls⟩
      exact ⟨c, rfl, err, herr, hfalls⟩
    · rintro ⟨other, hother, err, herr, hfalls⟩
      obtain rfl := Option.some.inj hother
      exact ⟨err, herr, hfalls⟩

/-- A series of requests in which none follows one that was processed makes
Telegram accept at most one message, and none if the last one was refused. -/
theorem accepted_le_one {requests : List Outcome}
    (honce : ∀ o ∈ requests.dropLast, o.reached = false) :
    requests.countP Outcome.accepted ≤
      if ∃ o ∈ requests.getLast?, o.refused = true then 0 else 1 := by
  have haccepted : ∀ o : Outcome, o.reached = false → ¬ o.accepted = true := by
    intro o hreached
    cases o with
    | noClient text => exact Bool.false_ne_true
    | unreached seen => exact Bool.false_ne_true
    | processed accepted seen => exact Bool.noConfusion hreached
    | answered answer => exact Bool.noConfusion hreached
  induction requests using List.reverseRecOn with
  | nil => simp
  | append_singleton front last _ =>
      rw [List.dropLast_concat] at honce
      have hfront : front.countP Outcome.accepted = 0 :=
        List.countP_eq_zero.mpr fun o ho => haccepted o (honce o ho)
      rw [List.countP_append, hfront, List.getLast?_concat, Nat.zero_add,
        List.countP_singleton]
      by_cases hrefused : last.refused = true
      · have hnot : last.accepted = false := by
          cases last with
          | answered answer =>
              simpa [Outcome.refused, Outcome.accepted] using hrefused
          | noClient text => rfl
          | unreached seen => rfl
          | processed accepted seen =>
              simp [Outcome.refused] at hrefused
        simp [hnot]
      · have hnone : ¬ ∃ o ∈ some last, o.refused = true := by
          rintro ⟨o, ho, hrefusal⟩
          obtain rfl := Option.some.inj ho
          exact hrefused hrefusal
        rw [if_neg hnone]
        split_ifs <;> omega

/-- A message Telegram accepted ends the loop with success. -/
theorem refused_of_error {c : Candidate} (hhears : s.richApi.hears c = true)
    {err : TransportError} (h : (s.richApi.attempt c).result = .error err) :
    c.outcome.refused = true := by
  simp only [Api.hears, Bool.and_eq_true, Option.isNone_iff_eq_none] at hhears
  cases houtcome : c.outcome with
  | answered answer =>
      rw [Api.attempt, houtcome, hhears.1] at h
      by_contra haccepted
      have hok : answer.response.ok = true := by
        simpa [Outcome.refused] using haccepted
      obtain ⟨hlow, hhigh⟩ := answer.success hok
      have hstatus : ¬ (answer.status < 200 ∨ 300 ≤ answer.status) := by
        omega
      simp only [Attempt.result, verdict, hok, Bool.not_true,
        Bool.false_eq_true, ↓reduceIte, if_neg hstatus] at h
      exact nomatch h
  | noClient text => simp [houtcome, Outcome.isAnswered] at hhears
  | unreached seen => simp [houtcome, Outcome.isAnswered] at hhears
  | processed accepted seen => simp [houtcome, Outcome.isAnswered] at hhears

/-- Rich messages are switched off only on the way to the compact variant. -/
theorem of_switched_off
    (h : -1 ∈ s.sendFormattedToWithMarkup.support) :
    s.triesRich = true ∧ s.sendFormattedToWithMarkup.compact.isSome = true := by
  rw [sendFormattedToWithMarkup] at h ⊢
  by_cases hrich : s.triesRich = true
  · rw [if_pos hrich] at h ⊢
    refine ⟨hrich, ?_⟩
    rcases hapi : s.richApi.doAPI s.rich with ⟨rich, result⟩
    rw [hapi] at h
    cases result with
    | ok result =>
        have hone : (-1 : Int) ∉ [(1 : Int)] := by decide
        exact absurd h hone
    | error err =>
        dsimp only at h ⊢
        by_cases hfalls : shouldFallbackRichMessage err = true
        · rw [if_pos hfalls]
          rfl
        · rw [if_neg hfalls] at h
          exact absurd h List.not_mem_nil
  · rw [if_neg hrich] at h
    exact absurd h List.not_mem_nil

/-- Without a token nothing is sent. -/
theorem no_requests (htoken : s.botToken = []) :
    s.sendFormattedToWithMarkup.rich = [] ∧
      (∀ requests ∈ s.sendFormattedToWithMarkup.compact, requests = []) ∧
      (s.triesRich = true →
        s.sendFormattedToWithMarkup.compact = none) := by
  have hrich : s.richApi.botToken = [] := htoken
  have hcompact : s.compactApi.botToken = [] := htoken
  refine ⟨?_, ?_, ?_⟩
  · rw [rich_requests, Api.doAPI_no_token hrich]
    split_ifs <;> rfl
  · intro requests hrequests
    rw [compact_requests hrequests, Api.doAPI_no_token hcompact]
  · intro htries
    rw [← Option.not_isSome_iff_eq_none, compact_iff,
      Api.doAPI_no_token hrich]
    rintro (hnot | ⟨err, herr, hfalls⟩)
    · rw [htries] at hnot
      exact Bool.noConfusion hnot
    · obtain rfl := Except.error.inj herr
      exact absurd hfalls (by decide)

end Sending

/-- One call makes Telegram accept at most one message, for the right reasons,
exactly where its requests are unambiguous. -/
theorem atMostOne_iff (s : Sending) :
    AtMostOne s ↔ s.botToken = [] ∨ s.Unambiguous := by
  by_cases htoken : s.botToken = []
  · refine iff_of_true ?_ (Or.inl htoken)
    obtain ⟨hrich, hcompact, hnone⟩ := s.no_requests htoken
    refine ⟨?_, ?_, ?_, ?_, ?_⟩
    · rw [hrich, List.nil_append]
      cases hrequests : s.sendFormattedToWithMarkup.compact with
      | none => exact Nat.zero_le 1
      | some requests =>
          rw [hcompact requests hrequests]
          exact Nat.zero_le 1
    · rw [hrich]
      exact nofun
    · intro requests hrequests
      rw [hcompact requests hrequests]
      exact nofun
    · intro htries hsome
      rw [hnone htries] at hsome
      exact Bool.noConfusion hsome
    · intro hoff
      obtain ⟨htries, hsome⟩ := Sending.of_switched_off hoff
      rw [hnone htries] at hsome
      exact Bool.noConfusion hsome
  · rw [or_iff_right htoken]
    have hrichtoken : s.richApi.botToken ≠ [] := htoken
    have hcompacttoken : s.compactApi.botToken ≠ [] := htoken
    have hcompact : s.sendFormattedToWithMarkup.compact.isSome = true ↔
        s.triesRich = false ∨ s.FallsBack := by
      rw [Sending.compact_iff, Sending.fallsBack_iff htoken]
    constructor
    · intro h
      refine ⟨?_, ?_, ?_⟩
      · intro hrich
        have honce := h.richOnce
        rw [Sending.rich_requests, if_pos hrich,
          Api.doAPI_requests hrichtoken] at honce
        exact Api.loop_once_iff.mp honce
      · intro hrich c hc hhears err herr
        by_contra hfalls
        have hsome := hcompact.mpr
          (Or.inr ⟨c, hc, err, herr, by simpa using hfalls⟩)
        obtain ⟨o, ho, hrefused⟩ := h.refused hrich hsome
        rw [Sending.rich_requests, if_pos hrich,
          Api.doAPI_requests hrichtoken] at ho
        have hanswered : o.isAnswered = true := by
          cases o with
          | answered answer => rfl
          | noClient text => exact Bool.noConfusion hrefused
          | unreached seen => exact Bool.noConfusion hrefused
          | processed accepted seen => exact Bool.noConfusion hrefused
        obtain ⟨other, hother, hears, -⟩ :=
          Api.answered_ends (List.mem_of_mem_getLast? ho) hanswered
        obtain rfl := Option.some.inj
          ((Option.mem_def.mp hother).symm.trans (Option.mem_def.mp hc))
        rw [hears] at hhears
        exact Bool.noConfusion hhears
      · intro hsent
        obtain ⟨requests, hrequests⟩ :=
          Option.isSome_iff_exists.mp (hcompact.mpr hsent)
        have honce := h.compactOnce requests hrequests
        rw [Sending.compact_requests hrequests,
          Api.doAPI_requests hcompacttoken] at honce
        exact Api.loop_once_iff.mp honce
    · intro h
      have hrichOnce : ∀ o ∈ s.sendFormattedToWithMarkup.rich.dropLast,
          o.reached = false := by
        rw [Sending.rich_requests]
        split_ifs with hrich
        · rw [Api.doAPI_requests hrichtoken]
          exact Api.loop_once_iff.mpr (h.rich hrich)
        · exact nofun
      have hcompactOnce : ∀ requests ∈ s.sendFormattedToWithMarkup.compact,
          ∀ o ∈ requests.dropLast, o.reached = false := by
        intro requests hrequests
        have hsent := hcompact.mp (Option.isSome_iff_exists.mpr
          ⟨requests, hrequests⟩)
        rw [Sending.compact_requests hrequests,
          Api.doAPI_requests hcompacttoken]
        exact Api.loop_once_iff.mpr (h.compact hsent)
      have hfell : s.triesRich = true → s.FallsBack →
          ∃ o ∈ s.sendFormattedToWithMarkup.rich.getLast?,
            o.refused = true := by
        rintro hrich ⟨c, hc, err, herr, hfalls⟩
        have hhears : s.richApi.hears c = true := by
          by_contra hdeaf
          rw [h.refusal hrich c hc (by simpa using hdeaf) err herr] at hfalls
          exact Bool.noConfusion hfalls
        refine ⟨c.outcome, ?_, Sending.refused_of_error hhears herr⟩
        rw [Sending.rich_requests, if_pos hrich,
          Api.doAPI_requests hrichtoken]
        exact Api.ends_answered hc hhears
      have hrefused : s.triesRich = true →
          s.sendFormattedToWithMarkup.compact.isSome = true →
          ∃ o ∈ s.sendFormattedToWithMarkup.rich.getLast?,
            o.refused = true := by
        intro hrich hsome
        rcases hcompact.mp hsome with hnot | hfalls
        · rw [hrich] at hnot
          exact Bool.noConfusion hnot
        · exact hfell hrich hfalls
      refine ⟨?_, hrichOnce, hcompactOnce, hrefused, ?_⟩
      · have hrichCount := Sending.accepted_le_one hrichOnce
        rw [List.countP_append]
        cases hrequests : s.sendFormattedToWithMarkup.compact with
        | none =>
            rw [Option.getD_none, List.countP_nil]
            split_ifs at hrichCount <;> omega
        | some requests =>
            have hcompactCount := Sending.accepted_le_one
              (hcompactOnce requests hrequests)
            have hrichNone : s.sendFormattedToWithMarkup.rich.countP
                Outcome.accepted = 0 := by
              by_cases hrich : s.triesRich = true
              · rw [if_pos (hrefused hrich (by rw [hrequests]; rfl))]
                  at hrichCount
                omega
              · rw [Sending.rich_requests, if_neg hrich, List.countP_nil]
            rw [hrichNone, Option.getD_some]
            split_ifs at hcompactCount <;> omega
      · intro hoff
        obtain ⟨hrich, hsome⟩ := Sending.of_switched_off hoff
        obtain ⟨o, ho, hrefusal⟩ := hrefused hrich hsome
        refine ⟨o, ho, ?_⟩
        cases o with
        | answered answer => rfl
        | noClient text => exact Bool.noConfusion hrefusal
        | unreached seen => exact Bool.noConfusion hrefusal
        | processed accepted seen => exact Bool.noConfusion hrefusal

namespace TransportSample

/-- Telegram answers that it took the message. -/
def taken : Candidate where
  name := "b"
  outcome := .answered
    { status := 200, response := { ok := true }, success := by decide }

/-- Telegram took the message and the connection was lost. -/
def lostAfter : Candidate where
  name := "a"
  outcome := .processed true (.lost "EOF" false)

/-- A node that answers with a page of its own. -/
def captive : Candidate where
  name := "a"
  outcome := .unreached
    (.replaced 404 (.error "invalid character '<' looking for beginning"))

/-- The answer to the rich variant is lost and the next node is asked. -/
def failover : Sending where
  botToken := "token"
  richHTML := "<b>down</b>"
  richMessages := 0
  rich := [lostAfter, taken]
  compact := [taken]

/-- The rich variant never reaches Telegram. -/
def portal : Sending :=
  { failover with rich := [captive] }

theorem lost_answer_sends_twice :
    (failover.sendFormattedToWithMarkup.rich.countP Outcome.accepted = 2 ∧
      ¬ AtMostOne failover) ∧
    (portal.sendFormattedToWithMarkup.support = [-1] ∧
      portal.sendFormattedToWithMarkup.compact.isSome = true ∧
      portal.sendFormattedToWithMarkup.rich.all (!·.reached) = true ∧
      ¬ AtMostOne portal) := by
  have hcount : failover.sendFormattedToWithMarkup.rich.countP
      Outcome.accepted = 2 := by decide
  have hsupport : portal.sendFormattedToWithMarkup.support = [-1] := by
    decide
  have hdeaf : portal.sendFormattedToWithMarkup.rich.getLast?.any
      Outcome.isAnswered = false := by decide
  refine ⟨⟨hcount, ?_⟩, hsupport, by decide, by decide, ?_⟩
  · intro h
    have haccepted := h.accepted
    rw [List.countP_append, hcount] at haccepted
    omega
  · intro h
    obtain ⟨o, ho, hanswered⟩ := h.switchedOff (by rw [hsupport]; decide)
    rw [Option.mem_def.mp ho] at hdeaf
    exact Bool.noConfusion (hdeaf.symm.trans hanswered)

end TransportSample

end XrayChecker.Telegram
