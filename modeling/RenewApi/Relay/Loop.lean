import RenewApi.Relay.Failover

/-! # The route and attempt loops of a relay request

`Relay` runs two nested loops: over the routes of the request's plan, and on each route over
attempts.

* **`attemptLoop`** and **`routeLoop`** recurse on fuel; `none` is a loop that did not finish. -/

namespace RenewApi.Relay

/-- How a streamed attempt ended. -/
inductive StreamAttemptCode
  | ok | emptyResponse | badResponseBody | incomplete | failed | writeError | clientGone | timeout
  deriving DecidableEq

/-- The outcome of a stream, as the loops read it from `StreamStatus`. -/
structure StreamStatus where
  code : StreamAttemptCode
  transportEnd : String
  clientCommitted : Bool
  deriving DecidableEq

/-- It failed before the client got anything. -/
def StreamStatus.retryableBeforeCommit (s : StreamStatus) : Bool :=
  s.code ≠ .ok && s.code ≠ .clientGone && s.code ≠ .writeError && !s.clientCommitted

/-- `Contains(transportEnd, "timeout")`: of the transport ends only the two timeouts have it. -/
def StreamStatus.timeoutStage (s : StreamStatus) : String :=
  if s.transportEnd = "timeout" ∨ s.transportEnd = "first_semantic_timeout" then s.transportEnd else ""

/-- A selected channel. -/
structure Channel where
  id : Int
  name : String
  priority : Int
  deriving DecidableEq

/-- The candidates of a mapped model. -/
structure ModelMappingRouteCursor where
  channelId : Int
  candidates : List String
  ruleIDs : List String
  index : Nat
  deriving DecidableEq

/-- The next candidate on the same channel. -/
def ModelMappingRouteCursor.advance (channelMeta : Option Int) (c : ModelMappingRouteCursor) :
    Option ModelMappingRouteCursor :=
  if channelMeta ≠ some c.channelId then none
  else if c.candidates.length ≤ c.index + 1 then none
  else some { c with index := c.index + 1 }

/-- `RetryParam`: the part that drives the loop. -/
structure RetryParam where
  retry : Int
  resetNextTry : Bool
  strictPreferredChannel : Bool
  deriving DecidableEq

/-- Count a retry, unless the next one starts over. -/
def RetryParam.increaseRetry (p : RetryParam) : RetryParam :=
  if p.resetNextTry then { p with resetNextTry := false } else { p with retry := p.retry + 1 }

def RetryParam.resetRetryNextTry (p : RetryParam) : RetryParam := { p with resetNextTry := true }

/-- `RelayModelRoles`: the part of a route that drives the loop. -/
structure RelayModelRoles where
  strictPreferredChannel : Bool
  retryBudget : Int
  deriving DecidableEq

/-- A planned route is an exact candidate: it stays pinned whatever the hooks have set. -/
def RetryParam.pin (route : RelayModelRoles) (p : RetryParam) : RetryParam :=
  if route.strictPreferredChannel then { p with strictPreferredChannel := true } else p

/-- The routes of a request and the current one. -/
structure RelayRoutePlan where
  routes : List RelayModelRoles
  index : Nat
  deriving DecidableEq

namespace RelayRoutePlan

def current (p : RelayRoutePlan) : Option RelayModelRoles := p.routes[p.index]?

def hasNext (p : RelayRoutePlan) : Bool := p.index + 1 < p.routes.length

/-- `Advance`, where there is a next route. -/
def advance (p : RelayRoutePlan) : RelayRoutePlan := { p with index := p.index + 1 }

end RelayRoutePlan

/-- The flags of the Claude thinking fallback. -/
structure ClaudeThinking where
  detected : Bool
  preferSupportedChannel : Bool
  sanitizedFallback : Bool
  deriving DecidableEq

namespace ClaudeThinking

/-- The condition of `maybeFallbackClaudeThinkingToSanitized`. -/
def canFallBack (t : ClaudeThinking) : Bool :=
  t.detected && t.preferSupportedChannel && !t.sanitizedFallback

/-- The request goes on without thinking blocks. -/
def sanitize (t : ClaudeThinking) : ClaudeThinking :=
  { t with preferSupportedChannel := false, sanitizedFallback := true }

@[simp] theorem canFallBack_sanitize (t : ClaudeThinking) : t.sanitize.canFallBack = false := by
  simp [canFallBack, sanitize]

end ClaudeThinking

/-- The relay modes that may try another mapped model. -/
inductive RelayMode
  | chatCompletions | completions | responses | responsesCompact | other
  deriving DecidableEq

/-! ## The environment -/

/-- How errors are classified. -/
structure RetryPolicy where
  isRelayFailoverError : NewAPIError → Bool
  isChannelFailureError : NewAPIError → Bool
  isModelScopedChannelFailureError : NewAPIError → Bool
  isTransportFailureError : NewAPIError → Bool
  shouldFallbackEncryptedReasoningError : NewAPIError → Bool
  shouldCompatRetryByError : NewAPIError → Bool
  isAlwaysSkipRetryCode : String → Bool
  shouldRetryByStatusCode : Int → Bool
  /-- `ToOpenAIError().Code`. -/
  openAICode : NewAPIError → String

/-- The places at which a round looks whether the client has gone. -/
inductive ContextCheck
  | head | mappedCandidate | streamFailure | shouldRetry | retryDecision
  deriving DecidableEq

/-- What an upstream dispatch leaves. -/
structure DispatchResult where
  /-- The result of `WithStreamStaging`. -/
  err : Option NewAPIError
  /-- The result of `compatStreamRetryError`. -/
  streamErr : Option NewAPIError
  written : Bool
  streamStatus : Option StreamStatus
  upstreamRequestID : String
  upstreamModel : Option String
  channelMeta : Option Int
  modelMappingRoute : ModelMappingRouteCursor
  modelMappingRetryBlocked : Bool
  observedUsage : Bool
  receivedResponseCount : Nat
  relayMode : RelayMode

/-- The answers in one round of the attempt loop. -/
structure Round where
  contextDone : ContextCheck → Bool
  now : Int
  later : Int
  selected : Except NewAPIError (Option Channel)
  selectParam : RetryParam → RetryParam
  beforeChannelCall : Option NewAPIError
  /-- `prepareClaudeThinkingRetryBody` removes thinking blocks the channel does not support. -/
  claudeSanitized : Bool
  claudeBodyErr : Option NewAPIError
  encryptedBodyErr : Option NewAPIError
  bodyErr : Option NewAPIError
  dispatch : DispatchResult
  redact : String → String
  normalize : NewAPIError → NewAPIError
  /-- `CanRetryRequest` of the billing session; `none` without one. -/
  canRetryRequest : Option Bool
  skipAfterAffinityFailure : Bool
  capabilityUnsupported : Bool
  onRetryDecision : Bool → Bool
  failedParam : RetryParam → RetryParam

/-- The answers for one route. -/
structure RouteTurn where
  /-- `reserveRelayFallbackPrice` or `switchRelayFallbackModel`. -/
  switchErr : Option NewAPIError
  onSelectRetryParam : RetryParam → RetryParam
  skipAfterAffinityFailure : Bool
  contextDoneAtRetry : Bool
  contextDoneAtAdvance : Bool

/-- Everything around the loops. -/
structure RelayEnvironment where
  policy : RetryPolicy
  pinned : Bool
  isStream : Bool
  responsesFormat : Bool
  round : Nat → Round
  turn : Nat → RouteTurn

/-! ## The retry decisions -/

/-- `types.IsChannelError`. -/
def NewAPIError.isChannelError (e : NewAPIError) : Bool := e.errorCode.startsWith "channel:"

namespace RetryPolicy

def isSafeMappedModelRejection (p : RetryPolicy) (e : NewAPIError) : Bool :=
  if e.skipRetry || p.isTransportFailureError e then false
  else if e.statusCode = 400 ∨ e.statusCode = 404 ∨ e.statusCode = 422 then
    p.isModelScopedChannelFailureError e
  else if e.statusCode = 429 ∨ e.statusCode = 503 then
    ["model_rate_limit_exceeded", "model_overloaded", "model_capacity_exceeded"].contains
      (p.openAICode e)
  else false

/-- Whether an error is worth another attempt. -/
def shouldRetry (p : RetryPolicy) (contextDone pinned skipAfterAffinityFailure : Bool)
    (e : NewAPIError) (retryTimes : Int) : Bool :=
  if contextDone then false
  else if retryTimes ≤ 0 then false
  else if p.isRelayFailoverError e then !pinned
  else if skipAfterAffinityFailure && !p.shouldFallbackEncryptedReasoningError e &&
      !p.isChannelFailureError e then false
  else if e.isChannelError then true
  else if e.skipRetry then false
  else if pinned then false
  else if 200 ≤ e.statusCode ∧ e.statusCode < 300 then false
  else if e.statusCode < 100 ∨ 599 < e.statusCode then true
  else if p.shouldCompatRetryByError e then true
  else if p.isAlwaysSkipRetryCode e.errorCode then false
  else p.shouldRetryByStatusCode e.statusCode

end RetryPolicy

/-- A dispatch as the client sees it: on which channel, and whether the response is committed to the
client afterwards. -/
structure Dispatched where
  channelID : Int
  committed : Bool
  deriving DecidableEq

/-- The state of the two loops. -/
structure RelayState where
  failover : ChannelFailoverState
  routePlan : RelayRoutePlan
  retryParam : RetryParam
  maxRetryTimes : Int
  claudeThinking : ClaudeThinking
  modelMappingRoute : ModelMappingRouteCursor
  streamStatus : Option StreamStatus
  /-- `c.Writer.Written()`. -/
  written : Bool
  newAPIError : Option NewAPIError
  compactCapabilityUnsupported : Bool
  streamRecoveryAdvanceRoute : Bool
  mappedCandidateChannel : Option Channel
  rounds : Nat
  dispatches : List Dispatched

namespace RelayState

/-- `ClientResponseCommitted() || c.Writer.Written()`. -/
def clientCommitted (s : RelayState) : Bool :=
  s.streamStatus.any (·.clientCommitted) || s.written

section

variable (env : RelayEnvironment)

def isSessionScopedStreamFailure (s : RelayState) : Bool :=
  env.isStream && env.responsesFormat &&
    s.streamStatus.any fun st =>
      [StreamAttemptCode.emptyResponse, .badResponseBody, .incomplete, .failed, .timeout].contains st.code

/-- The stream ended on the side of the client. -/
def isClientScopedStreamFailure (s : RelayState) : Bool :=
  env.isStream && s.streamStatus.any fun st => st.code = .writeError || st.code = .clientGone

/-- `retryNextMappedModelCandidate`: the cursor moved to the next mapped model, if the failed
attempt allows one. -/
def retryNextMappedModelCandidate (r : Round) (e : NewAPIError)
    (s : RelayState) : Option ModelMappingRouteCursor :=
  if e.skipRetry || s.clientCommitted || r.contextDone .mappedCandidate || r.dispatch.observedUsage ||
      0 < r.dispatch.receivedResponseCount || s.streamStatus.isSome ||
      r.dispatch.modelMappingRetryBlocked || !s.failover.canAttempt ||
      s.retryParam.strictPreferredChannel then none
  else if r.canRetryRequest = some false then none
  else if env.pinned then none
  else if r.dispatch.relayMode = .other then none
  else if !env.policy.isSafeMappedModelRejection e then none
  else s.modelMappingRoute.advance r.dispatch.channelMeta

/-- The decision after a failed attempt: `finalShouldRetry`, and whether a broken stream moves on to
the next route instead. -/
def retryDecision (route : RelayModelRoles) (r : Round) (e : NewAPIError)
    (s : RelayState) : Bool × Bool :=
  let streamRecoveryFailure := s.isSessionScopedStreamFailure env
  let streamClientFailure := s.isClientScopedStreamFailure env || r.contextDone .streamFailure
  let unsupported := !streamRecoveryFailure && !streamClientFailure && r.capabilityUnsupported
  let remaining : Int := s.failover.maxSwitches + 1 - s.failover.attemptCount
  let shouldRetryResult :=
    env.policy.shouldRetry (r.contextDone .shouldRetry) env.pinned r.skipAfterAffinityFailure e remaining
      || unsupported && 0 < remaining
  let hooked := r.onRetryDecision shouldRetryResult
  let failover := hooked || env.policy.isRelayFailoverError e && 0 < remaining
  let recoverable := failover && !streamClientFailure &&
    (!streamRecoveryFailure || s.streamStatus.any (·.retryableBeforeCommit))
  -- A recoverable break of a planned route goes to the next route rather than to another channel.
  let advance := recoverable && streamRecoveryFailure && route.strictPreferredChannel &&
    s.routePlan.hasNext
  (recoverable && !advance && !s.clientCommitted && s.failover.canAttempt &&
    !r.contextDone .retryDecision && !env.pinned, advance)

end

end RelayState

/-! ## The loops -/

/-- How a round ends. -/
inductive RoundExit
  /-- `return`. -/
  | returned
  /-- `break`. -/
  | left
  /-- `continue`, or the end of the body. -/
  | again
  deriving DecidableEq

/-- The error for a client that is gone. -/
def clientGoneError : NewAPIError where
  statusCode := 499
  errorCode := "bad_response"
  skipRetry := true
  text := "context canceled"

namespace RelayState

/-- Note what came back from the channel. -/
def dispatch (r : Round) (channel : Channel) (fs : ChannelFailoverState) (s : RelayState) : RelayState :=
  let err := r.dispatch.err.or r.dispatch.streamErr
  let stage := r.dispatch.streamStatus.elim "" (·.timeoutStage)
  let finished := fs.finish r.redact r.later err r.dispatch.upstreamRequestID stage
  let cursor := r.dispatch.modelMappingRoute
  let recorded : ChannelFailoverState :=
    { finished with
      attemptRecords := finished.attemptRecords.modifyLast fun record =>
        { record with
          upstreamModel := r.dispatch.upstreamModel.getD record.upstreamModel
          mappingRuleID := (cursor.ruleIDs[cursor.index]?).getD record.mappingRuleID } }
  let s' : RelayState :=
    { s with
      failover := recorded
      streamStatus := r.dispatch.streamStatus
      written := s.written || r.dispatch.written
      modelMappingRoute := cursor
      newAPIError := err }
  { s' with dispatches := s.dispatches ++ [⟨channel.id, s'.clientCommitted⟩] }

section

variable (env : RelayEnvironment) (route : RelayModelRoles)

/-- What follows a dispatch. -/
def afterDispatch (r : Round) (channel : Channel) (s : RelayState) : RoundExit × RelayState :=
  match s.newAPIError with
  | none => (.returned, s)
  | some err =>
    let e := r.normalize err
    let s := { s with newAPIError := some e }
    match (if route.strictPreferredChannel then none else s.retryNextMappedModelCandidate env r e) with
    | some cursor =>
      (.again, { s with modelMappingRoute := cursor, mappedCandidateChannel := some channel })
    | none =>
      let decision := s.retryDecision env route r e
      let s' := { s with
        compactCapabilityUnsupported := !s.isSessionScopedStreamFailure env &&
          !(s.isClientScopedStreamFailure env || r.contextDone .streamFailure) &&
          r.capabilityUnsupported
        streamRecoveryAdvanceRoute := s.streamRecoveryAdvanceRoute || decision.2
        retryParam := r.failedParam s.retryParam }
      (if decision.1 then .again else .left, s')

/-- Open an attempt, on the same channel or another. -/
def beginAttempt (r : Round) (sameChannelCandidate : Bool) (channel : Channel) (s : RelayState) :
    ChannelFailoverState × Bool :=
  if sameChannelCandidate then
    s.failover.beginMappedCandidate r.now channel.id channel.name channel.priority
      ((s.modelMappingRoute.candidates[s.modelMappingRoute.index]?).getD "")
  else s.failover.begin r.now channel.id channel.name channel.priority

/-- The part of a round from the selected channel on. -/
def attemptOn (r : Round)
    (sameChannelCandidate : Bool) (channel : Channel) (s : RelayState) : RoundExit × RelayState :=
  match r.beforeChannelCall with
  | some e => (.left, { s with newAPIError := some e })
  | none =>
    let s := { s with
      claudeThinking := if r.claudeSanitized then s.claudeThinking.sanitize else s.claudeThinking }
    match r.claudeBodyErr.or (r.encryptedBodyErr.or r.bodyErr) with
    | some e => (.left, { s with newAPIError := some e })
    | none =>
      match s.beginAttempt r sameChannelCandidate channel with
      | (_, false) => (.left, s)
      | (fs, true) => (s.dispatch r channel fs).afterDispatch env route r channel

/-- One round: `returned` leaves `Relay`, `left` leaves the attempt loop, `again` goes on. -/
def attemptRound (s : RelayState) : RoundExit × RelayState :=
  let r := env.round s.rounds
  let s := { s with rounds := s.rounds + 1, retryParam := s.retryParam.pin route }
  if r.contextDone .head then (.returned, { s with newAPIError := some clientGoneError })
  else
    match s.mappedCandidateChannel with
    | some channel => { s with mappedCandidateChannel := none }.attemptOn env route r true channel
    | none =>
      let s := { s with retryParam := r.selectParam s.retryParam }
      match r.selected with
      | .error e =>
        if s.claudeThinking.canFallBack then
          (.again, { s with
            claudeThinking := s.claudeThinking.sanitize
            retryParam := s.retryParam.resetRetryNextTry })
        else (.left, { s with newAPIError := s.failover.lastInternalError.or (some e) })
      | .ok none => (.left, s)
      | .ok (some channel) =>
        if s.failover.attemptedChannelIDs.contains channel.id then (.left, s)
        else s.attemptOn env route r false channel

end

/-- **The attempt loop** of one route; the flag says that `Relay` returned. -/
def attemptLoop (env : RelayEnvironment) (route : RelayModelRoles) :
    Nat → RelayState → Option (Bool × RelayState)
  | 0, _ => none
  | fuel + 1, s =>
    if s.failover.canAttempt && s.retryParam.retry ≤ s.maxRetryTimes then
      match s.attemptRound env route with
      | (.returned, s') => some (true, s')
      | (.left, s') => some (false, s')
      | (.again, s') => attemptLoop env route fuel { s' with retryParam := s'.retryParam.increaseRetry }
    else some (false, s)

/-- The start of a route: a fresh retry count and fresh flags. -/
def enterRoute (turn : RouteTurn) (route : RelayModelRoles) (s : RelayState) : RelayState :=
  { s with
    maxRetryTimes := if route.strictPreferredChannel then route.retryBudget else maxChannelSwitches
    retryParam :=
      (turn.onSelectRetryParam
        { s.retryParam with
          retry := 0, strictPreferredChannel := route.strictPreferredChannel }).pin route
    compactCapabilityUnsupported := false
    streamRecoveryAdvanceRoute := false
    mappedCandidateChannel := none }

/-- Whether the next route is tried after the attempts on a route have failed with `e`. -/
def tryNextRoute (env : RelayEnvironment) (turn : RouteTurn) (e : NewAPIError) (s : RelayState) : Bool :=
  s.failover.canAttempt && s.routePlan.hasNext &&
    (s.streamRecoveryAdvanceRoute || s.compactCapabilityUnsupported ||
      env.policy.shouldRetry turn.contextDoneAtRetry env.pinned turn.skipAfterAffinityFailure e 1) &&
    !(s.clientCommitted || turn.contextDoneAtAdvance)

/-- **The route loop**; `none` if the fuel ran out. -/
def routeLoop (env : RelayEnvironment) (attemptFuel : Nat) : Nat → RelayState → Option RelayState
  | 0, _ => none
  | fuel + 1, s =>
    match s.routePlan.current with
    | none => some s
    | some route =>
      let turn := env.turn s.routePlan.index
      match (if 0 < s.routePlan.index then turn.switchErr else none) with
      | some e =>
        if e.errorCode = "model_not_found" && s.routePlan.hasNext then
          routeLoop env attemptFuel fuel
            { s with newAPIError := some e, routePlan := s.routePlan.advance }
        else some { s with newAPIError := some e }
      | none =>
        match (s.enterRoute turn route).attemptLoop env route attemptFuel with
        | none => none
        | some (true, s') => some s'
        | some (false, s') =>
          match s'.newAPIError with
          | none => some s'
          | some e =>
            if s'.tryNextRoute env turn e then
              routeLoop env attemptFuel fuel { s' with routePlan := s'.routePlan.advance }
            else some s'

/-- A request before its loops. -/
def start (plan : RelayRoutePlan) (param : RetryParam) (thinking : ClaudeThinking)
    (cursor : ModelMappingRouteCursor) (streamStatus : Option StreamStatus) (written : Bool) :
    RelayState where
  failover := newChannelFailoverState
  routePlan := plan
  retryParam := param
  maxRetryTimes := maxChannelSwitches
  claudeThinking := thinking
  modelMappingRoute := cursor
  streamStatus := streamStatus
  written := written
  newAPIError := none
  compactCapabilityUnsupported := false
  streamRecoveryAdvanceRoute := false
  mappedCandidateChannel := none
  rounds := 0
  dispatches := []

end RelayState

end RenewApi.Relay
