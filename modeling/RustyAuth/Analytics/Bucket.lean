/-
  Five-minute buckets: how one event is counted, and what a bucket looks like on the wire.

  Counters are `u64` and saturate.  An event that is of no counted type leaves a bucket
  as it is, its sequence range included.
-/
import RustyAuth.Analytics.Messages
import Mathlib.Data.Finset.Option

namespace RustyAuth

def bucketWidthSecondsV1 : Nat := 300

def interactiveLatencyBoundsMillisecondsV1 : List Nat :=
  [5, 10, 25, 50, 100, 250, 500, 1000, 2500, 5000, 10000]

def deliveryLatencyBoundsMillisecondsV1 : List Nat :=
  [10, 25, 50, 100, 250, 500, 1000, 2500, 5000, 10000, 30000]

def failureClassCount : Nat := 9

def alignedBucketStart (timestamp : Nat) : Nat := timestamp - timestamp % bucketWidthSecondsV1

def increment (value : Nat) : Nat := satAdd value 1

/-- `Vec::resize` with zeros. -/
def resize (n : Nat) (l : List Nat) : List Nat := (l ++ List.replicate (n - l.length) 0).take n

/-! ## Counted events -/

inductive CountedEvent
  | authenticationOptionsStarted
  | authenticationCompleted
  | authenticationFailed
  | authenticationDenied
  | registrationOptionsStarted
  | registrationCeremonyOpened
  | registrationResponseReturned
  | registrationChallengeExpired
  | registrationCompleted
  | sessionCreated
  | sessionRevokedAll
  | tokenUserIssued
  | serviceAccountTokenIssued
  | serviceAccountTokenFailed
  | serviceAccountTokenDenied
  | serviceAccountCredentialCreated
  | webhookDeliveryQueued
  | webhookDeliverySucceeded
  | webhookDeliveryFailed
deriving DecidableEq

def CountedEvent.ofType : String → Option CountedEvent
  | "authentication.options.started" => some .authenticationOptionsStarted
  | "authentication.completed" => some .authenticationCompleted
  | "authentication.failed" => some .authenticationFailed
  | "authentication.denied" => some .authenticationDenied
  | "registration.options.started" => some .registrationOptionsStarted
  | "registration.ceremony.opened" => some .registrationCeremonyOpened
  | "registration.response.returned" => some .registrationResponseReturned
  | "registration.challenge.expired" => some .registrationChallengeExpired
  | "registration.completed" => some .registrationCompleted
  | "session.created" => some .sessionCreated
  | "session.revoked_all" => some .sessionRevokedAll
  | "token.user.issued" => some .tokenUserIssued
  | "service_account.token.issued" => some .serviceAccountTokenIssued
  | "service_account.token.failed" => some .serviceAccountTokenFailed
  | "service_account.token.denied" => some .serviceAccountTokenDenied
  | "service_account.credential.created" => some .serviceAccountCredentialCreated
  | "analytics.webhook.delivery.queued" => some .webhookDeliveryQueued
  | "analytics.webhook.delivery.succeeded" => some .webhookDeliverySucceeded
  | "analytics.webhook.delivery.failed" => some .webhookDeliveryFailed
  | _ => none

/-- What the event counts as, if it is counted. -/
def AuthEvent.counted (event : AuthEvent) : Option CountedEvent :=
  CountedEvent.ofType event.eventType

def eventObservesActiveAccount (eventType : String) : Bool :=
  ["authentication.", "registration.", "session."].any
      (fun p => p.toList.isPrefixOf eventType.toList) ||
    eventType == "token.user.issued"

/-! ## Histograms -/

/-- One observation: every bound it does not exceed, and the unbounded last slot. -/
def observeCumulative (bounds : List Nat) (value : Nat) (counts : List Nat) : List Nat :=
  List.zipWith (fun upper count => if value ≤ upper then increment count else count) bounds counts ++
    (counts.drop bounds.length).map increment

namespace LatencyCounts

def empty (bounds : List Nat) : LatencyCounts := ⟨0, 0, List.replicate (bounds.length + 1) 0⟩

def normalize (bounds : List Nat) (l : LatencyCounts) : LatencyCounts :=
  { l with cumulativeCounts := resize (bounds.length + 1) l.cumulativeCounts }

/-- An event without a latency is not observed. -/
def observe (bounds : List Nat) (latency : Option Nat) (l : LatencyCounts) : LatencyCounts :=
  match latency with
  | none => l
  | some value =>
      { count := increment l.count
        sumMilliseconds := satAdd l.sumMilliseconds value
        cumulativeCounts := observeCumulative bounds value l.cumulativeCounts }

end LatencyCounts

namespace LocalMetricBucket

def new (bucketStart : Nat) : LocalMetricBucket where
  bucketStart
  revision := 1
  firstEventSequence := 0
  lastEventSequence := 0
  closed := false
  authenticationOptionsStarted := 0
  authenticationAttempts := 0
  authenticationSuccesses := 0
  authenticationFailures := 0
  authenticationDenials := 0
  authenticationLatency := .empty interactiveLatencyBoundsMillisecondsV1
  authenticationFailureClasses := List.replicate failureClassCount 0
  registrationOptionsStarted := 0
  registrationCeremoniesOpened := 0
  registrationResponsesReturned := 0
  registrationsCompleted := 0
  registrationChallengesExpired := 0
  sessionsCreated := 0
  sessionsRevoked := 0
  userTokensIssued := 0
  serviceTokensIssued := 0
  serviceAccountMetricsObserved := false
  serviceAccountCalls := 0
  serviceAccountSuccesses := 0
  serviceAccountFailures := 0
  serviceAccountDenials := 0
  serviceAccountCredentialRotations := 0
  webhookMetricsObserved := false
  webhookDeliveries := 0
  webhookSuccesses := 0
  webhookFailures := 0
  webhookLatency := .empty deliveryLatencyBoundsMillisecondsV1
  webhookBacklog := 0
  activeSubjects := ∅

/-- Bring vectors of an older record to the lengths in use now. -/
def normalize (b : LocalMetricBucket) : LocalMetricBucket :=
  { b with
    authenticationLatency := b.authenticationLatency.normalize interactiveLatencyBoundsMillisecondsV1
    authenticationFailureClasses := resize failureClassCount b.authenticationFailureClasses
    webhookLatency := b.webhookLatency.normalize deliveryLatencyBoundsMillisecondsV1 }

def observeAuthenticationLatency (b : LocalMetricBucket) (event : AuthEvent) : LocalMetricBucket :=
  { b with
    authenticationLatency := b.authenticationLatency.observe interactiveLatencyBoundsMillisecondsV1
      event.data.latencyMilliseconds }

def failureIndex : Option String → Nat
  | some "invalidCredential" => 0
  | some "challengeExpired" => 1
  | some "originRejected" => 2
  | some "policyDenied" => 3
  | some "rateLimited" => 4
  | some "storeUnavailable" => 5
  | some "upstreamUnavailable" => 6
  | some "internal" => 7
  | _ => 8

def observeAuthenticationFailure (b : LocalMetricBucket) (event : AuthEvent) : LocalMetricBucket :=
  { b with
    authenticationFailureClasses :=
      b.authenticationFailureClasses.modify (failureIndex event.data.outcomeClass) increment }

def observeWebhookLatency (b : LocalMetricBucket) (event : AuthEvent) : LocalMetricBucket :=
  { b with
    webhookLatency := b.webhookLatency.observe deliveryLatencyBoundsMillisecondsV1
      event.data.latencyMilliseconds }

def observeWebhookBacklog (b : LocalMetricBucket) (event : AuthEvent) : LocalMetricBucket :=
  match event.data.backlog with
  | some backlog => { b with webhookBacklog := backlog }
  | none => b

/-! ## Counting an event -/

/-- The arms of `apply` for the counted types. -/
def count (b : LocalMetricBucket) (event : AuthEvent) : CountedEvent → LocalMetricBucket
  | .authenticationOptionsStarted =>
      { b with authenticationOptionsStarted := increment b.authenticationOptionsStarted }
  | .authenticationCompleted =>
      observeAuthenticationLatency
        { b with
          authenticationAttempts := increment b.authenticationAttempts
          authenticationSuccesses := increment b.authenticationSuccesses } event
  | .authenticationFailed =>
      observeAuthenticationLatency (observeAuthenticationFailure
        { b with
          authenticationAttempts := increment b.authenticationAttempts
          authenticationFailures := increment b.authenticationFailures } event) event
  | .authenticationDenied =>
      observeAuthenticationLatency (observeAuthenticationFailure
        { b with
          authenticationAttempts := increment b.authenticationAttempts
          authenticationDenials := increment b.authenticationDenials } event) event
  | .registrationOptionsStarted =>
      { b with registrationOptionsStarted := increment b.registrationOptionsStarted }
  | .registrationCeremonyOpened =>
      { b with registrationCeremoniesOpened := increment b.registrationCeremoniesOpened }
  | .registrationResponseReturned =>
      { b with registrationResponsesReturned := increment b.registrationResponsesReturned }
  | .registrationChallengeExpired =>
      { b with registrationChallengesExpired := increment b.registrationChallengesExpired }
  | .registrationCompleted => { b with registrationsCompleted := increment b.registrationsCompleted }
  | .sessionCreated => { b with sessionsCreated := increment b.sessionsCreated }
  | .sessionRevokedAll => { b with sessionsRevoked := increment b.sessionsRevoked }
  | .tokenUserIssued =>
      { b with userTokensIssued := satAdd b.userTokensIssued (event.data.count.getD 1) }
  | .serviceAccountTokenIssued =>
      { b with
        serviceTokensIssued := increment b.serviceTokensIssued
        serviceAccountMetricsObserved := true
        serviceAccountCalls := increment b.serviceAccountCalls
        serviceAccountSuccesses := increment b.serviceAccountSuccesses }
  | .serviceAccountTokenFailed =>
      { b with
        serviceAccountMetricsObserved := true
        serviceAccountCalls := increment b.serviceAccountCalls
        serviceAccountFailures := increment b.serviceAccountFailures }
  | .serviceAccountTokenDenied =>
      { b with
        serviceAccountMetricsObserved := true
        serviceAccountCalls := increment b.serviceAccountCalls
        serviceAccountDenials := increment b.serviceAccountDenials }
  | .serviceAccountCredentialCreated =>
      { b with
        serviceAccountMetricsObserved := true
        serviceAccountCredentialRotations := increment b.serviceAccountCredentialRotations }
  | .webhookDeliveryQueued => observeWebhookBacklog { b with webhookMetricsObserved := true } event
  | .webhookDeliverySucceeded =>
      observeWebhookBacklog (observeWebhookLatency
        { b with
          webhookMetricsObserved := true
          webhookDeliveries := increment b.webhookDeliveries
          webhookSuccesses := increment b.webhookSuccesses } event) event
  | .webhookDeliveryFailed =>
      observeWebhookBacklog (observeWebhookLatency
        { b with
          webhookMetricsObserved := true
          webhookDeliveries := increment b.webhookDeliveries
          webhookFailures := increment b.webhookFailures } event) event

/-- What `apply` records of every counted event: the sequence range and who was active. -/
def contribute (b : LocalMetricBucket) (event : AuthEvent) : LocalMetricBucket :=
  { b with
    firstEventSequence :=
      if b.firstEventSequence = 0 then event.sequence
      else min b.firstEventSequence event.sequence
    lastEventSequence := max b.lastEventSequence event.sequence
    activeSubjects :=
      b.activeSubjects ∪
        (if eventObservesActiveAccount event.eventType then event.subject.toFinset else ∅) ∪
        (if event.eventType = "token.user.issued" then event.data.subjectIds.toFinset else ∅) }

/-- The bucket after the event, and whether the event contributed. -/
def apply (b : LocalMetricBucket) (event : AuthEvent) : LocalMetricBucket × Bool :=
  match event.counted with
  | some kind => ((b.normalize.count event kind).contribute event, true)
  | none => (b.normalize, false)

/-! ## The wire form -/

def failureClass : Nat → FailureClass
  | 0 => .invalidCredential
  | 1 => .challengeExpired
  | 2 => .originRejected
  | 3 => .policyDenied
  | 4 => .rateLimited
  | 5 => .storeUnavailable
  | 6 => .upstreamUnavailable
  | 7 => .internal
  | _ => .other

def failureCounts (counts : List Nat) : List AuthenticationFailureCount :=
  (counts.zipIdx.filter (0 < ·.1)).map fun (count, index) => ⟨.known (failureClass index), count⟩

def i64Max : Nat := 2 ^ 63 - 1

/-- Seconds to milliseconds in `i64`, saturating. -/
def unixMilliseconds (seconds : Nat) : Int :=
  min ((if seconds ≤ i64Max then seconds else i64Max / 1000) * 1000 : Nat) i64Max

def toTelemetryBucket (b : LocalMetricBucket) (realmId : String) (assignmentEpoch : Nat) :
    TelemetryBucket where
  realmId
  assignmentEpoch
  bucketStartUnixMilliseconds := unixMilliseconds b.bucketStart
  bucketWidthSeconds := bucketWidthSecondsV1
  revision := max b.revision 1
  firstEventSequence := b.firstEventSequence
  lastEventSequence := b.lastEventSequence
  metricSchemaVersion := .known .v1
  closed := b.closed
  authentication := some
    { attempts := b.authenticationAttempts
      successes := b.authenticationSuccesses
      failures := b.authenticationFailures
      denials := b.authenticationDenials
      latency := some
        { profile := .known .interactiveMillisecondsV1
          count := b.authenticationLatency.count
          sumMilliseconds := b.authenticationLatency.sumMilliseconds
          cumulativeCounts := b.authenticationLatency.cumulativeCounts }
      flows := [
        { flow := .known .passkey
          attempts := b.authenticationAttempts
          successes := b.authenticationSuccesses
          failures := b.authenticationFailures
          denials := b.authenticationDenials }]
      failureClasses := failureCounts b.authenticationFailureClasses
      activeAccountObservations := b.activeSubjects.card }
  registration := some
    { optionsStarted := b.registrationOptionsStarted
      ceremoniesOpened := b.registrationCeremoniesOpened
      responsesReturned := b.registrationResponsesReturned
      registrationsCompleted := b.registrationsCompleted
      challengesExpired := b.registrationChallengesExpired }
  sessionsAndTokens := some
    { sessionsCreated := b.sessionsCreated
      sessionsRevoked := b.sessionsRevoked
      userTokensIssued := b.userTokensIssued
      serviceTokensIssued := b.serviceTokensIssued }
  serviceAccounts :=
    if b.serviceAccountMetricsObserved then some
      { calls := b.serviceAccountCalls
        successes := b.serviceAccountSuccesses
        failures := b.serviceAccountFailures
        denials := b.serviceAccountDenials
        credentialRotations := b.serviceAccountCredentialRotations }
    else none
  webhooks :=
    if b.webhookMetricsObserved then some
      { deliveries := b.webhookDeliveries
        successes := b.webhookSuccesses
        failures := b.webhookFailures
        latency := some
          { profile := .known .deliveryMillisecondsV1
            count := b.webhookLatency.count
            sumMilliseconds := b.webhookLatency.sumMilliseconds
            cumulativeCounts := b.webhookLatency.cumulativeCounts }
        backlog := b.webhookBacklog }
    else none
  platform := none
  realmHealth := none

end LocalMetricBucket

end RustyAuth
