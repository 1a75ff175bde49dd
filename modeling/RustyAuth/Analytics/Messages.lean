/-
  The records of realm analytics.

  `LocalMetricBucket` is what the projector keeps for five minutes of the event log, and
  the messages of `rustyauth.analytics.v1` are what it sends to Fleet: a batch of
  buckets, each a set of metric families.  A family that is not set is one the realm does
  not report.  Messages carry the fields of the schema and the length of their encoding
  (`encodedLen`); an enumeration keeps numbers it does not know.
-/
import RustyAuth.Store.Records
import RustyAuth.Library.Protobuf
import Mathlib.Data.Finset.Card

namespace RustyAuth

open RustyAuth.Library

/-! ## Enumerations -/

/-- A value of an open enumeration. -/
inductive EnumValue (E : Type)
  | known (value : E)
  | unknown (number : Int)
deriving DecidableEq

def EnumValue.asKnown {E : Type} : EnumValue E → Option E
  | .known value => some value
  | .unknown _ => none

/-- `to_i32`, given the numbers of the known values. -/
def EnumValue.toI32 {E : Type} (number : E → Nat) : EnumValue E → Int
  | .known value => number value
  | .unknown n => n

inductive MetricSchemaVersion
  | unspecified
  | v1
deriving DecidableEq

def MetricSchemaVersion.number : MetricSchemaVersion → Nat
  | .unspecified => 0
  | .v1 => 1

inductive HistogramProfile
  | unspecified
  | interactiveMillisecondsV1
  | deliveryMillisecondsV1
deriving DecidableEq

def HistogramProfile.number : HistogramProfile → Nat
  | .unspecified => 0
  | .interactiveMillisecondsV1 => 1
  | .deliveryMillisecondsV1 => 2

inductive AuthenticationFlow
  | unspecified
  | passkey
  | emailLink
  | recovery
deriving DecidableEq

def AuthenticationFlow.number : AuthenticationFlow → Nat
  | .unspecified => 0
  | .passkey => 1
  | .emailLink => 2
  | .recovery => 3

inductive FailureClass
  | unspecified
  | invalidCredential
  | challengeExpired
  | originRejected
  | policyDenied
  | rateLimited
  | storeUnavailable
  | upstreamUnavailable
  | internal
  | other
deriving DecidableEq

def FailureClass.number : FailureClass → Nat
  | .unspecified => 0
  | .invalidCredential => 1
  | .challengeExpired => 2
  | .originRejected => 3
  | .policyDenied => 4
  | .rateLimited => 5
  | .storeUnavailable => 6
  | .upstreamUnavailable => 7
  | .internal => 8
  | .other => 9

inductive AnalyticsServingState
  | unspecified
  | healthy
  | degraded
  | unavailable
deriving DecidableEq

def AnalyticsServingState.number : AnalyticsServingState → Nat
  | .unspecified => 0
  | .healthy => 1
  | .degraded => 2
  | .unavailable => 3

/-! ## Messages -/

structure LatencyHistogram where
  profile : EnumValue HistogramProfile
  count : Nat
  sumMilliseconds : Nat
  cumulativeCounts : List Nat
deriving DecidableEq

def LatencyHistogram.encodedLen (m : LatencyHistogram) : Nat :=
  intField 1 (m.profile.toI32 HistogramProfile.number) + varintField 2 m.count +
    varintField 3 m.sumMilliseconds + packedField 4 m.cumulativeCounts

structure AuthenticationFlowCount where
  flow : EnumValue AuthenticationFlow
  attempts : Nat
  successes : Nat
  failures : Nat
  denials : Nat
deriving DecidableEq

def AuthenticationFlowCount.encodedLen (m : AuthenticationFlowCount) : Nat :=
  intField 1 (m.flow.toI32 AuthenticationFlow.number) + varintField 2 m.attempts +
    varintField 3 m.successes + varintField 4 m.failures + varintField 5 m.denials

structure AuthenticationFailureCount where
  failureClass : EnumValue FailureClass
  count : Nat
deriving DecidableEq

def AuthenticationFailureCount.encodedLen (m : AuthenticationFailureCount) : Nat :=
  intField 1 (m.failureClass.toI32 FailureClass.number) + varintField 2 m.count

structure AuthenticationMetrics where
  attempts : Nat
  successes : Nat
  failures : Nat
  denials : Nat
  latency : Option LatencyHistogram
  flows : List AuthenticationFlowCount
  failureClasses : List AuthenticationFailureCount
  activeAccountObservations : Nat
deriving DecidableEq

def AuthenticationMetrics.encodedLen (m : AuthenticationMetrics) : Nat :=
  varintField 1 m.attempts + varintField 2 m.successes + varintField 3 m.failures +
    varintField 4 m.denials + messageField 5 LatencyHistogram.encodedLen m.latency +
    repeatedField 6 AuthenticationFlowCount.encodedLen m.flows +
    repeatedField 7 AuthenticationFailureCount.encodedLen m.failureClasses +
    varintField 8 m.activeAccountObservations

structure RegistrationMetrics where
  optionsStarted : Nat
  ceremoniesOpened : Nat
  responsesReturned : Nat
  registrationsCompleted : Nat
  challengesExpired : Nat
deriving DecidableEq

def RegistrationMetrics.encodedLen (m : RegistrationMetrics) : Nat :=
  varintField 1 m.optionsStarted + varintField 2 m.ceremoniesOpened +
    varintField 3 m.responsesReturned + varintField 4 m.registrationsCompleted +
    varintField 5 m.challengesExpired

structure SessionTokenMetrics where
  sessionsCreated : Nat
  sessionsRevoked : Nat
  userTokensIssued : Nat
  serviceTokensIssued : Nat
deriving DecidableEq

def SessionTokenMetrics.encodedLen (m : SessionTokenMetrics) : Nat :=
  varintField 1 m.sessionsCreated + varintField 2 m.sessionsRevoked +
    varintField 3 m.userTokensIssued + varintField 4 m.serviceTokensIssued

structure ServiceAccountMetrics where
  calls : Nat
  successes : Nat
  failures : Nat
  denials : Nat
  credentialRotations : Nat
deriving DecidableEq

def ServiceAccountMetrics.encodedLen (m : ServiceAccountMetrics) : Nat :=
  varintField 1 m.calls + varintField 2 m.successes + varintField 3 m.failures +
    varintField 4 m.denials + varintField 5 m.credentialRotations

structure WebhookMetrics where
  deliveries : Nat
  successes : Nat
  failures : Nat
  latency : Option LatencyHistogram
  backlog : Nat
deriving DecidableEq

def WebhookMetrics.encodedLen (m : WebhookMetrics) : Nat :=
  varintField 1 m.deliveries + varintField 2 m.successes + varintField 3 m.failures +
    messageField 4 LatencyHistogram.encodedLen m.latency + varintField 5 m.backlog

structure PlatformMetrics where
  apiRequests : Nat
  apiErrors : Nat
  apiLatency : Option LatencyHistogram
  sabledbOperations : Nat
  sabledbErrors : Nat
  sabledbLatency : Option LatencyHistogram
deriving DecidableEq

def PlatformMetrics.encodedLen (m : PlatformMetrics) : Nat :=
  varintField 1 m.apiRequests + varintField 2 m.apiErrors +
    messageField 3 LatencyHistogram.encodedLen m.apiLatency + varintField 4 m.sabledbOperations +
    varintField 5 m.sabledbErrors + messageField 6 LatencyHistogram.encodedLen m.sabledbLatency

structure RealmHealthMetrics where
  servingState : EnumValue AnalyticsServingState
  backupAgeSeconds : Nat
  signingKeyAgeSeconds : Nat
  connectorLagSeconds : Nat
deriving DecidableEq

def RealmHealthMetrics.encodedLen (m : RealmHealthMetrics) : Nat :=
  intField 1 (m.servingState.toI32 AnalyticsServingState.number) +
    varintField 2 m.backupAgeSeconds + varintField 3 m.signingKeyAgeSeconds +
    varintField 4 m.connectorLagSeconds

structure TelemetryBucket where
  realmId : String
  assignmentEpoch : Nat
  bucketStartUnixMilliseconds : Int
  bucketWidthSeconds : Nat
  revision : Nat
  firstEventSequence : Nat
  lastEventSequence : Nat
  metricSchemaVersion : EnumValue MetricSchemaVersion
  closed : Bool
  authentication : Option AuthenticationMetrics
  registration : Option RegistrationMetrics
  sessionsAndTokens : Option SessionTokenMetrics
  serviceAccounts : Option ServiceAccountMetrics
  webhooks : Option WebhookMetrics
  platform : Option PlatformMetrics
  realmHealth : Option RealmHealthMetrics
deriving DecidableEq

def TelemetryBucket.encodedLen (m : TelemetryBucket) : Nat :=
  stringField 1 m.realmId.utf8ByteSize + varintField 2 m.assignmentEpoch +
    intField 3 m.bucketStartUnixMilliseconds + varintField 4 m.bucketWidthSeconds +
    varintField 5 m.revision + varintField 6 m.firstEventSequence +
    varintField 7 m.lastEventSequence +
    intField 8 (m.metricSchemaVersion.toI32 MetricSchemaVersion.number) +
    varintField 9 m.closed.toNat +
    messageField 10 AuthenticationMetrics.encodedLen m.authentication +
    messageField 11 RegistrationMetrics.encodedLen m.registration +
    messageField 12 SessionTokenMetrics.encodedLen m.sessionsAndTokens +
    messageField 13 ServiceAccountMetrics.encodedLen m.serviceAccounts +
    messageField 14 WebhookMetrics.encodedLen m.webhooks +
    messageField 15 PlatformMetrics.encodedLen m.platform +
    messageField 16 RealmHealthMetrics.encodedLen m.realmHealth

structure TelemetryBucketBatch where
  transportSchemaVersion : Nat
  batchId : String
  realmId : String
  buckets : List TelemetryBucket
deriving DecidableEq

/-- `encode_to_vec().len()`. -/
def TelemetryBucketBatch.encodedLen (m : TelemetryBucketBatch) : Nat :=
  varintField 1 m.transportSchemaVersion + stringField 2 m.batchId.utf8ByteSize +
    stringField 3 m.realmId.utf8ByteSize + repeatedField 4 TelemetryBucket.encodedLen m.buckets

/-! ## What the realm keeps -/

/-- The count, sum and cumulative counts of one latency histogram. -/
structure LatencyCounts where
  count : Nat
  sumMilliseconds : Nat
  cumulativeCounts : List Nat
deriving DecidableEq

structure LocalMetricBucket where
  bucketStart : Nat
  revision : Nat
  firstEventSequence : Nat
  lastEventSequence : Nat
  closed : Bool
  authenticationOptionsStarted : Nat
  authenticationAttempts : Nat
  authenticationSuccesses : Nat
  authenticationFailures : Nat
  authenticationDenials : Nat
  authenticationLatency : LatencyCounts
  authenticationFailureClasses : List Nat
  registrationOptionsStarted : Nat
  registrationCeremoniesOpened : Nat
  registrationResponsesReturned : Nat
  registrationsCompleted : Nat
  registrationChallengesExpired : Nat
  sessionsCreated : Nat
  sessionsRevoked : Nat
  userTokensIssued : Nat
  serviceTokensIssued : Nat
  serviceAccountMetricsObserved : Bool
  serviceAccountCalls : Nat
  serviceAccountSuccesses : Nat
  serviceAccountFailures : Nat
  serviceAccountDenials : Nat
  serviceAccountCredentialRotations : Nat
  webhookMetricsObserved : Bool
  webhookDeliveries : Nat
  webhookSuccesses : Nat
  webhookFailures : Nat
  webhookLatency : LatencyCounts
  webhookBacklog : Nat
  -- subject ids stay inside the realm and are never copied to the wire
  activeSubjects : Finset Uuid
deriving DecidableEq

/-- A closed bucket waiting for Fleet; the batch stands for its encoded payload. -/
structure TelemetryOutboxRecord where
  bucketStart : Nat
  revision : Nat
  batchId : Uuid
  payload : TelemetryBucketBatch
  firstQueuedAt : Nat
  attempts : Nat
  nextAttemptAt : Nat
deriving DecidableEq

end RustyAuth
