/-
  What the signature of a connector frame binds.

  Both sides sign under one key, derived from the connection's credential: Fleet its commands, the
  realm its heartbeats and its answers.  The bytes that are signed determine the eight fields of
  the frame (`connectorFrameSigningBytes_inj`), the kind among them.  So if no tag is forged, what
  a side accepts was signed by the other side, in all those fields: a command that is sent back to
  Fleet is not taken for an answer.

  Texts and payloads are no longer than memory, and kinds are 32-bit numbers (`Representable`).
-/
import RustyAuth.Library.Mac
import RustyAuth.Library.Bytes
import RustyAuth.Telemetry.Connector

namespace RustyAuth

open RustyAuth.Library

/-! ## The signed bytes -/

/-- What every frame in memory satisfies. -/
structure ConnectorFrame.Representable (frame : ConnectorFrame) : Prop where
  fits : ∀ value ∈ frame.signedFields, value.length < 2 ^ 64
  kind : -2 ^ 31 ≤ frame.kind.toI32 ConnectorFrameKind.number ∧
    frame.kind.toI32 ConnectorFrameKind.number < 2 ^ 31

/-- The frames have the same fields, the signature apart. -/
structure ConnectorFrame.Agrees (f g : ConnectorFrame) : Prop where
  realmId : f.realmId = g.realmId
  connectionId : f.connectionId = g.connectionId
  requestId : f.requestId = g.requestId
  kind : f.kind.toI32 ConnectorFrameKind.number = g.kind.toI32 ConnectorFrameKind.number
  capability : f.capability = g.capability
  expiresAt : f.expiresAt = g.expiresAt
  payloadType : f.payloadType = g.payloadType
  payload : f.payload = g.payload

variable {f g : ConnectorFrame} {now : Nat}

theorem connectorFrameSigningBytes_inj (hf : f.Representable) (hg : g.Representable)
    (h : connectorFrameSigningBytes f = connectorFrameSigningBytes g) :
    f.Agrees g := by
  unfold connectorFrameSigningBytes at h
  have hfields : f.signedFields = g.signedFields :=
    framed_inj (by decide) hf.fits hg.fits (List.append_cancel_left h)
  simp only [ConnectorFrame.signedFields, List.cons.injEq, and_true] at hfields
  obtain ⟨hrealm, hconnection, hrequest, hkind, hcapability, hexpires, htype, hpayload⟩ := hfields
  refine ⟨utf8_inj hrealm, utf8_inj hconnection, utf8_inj hrequest, ?_, utf8_inj hcapability,
    utf8_inj hexpires, utf8_inj htype, hpayload⟩
  -- the numbers agree modulo `2 ^ 32`, and both are 32-bit numbers
  obtain ⟨hf_lower, hf_upper⟩ := hf.kind
  obtain ⟨hg_lower, hg_upper⟩ := hg.kind
  have hnumber := bigEndian_inj (by omega) (by omega) hkind
  omega

/-- Known kinds are told apart. -/
theorem ConnectorFrameKind.number_inj {k k' : ConnectorFrameKind} (h : k.number = k'.number) :
    k = k' := by
  cases k <;> cases k' <;> first | rfl | cases h

theorem ConnectorFrame.Agrees.known (h : f.Agrees g) {k k' : ConnectorFrameKind}
    (hf : f.kind = .known k) (hg : g.kind.asKnown = some k') :
    k = k' := by
  have hkind := h.kind
  rw [hf] at hkind
  cases hvalue : g.kind with
  | unknown n =>
    rw [hvalue] at hg
    cases hg
  | known value =>
    rw [hvalue] at hg hkind
    cases hg
    exact ConnectorFrameKind.number_inj (Int.ofNat.inj hkind)

/-- The kind is as it is read off the wire: the number of a known kind is not unknown. -/
def ConnectorFrame.KindDecoded (frame : ConnectorFrame) : Prop :=
  ∀ n, frame.kind = .unknown n → ∀ kind : ConnectorFrameKind, (kind.number : Int) ≠ n

theorem ConnectorFrame.Agrees.kind_eq (h : f.Agrees g) (hf : f.KindDecoded) (hg : g.KindDecoded) :
    f.kind = g.kind := by
  have hkind := h.kind
  cases hfk : f.kind with
  | known k =>
    cases hgk : g.kind with
    | known k' =>
      rw [hfk, hgk] at hkind
      rw [ConnectorFrameKind.number_inj (Int.ofNat.inj hkind)]
    | unknown n =>
      rw [hfk, hgk] at hkind
      exact absurd hkind (hg n hgk k)
  | unknown m =>
    cases hgk : g.kind with
    | known k' =>
      rw [hfk, hgk] at hkind
      exact absurd hkind.symm (hf m hfk k')
    | unknown n =>
      rw [hfk, hgk] at hkind
      exact congrArg _ hkind

/-! ## What is signed -/

section

variable (crates : ConnectorCrates)

/-- The command of `outbound_command_with_credential`, before it is signed. -/
def outboundCommand (connection : FleetConnectionRecord) (requestId : Uuid)
    (capability expiresAt : String) (payload : Bytes) (requestType : String) : ConnectorFrame where
  realmId := connection.realmId
  connectionId := connection.id.text
  requestId := requestId.text
  kind := .known .command
  capability
  expiresAt
  payload
  payloadType := requestType
  signature := []

def heartbeatFrame (grant : RealmFleetGrantRecord) (requestId : Uuid) (expiresAt : String) :
    ConnectorFrame where
  realmId := grant.realmId
  connectionId := grant.connectionId.text
  requestId := requestId.text
  kind := .known .heartbeat
  capability := "connector.lifecycle"
  expiresAt
  payload := []
  payloadType := ""
  signature := []

/-- The response of `execute_connector_command` to what the command came to. -/
def commandResponse (grant : RealmFleetGrantRecord) (command : ConnectorFrame)
    (outcome : RpcResult (String × Bytes)) : ConnectorFrame :=
  let (kind, payloadType, payload) : ConnectorFrameKind × String × Bytes :=
    match outcome with
    | .ok (payloadType, payload) => (.result, payloadType, payload)
    | .error _ => (.error, "rustyauth.connector.v1.CommandError", [])
  { realmId := grant.realmId
    connectionId := grant.connectionId.text
    requestId := command.requestId
    kind := .known kind
    capability := command.capability
    expiresAt := command.expiresAt
    payload
    payloadType
    signature := [] }

def validateRealmCommand (now : Nat) (command : ConnectorFrame) (grant : RealmFleetGrantRecord)
    (signingKey : Bytes) : RpcResult Unit := do
  ensure (¬(command.kind.asKnown ≠ some .command ∨ command.realmId ≠ grant.realmId ∨
      command.connectionId ≠ grant.connectionId.text ∨ crates.parseStr command.requestId = none))
    ⟨.permissionDenied, "connector command does not match the authenticated grant"⟩
  validateConnectorExpiry crates now command.expiresAt
  verifyConnectorFrame crates command signingKey

inductive ConnectorSide
  | fleet
  | realm
deriving DecidableEq

/-- A frame is signed by a side, or is presented to one, by whomever. -/
inductive SignatureEvent
  | commanded (connection : FleetConnectionRecord) (credential : String) (requestId : Uuid)
      (capability expiresAt : String) (payload : Bytes) (requestType : String)
  | beat (grant : RealmFleetGrantRecord) (signingKey : Bytes) (requestId : Uuid)
      (expiresAt : String)
  | answered (grant : RealmFleetGrantRecord) (signingKey : Bytes) (command : ConnectorFrame)
      (outcome : RpcResult (String × Bytes))
  | toFleet (now : Nat) (connection : FleetConnectionRecord) (signingKey : Bytes)
      (frame : ConnectorFrame)
  | toRealm (now : Nat) (grant : RealmFleetGrantRecord) (signingKey : Bytes)
      (frame : ConnectorFrame)

/-- What an event is to the signatures. -/
inductive FrameAct
  | signs (side : ConnectorSide) (signingKey : Bytes) (frame : ConnectorFrame)
  | presents (signingKey : Bytes) (frame : ConnectorFrame)

def SignatureEvent.act : SignatureEvent → FrameAct
  | commanded connection credential requestId capability expiresAt payload requestType =>
      let signingKey := connectorSigningKeyFromCredential crates credential
      .signs .fleet signingKey (signConnectorFrame crates
        (outboundCommand connection requestId capability expiresAt payload requestType) signingKey)
  | beat grant signingKey requestId expiresAt =>
      .signs .realm signingKey
        (signConnectorFrame crates (heartbeatFrame grant requestId expiresAt) signingKey)
  | answered grant signingKey command outcome =>
      .signs .realm signingKey
        (signConnectorFrame crates (commandResponse grant command outcome) signingKey)
  | toFleet _ _ signingKey frame => .presents signingKey frame
  | toRealm _ _ signingKey frame => .presents signingKey frame

def FrameAct.frame : FrameAct → ConnectorFrame
  | signs _ _ frame => frame
  | presents _ frame => frame

def FrameAct.mac : FrameAct → Mac.Event Bytes Bytes Bytes
  | signs _ signingKey frame => .signed signingKey (connectorFrameSigningBytes frame)
  | presents signingKey frame =>
      .presented signingKey (connectorFrameSigningBytes frame) frame.signature

/-- Frames as they are in memory, and no tag that was not made. -/
structure Unforged (history : List SignatureEvent) : Prop where
  representable : ∀ event ∈ history, (event.act crates).frame.Representable
  unforgeable : Mac.Unforgeable crates.hmac (history.map fun event => (event.act crates).mac)

/-- Under this key, one of the events signs a frame that agrees with this one. -/
def SignedBefore (earlier : List SignatureEvent) (side : ConnectorSide) (signingKey : Bytes)
    (frame : ConnectorFrame) : Prop :=
  ∃ source ∈ earlier, ∃ f, source.act crates = .signs side signingKey f ∧ f.Agrees frame

/-- How Fleet takes a frame as an answer or as a heartbeat: by its kind. -/
def AcceptedByFleet (now : Nat) (frame : ConnectorFrame) (connection : FleetConnectionRecord)
    (signingKey : Bytes) : Prop :=
  match frame.kind.asKnown with
  | some .result | some .error =>
      validateCommandResponse crates now frame connection signingKey = .ok ()
  | some .heartbeat => validateHeartbeat crates now frame connection signingKey = .ok ()
  | _ => False

end

/-! ## What is accepted -/

section

variable {crates : ConnectorCrates} {history earlier later : List SignatureEvent}
  {event : SignatureEvent} {signingKey : Bytes} {frame : ConnectorFrame}

theorem verifyConnectorFrame_eq_ok :
    verifyConnectorFrame crates frame signingKey = .ok () ↔ frame.signature.length = 32 ∧
      crates.hmac signingKey (connectorFrameSigningBytes frame) = frame.signature := by
  unfold verifyConnectorFrame
  rw [bind_unit_eq_ok, ensure_eq_ok, ensure_eq_ok]

/-- Fleet signs commands only. -/
theorem kind_of_fleet (h : event.act crates = .signs .fleet signingKey f) :
    f.kind = .known .command := by
  cases event with
  | commanded => cases h; rfl
  | beat => cases h
  | answered => cases h
  | toFleet => cases h
  | toRealm => cases h

/-- The realm signs heartbeats and answers only. -/
theorem kind_of_realm (h : event.act crates = .signs .realm signingKey f) :
    ∃ kind, f.kind = .known kind ∧ kind ≠ .command := by
  cases event with
  | commanded => cases h
  | beat =>
    cases h
    exact ⟨.heartbeat, rfl, by decide⟩
  | answered grant key command outcome =>
    cases h
    cases outcome with
    | ok value => exact ⟨.result, rfl, by decide⟩
    | error error => exact ⟨.error, rfl, by decide⟩
  | toFleet => cases h
  | toRealm => cases h

/-- A frame with a signature that verifies agrees with one that was signed under the key. -/
theorem Unforged.signedBefore (h : Unforged crates (earlier ++ event :: later))
    (hevent : event.act crates = .presents signingKey frame)
    (hverify : verifyConnectorFrame crates frame signingKey = .ok ()) :
    ∃ side, SignedBefore crates earlier side signingKey frame := by
  obtain ⟨_, htag⟩ := verifyConnectorFrame_eq_ok.mp hverify
  have hsigned := h.unforgeable (earlier.map fun event => (event.act crates).mac) signingKey
    (connectorFrameSigningBytes frame) frame.signature
    (later.map fun event => (event.act crates).mac)
    (by rw [List.map_append, List.map_cons, hevent]; rfl) htag
  obtain ⟨source, hsource, hmac⟩ := List.mem_map.mp hsigned
  have hrepresentable : frame.Representable := by
    have := h.representable event (List.mem_append_right _ List.mem_cons_self)
    rwa [hevent] at this
  have hrepresentable' := h.representable source (List.mem_append_left _ hsource)
  cases hact : source.act crates with
  | signs side key f =>
    rw [hact] at hmac hrepresentable'
    injection hmac with hkey hbytes
    subst hkey
    exact ⟨side, source, hsource, f, hact,
      connectorFrameSigningBytes_inj hrepresentable' hrepresentable hbytes⟩
  | presents key f =>
    rw [hact] at hmac
    cases hmac

theorem validateBoundSignedFrame_verify {connection : FleetConnectionRecord}
    (h : validateBoundSignedFrame crates now frame connection signingKey = .ok ()) :
    verifyConnectorFrame crates frame signingKey = .ok () := by
  unfold validateBoundSignedFrame at h
  rw [bind_unit_eq_ok, bind_unit_eq_ok] at h
  exact h.2.2

theorem validateRealmCommand_eq_ok {grant : RealmFleetGrantRecord}
    (h : validateRealmCommand crates now frame grant signingKey = .ok ()) :
    frame.kind.asKnown = some .command ∧
      verifyConnectorFrame crates frame signingKey = .ok () := by
  unfold validateRealmCommand at h
  rw [bind_unit_eq_ok, bind_unit_eq_ok, ensure_eq_ok] at h
  obtain ⟨hbound, _, hverify⟩ := h
  refine ⟨?_, hverify⟩
  by_contra hkind
  exact hbound (Or.inl hkind)

/-- What Fleet accepts is bound to its connection, and of a kind that it does not sign. -/
theorem AcceptedByFleet.bound {connection : FleetConnectionRecord}
    (h : AcceptedByFleet crates now frame connection signingKey) :
    validateBoundSignedFrame crates now frame connection signingKey = .ok () ∧
      ∃ kind ∈ [.heartbeat, .result, .error], frame.kind.asKnown = some kind := by
  unfold AcceptedByFleet at h
  split at h
  · next hkind =>
    unfold validateCommandResponse at h
    rw [bind_unit_eq_ok] at h
    exact ⟨h.1, .result, by decide, hkind⟩
  · next hkind =>
    unfold validateCommandResponse at h
    rw [bind_unit_eq_ok] at h
    exact ⟨h.1, .error, by decide, hkind⟩
  · next hkind =>
    unfold validateHeartbeat at h
    rw [bind_unit_eq_ok] at h
    exact ⟨h.1, .heartbeat, by decide, hkind⟩
  · exact h.elim

/-- A stream goes on after a frame other than a telemetry batch only if it accepted the frame. -/
theorem acceptedByFleet_of_receiveFrame {ctx : ConnectorContext} {db : Db}
    {stream : ConnectorStream} (hkind : frame.kind.asKnown ≠ some .telemetryBatch)
    (h : (receiveFrame ctx db now stream frame).phase ≠ .idle) :
    AcceptedByFleet ctx.crates now frame stream.connection stream.signingKey := by
  unfold receiveFrame at h
  unfold AcceptedByFleet
  have hresponse : (continueWith db (receiveResponse ctx now stream frame)).phase ≠ .idle →
      validateCommandResponse ctx.crates now frame stream.connection stream.signingKey =
        .ok () := by
    intro hphase
    cases hreceived : receiveResponse ctx now stream frame with
    | error error =>
      rw [hreceived] at hphase
      exact absurd rfl hphase
    | ok phase =>
      unfold receiveResponse at hreceived
      rw [bind_unit_eq_ok] at hreceived
      exact hreceived.1
  split at h
  · next hbatch => exact absurd hbatch hkind
  · next hresult =>
    rw [hresult]
    exact hresponse h
  · next herror =>
    rw [herror]
    exact hresponse h
  · next hbeat =>
    rw [hbeat]
    unfold receiveHeartbeat at h
    split at h
    · exact absurd rfl h
    · next hok => exact hok
  · exact absurd rfl h

theorem SignedBefore.side_of_command {side : ConnectorSide}
    (h : SignedBefore crates earlier side signingKey frame)
    (hkind : frame.kind.asKnown = some .command) : side = .fleet := by
  obtain ⟨source, _, f, hact, hagrees⟩ := h
  cases side with
  | fleet => rfl
  | realm =>
    obtain ⟨kind, hknown, hne⟩ := kind_of_realm hact
    exact absurd (hagrees.known hknown hkind) hne

theorem SignedBefore.side_of_ne_command {side : ConnectorSide} {kind : ConnectorFrameKind}
    (h : SignedBefore crates earlier side signingKey frame)
    (hkind : frame.kind.asKnown = some kind) (hne : kind ≠ .command) : side = .realm := by
  obtain ⟨source, _, f, hact, hagrees⟩ := h
  cases side with
  | fleet => exact absurd (hagrees.known (kind_of_fleet hact) hkind).symm hne
  | realm => rfl

/-- What is accepted when the event happens was signed before, by the other side. -/
structure Authentic (crates : ConnectorCrates) (earlier : List SignatureEvent)
    (event : SignatureEvent) : Prop where
  /-- A frame that passes `validate_bound_signed_frame`, whatever its kind. -/
  bound : ∀ now connection signingKey frame,
    event = .toFleet now connection signingKey frame →
    validateBoundSignedFrame crates now frame connection signingKey = .ok () →
      ∃ side, SignedBefore crates earlier side signingKey frame
  command : ∀ now grant signingKey frame, event = .toRealm now grant signingKey frame →
    validateRealmCommand crates now frame grant signingKey = .ok () →
      SignedBefore crates earlier .fleet signingKey frame
  /-- An answer or a heartbeat was signed by the realm, and agrees with no command. -/
  response : ∀ now connection signingKey frame,
    event = .toFleet now connection signingKey frame →
    AcceptedByFleet crates now frame connection signingKey →
      SignedBefore crates earlier .realm signingKey frame ∧
        ∀ key, ¬ SignedBefore crates earlier .fleet key frame

theorem Unforged.authentic (h : Unforged crates (earlier ++ event :: later)) :
    Authentic crates earlier event where
  bound := by
    rintro now connection signingKey frame rfl hok
    exact h.signedBefore rfl (validateBoundSignedFrame_verify hok)
  command := by
    rintro now grant signingKey frame rfl hok
    obtain ⟨hkind, hverify⟩ := validateRealmCommand_eq_ok hok
    obtain ⟨side, hsigned⟩ := h.signedBefore rfl hverify
    cases hsigned.side_of_command hkind
    exact hsigned
  response := by
    rintro now connection signingKey frame rfl haccepted
    obtain ⟨hbound, kind, hresponse, hkind⟩ := haccepted.bound
    have hne : kind ≠ .command := by
      rintro rfl
      exact absurd hresponse (by decide)
    obtain ⟨side, hsigned⟩ := h.signedBefore rfl (validateBoundSignedFrame_verify hbound)
    cases hsigned.side_of_ne_command hkind hne
    refine ⟨hsigned, fun key hcommand => ?_⟩
    cases hcommand.side_of_ne_command hkind hne

/-- The signed bytes determine every field of a frame but the signature; and where no tag is forged,
    what a side accepts agrees with a frame that the other side has signed. -/
theorem frame_signatures_bind (crates : ConnectorCrates) :
    (∀ f g : ConnectorFrame, f.Representable → g.Representable →
      connectorFrameSigningBytes f = connectorFrameSigningBytes g →
      f.Agrees g ∧ (f.KindDecoded → g.KindDecoded → f.kind = g.kind)) ∧
    ∀ earlier event later, Unforged crates (earlier ++ event :: later) →
      Authentic crates earlier event := by
  refine ⟨fun f g hf hg hbytes => ?_, fun _ _ _ => Unforged.authentic⟩
  have hagrees := connectorFrameSigningBytes_inj hf hg hbytes
  exact ⟨hagrees, hagrees.kind_eq⟩

/-- A stream goes on only with telemetry batches, and with heartbeats and answers whose signature
    verifies and which the realm signed under its key. -/
theorem stream_frames_signed (ctx : ConnectorContext) (db : Db) (stream : ConnectorStream)
    (h : Unforged ctx.crates
      (earlier ++ .toFleet now stream.connection stream.signingKey frame :: later))
    (hkind : frame.kind.asKnown ≠ some .telemetryBatch)
    (hon : (receiveFrame ctx db now stream frame).phase ≠ .idle) :
    (∃ kind ∈ [.heartbeat, .result, .error], frame.kind.asKnown = some kind) ∧
      verifyConnectorFrame ctx.crates frame stream.signingKey = .ok () ∧
      SignedBefore ctx.crates earlier .realm stream.signingKey frame := by
  have haccepted := acceptedByFleet_of_receiveFrame hkind hon
  obtain ⟨hbound, hresponse⟩ := haccepted.bound
  exact ⟨hresponse, validateBoundSignedFrame_verify hbound,
    (h.authentic.response _ _ _ _ rfl haccepted).1⟩

end

/-! ### A command and its answer -/

def sampleRealmGrant : RealmFleetGrantRecord :=
  ⟨sampleConnection.id, "realm", "https://fleet.example", "fleet", 1, "digest", "rfg_",
    ["realm.read"], 0, 9000, none⟩

def sampleSigningKey : Bytes := connectorSigningKeyFromCredential sampleConnector.crates "secret"

def sampleSignedCommand : ConnectorFrame :=
  signConnectorFrame sampleConnector.crates
    (outboundCommand sampleConnection 1 "realm.operations" sampleExpiry [1] "Ping") sampleSigningKey

def sampleSignedAnswer : ConnectorFrame :=
  signConnectorFrame sampleConnector.crates
    (commandResponse sampleRealmGrant sampleSignedCommand (.ok ("Pong", [2]))) sampleSigningKey

def sampleSigned : List SignatureEvent :=
  [.commanded sampleConnection "secret" 1 "realm.operations" sampleExpiry [1] "Ping",
    .toRealm 1200 sampleRealmGrant sampleSigningKey sampleSignedCommand,
    .answered sampleRealmGrant sampleSigningKey sampleSignedCommand (.ok ("Pong", [2]))]

def sampleAnswered : SignatureEvent :=
  .toFleet 1200 sampleConnection sampleSigningKey sampleSignedAnswer

instance (frame : ConnectorFrame) : Decidable frame.Representable :=
  decidable_of_iff
    ((∀ value ∈ frame.signedFields, value.length < 2 ^ 64) ∧
      -2 ^ 31 ≤ frame.kind.toI32 ConnectorFrameKind.number ∧
      frame.kind.toI32 ConnectorFrameKind.number < 2 ^ 31)
    ⟨fun h => ⟨h.1, h.2⟩, fun h => ⟨h.fits, h.kind⟩⟩

theorem unforged_sample : Unforged sampleConnector.crates (sampleSigned ++ [sampleAnswered]) := by
  refine ⟨by decide +kernel, ?_⟩
  have hcommanded := (Mac.unforgeable_nil sampleConnector.crates.hmac).concat
    (.signed sampleSigningKey (connectorFrameSigningBytes sampleSignedCommand))
    fun _ _ _ h => by cases h
  have hpresented := hcommanded.concat (.presented sampleSigningKey
    (connectorFrameSigningBytes sampleSignedCommand) sampleSignedCommand.signature)
    fun _ _ _ h _ => by cases h; exact List.mem_singleton_self _
  have hanswered := hpresented.concat
    (.signed sampleSigningKey (connectorFrameSigningBytes sampleSignedAnswer))
    fun _ _ _ h => by cases h
  exact hanswered.concat (.presented sampleSigningKey
    (connectorFrameSigningBytes sampleSignedAnswer) sampleSignedAnswer.signature)
    fun _ _ _ h _ => by cases h; exact List.mem_append_right _ (List.mem_singleton_self _)

theorem frame_signatures_bind_sample :
    validateRealmCommand sampleConnector.crates 1200 sampleSignedCommand sampleRealmGrant
      sampleSigningKey = .ok () ∧
    AcceptedByFleet sampleConnector.crates 1200 sampleSignedAnswer sampleConnection
      sampleSigningKey ∧
    Authentic sampleConnector.crates sampleSigned sampleAnswered :=
  ⟨by decide +kernel,
    show validateCommandResponse sampleConnector.crates 1200 sampleSignedAnswer sampleConnection
      sampleSigningKey = .ok () by decide +kernel,
    (frame_signatures_bind sampleConnector.crates).2 _ _ _ unforged_sample⟩

theorem stream_frames_signed_sample :
    (∃ kind ∈ [.heartbeat, .result, .error], sampleSignedAnswer.kind.asKnown = some kind) ∧
      verifyConnectorFrame sampleConnector.crates sampleSignedAnswer sampleSigningKey = .ok () ∧
      SignedBefore sampleConnector.crates sampleSigned .realm sampleSigningKey
        sampleSignedAnswer := by
  have hon : (receiveFrame sampleConnector Keyspace.empty 1200
      ⟨sampleConnection, sampleSigningKey, [1]⟩ sampleSignedAnswer).phase matches .streaming _ := by
    decide +kernel
  exact stream_frames_signed sampleConnector Keyspace.empty
    ⟨sampleConnection, sampleSigningKey, [1]⟩ unforged_sample nofun fun hidle => by
      rw [hidle] at hon
      cases hon

end RustyAuth
