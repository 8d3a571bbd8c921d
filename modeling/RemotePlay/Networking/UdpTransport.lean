import RemotePlay.Networking.UdpProtocol

set_option autoImplicit false

/-! # The UDP transport (`networking/UdpTransport.cpp`)

The transport runs on one `io_context` thread. Its handlers are functions on an explicit state: what
`asio::post` queues is the list `posted`, what leaves the object (datagrams handed to the socket,
callback invocations) is a list of effects. The crypto sink (`networking/UdpCrypto.h`) is an
interface with a state of its own, so the transport is generic in it.

Each call of `steadyNowNs()` is a clock reading of its own: a handler gets the readings it takes as
a function of the place in the code, so no two calls are assumed to agree. Log lines, the atomics'
memory orders and the two members nothing reads (`lastPongNs_`, `jitterMs_`) are left out. -/

namespace RemotePlay.Net

/-- `asio::ip::udp::endpoint`. -/
structure Endpoint where
  address : Bytes
  port : UInt16
deriving DecidableEq, Repr

/-- The largest UDP payload over IPv4; the sockets are v4. -/
def kMaxDatagram : Nat := 65507

/-- `UdpCryptoSink`: `seal`, `open` and `active` on a state. -/
structure UdpCryptoSink (σ : Type) where
  sealDatagram : σ → (header payload : Bytes) → Option Bytes × σ
  openDatagram : σ → (header sealed : Bytes) → Option Bytes × σ
  active : σ → Bool

/-- The statistics counters of the transport. -/
structure UdpStats where
  sentDatagrams : UInt64 := 0
  sentBytes : UInt64 := 0
  sendErrors : UInt64 := 0
  sentFrames : UInt64 := 0
  recvDatagrams : UInt64 := 0
  recvBytes : UInt64 := 0
  malformed : UInt64 := 0
  wrongSession : UInt64 := 0
  authDrops : UInt64 := 0
deriving DecidableEq, Repr

/-- `UdpStatsSnapshot`. -/
structure UdpStatsSnapshot where
  sentDatagrams : UInt64 := 0
  sentBytes : UInt64 := 0
  sendErrors : UInt64 := 0
  sentFrames : UInt64 := 0
  recvDatagrams : UInt64 := 0
  recvBytes : UInt64 := 0
  malformed : UInt64 := 0
  wrongSession : UInt64 := 0
  assembledFrames : UInt64 := 0
  droppedIncomplete : UInt64 := 0
  lostFrames : UInt64 := 0
  duplicates : UInt64 := 0
  lateFrames : UInt64 := 0
  reorderedFrames : UInt64 := 0
  lastRttMs : Float := 0
  avgRttMs : Float := 0
  jitterMs : Float := 0
  jitterTargetMs : UInt32 := 0
  jitterQueue : Nat := 0

/-- What the transport posts to its own `io_context`. -/
inductive UdpTask where
  /-- `postDatagram`'s lambda. -/
  | datagram (dg : Bytes)
  /-- `sendRelayBind`'s lambda. -/
  | relayBind (target : Endpoint) (pkt : Bytes)
  /-- `sendPunch`'s lambda. -/
  | punch (target : Endpoint) (dg : Bytes)
  | requestKeyframe
  /-- `stop`'s lambda. -/
  | close
deriving DecidableEq, Repr

/-- What a handler does outside the transport. -/
inductive UdpEffect where
  | control (type : UdpType) (data : Bytes)
  | input (frame : AssembledFrame)
  | sent (target : Endpoint) (bytes : Bytes)
deriving DecidableEq, Repr

/-- `UdpTransport`'s members. `socket` says that `socket_` is not null, `pingTimer` that the ping
    timer has a wait pending, `inputCb` and `controlCb` that the callbacks are set. -/
structure UdpTransport (σ : Type) where
  running : Bool := false
  socket : Bool := false
  peer : Endpoint := ⟨[], 0⟩
  havePeer : Bool := false
  sessionId : UInt32 := 0
  videoReassembly : FragmentReassembler := { type := .Video }
  audioReassembly : FragmentReassembler := { type := .Audio }
  inputReassembly : FragmentReassembler := { type := .Input }
  videoSeq : SequenceTracker := {}
  audioSeq : SequenceTracker := {}
  videoJitter : JitterBuffer := {}
  audioJitter : JitterBuffer := {}
  seqCounter : Vector UInt64 9 := Vector.replicate 9 0
  pingSeq : UInt32 := 0
  pingIntervalMs : UInt32 := 0
  pingTimer : Bool := false
  lastRttMs : Float := 0
  avgRttMs : Float := 0
  lastArrivalNs : UInt64 := 0
  jitterEWMA : Float := 0
  inputCb : Bool := false
  controlCb : Bool := false
  secure : Option σ := none
  dropUnknownRemote : Bool := true
  autoKeyframeRequest : Bool := true
  lastKeyframeReqNs : UInt64 := 0
  videoJitterTargetMs : UInt32 := 30
  audioJitterTargetMs : UInt32 := 30
  lockedRemote : Option Endpoint := none
  relayFallback : Option Endpoint := none
  lastRxAbsNs : UInt64 := 0
  posted : List UdpTask := []
  stats : UdpStats := {}

namespace UdpTransport

variable {σ : Type}

/-- Update the statistics counters. -/
def count (t : UdpTransport σ) (f : UdpStats → UdpStats) : UdpTransport σ :=
  { t with stats := f t.stats }

/-- `asio::post(*io_, ...)`. -/
def post (t : UdpTransport σ) (task : UdpTask) : UdpTransport σ :=
  { t with posted := t.posted ++ [task] }

/-- `sendErrors_.fetch_add(1)`. -/
def countSendError (t : UdpTransport σ) : UdpTransport σ :=
  t.count (fun s => { s with sendErrors := s.sendErrors + 1 })

/-- `sentDatagrams_` and `sentBytes_`. -/
def countSent (t : UdpTransport σ) (size : Nat) : UdpTransport σ :=
  t.count (fun s => { s with
    sentDatagrams := s.sentDatagrams + 1
    sentBytes := s.sentBytes + UInt64.ofNat size })

/-- `malformed_.fetch_add(1)`. -/
def countMalformed (t : UdpTransport σ) : UdpTransport σ :=
  t.count (fun s => { s with malformed := s.malformed + 1 })

/-- `wrongSession_.fetch_add(1)`. -/
def countWrongSession (t : UdpTransport σ) : UdpTransport σ :=
  t.count (fun s => { s with wrongSession := s.wrongSession + 1 })

/-- `authDrops_.fetch_add(1)`. -/
def countAuthDrop (t : UdpTransport σ) : UdpTransport σ :=
  t.count (fun s => { s with authDrops := s.authDrops + 1 })

/-- The sink changed its state. -/
def setSecure (t : UdpTransport σ) (s : σ) : UdpTransport σ := { t with secure := some s }

/-- `secure_ && secure_->active()`. -/
def isSecure (sink : UdpCryptoSink σ) (t : UdpTransport σ) : Bool := t.secure.any sink.active

/-! ## Sending -/

/-- `seqCounter_[type].fetch_add(1)`. -/
def nextSeq (t : UdpTransport σ) (type : UdpType) : UInt64 × UdpTransport σ :=
  let seq := t.seqCounter.toArray.getD type.code.toNat 0
  (seq, { t with seqCounter := t.seqCounter.setIfInBounds type.code.toNat (seq + 1) })

/-- The header and payload of fragment `fi` in the loop of `sendFrame`. -/
def fragmentAt (type : UdpType) (sessionId : UInt32) (frameSeq : UInt64) (keyframe : Bool)
    (data : Bytes) (timestampNs : UInt64) (fi : Nat) : UdpHeader × Bytes :=
  let frags := fragmentCountFor data.length
  let off := fi * kMaxUdpPayload
  let payloadSize :=
    UInt16.ofNat (if fi + 1 = frags.toNat then data.length - off else kMaxUdpPayload)
  ({ type := type.code
     flags := (if keyframe then UdpFlag.Keyframe else 0) |||
       (if 1 < frags then UdpFlag.Fragment else 0)
     sessionId := sessionId
     sequence := frameSeq
     fragmentIndex := UInt16.ofNat fi
     fragmentCount := frags
     timestampNs := timestampNs
     payloadSize := payloadSize },
   (data.drop off).take payloadSize.toNat)

/-- The fragments `sendFrame` cuts a frame into, in the order it posts them. -/
def frameFragments (type : UdpType) (sessionId : UInt32) (frameSeq : UInt64) (keyframe : Bool)
    (data : Bytes) (timestampNs : UInt64) : List (UdpHeader × Bytes) :=
  (List.range (fragmentCountFor data.length).toNat).map
    (fragmentAt type sessionId frameSeq keyframe data timestampNs)

/-- `UdpTransport::sendFrame`. -/
def sendFrame (t : UdpTransport σ) (type : UdpType) (keyframe : Bool) (data : Bytes)
    (timestampNs : UInt64) : UdpTransport σ :=
  if !t.running ∨ !t.socket ∨ !t.havePeer then t
  else
    let t := t.count (fun s => { s with sentFrames := s.sentFrames + 1 })
    let (frameSeq, t) := t.nextSeq type
    (frameFragments type t.sessionId frameSeq keyframe data timestampNs).foldl
      (fun t fr => t.post (.datagram (encodeUdpHeader fr.1 ++ fr.2))) t

/-- The header `sendSmall` builds for `size` payload bytes. -/
def smallHeader (type : UdpType) (sessionId : UInt32) (seq now : UInt64) (size : Nat) : UdpHeader :=
  { type := type.code
    sessionId := sessionId
    sequence := seq
    fragmentCount := 1
    fragmentIndex := 0
    timestampNs := now
    payloadSize := UInt16.ofNat size }

/-- `UdpTransport::sendSmall`. -/
def sendSmall (t : UdpTransport σ) (type : UdpType) (data : Bytes) (now : UInt64) :
    UdpTransport σ :=
  if !t.running ∨ !t.socket ∨ !t.havePeer then t
  else
    let data := data.take kMaxUdpPayload
    let (seq, t) := t.nextSeq type
    t.post (.datagram (encodeUdpHeader (smallHeader type t.sessionId seq now data.length) ++ data))

/-- `requestKeyframe`. -/
def requestKeyframe (t : UdpTransport σ) (now : UInt64) : UdpTransport σ :=
  t.sendSmall .KeyframeRequest [0] now

/-- `sendStreamStart`. -/
def sendStreamStart (t : UdpTransport σ) (now : UInt64) : UdpTransport σ :=
  t.sendSmall .StreamStart [0] now

/-- `sendStreamStop`. -/
def sendStreamStop (t : UdpTransport σ) (now : UInt64) : UdpTransport σ :=
  t.sendSmall .StreamStop [0] now

/-- `UdpTransport::sendRelayBind`. -/
def sendRelayBind (t : UdpTransport σ) (token32hex : Bytes) : UdpTransport σ :=
  if !t.running ∨ !t.socket ∨ !t.havePeer then t
  else
    let token := token32hex.take 32
    t.post (.relayBind t.peer (ascii "RPBIND" ++ token ++ List.replicate (32 - token.length) 0))

/-- `UdpTransport::sendPunch`. -/
def sendPunch (t : UdpTransport σ) (target : Endpoint) : UdpTransport σ :=
  if !t.running ∨ !t.socket then t
  else
    let h : UdpHeader :=
      { type := UdpType.Control.code
        flags := UdpFlag.Fragment
        sessionId := t.sessionId
        sequence := 0
        payloadSize := 4 }
    t.post (.punch target (encodeUdpHeader h ++ leBytes 4 0x50494d50))

/-- The header `postDatagram` writes in front of a sealed payload: what it decodes from the
    datagram, with the `Encrypted` flag and the sealed size. The result of `decodeUdpHeader` is
    ignored. -/
def sealedHeader (dg out : Bytes) : UdpHeader :=
  let h := (decodeUdpHeader dg {}).2
  { h with
    flags := h.flags ||| UdpFlag.Encrypted
    payloadSize := UInt16.ofNat out.length }

/-- The bytes `postDatagram`'s lambda hands to the socket, if any: sealed when there is a sink, and
    the header sealed with is the one before the rewrite. -/
def wireBytes (sink : UdpCryptoSink σ) (t : UdpTransport σ) (dg : Bytes) :
    Option Bytes × UdpTransport σ :=
  if !t.socket ∨ !t.havePeer then (none, t)
  else
    match t.secure with
    | none => (some dg, t)
    | some s =>
        -- a sink that refuses keeps the datagram off the wire
        let result := sink.sealDatagram s (dg.take kUdpHeaderSize) (dg.drop kUdpHeaderSize)
        (result.1.map (fun out => encodeUdpHeader (sealedHeader dg out) ++ out),
          t.setSecure result.2)

/-- `socket_->send_to`: it fails when the environment says so, and on more than UDP can carry. -/
def sendTo (t : UdpTransport σ) (target : Endpoint) (bytes : Bytes) (fails : Bool) :
    UdpTransport σ × List UdpEffect :=
  if fails ∨ kMaxDatagram < bytes.length then (t.countSendError, [])
  else (t.countSent bytes.length, [.sent target bytes])

/-- Run one posted task. -/
def runTask (sink : UdpCryptoSink σ) (t : UdpTransport σ) (task : UdpTask) (sendFails : Bool)
    (now : UInt64) : UdpTransport σ × List UdpEffect :=
  match task with
  | .datagram dg =>
      match t.wireBytes sink dg with
      | (none, t) => (t, [])
      | (some bytes, t) => t.sendTo t.peer bytes sendFails
  | .relayBind target pkt =>
      if !t.socket then (t, [])
      else if sendFails then (t.countSendError, [])
      else (t, [.sent target pkt])
  | .punch target dg => t.sendTo target dg sendFails
  | .requestKeyframe => (t.requestKeyframe now, [])
  | .close => ({ t with pingTimer := false }, [])

/-! ## Receiving -/

/-- `UdpTransport::setPeer` with an endpoint. -/
def setPeer (t : UdpTransport σ) (ep : Endpoint) : UdpTransport σ :=
  { t with peer := ep, havePeer := true }

/-- `recvDatagrams_` and `recvBytes_`. -/
def countReceived (t : UdpTransport σ) (size : Nat) : UdpTransport σ :=
  t.count (fun s => { s with
    recvDatagrams := s.recvDatagrams + 1
    recvBytes := s.recvBytes + UInt64.ofNat size })

/-- `lastRxAbsNs_.store(steadyNowNs())`. -/
def noteRx (t : UdpTransport σ) (now : UInt64) : UdpTransport σ := { t with lastRxAbsNs := now }

/-- The front of `handleDatagram`: decode, session check and decryption. On success the header (with
    the payload size of the cleartext) and the payload that the rest works on. -/
def authenticate (sink : UdpCryptoSink σ) (t : UdpTransport σ) (buf : Bytes) (now : UInt64) :
    Option (UdpHeader × Bytes) × UdpTransport σ :=
  let t := t.countReceived buf.length
  match decodeUdpHeader buf {} with
  | (false, _) => (none, t.countMalformed)
  | (true, h) =>
      if t.sessionId ≠ 0 ∧ h.sessionId ≠ t.sessionId then (none, t.countWrongSession)
      else
        -- stored before the sink is asked
        let t := t.noteRx now
        let payload := (buf.drop kUdpHeaderSize).take h.payloadSize.toNat
        if h.hasFlag UdpFlag.Encrypted then
          match t.secure with
          | none => (none, t.countAuthDrop)
          | some s =>
              let result := sink.openDatagram s (buf.take kUdpHeaderSize) payload
              match result.1 with
              | none => (none, (t.setSecure result.2).countAuthDrop)
              | some clear =>
                  (some ({ h with payloadSize := UInt16.ofNat clear.length }, clear),
                    t.setSecure result.2)
        else if t.isSecure sink then (none, t.countAuthDrop)
        else (some (h, payload), t)

/-- Learn the peer address, or move to a new authenticated source. -/
def learnPeer (sink : UdpCryptoSink σ) (t : UdpTransport σ) (h : UdpHeader) (source : Endpoint) :
    UdpTransport σ :=
  if !t.havePeer then t.setPeer source
  else if t.isSecure sink ∧ h.hasFlag UdpFlag.Encrypted then
    if t.peer ≠ source ∧ (t.lockedRemote = none ∨ t.lockedRemote = some t.peer) then
      { t with peer := source }
    else t
  else t

/-- `dropUnknownRemote_` and a locked remote that is not the source. -/
def dropsSource (t : UdpTransport σ) (source : Endpoint) : Bool :=
  t.dropUnknownRemote && t.lockedRemote.any (· ≠ source)

/-- The inter-arrival jitter estimate. -/
def noteArrival (t : UdpTransport σ) (now : UInt64) : UdpTransport σ :=
  { t with
    jitterEWMA :=
      if t.lastArrivalNs ≠ 0 ∧ t.lastArrivalNs < now then
        let dev := (now - t.lastArrivalNs).toFloat
        if t.jitterEWMA == 0 then dev else t.jitterEWMA * 0.9 + dev * 0.1
      else t.jitterEWMA
    lastArrivalNs := now }

/-- The `Pong` case: `now` and `now'` are the two clock readings. -/
def handlePong (t : UdpTransport σ) (payload : Bytes) (now now' : UInt64) : UdpTransport σ :=
  if 12 ≤ payload.length then
    let sentNs := getU64 payload 0
    let rttMs := (now - sentNs).toFloat / 1e6
    if sentNs ≤ now' then
      { t with
        lastRttMs := rttMs
        avgRttMs := if t.avgRttMs == 0 then rttMs else t.avgRttMs * 0.8 + rttMs * 0.2 }
    else t
  else t

/-- Ask for a keyframe after a video gap, at most twice a second. -/
def noteVideoGap (t : UdpTransport σ) (gap : Int64) (now : UInt64) : UdpTransport σ :=
  if 1 < gap ∧ t.autoKeyframeRequest then
    if 500000000 < now - t.lastKeyframeReqNs then
      { t with lastKeyframeReqNs := now }.post .requestKeyframe
    else t
  else t

/-- `UdpTransport::handleMediaComplete`. -/
def handleMediaComplete (t : UdpTransport σ) (frame : AssembledFrame) (now : UInt64) :
    UdpTransport σ × List UdpEffect :=
  if frame.type = .Input then (t, if t.inputCb then [.input frame] else [])
  else if frame.type = .Video then
    ({ t with videoJitter :=
      { t.videoJitter with targetMs := t.videoJitterTargetMs }.push frame now }, [])
  else if frame.type = .Audio then
    ({ t with audioJitter :=
      { t.audioJitter with targetMs := t.audioJitterTargetMs }.push frame now }, [])
  else (t, [])

/-- The media reassembly path of `handleDatagram`; `now` is the reading of the rate limit. -/
def reassemble (t : UdpTransport σ) (h : UdpHeader) (payload : Bytes) (now : UInt64) :
    Except FeedFault (Option AssembledFrame × UdpTransport σ) :=
  let type : UdpType := ⟨h.type⟩
  if type = .Video then
    let tracked := t.videoSeq.track h.sequence
    (t.videoReassembly.feed h payload).map (fun fed =>
      (fed.1, { t with videoSeq := tracked.2, videoReassembly := fed.2.gc }.noteVideoGap
        tracked.1 now))
  else if type = .Audio then
    let tracked := t.audioSeq.track h.sequence
    (t.audioReassembly.feed h payload).map (fun fed =>
      (fed.1, { t with audioSeq := tracked.2, audioReassembly := fed.2.gc }))
  else if type = .Input then
    (t.inputReassembly.feed h payload).map (fun fed => (fed.1, { t with inputReassembly := fed.2 }))
  else .ok (none, t)

/-- `handleDatagram` after the datagram was let in: echo, measure, hand out or reassemble. -/
def dispatch (t : UdpTransport σ) (h : UdpHeader) (payload : Bytes) (clk : Nat → UInt64) :
    Except FeedFault (UdpTransport σ × List UdpEffect) :=
  let type : UdpType := ⟨h.type⟩
  let payload := payload.take h.payloadSize.toNat
  let t := t.noteArrival (clk 1)
  if type = .Ping then .ok (t.sendSmall .Pong payload (clk 2), [])
  else if type = .Pong then .ok (t.handlePong payload (clk 2) (clk 3), [])
  else if type = .Control ∨ type = .KeyframeRequest ∨ type = .StreamStart ∨ type = .StreamStop then
    .ok (t, if t.controlCb then [.control type payload] else [])
  else
    match t.reassemble h payload (clk 2) with
    | .error e => .error e
    | .ok (none, t) => .ok (t, [])
    | .ok (some frame, t) => .ok (t.handleMediaComplete frame (clk 3))

/-- `UdpTransport::handleDatagram`. -/
def handleDatagram (sink : UdpCryptoSink σ) (t : UdpTransport σ) (buf : Bytes) (source : Endpoint)
    (clk : Nat → UInt64) : Except FeedFault (UdpTransport σ × List UdpEffect) :=
  match t.authenticate sink buf (clk 0) with
  | (none, t) => .ok (t, [])
  | (some (h, payload), t) =>
      let t := t.learnPeer sink h source
      if t.dropsSource source then .ok (t, []) else t.dispatch h payload clk

/-! ## Pings -/

/-- Whether `sendPingOnce` returns to the relay: a direct path that was silent for more than 5 s. -/
def fallsBack (t : UdpTransport σ) (now : UInt64) : Option Endpoint :=
  match t.relayFallback with
  | none => none
  | some relay =>
      if t.havePeer ∧ t.peer ≠ relay ∧ t.lastRxAbsNs ≠ 0 ∧ 5000000000 < now - t.lastRxAbsNs then
        some relay
      else none

/-- The relay fallback at the top of `sendPingOnce`. -/
def returnToRelay (t : UdpTransport σ) (now : UInt64) : UdpTransport σ :=
  match t.fallsBack now with
  | none => t
  | some relay => { t with peer := relay }

/-- `pingSeq_.fetch_add(1)`. -/
def countPing (t : UdpTransport σ) : UdpTransport σ := { t with pingSeq := t.pingSeq + 1 }

/-- `pingTimer_->async_wait`. -/
def armPingTimer (t : UdpTransport σ) : UdpTransport σ := { t with pingTimer := true }

/-- `UdpTransport::sendPingOnce`. -/
def sendPingOnce (t : UdpTransport σ) (clk : Nat → UInt64) : UdpTransport σ :=
  if !t.running then t
  else
    let t := t.returnToRelay (clk 0)
    let payload := leBytes 8 (clk 1).toNat ++ leBytes 4 t.pingSeq.toNat
    (t.countPing.sendSmall .Ping payload (clk 2)).armPingTimer

/-- The ping timer fires. -/
def pingTimerFires (t : UdpTransport σ) (clk : Nat → UInt64) : UdpTransport σ :=
  if !t.pingTimer then t
  else
    let t := { t with pingTimer := false }
    if !t.running ∨ t.pingIntervalMs = 0 then t else t.sendPingOnce clk

/-- `UdpTransport::startPings`. -/
def startPings (t : UdpTransport σ) (intervalMs : UInt32) (clk : Nat → UInt64) : UdpTransport σ :=
  if !t.running then t else { t with pingIntervalMs := intervalMs }.sendPingOnce clk

/-! ## The transport as a machine -/

/-- `UdpTransport::stats`. -/
def statsSnapshot (t : UdpTransport σ) : UdpStatsSnapshot where
  sentDatagrams := t.stats.sentDatagrams
  sentBytes := t.stats.sentBytes
  sendErrors := t.stats.sendErrors
  sentFrames := t.stats.sentFrames
  recvDatagrams := t.stats.recvDatagrams
  recvBytes := t.stats.recvBytes
  malformed := t.stats.malformed
  wrongSession := t.stats.wrongSession
  assembledFrames := t.videoReassembly.completed + t.audioReassembly.completed
  droppedIncomplete := t.videoReassembly.droppedIncomplete + t.audioReassembly.droppedIncomplete
  lostFrames := t.videoSeq.lost + t.audioSeq.lost
  duplicates := t.videoSeq.duplicates + t.audioSeq.duplicates
  lateFrames := t.videoSeq.late + t.audioSeq.late
  reorderedFrames := t.videoJitter.reordered + t.audioJitter.reordered
  lastRttMs := t.lastRttMs
  avgRttMs := t.avgRttMs
  jitterMs := t.jitterEWMA / 1e6
  jitterTargetMs := t.videoJitterTargetMs
  jitterQueue := t.videoJitter.queue.length

/-- `UdpTransport::resetStats`. -/
def resetStats (t : UdpTransport σ) : UdpTransport σ :=
  { t with
    stats := { authDrops := t.stats.authDrops }
    videoSeq := {}
    audioSeq := {}
    videoJitter := t.videoJitter.reset
    audioJitter := t.audioJitter.reset
    jitterEWMA := 0 }

/-- `UdpTransport::stop` as seen by the handlers that are still queued. -/
def stop (t : UdpTransport σ) : UdpTransport σ :=
  if t.running then { t with running := false }.post .close else t

end UdpTransport

/-- Everything that can happen to a transport: a datagram arrives, a posted task runs, the ping
    timer fires, or the owner calls a method. -/
inductive UdpEvent where
  | datagram (buf : Bytes) (source : Endpoint) (clk : Nat → UInt64)
  | runPosted (sendFails : Bool) (now : UInt64)
  | pingTimer (clk : Nat → UInt64)
  | setSessionId (id : UInt32)
  | setPeer (ep : Endpoint)
  | lockToRemote (ep : Endpoint)
  | setRelayFallback (ep : Endpoint)
  | sendFrame (type : UdpType) (keyframe : Bool) (data : Bytes) (timestampNs : UInt64)
  | sendSmall (type : UdpType) (data : Bytes) (now : UInt64)
  | sendRelayBind (token : Bytes)
  | sendPunch (target : Endpoint)
  | pollVideo (now : UInt64)
  | pollAudio (now : UInt64)
  | startPings (intervalMs : UInt32) (clk : Nat → UInt64)
  | stopPings
  | setVideoJitterTargetMs (ms : UInt32)
  | setAudioJitterTargetMs (ms : UInt32)
  | setAutoKeyframeRequest (enabled : Bool)
  | setDropUnknownRemote (drop : Bool)
  | resetStats
  | stop

/-- One event on a transport. The frames `pollVideo` and `pollAudio` return go to their caller and
    are not effects. -/
def UdpTransport.handle {σ : Type} (sink : UdpCryptoSink σ) (t : UdpTransport σ) :
    UdpEvent → Except FeedFault (UdpTransport σ × List UdpEffect)
  | .datagram buf source clk => t.handleDatagram sink buf source clk
  | .runPosted sendFails now =>
      match t.posted with
      | [] => .ok (t, [])
      | task :: rest => .ok ({ t with posted := rest }.runTask sink task sendFails now)
  | .pingTimer clk => .ok (t.pingTimerFires clk, [])
  | .setSessionId id => .ok ({ t with sessionId := id }, [])
  | .setPeer ep => .ok (t.setPeer ep, [])
  | .lockToRemote ep => .ok ({ t with lockedRemote := some ep }, [])
  | .setRelayFallback ep => .ok ({ t with relayFallback := some ep }, [])
  | .sendFrame type keyframe data ts => .ok (t.sendFrame type keyframe data ts, [])
  | .sendSmall type data now => .ok (t.sendSmall type data now, [])
  | .sendRelayBind token => .ok (t.sendRelayBind token, [])
  | .sendPunch target => .ok (t.sendPunch target, [])
  | .pollVideo now => .ok ({ t with videoJitter := (t.videoJitter.pop now).2 }, [])
  | .pollAudio now => .ok ({ t with audioJitter := (t.audioJitter.pop now).2 }, [])
  | .startPings ms clk => .ok (t.startPings ms clk, [])
  | .stopPings => .ok ({ t with pingIntervalMs := 0 }, [])
  | .setVideoJitterTargetMs ms => .ok ({ t with videoJitterTargetMs := ms }, [])
  | .setAudioJitterTargetMs ms => .ok ({ t with audioJitterTargetMs := ms }, [])
  | .setAutoKeyframeRequest enabled => .ok ({ t with autoKeyframeRequest := enabled }, [])
  | .setDropUnknownRemote drop => .ok ({ t with dropUnknownRemote := drop }, [])
  | .resetStats => .ok (t.resetStats, [])
  | .stop => .ok (t.stop, [])

/-- One step of a run; a fault ends it. -/
def UdpTransport.step {σ : Type} (sink : UdpCryptoSink σ)
    (s : Except FeedFault (UdpTransport σ)) (e : UdpEvent) : Except FeedFault (UdpTransport σ) :=
  s.bind (fun t => (t.handle sink e).map Prod.fst)

namespace UdpTransport

variable {σ : Type}

/-! ## What the handlers leave alone -/

/-- Posting the datagrams of a frame changes the queue only. -/
theorem foldl_post (frs : List (UdpHeader × Bytes)) (t : UdpTransport σ) :
    frs.foldl (fun t fr => t.post (.datagram (encodeUdpHeader fr.1 ++ fr.2))) t
      = { t with
          posted := t.posted ++ frs.map (fun fr => .datagram (encodeUdpHeader fr.1 ++ fr.2)) } := by
  induction frs generalizing t with
  | nil => simp
  | cons fr frs ih =>
      rw [List.foldl_cons, ih]
      simp [post]

section Frame

variable {α : Type} (f : UdpTransport σ → α) (sink : UdpCryptoSink σ) (t : UdpTransport σ)

/-- The front of `handleDatagram` touches the counters, the sink and the time of the last
    datagram. -/
theorem authenticate_frame (hcount : ∀ t g, f (count t g) = f t)
    (hnoteRx : ∀ t now, f (noteRx t now) = f t) (hsecure : ∀ t s, f (setSecure t s) = f t)
    (buf : Bytes) (now : UInt64) : f (t.authenticate sink buf now).2 = f t := by
  unfold authenticate countMalformed countWrongSession countAuthDrop countReceived
  dsimp only
  split
  · simp only [hcount]
  split
  · simp only [hcount]
  split
  · split
    · simp only [hcount, hnoteRx]
    split
    · simp only [hcount, hnoteRx, hsecure]
    · simp only [hcount, hnoteRx, hsecure]
  split
  · simp only [hcount, hnoteRx]
  · simp only [hcount, hnoteRx]

theorem learnPeer_frame (hpeer : ∀ (t : UdpTransport σ) peer havePeer,
    f { t with peer := peer, havePeer := havePeer } = f t) (h : UdpHeader) (source : Endpoint) :
    f (t.learnPeer sink h source) = f t := by
  unfold learnPeer
  split
  · exact hpeer t source true
  split
  · split
    · exact hpeer t source t.havePeer
    · rfl
  · rfl

/-- Asking for a keyframe touches the rate limit and the queue. -/
theorem noteVideoGap_frame (hasked : ∀ (t : UdpTransport σ) now posted,
    f { t with lastKeyframeReqNs := now, posted := posted } = f t) (gap : Int64) (now : UInt64) :
    f (t.noteVideoGap gap now) = f t := by
  unfold noteVideoGap
  split
  · split
    · exact hasked t now _
    · rfl
  · rfl

end Frame

end UdpTransport

end RemotePlay.Net
