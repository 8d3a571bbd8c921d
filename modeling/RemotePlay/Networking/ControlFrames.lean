import RemotePlay.Networking.ProtocolCodec

set_option autoImplicit false

/-! # Frames of the control channel

`makeFrame` puts ten header bytes in front of a payload and `parseFrameHeader` reads them back, as
long as the payload keeps to the 64 KiB that `FrameHeader::valid` allows. Every message does: its
strings and lists are cut before they are written. -/

namespace RemotePlay.Net

/-! ## The header -/

/-- The header bytes of a frame. -/
def frameHeaderBytes (type : UInt16) (flags : UInt8) (payloadSize : UInt32) : Bytes :=
  leBytes 2 kFrameMagic.toNat ++ [kFrameVersion] ++ leBytes 2 type.toNat ++ [flags] ++
    leBytes 4 payloadSize.toNat

section Header

variable (type : UInt16) (flags : UInt8) (payloadSize : UInt32) (payload rest : Bytes)

theorem length_frameHeaderBytes :
    (frameHeaderBytes type flags payloadSize).length = kFrameHeaderSize := by
  simp [frameHeaderBytes, kFrameHeaderSize]

/-- The size field holds every payload size that is allowed. -/
theorem toNat_payloadSize (h : payload.length ≤ kMaxControlPayload.toNat) :
    (UInt32.ofNat payload.length).toNat = payload.length := by
  have hmax : kMaxControlPayload.toNat = 65536 := rfl
  rw [UInt32.toNat_ofNat']
  omega

theorem makeFrame_eq (h : payload.length ≤ kMaxControlPayload.toNat) :
    makeFrame type flags payload
      = frameHeaderBytes type flags (UInt32.ofNat payload.length) ++ payload := by
  rw [makeFrame, toNat_payloadSize payload h, List.take_length, frameHeaderBytes,
    toNat_payloadSize payload h]

theorem length_makeFrame (h : payload.length ≤ kMaxControlPayload.toNat) :
    (makeFrame type flags payload).length = kFrameHeaderSize + payload.length := by
  rw [makeFrame_eq type flags payload h, List.length_append, length_frameHeaderBytes]

/-- The header is read back from the front of any bytes, and accepted if the size is allowed. -/
theorem parseFrameHeader_frameHeaderBytes (h : payloadSize ≤ kMaxControlPayload) :
    parseFrameHeader (frameHeaderBytes type flags payloadSize ++ rest)
      = some { magic := kFrameMagic, version := kFrameVersion, type, flags, payloadSize } := by
  have hlen : ¬ (frameHeaderBytes type flags payloadSize ++ rest).length < kFrameHeaderSize := by
    rw [List.length_append, length_frameHeaderBytes]
    omega
  have htype : ((frameHeaderBytes type flags payloadSize ++ rest).drop 3).take 2
      = leBytes 2 type.toNat := rfl
  have hsize : ((frameHeaderBytes type flags payloadSize ++ rest).drop 6).take 4
      = leBytes 4 payloadSize.toNat := rfl
  have hmagic : (frameHeaderBytes type flags payloadSize ++ rest).take 2
      = leBytes 2 kFrameMagic.toNat := rfl
  have hversion : ((frameHeaderBytes type flags payloadSize ++ rest).drop 2).headD 0
      = kFrameVersion := rfl
  have hflags : ((frameHeaderBytes type flags payloadSize ++ rest).drop 5).headD 0 = flags := rfl
  rw [parseFrameHeader, if_neg hlen, htype, hsize, hmagic, hversion, hflags]
  simp only [u16_leBytes, u32_leBytes]
  rw [if_pos (by simp [FrameHeader.valid, h])]

/-- What the read loop sees of a frame: the header it was made with. -/
theorem parseFrameHeader_makeFrame (h : payload.length ≤ kMaxControlPayload.toNat) :
    parseFrameHeader (makeFrame type flags payload)
      = some
        { magic := kFrameMagic
          version := kFrameVersion
          type := type
          flags := flags
          payloadSize := UInt32.ofNat payload.length } := by
  rw [makeFrame_eq type flags payload h]
  apply parseFrameHeader_frameHeaderBytes
  rwa [UInt32.le_iff_toNat_le, toNat_payloadSize payload h]

theorem drop_makeFrame (h : payload.length ≤ kMaxControlPayload.toNat) :
    (makeFrame type flags payload).drop kFrameHeaderSize = payload := by
  rw [makeFrame_eq type flags payload h, ← length_frameHeaderBytes type flags, List.drop_left]

end Header

/-! ## Sizes of the fields -/

namespace ByteWriter

theorem length_u16 (v : UInt16) : (u16 v).length = 2 := length_leBytes 2 _

theorem length_u32 (v : UInt32) : (u32 v).length = 4 := length_leBytes 4 _

theorem length_u64 (v : UInt64) : (u64 v).length = 8 := length_leBytes 8 _

theorem length_str_le (s : Bytes) : (str s).length ≤ 1026 := by
  rw [str, List.length_append, length_u16, List.length_take]
  split
  · omega
  · omega

end ByteWriter

end RemotePlay.Net

namespace RemotePlay.Proto

open Net (makeFrame parseFrameHeader kFrameHeaderSize kMaxControlPayload)

theorem length_writeVideoCodecList_le (list : List VideoCodec) :
    (writeVideoCodecList list).length ≤ 33 := by
  simp only [writeVideoCodecList, Net.ByteWriter.u8, List.length_append, List.length_singleton,
    List.length_map, List.length_take]
  omega

/-- No message comes near the size limit of a frame. -/
theorem length_encodeMessage_le (e : Envelope) (hsized : e.body.Sized) :
    (encodeMessage e).length ≤ kMaxControlPayload.toNat := by
  have hmax : kMaxControlPayload.toNat = 65536 := rfl
  obtain ⟨type, body⟩ := e
  rw [encodeMessage, hmax]
  cases body with
  | clientHello m =>
      have hname := Net.ByteWriter.length_str_le m.clientName
      have hcode := Net.ByteWriter.length_str_le m.sessionCode
      have hversion := Net.ByteWriter.length_str_le m.appVersion
      simp only [writeMsg, List.length_append]
      omega
  | hostReject m =>
      have htext := Net.ByteWriter.length_str_le m.reasonText
      simp only [writeMsg, List.length_append, Net.ByteWriter.length_u16]
      omega
  | hostCapabilities m =>
      have hhost := Net.ByteWriter.length_str_le m.hostName
      have hgame := Net.ByteWriter.length_str_le m.gameName
      have hcodecs := length_writeVideoCodecList_le m.offeredCodecs
      simp only [writeMsg, List.length_append, Net.ByteWriter.length_u16,
        Net.ByteWriter.length_u32, Net.ByteWriter.u8, List.length_singleton]
      omega
  | clientCapabilities m =>
      have hcodecs := length_writeVideoCodecList_le m.supportedCodecs
      simp only [writeMsg]
      omega
  | negotiationResult m =>
      have hnote := Net.ByteWriter.length_str_le m.note
      simp only [writeMsg, List.length_append, Net.ByteWriter.length_u16,
        Net.ByteWriter.length_u32, Net.ByteWriter.u8, Net.ByteWriter.boolean,
        List.length_singleton]
      omega
  | kick m => exact (Net.ByteWriter.length_str_le m.reason).trans (by omega)
  | bye m => exact (Net.ByteWriter.length_str_le m.reason).trans (by omega)
  | streamStop m => exact (Net.ByteWriter.length_str_le m.reason).trans (by omega)
  | keyExchange m =>
      obtain ⟨hkey, hsalt⟩ : m.publicKey.length = 64 ∧ m.salt.length = 16 := hsized
      simp only [writeMsg, Net.ByteWriter.bytes, List.length_append]
      omega
  | hostApproved => simp [writeMsg]
  | ping m => simp [writeMsg, Net.ByteWriter.length_u64]
  | pong m => simp [writeMsg, Net.ByteWriter.length_u64]
  | inputPermission m => simp [writeMsg, Net.ByteWriter.boolean]
  | streamStart m =>
      simp [writeMsg, Net.ByteWriter.length_u16, Net.ByteWriter.length_u32, Net.ByteWriter.u8]
  | keyframeRequest => simp [writeMsg]
  | sessionKeyReady => simp [writeMsg]

/-! ## Bodies within the caps -/

/-- The string fields of a body. -/
def Body.strings : Body → List Bytes
  | .clientHello m => [m.clientName, m.sessionCode, m.appVersion]
  | .hostReject m => [m.reasonText]
  | .hostCapabilities m => [m.hostName, m.gameName]
  | .negotiationResult m => [m.note]
  | .kick m => [m.reason]
  | .bye m => [m.reason]
  | .streamStop m => [m.reason]
  | _ => []

/-- The codec lists of a body. -/
def Body.codecLists : Body → List (List VideoCodec)
  | .hostCapabilities m => [m.offeredCodecs]
  | .clientCapabilities m => [m.supportedCodecs]
  | _ => []

/-- Every string has at most 1024 bytes and every codec list at most 32 entries. -/
def Body.WithinCaps (body : Body) : Prop :=
  (∀ s ∈ body.strings, s.length ≤ 1024) ∧ ∀ list ∈ body.codecLists, list.length ≤ 32

/-- The caps leave such a body as it is. -/
theorem Body.capped_of_withinCaps (body : Body) (h : body.WithinCaps) : body.capped = body := by
  obtain ⟨hstrings, hlists⟩ := h
  have hstring : ∀ s ∈ body.strings, s.take 1024 = s := fun s hs =>
    List.take_of_length_le (hstrings s hs)
  have hlist : ∀ list ∈ body.codecLists, list.take 32 = list := fun list hl =>
    List.take_of_length_le (hlists list hl)
  cases body with
  | clientHello m =>
      simp only [strings, List.mem_cons, List.not_mem_nil, or_false, forall_eq_or_imp,
        forall_eq] at hstring
      simp only [capped, hstring]
  | hostCapabilities m =>
      simp only [strings, List.mem_cons, List.not_mem_nil, or_false, forall_eq_or_imp,
        forall_eq] at hstring
      simp only [codecLists, List.mem_singleton, forall_eq] at hlist
      simp only [capped, hstring, hlist]
  | clientCapabilities m =>
      simp only [codecLists, List.mem_singleton, forall_eq] at hlist
      simp only [capped, hlist]
  | hostReject m => simp only [capped, hstring m.reasonText (by simp [strings])]
  | negotiationResult m => simp only [capped, hstring m.note (by simp [strings])]
  | kick m => simp only [capped, hstring m.reason (by simp [strings])]
  | bye m => simp only [capped, hstring m.reason (by simp [strings])]
  | streamStop m => simp only [capped, hstring m.reason (by simp [strings])]
  | hostApproved => rfl
  | ping m => rfl
  | pong m => rfl
  | inputPermission m => rfl
  | streamStart m => rfl
  | keyframeRequest => rfl
  | keyExchange m => rfl
  | sessionKeyReady => rfl

/-- **Control messages survive the wire.** The frame of an envelope has a header that is accepted
    and names its type and size, and its payload decodes to the envelope, with strings cut to 1024
    bytes and codec lists to 32 entries: to the envelope itself if it keeps to these caps. -/
theorem control_message_survives (e : Envelope) (htag : e.body.id = e.type)
    (hsized : e.body.Sized) :
    (∃ h, parseFrameHeader (makeFrame e.type.code 0 (encodeMessage e)) = some h ∧
        h.type = e.type.code ∧ h.payloadSize.toNat = (encodeMessage e).length) ∧
      (makeFrame e.type.code 0 (encodeMessage e)).drop kFrameHeaderSize = encodeMessage e ∧
      decodeMessage e.type.code (encodeMessage e) = some { e with body := e.body.capped } ∧
      (e.body.WithinCaps → decodeMessage e.type.code (encodeMessage e) = some e) := by
  have hlen := length_encodeMessage_le e hsized
  have hround := decodeMessage_encodeMessage e htag hsized
  refine ⟨⟨_, Net.parseFrameHeader_makeFrame e.type.code 0 _ hlen, rfl,
    Net.toNat_payloadSize _ hlen⟩, Net.drop_makeFrame _ _ _ hlen, hround, ?_⟩
  intro hcaps
  rw [hround, e.body.capped_of_withinCaps hcaps]

/-- The first message of a client. -/
def firstHello : Envelope :=
  { type := .ClientHello
    body := .clientHello
      { clientName := ascii "Player"
        sessionCode := ascii "57EA-6A6Q"
        appVersion := kAppVersion } }

theorem control_message_survives_firstHello :
    decodeMessage Id.ClientHello.code (encodeMessage firstHello) = some firstHello :=
  (control_message_survives firstHello rfl trivial).2.2.2 ⟨by decide, by decide⟩

end RemotePlay.Proto
