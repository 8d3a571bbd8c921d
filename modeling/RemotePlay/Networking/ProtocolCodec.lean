import RemotePlay.Networking.Protocol

set_option autoImplicit false

/-! # Messages survive the wire

`decodeMessage` undoes `encodeMessage` on every envelope whose body is the alternative its type
names (`decodeMessage_encodeMessage`), up to the protocol's caps on strings and codec lists. The two
fields of an envelope are set separately, so the hypothesis is an obligation of every place that
builds one. -/

namespace RemotePlay.Net

/-! ## A reader in the middle of its data -/

/-- A reader that has consumed `done` and has `rest` in front of it. -/
def readerAt (done rest : Bytes) : ByteReader := { data := done ++ rest, pos := done.length }

namespace ByteReader

variable (done rest : Bytes)

theorem take_readerAt (bs : Bytes) :
    (readerAt done (bs ++ rest)).take bs.length = some (bs, readerAt (done ++ bs) rest) := by
  have hfits : (readerAt done (bs ++ rest)).fits bs.length = true := by
    simp [fits, readerAt]
  rw [take, if_pos hfits]
  simp [readerAt]

theorem word_readerAt (size v : Nat) (hv : v < 256 ^ size) :
    (readerAt done (leBytes size v ++ rest)).word size
      = (v, readerAt (done ++ leBytes size v) rest) := by
  have h := take_readerAt done rest (leBytes size v)
  rw [length_leBytes] at h
  rw [word, h]
  simp only [leVal_leBytes_of_lt size v hv]

@[simp] theorem u8_readerAt (v : UInt8) :
    (readerAt done (ByteWriter.u8 v ++ rest)).u8 =
      (v, readerAt (done ++ ByteWriter.u8 v) rest) := by
  have hbytes : ByteWriter.u8 v = leBytes 1 v.toNat := by simp [ByteWriter.u8, leBytes]
  rw [hbytes, u8, word_readerAt done rest 1 v.toNat v.toNat_lt]
  simp

@[simp] theorem u16_readerAt (v : UInt16) :
    (readerAt done (ByteWriter.u16 v ++ rest)).u16
      = (v, readerAt (done ++ ByteWriter.u16 v) rest) := by
  rw [ByteWriter.u16, u16, word_readerAt done rest 2 v.toNat v.toNat_lt]
  simp

@[simp] theorem u32_readerAt (v : UInt32) :
    (readerAt done (ByteWriter.u32 v ++ rest)).u32
      = (v, readerAt (done ++ ByteWriter.u32 v) rest) := by
  rw [ByteWriter.u32, u32, word_readerAt done rest 4 v.toNat v.toNat_lt]
  simp

@[simp] theorem u64_readerAt (v : UInt64) :
    (readerAt done (ByteWriter.u64 v ++ rest)).u64
      = (v, readerAt (done ++ ByteWriter.u64 v) rest) := by
  rw [ByteWriter.u64, u64, word_readerAt done rest 8 v.toNat v.toNat_lt]
  simp

@[simp] theorem boolean_readerAt (v : Bool) :
    (readerAt done (ByteWriter.boolean v ++ rest)).boolean
      = (v, readerAt (done ++ ByteWriter.boolean v) rest) := by
  have h := u8_readerAt done rest (if v then 1 else 0)
  rw [boolean, ByteWriter.boolean]
  rw [ByteWriter.u8] at h
  rw [h]
  cases v with
  | true => rfl
  | false => rfl

theorem bytes_readerAt (bs : Bytes) (size : Nat) (h : bs.length = size) :
    (readerAt done (ByteWriter.bytes bs ++ rest)).bytes size
      = (bs, readerAt (done ++ ByteWriter.bytes bs) rest) := by
  subst h
  rw [bytes, ByteWriter.bytes, take_readerAt]

/-- A string comes back cut to the protocol cap. -/
@[simp] theorem str_readerAt (s : Bytes) :
    (readerAt done (ByteWriter.str s ++ rest)).str
      = (s.take 1024, readerAt (done ++ ByteWriter.str s) rest) := by
  have hcut : s.take (if 1024 < s.length then 1024 else s.length) = s.take 1024 := by
    split
    · rfl
    · rw [List.take_length, List.take_of_length_le (by omega)]
  have hlen : (UInt16.ofNat (if 1024 < s.length then 1024 else s.length)).toNat
      = (s.take 1024).length := by
    rw [UInt16.toNat_ofNat', List.length_take]
    split
    · omega
    · omega
  simp only [str, ByteWriter.str, List.append_assoc, u16_readerAt, hcut, hlen, take_readerAt]

end ByteReader

end RemotePlay.Net

namespace RemotePlay.Proto

open Net (ByteReader readerAt)

/-! ## Bodies -/

/-- The id under which `decodeMessage` reads this alternative. -/
def Body.id : Body → Id
  | .clientHello _ => .ClientHello
  | .hostReject _ => .HostReject
  | .hostApproved => .HostApproved
  | .hostCapabilities _ => .HostCapabilities
  | .clientCapabilities _ => .ClientCapabilities
  | .negotiationResult _ => .NegotiationResult
  | .ping _ => .Ping
  | .pong _ => .Pong
  | .inputPermission _ => .InputPermission
  | .kick _ => .Kick
  | .bye _ => .Bye
  | .streamStart _ => .StreamStart
  | .streamStop _ => .StreamStop
  | .keyframeRequest => .KeyframeRequest
  | .keyExchange _ => .KeyExchange
  | .sessionKeyReady => .SessionKeyReady

/-- Key exchanges are written without lengths and read at fixed ones. -/
def Body.Sized : Body → Prop
  | .keyExchange m => m.publicKey.length = 64 ∧ m.salt.length = 16
  | _ => True

/-- What the caps of the protocol leave of a body. -/
def Body.capped : Body → Body
  | .clientHello m =>
      .clientHello
        { clientName := m.clientName.take 1024
          sessionCode := m.sessionCode.take 1024
          appVersion := m.appVersion.take 1024 }
  | .hostReject m => .hostReject { m with reasonText := m.reasonText.take 1024 }
  | .hostCapabilities m =>
      .hostCapabilities
        { m with
          hostName := m.hostName.take 1024
          gameName := m.gameName.take 1024
          offeredCodecs := m.offeredCodecs.take 32 }
  | .clientCapabilities m => .clientCapabilities { supportedCodecs := m.supportedCodecs.take 32 }
  | .negotiationResult m => .negotiationResult { m with note := m.note.take 1024 }
  | .kick m => .kick { reason := m.reason.take 1024 }
  | .bye m => .bye { reason := m.reason.take 1024 }
  | .streamStop m => .streamStop { reason := m.reason.take 1024 }
  | body => body

theorem readCodecs_readerAt (done rest : Bytes) (cs : List VideoCodec) :
    readCodecs cs.length (readerAt done (cs.map VideoCodec.code ++ rest))
      = (cs, readerAt (done ++ cs.map VideoCodec.code) rest) := by
  induction cs generalizing done with
  | nil => simp [readCodecs]
  | cons c cs ih =>
      have h := ByteReader.u8_readerAt done (cs.map VideoCodec.code ++ rest) c.code
      simp only [Net.ByteWriter.u8, List.singleton_append] at h
      simp only [List.length_cons, List.map_cons, List.cons_append, readCodecs, h, ih,
        List.append_assoc, List.nil_append]

@[simp] theorem readVideoCodecList_readerAt (done rest : Bytes) (cs : List VideoCodec) :
    readVideoCodecList (readerAt done (writeVideoCodecList cs ++ rest))
      = (cs.take 32, readerAt (done ++ writeVideoCodecList cs) rest) := by
  have hlen : (UInt8.ofNat (min cs.length 32)).toNat = (cs.take 32).length := by
    rw [UInt8.toNat_ofNat', List.length_take]
    omega
  simp only [readVideoCodecList, writeVideoCodecList, List.append_assoc, ByteReader.u8_readerAt,
    hlen, readCodecs_readerAt]

@[simp] theorem whenOk_readerAt (done rest : Bytes) (body : Body) :
    whenOk (readerAt done rest) body = some body := rfl

@[simp] theorem whenDone_readerAt (done : Bytes) (body : Body) :
    whenDone (readerAt done []) body = some body := by
  simp [whenDone, readerAt, ByteReader.remaining]

/-- A last field of another size than the one asked for is refused: too short to read, or not read
    to the end. -/
theorem whenDone_bytes_readerAt (done rest : Bytes) (size : Nat) (body : Body)
    (h : rest.length ≠ size) : whenDone ((readerAt done rest).bytes size).2 body = none := by
  unfold ByteReader.bytes ByteReader.take
  by_cases hfits : size ≤ rest.length
  · rw [if_pos (by simp [ByteReader.fits, readerAt, hfits])]
    have hleft : rest.length - size ≠ 0 := by omega
    simp [whenDone, readerAt, ByteReader.remaining]
    omega
  · rw [if_neg (by simp [ByteReader.fits, readerAt, hfits])]
    rfl

/-- Reading the image of a body under its own id. -/
theorem readMsg_writeMsg (body : Body) (h : body.Sized) :
    readMsg body.id { data := writeMsg body } = some body.capped := by
  have hstart : ({ data := writeMsg body } : ByteReader) = readerAt [] (writeMsg body ++ []) := by
    simp [readerAt]
  rw [hstart]
  cases body with
  | keyExchange m =>
      simp only [Body.id, readMsg, writeMsg, List.append_assoc,
        ByteReader.bytes_readerAt _ _ _ _ h.1, ByteReader.bytes_readerAt _ _ _ _ h.2,
        whenDone_readerAt, Body.capped]
  | _ =>
      simp only [Body.id, readMsg, writeMsg, List.append_assoc, ByteReader.u8_readerAt,
        ByteReader.u16_readerAt, ByteReader.u32_readerAt, ByteReader.u64_readerAt,
        ByteReader.boolean_readerAt, ByteReader.str_readerAt, readVideoCodecList_readerAt,
        whenOk_readerAt, whenDone_readerAt, List.nil_append, Body.capped]

/-- Every id is found under its code. -/
theorem Id.ofRaw_code (id : Id) : Id.ofRaw id.code = some id := by
  cases id <;> rfl

/-- **Round trip.** An envelope whose body is the alternative of its type is decoded to itself, with
    strings and lists cut to the caps. -/
theorem decodeMessage_encodeMessage (e : Envelope) (htag : e.body.id = e.type)
    (hsized : e.body.Sized) :
    decodeMessage e.type.code (encodeMessage e) = some { e with body := e.body.capped } := by
  simp only [decodeMessage, Id.ofRaw_code, encodeMessage]
  rw [← htag, readMsg_writeMsg e.body hsized]
  simp [htag]

end RemotePlay.Proto
