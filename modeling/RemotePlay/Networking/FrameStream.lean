import RemotePlay.Networking.ControlFrames
import RemotePlay.Networking.TcpTransport

set_option autoImplicit false

/-! # Frames out of a byte stream

What `TcpConnection`'s read loop makes of a stream of frames, whatever the segments it arrives in:
the frames written, the frames that are complete so far, and, at ten bytes that are no header, the
end of the connection. -/

namespace RemotePlay.Net

/-- A frame that the control channel carries: its payload keeps to the limit. -/
structure ControlFrame where
  type : UInt16
  flags : UInt8
  payload : Bytes
  hsize : payload.length ≤ kMaxControlPayload.toNat
deriving DecidableEq, Repr

namespace ControlFrame

def encode (f : ControlFrame) : Bytes := makeFrame f.type f.flags f.payload

/-- The call of the frame handler. -/
def delivery (f : ControlFrame) : ConnEffect := .onFrame f.type f.flags f.payload

/-- The header announces the size of the payload, -/
def size (f : ControlFrame) : UInt32 := UInt32.ofNat f.payload.length

def header (f : ControlFrame) : Bytes := frameHeaderBytes f.type f.flags f.size

theorem toNat_size (f : ControlFrame) : f.size.toNat = f.payload.length :=
  toNat_payloadSize f.payload f.hsize

/-- which is zero for an empty one only. -/
theorem size_eq_zero (f : ControlFrame) : f.size = 0 ↔ f.payload = [] := by
  rw [← UInt32.toNat_inj, f.toNat_size, ← List.length_eq_zero_iff]
  rfl

theorem length_header (f : ControlFrame) : f.header.length = kFrameHeaderSize :=
  length_frameHeaderBytes f.type f.flags f.size

theorem encode_eq (f : ControlFrame) : f.encode = f.header ++ f.payload :=
  makeFrame_eq f.type f.flags f.payload f.hsize

theorem length_encode (f : ControlFrame) :
    f.encode.length = kFrameHeaderSize + f.payload.length :=
  length_makeFrame f.type f.flags f.payload f.hsize

theorem parse_header (f : ControlFrame) :
    parseFrameHeader f.header
      = some
        { magic := kFrameMagic
          version := kFrameVersion
          type := f.type
          flags := f.flags
          payloadSize := f.size } := by
  have hle : f.size ≤ kMaxControlPayload := by
    rw [UInt32.le_iff_toNat_le, f.toNat_size]
    exact f.hsize
  have hparse := parseFrameHeader_frameHeaderBytes f.type f.flags f.size [] hle
  rwa [List.append_nil] at hparse

end ControlFrame

def encodeFrames (fs : List ControlFrame) : Bytes := fs.flatMap ControlFrame.encode

/-- The frames that lie within the first `n` bytes of their stream. -/
def wholeFrames : List ControlFrame → Nat → List ControlFrame
  | [], _ => []
  | f :: fs, n => if f.encode.length ≤ n then f :: wholeFrames fs (n - f.encode.length) else []

@[simp] theorem encodeFrames_nil : encodeFrames [] = [] := rfl

@[simp] theorem encodeFrames_cons (f : ControlFrame) (fs : List ControlFrame) :
    encodeFrames (f :: fs) = f.encode ++ encodeFrames fs := rfl

namespace TcpConnection

/-! ## One read at a time -/

/-- The read loop is between two frames. -/
def AtHeader (c : TcpConnection) : Prop := c.closed = false ∧ c.reading = some .header

/-- The payload of `f` is being read. -/
def awaiting (c : TcpConnection) (f : ControlFrame) (hsize : f.size ≠ 0) : TcpConnection :=
  { c with reading := some (.body f.type f.flags f.size hsize) }

theorem started_atHeader : started.AtHeader := ⟨rfl, rfl⟩

variable {c : TcpConnection}

theorem AtHeader.need (h : c.AtHeader) : reader.need c = some kFrameHeaderSize := by
  simp [reader, h.1, h.2, Reading.size]

theorem AtHeader.next (h : c.AtHeader) (bs : Bytes) :
    reader.next c bs = { c with reading := none }.headerDone .success bs := by
  simp [reader, step, h.2]

/-- The header of an empty frame is the frame. -/
theorem AtHeader.next_empty (h : c.AtHeader) (f : ControlFrame) (hnil : f.payload = []) :
    reader.next c f.header = (c, [f.delivery]) := by
  obtain ⟨hopen, hreading⟩ := h
  rw [AtHeader.next ⟨hopen, hreading⟩, headerDone, if_neg (by simp), f.parse_header]
  rw [ControlFrame.delivery, hnil]
  cases c
  simp_all [readBody, readNext, readHeader, f.size_eq_zero]

/-- The header of any other asks for the payload. -/
theorem AtHeader.next_header (h : c.AtHeader) (f : ControlFrame) (hsize : f.size ≠ 0) :
    reader.next c f.header = (c.awaiting f hsize, []) := by
  rw [h.next, headerDone, if_neg (by simp), f.parse_header]
  simp [readBody, hsize, awaiting]

/-- Ten bytes that are no header end the connection. -/
theorem AtHeader.next_bad (h : c.AtHeader) {bs : Bytes} (hparse : parseFrameHeader bs = none) :
    reader.next c bs =
      ({ c with reading := none, closed := true, outbox := [] }, [.onClose .invalidArgument]) := by
  rw [h.next, headerDone, if_neg (by simp), hparse]
  simp [shutdown, h.1]

theorem AtHeader.need_awaiting (h : c.AtHeader) (f : ControlFrame) (hsize : f.size ≠ 0) :
    reader.need (c.awaiting f hsize) = some f.payload.length := by
  simp [reader, awaiting, h.1, Reading.size, f.toNat_size]

/-- The payload completes the frame and brings the loop back to where it was. -/
theorem AtHeader.next_payload (h : c.AtHeader) (f : ControlFrame) (hsize : f.size ≠ 0) :
    reader.next (c.awaiting f hsize) f.payload = (c, [f.delivery]) := by
  obtain ⟨hopen, hreading⟩ := h
  cases c
  simp_all [reader, awaiting, step, bodyDone, readNext, readHeader, ControlFrame.delivery]

/-! ## Whole streams -/

section Streams

variable {c' : TcpConnection} {buf rest : Bytes} {out : List ConnEffect}

/-- A whole frame at the front of the stream is handed up, and the loop goes on after it. -/
theorem drains_frame (h : c.AtHeader) (f : ControlFrame)
    (hrest : reader.Drains c buf c' rest out) :
    reader.Drains c (f.encode ++ buf) c' rest (f.delivery :: out) := by
  have hneed : reader.need c = some f.header.length := by rw [h.need, f.length_header]
  rw [f.encode_eq, List.append_assoc]
  by_cases hnil : f.payload = []
  · have hnext := h.next_empty f hnil
    have hread := ExactReader.Drains.read c f.header buf c' rest out hneed (by rwa [hnext])
    rw [hnext] at hread
    rw [hnil]
    exact hread
  · have hsize : f.size ≠ 0 := fun h0 => hnil (f.size_eq_zero.1 h0)
    have hnext := h.next_header f hsize
    have hpayload := h.next_payload f hsize
    have hbody := ExactReader.Drains.read (c.awaiting f hsize) f.payload buf c' rest out
      (h.need_awaiting f hsize) (by rwa [hpayload])
    rw [hpayload] at hbody
    have hread := ExactReader.Drains.read c f.header (f.payload ++ buf) c' rest _ hneed
      (by rwa [hnext])
    rw [hnext] at hread
    exact hread

/-- Of a frame that is not complete nothing is handed up. -/
theorem drains_cut (h : c.AtHeader) (f : ControlFrame) {n : Nat} (hn : n < f.encode.length) :
    ∃ c' rest, c'.closed = false ∧ reader.Drains c (f.encode.take n) c' rest [] := by
  rw [f.length_encode] at hn
  have hlen : (f.encode.take n).length = n := by
    rw [List.length_take, f.length_encode]
    omega
  by_cases hheader : n < kFrameHeaderSize
  · refine ⟨c, f.encode.take n, h.1, .stop c _ ?_⟩
    intro m hm
    obtain rfl := Option.some.inj (h.need.symm.trans hm)
    rwa [hlen]
  · have hnil : f.payload ≠ [] := by
      intro hnil
      rw [hnil, List.length_nil] at hn
      omega
    have hsize : f.size ≠ 0 := fun h0 => hnil (f.size_eq_zero.1 h0)
    have hnext := h.next_header f hsize
    have htake : f.encode.take n = f.header ++ f.payload.take (n - kFrameHeaderSize) := by
      rw [f.encode_eq, List.take_append, f.length_header, List.take_of_length_le]
      rw [f.length_header]
      omega
    have hstop : reader.Drains (c.awaiting f hsize) (f.payload.take (n - kFrameHeaderSize))
        (c.awaiting f hsize) (f.payload.take (n - kFrameHeaderSize)) [] := by
      refine .stop _ _ ?_
      intro m hm
      obtain rfl := Option.some.inj ((h.need_awaiting f hsize).symm.trans hm)
      rw [List.length_take]
      omega
    have hread := ExactReader.Drains.read c f.header (f.payload.take (n - kFrameHeaderSize)) _ _ []
      (by rw [h.need, f.length_header]) (by rwa [hnext])
    rw [hnext] at hread
    refine ⟨c.awaiting f hsize, f.payload.take (n - kFrameHeaderSize), h.1, ?_⟩
    rw [htake]
    exact hread

/-- Whole frames are handed up in the order they were written. -/
theorem drains_frames (h : c.AtHeader) (fs : List ControlFrame)
    (hrest : reader.Drains c buf c' rest out) :
    reader.Drains c (encodeFrames fs ++ buf) c' rest (fs.map ControlFrame.delivery ++ out) := by
  induction fs with
  | nil => exact hrest
  | cons f fs ih =>
      rw [encodeFrames_cons, List.append_assoc]
      exact drains_frame h f ih

/-- The first `n` bytes of a stream of frames. -/
theorem drains_take (h : c.AtHeader) (fs : List ControlFrame) (n : Nat) :
    ∃ c' rest, c'.closed = false ∧
      reader.Drains c ((encodeFrames fs).take n) c' rest
        ((wholeFrames fs n).map ControlFrame.delivery) := by
  induction fs generalizing n with
  | nil =>
      refine ⟨c, [], h.1, ?_⟩
      rw [encodeFrames_nil, List.take_nil]
      refine .stop c [] ?_
      intro m hm
      exact reader.need_pos c m hm
  | cons f fs ih =>
      rw [encodeFrames_cons, wholeFrames, List.take_append]
      split
      · next hle =>
          obtain ⟨c', rest, hopen, hdrains⟩ := ih (n - f.encode.length)
          rw [List.take_of_length_le hle]
          exact ⟨c', rest, hopen, drains_frame h f hdrains⟩
      · next hlt =>
          have hzero : n - f.encode.length = 0 := by omega
          rw [hzero, List.take_zero, List.append_nil]
          exact drains_cut h f (by omega)

/-- Ten bytes that are no header: the close handler is called, and nothing after them is read. -/
theorem drains_bad (h : c.AtHeader) {bad : Bytes} (more : Bytes)
    (hlen : bad.length = kFrameHeaderSize) (hparse : parseFrameHeader bad = none) :
    reader.Drains c (bad ++ more) { c with reading := none, closed := true, outbox := [] } more
      [.onClose .invalidArgument] := by
  have hnext := h.next_bad hparse
  have hread := ExactReader.Drains.read c bad more
    { c with reading := none, closed := true, outbox := [] } more [] (by rw [h.need, hlen]) (by
      rw [hnext]
      exact .stop _ _ (fun m hm => by simp [reader] at hm))
  rw [hnext] at hread
  exact hread

/-- What a started connection has come to once `chunks` have arrived, and its calls. -/
def readLoop (chunks : List Bytes) : (TcpConnection × Bytes) × List ConnEffect :=
  reader.feedAll (started, []) chunks

/-- The read loop makes the reads of the whole stream. -/
theorem readLoop_eq {chunks : List Bytes} {rest : Bytes} {out : List ConnEffect}
    (h : reader.Drains started chunks.flatten c' rest out) :
    readLoop chunks = ((c', rest), out) := by
  have hwait : reader.Waiting (started, []) := by
    intro n hn
    exact reader.need_pos started n hn
  have hall := ExactReader.drains_feedAll (started, []) hwait chunks
  obtain ⟨hc, hrest, hout⟩ := hall.unique h
  exact Prod.ext (Prod.ext hc hrest) hout

/-- A stream of frames, whatever its segments. -/
theorem readLoop_frames {fs : List ControlFrame} {chunks : List Bytes}
    (h : chunks.flatten = encodeFrames fs) :
    readLoop chunks = ((started, []), fs.map ControlFrame.delivery) := by
  have hnil : reader.Drains started [] started [] [] :=
    .stop started [] (fun m hm => reader.need_pos started m hm)
  have hdrains := drains_frames started_atHeader fs hnil
  rw [List.append_nil, List.append_nil, ← h] at hdrains
  exact readLoop_eq hdrains

end Streams

/-- **The read loop recovers the frames that were written**, however the stream is segmented: all of
    them from the whole stream, those that are complete from any prefix of it, and after ten bytes
    that are no header nothing but the one call of the close handler. -/
theorem readLoop_exact (fs : List ControlFrame) (chunks : List Bytes) :
    (chunks.flatten = encodeFrames fs →
      readLoop chunks = ((started, []), fs.map ControlFrame.delivery)) ∧
    (∀ n, chunks.flatten = (encodeFrames fs).take n →
      (readLoop chunks).2 = (wholeFrames fs n).map ControlFrame.delivery ∧
      (readLoop chunks).1.1.closed = false) ∧
    (∀ bad more, chunks.flatten = encodeFrames fs ++ (bad ++ more) →
      bad.length = kFrameHeaderSize → parseFrameHeader bad = none →
      (readLoop chunks).2 = fs.map ControlFrame.delivery ++ [.onClose .invalidArgument] ∧
      (readLoop chunks).1.1.closed = true) := by
  have hstart := started_atHeader
  refine ⟨readLoop_frames, ?_, ?_⟩
  · intro n htake
    obtain ⟨c', rest, hopen, hdrains⟩ := drains_take hstart fs n
    rw [← htake] at hdrains
    rw [readLoop_eq hdrains]
    exact ⟨rfl, hopen⟩
  · intro bad more hbytes hlen hparse
    have hdrains := drains_frames hstart fs (drains_bad hstart more hlen hparse)
    rw [← hbytes] at hdrains
    rw [readLoop_eq hdrains]
    exact ⟨rfl, rfl⟩

/-- Two frames cut inside the second header, the same stream broken off there, and a frame followed
    by bytes with a wrong magic. -/
theorem readLoop_exact_segments :
    readLoop [[0x50, 0x52, 1], [8, 0, 0, 1, 0, 0, 0, 7, 0x50], [0x52, 1, 9, 0, 0, 0, 0, 0, 0]]
        = ((started, []), [.onFrame 8 0 [7], .onFrame 9 0 []]) ∧
      (readLoop [[0x50, 0x52, 1], [8, 0, 0, 1, 0, 0, 0, 7, 0x50]]).2 = [.onFrame 8 0 [7]] ∧
      (readLoop [[0x50, 0x52, 1, 9, 0, 0, 0, 0, 0, 0, 0x50], [0x53, 1, 9, 0, 0, 0, 0, 0, 0, 4]]).2
        = [.onFrame 9 0 [], .onClose .invalidArgument] :=
  ⟨(readLoop_exact [⟨8, 0, [7], by decide⟩, ⟨9, 0, [], by decide⟩] _).1 (by decide),
    ((readLoop_exact [⟨8, 0, [7], by decide⟩, ⟨9, 0, [], by decide⟩] _).2.1 12 (by decide)).1,
    ((readLoop_exact [⟨9, 0, [], by decide⟩] _).2.2 [0x50, 0x53, 1, 9, 0, 0, 0, 0, 0, 0] [4]
      (by decide) rfl (by decide)).1⟩

end TcpConnection

end RemotePlay.Net
