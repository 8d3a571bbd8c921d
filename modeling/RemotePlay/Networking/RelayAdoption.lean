import Mathlib.Data.List.Infix
import RemotePlay.Networking.FrameStream

set_option autoImplicit false

/-! # Adopting a relay socket

`RelayConnectAttempt::readReply` reads the relay's replies line by line and, at the pairing line,
makes a `TcpConnection` of the socket. `async_read_until` may have read past the line's end: what it
has beyond that stays in `replyBuf`, which the connection never sees. So the peer's bytes survive
exactly when the network put a segment boundary behind the pairing line. -/

namespace RemotePlay.Net

/-! ## `RelayConnectAttempt` -/

def newline : UInt8 := 10

/-- `std::string::find` finds it. -/
def finds (line : Bytes) (needle : String) : Bool := decide (ascii needle <:+: line)

/-- `std::getline`: the line, and what stays in the buffer. -/
def getline (buf : Bytes) : Bytes × Bytes :=
  (buf.takeWhile (· != newline), (buf.dropWhile (· != newline)).drop 1)

/-- How the attempt ends, or that it is still reading. -/
inductive RelayOutcome where
  | pending
  | failed (ec : ErrorCode)
  /-- The socket, with `unread` still to be received, is a connection; `replyBuf` goes with the
      attempt. -/
  | adopted (replyBuf : Bytes) (unread : List Bytes)
deriving DecidableEq, Repr

/-- `asio::async_read_until` up to a newline: it looks at what the buffer holds first, then adds
    what each receive returns. After the last one the socket has nothing yet, or an error. -/
def readUntil (stop : Option ErrorCode) :
    Bytes → List Bytes → (Bytes × List Bytes) ⊕ Option ErrorCode
  | replyBuf, [] => if newline ∈ replyBuf then .inl (replyBuf, []) else .inr stop
  | replyBuf, chunk :: chunks =>
      if newline ∈ replyBuf then .inl (replyBuf, chunk :: chunks)
      else readUntil stop (replyBuf ++ chunk) chunks

/-- `RelayConnectAttempt::readReply`, run on what the socket receives. Each line takes a byte, so
    their number is enough fuel. -/
def readReplies (stop : Option ErrorCode) : (fuel : Nat) → Bytes → List Bytes → RelayOutcome
  | 0, _, _ => .pending
  | fuel + 1, replyBuf, chunks =>
      match readUntil stop replyBuf chunks with
      | .inr none => .pending
      | .inr (some ec) => .failed ec
      | .inl (replyBuf, chunks) =>
          let (line, replyBuf) := getline replyBuf
          if finds line "relay_rejected" then .failed .connectionRefused
          else if finds line "relay_paired" then .adopted replyBuf chunks
          -- relay_accepted: wait for the pairing line.
          else readReplies stop fuel replyBuf chunks

def readReply (stop : Option ErrorCode) (chunks : List Bytes) : RelayOutcome :=
  readReplies stop (chunks.flatten.length + 1) [] chunks

/-! ## The relay's replies -/

/-- The lines of the relay up to the pairing line. -/
structure RelayReplies where
  before : List Bytes
  paired : Bytes
  hline : ∀ line ∈ before ++ [paired], newline ∉ line
  hbefore : ∀ line ∈ before,
    finds line "relay_rejected" = false ∧ finds line "relay_paired" = false
  hpaired : finds paired "relay_rejected" = false ∧ finds paired "relay_paired" = true

def lineBytes (lines : List Bytes) : Bytes := lines.flatMap (· ++ [newline])

/-- What the relay sends before it pipes the peer's bytes. -/
def RelayReplies.bytes (r : RelayReplies) : Bytes := lineBytes (r.before ++ [r.paired])

@[simp] theorem lineBytes_nil : lineBytes [] = [] := rfl

@[simp] theorem lineBytes_cons (line : Bytes) (lines : List Bytes) :
    lineBytes (line :: lines) = line ++ newline :: lineBytes lines := by
  simp [lineBytes]

theorem getline_line {line rest : Bytes} (h : newline ∉ line) :
    getline (line ++ newline :: rest) = (line, rest) := by
  have hall : ∀ b ∈ line, (b != newline) = true := by
    intro b hb
    have hne : b ≠ newline := fun heq => h (heq ▸ hb)
    simp [hne]
  rw [getline, List.takeWhile_append_of_pos hall, List.dropWhile_append_of_pos hall]
  simp

/-! ## Reading a line -/

/-- A buffer that holds the delimiter holds the whole line. -/
theorem split_at_newline {line rest buf more : Bytes} (h : newline ∉ line) (hmem : newline ∈ buf)
    (hbytes : buf ++ more = line ++ newline :: rest) :
    ∃ behind, buf = line ++ newline :: behind ∧ behind ++ more = rest := by
  obtain ⟨tail, hline, -⟩ | ⟨tail, hbuf, hrest⟩ := List.append_eq_append_iff.1 hbytes
  · rw [hline] at h
    exact absurd (List.mem_append_left tail hmem) h
  · cases tail with
    | nil =>
        rw [List.append_nil] at hbuf
        exact absurd (hbuf ▸ hmem) h
    | cons b behind =>
        obtain ⟨rfl, rfl⟩ := List.cons.inj hrest
        exact ⟨behind, hbuf, rfl⟩

/-- The delimiter is found: the receives it took, and the line at the front of the buffer. -/
theorem readUntil_line (stop : Option ErrorCode) {line rest replyBuf : Bytes} (h : newline ∉ line)
    (chunks : List Bytes) (hbytes : replyBuf ++ chunks.flatten = line ++ newline :: rest) :
    ∃ behind unread, readUntil stop replyBuf chunks = .inl (line ++ newline :: behind, unread) ∧
      behind ++ unread.flatten = rest ∧ unread <:+ chunks := by
  induction chunks generalizing replyBuf with
  | nil =>
      rw [List.flatten_nil, List.append_nil] at hbytes
      refine ⟨rest, [], ?_, by simp, List.suffix_refl _⟩
      rw [readUntil, hbytes, if_pos (by simp)]
  | cons chunk chunks ih =>
      rw [readUntil]
      split
      · next hmem =>
          obtain ⟨behind, rfl, hrest⟩ := split_at_newline h hmem hbytes
          exact ⟨behind, chunk :: chunks, rfl, hrest, List.suffix_refl _⟩
      · next =>
          rw [List.flatten_cons, ← List.append_assoc] at hbytes
          obtain ⟨behind, unread, hread, hrest, hsuffix⟩ := ih hbytes
          exact ⟨behind, unread, hread, hrest, hsuffix.trans (List.suffix_cons _ _)⟩

/-- What comes later does not matter once the delimiter is there. -/
theorem readUntil_append (stop : Option ErrorCode) {replyBuf buf : Bytes} {pre unread : List Bytes}
    (post : List Bytes) (h : readUntil stop replyBuf pre = .inl (buf, unread)) :
    readUntil stop replyBuf (pre ++ post) = .inl (buf, unread ++ post) := by
  induction pre generalizing replyBuf with
  | nil =>
      rw [readUntil] at h
      split at h
      · next hmem =>
          obtain ⟨rfl, rfl⟩ := Prod.mk.inj (Sum.inl.inj h)
          cases post with
          | nil => simp [readUntil, hmem]
          | cons chunk post => simp [readUntil, hmem]
      · cases h
  | cons chunk pre ih =>
      rw [readUntil] at h
      rw [List.cons_append, readUntil]
      split at h
      · next hmem =>
          obtain ⟨rfl, rfl⟩ := Prod.mk.inj (Sum.inl.inj h)
          rw [if_pos hmem, List.cons_append]
      · next hmem =>
          rw [if_neg hmem]
          exact ih h

/-! ## Reading the replies -/

section Replies

variable (stop : Option ErrorCode)

/-- The pairing line is reached, whatever the segments: what is left of the stream is divided
    between the buffer and the socket. -/
theorem readReplies_lines {before : List Bytes} {paired rest : Bytes}
    (hline : ∀ line ∈ before ++ [paired], newline ∉ line)
    (hbefore : ∀ line ∈ before,
      finds line "relay_rejected" = false ∧ finds line "relay_paired" = false)
    (hpaired : finds paired "relay_rejected" = false ∧ finds paired "relay_paired" = true)
    {fuel : Nat} (hfuel : before.length < fuel) (replyBuf : Bytes) (chunks : List Bytes)
    (hbytes : replyBuf ++ chunks.flatten = lineBytes (before ++ [paired]) ++ rest) :
    ∃ behind unread, readReplies stop fuel replyBuf chunks = .adopted behind unread ∧
      behind ++ unread.flatten = rest ∧ unread <:+ chunks := by
  induction before generalizing fuel replyBuf chunks with
  | nil =>
      obtain ⟨fuel, rfl⟩ := Nat.exists_eq_add_one_of_ne_zero (Nat.ne_of_gt hfuel)
      have hfree := hline paired (by simp)
      rw [List.nil_append, lineBytes_cons, lineBytes_nil, List.append_assoc] at hbytes
      obtain ⟨behind, unread, hread, hrest, hsuffix⟩ := readUntil_line stop hfree chunks hbytes
      refine ⟨behind, unread, ?_, hrest, hsuffix⟩
      simp [readReplies, hread, getline_line hfree, hpaired.1, hpaired.2]
  | cons line before ih =>
      rw [List.length_cons] at hfuel
      obtain ⟨fuel, rfl⟩ :=
        Nat.exists_eq_add_one_of_ne_zero (Nat.ne_of_gt (Nat.zero_lt_of_lt hfuel))
      have hfree := hline line (by simp)
      have hother := hbefore line (List.mem_cons_self ..)
      rw [List.cons_append, lineBytes_cons, List.append_assoc] at hbytes
      obtain ⟨buf, unread, hread, hrest, hsuffix⟩ := readUntil_line stop hfree chunks hbytes
      obtain ⟨behind, left, hadopt, hleft, hsuffix'⟩ :=
        ih (fun l hl => hline l (List.mem_cons_of_mem _ hl))
          (fun l hl => hbefore l (List.mem_cons_of_mem _ hl)) (Nat.lt_of_succ_lt_succ hfuel)
          buf unread hrest
      refine ⟨behind, left, ?_, hleft, hsuffix'.trans hsuffix⟩
      simp [readReplies, hread, getline_line hfree, hother.1, hother.2, hadopt]

/-- What is received after the pairing line stays unread. -/
theorem readReplies_append {fuel : Nat} {replyBuf behind : Bytes} {pre unread : List Bytes}
    (post : List Bytes) (h : readReplies stop fuel replyBuf pre = .adopted behind unread) :
    readReplies stop fuel replyBuf (pre ++ post) = .adopted behind (unread ++ post) := by
  induction fuel generalizing replyBuf pre with
  | zero => cases h
  | succ fuel ih =>
      rw [readReplies] at h ⊢
      match hread : readUntil stop replyBuf pre with
      | .inr none => simp [hread] at h
      | .inr (some ec) => simp [hread] at h
      | .inl (buf, chunks) =>
          rw [readUntil_append stop post hread]
          simp only [hread] at h ⊢
          split at h
          · cases h
          · next hrejected =>
              rw [if_neg hrejected]
              split at h
              · next hfound =>
                  obtain ⟨rfl, rfl⟩ := RelayOutcome.adopted.inj h
                  rw [if_pos hfound]
              · next hfound =>
                  rw [if_neg hfound]
                  exact ih h

theorem length_le_lineBytes (lines : List Bytes) : lines.length ≤ (lineBytes lines).length := by
  induction lines with
  | nil => exact Nat.le_refl 0
  | cons line lines ih =>
      rw [lineBytes_cons, List.length_cons, List.length_append, List.length_cons]
      omega

/-- There is fuel for all of the relay's lines. -/
theorem before_length_lt (r : RelayReplies) {rest : Bytes} {chunks : List Bytes}
    (h : chunks.flatten = r.bytes ++ rest) : r.before.length < chunks.flatten.length + 1 := by
  have hlines := length_le_lineBytes (r.before ++ [r.paired])
  rw [h, List.length_append, RelayReplies.bytes]
  rw [List.length_append] at hlines
  omega

/-- The attempt ends with the socket adopted. -/
theorem readReply_adopted (r : RelayReplies) {rest : Bytes} {chunks : List Bytes}
    (h : chunks.flatten = r.bytes ++ rest) :
    ∃ behind unread, readReply stop chunks = .adopted behind unread ∧
      behind ++ unread.flatten = rest ∧ unread <:+ chunks :=
  readReplies_lines stop r.hline r.hbefore r.hpaired (before_length_lt r h) [] chunks h

/-- The network delivered the relay's lines in segments of their own. -/
def CutAfter (chunks : List Bytes) (bytes : Bytes) : Prop :=
  ∃ pre post, chunks = pre ++ post ∧ pre.flatten = bytes

/-- The connection has all of the peer's bytes before it exactly in that case. -/
theorem unread_eq_iff (r : RelayReplies) {rest behind : Bytes} {chunks unread : List Bytes}
    (h : chunks.flatten = r.bytes ++ rest)
    (hadopt : readReply stop chunks = .adopted behind unread) (hsuffix : unread <:+ chunks) :
    unread.flatten = rest ↔ CutAfter chunks r.bytes := by
  constructor
  · intro hall
    obtain ⟨pre, hchunks⟩ := hsuffix
    refine ⟨pre, unread, hchunks.symm, ?_⟩
    rw [← hchunks, List.flatten_append, hall] at h
    exact List.append_cancel_right h
  · rintro ⟨pre, post, rfl, hpre⟩
    have hpost : post.flatten = rest := by
      rw [List.flatten_append, hpre] at h
      exact List.append_cancel_left h
    -- On the relay's lines alone the reading ends with nothing left over.
    have hlines : [] ++ pre.flatten = lineBytes (r.before ++ [r.paired]) ++ [] := by
      rw [List.nil_append, List.append_nil, hpre, RelayReplies.bytes]
    obtain ⟨b, u, hread, hnone, -⟩ := readReplies_lines stop r.hline r.hbefore r.hpaired
      (before_length_lt r h) [] pre hlines
    have happend := readReplies_append stop post hread
    obtain ⟨-, rfl⟩ := RelayOutcome.adopted.inj (hadopt.symm.trans happend)
    rw [List.flatten_append, (List.append_eq_nil_iff.1 hnone).2, List.nil_append, hpost]

end Replies

/-! ## Frames take bytes -/

/-- The bytes a call of the frame handler stands for. -/
def ConnEffect.wireSize : ConnEffect → Nat
  | .onFrame _ _ payload => kFrameHeaderSize + payload.length
  | .onClose _ => 0
  | .asyncWrite _ => 0

def wireSize (out : List ConnEffect) : Nat := (out.map ConnEffect.wireSize).sum

theorem wireSize_append (out more : List ConnEffect) :
    wireSize (out ++ more) = wireSize out + wireSize more := by
  simp [wireSize]

theorem wireSize_deliveries (fs : List ControlFrame) :
    wireSize (fs.map ControlFrame.delivery) = (encodeFrames fs).length := by
  induction fs with
  | nil => rfl
  | cons f fs ih =>
      rw [encodeFrames_cons, List.length_append, f.length_encode, ← ih]
      rfl

namespace TcpConnection

/-- The header bytes already read of a frame whose payload is outstanding. -/
def headerRead (c : TcpConnection) : Nat :=
  match c.reading with
  | some (.body _ _ _ _) => kFrameHeaderSize
  | _ => 0

/-- A read gives out no more than it took. -/
theorem wireSize_next (c : TcpConnection) (bs : Bytes) (h : reader.need c = some bs.length) :
    wireSize (reader.next c bs).2 + (reader.next c bs).1.headerRead
      ≤ bs.length + c.headerRead := by
  have hopen : c.closed = false := by
    cases hclosed : c.closed with
    | false => rfl
    | true => simp [reader, hclosed] at h
  cases hreading : c.reading with
  | none => simp [reader, hreading] at h
  | some r =>
      cases r with
      | header =>
          have hlen : bs.length = kFrameHeaderSize := by
            simpa [reader, hopen, hreading, Reading.size] using h.symm
          have hat : c.AtHeader := ⟨hopen, hreading⟩
          rw [hat.next, headerDone, if_neg (by simp), hlen]
          split
          · simp [shutdown, hopen, wireSize, ConnEffect.wireSize, headerRead]
          · next hd _ =>
              rw [readBody]
              split
              · simp [readNext, readHeader, hopen, wireSize, ConnEffect.wireSize, headerRead]
              · simp [wireSize, headerRead]
      | body type flags size hsize =>
          simp only [reader, step, hreading, bodyDone]
          simp [readNext, readHeader, hopen, wireSize, ConnEffect.wireSize, headerRead, hreading]
          omega

/-- What is delivered was received. -/
theorem wireSize_drains {c c' : TcpConnection} {buf rest : Bytes} {out : List ConnEffect}
    (h : reader.Drains c buf c' rest out) : wireSize out ≤ buf.length + c.headerRead := by
  induction h with
  | stop c buf hstop => exact Nat.zero_le _
  | read c bs buf c' rest out hneed _ ih =>
      have hnext := wireSize_next c bs hneed
      rw [wireSize_append, List.length_append]
      omega

theorem wireSize_readLoop (chunks : List Bytes) :
    wireSize (readLoop chunks).2 ≤ chunks.flatten.length := by
  have hwait : reader.Waiting (started, []) := fun n hn => reader.need_pos started n hn
  exact wireSize_drains (ExactReader.drains_feedAll (started, []) hwait chunks)

end TcpConnection

/-! ## The adopted connection -/

/-- **What the adopted connection delivers.** For every way the relay's lines and the peer's bytes
    are segmented the socket is adopted, and the connection reads all of the peer's bytes, and so
    delivers all of the peer's frames, if and only if no segment holds bytes from both sides of the
    end of the pairing line. -/
theorem adoption_lossless_iff (r : RelayReplies) (rest : Bytes) (chunks : List Bytes)
    (h : chunks.flatten = r.bytes ++ rest) :
    ∃ replyBuf unread, readReply none chunks = .adopted replyBuf unread ∧
      (unread.flatten = rest ↔ CutAfter chunks r.bytes) ∧
      ∀ fs, rest = encodeFrames fs →
        ((TcpConnection.readLoop unread).2 = fs.map ControlFrame.delivery ↔
          CutAfter chunks r.bytes) := by
  obtain ⟨behind, unread, hadopt, hrest, hsuffix⟩ := readReply_adopted none r h
  have hiff := unread_eq_iff none r h hadopt hsuffix
  refine ⟨behind, unread, hadopt, hiff, ?_⟩
  intro fs hfs
  rw [← hiff]
  constructor
  · intro hall
    have hsize := TcpConnection.wireSize_readLoop unread
    rw [hall, wireSize_deliveries, ← hfs, ← hrest, List.length_append] at hsize
    have hnil : behind = [] := List.length_eq_zero_iff.1 (by omega)
    rwa [hnil, List.nil_append] at hrest
  · intro hunread
    rw [TcpConnection.readLoop_frames (hunread.trans hfs)]

/-- The replies as the relay sends them. -/
def serverReplies : RelayReplies where
  before := [ascii "\x7b\"type\": \"relay_accepted\"\x7d"]
  paired := ascii "\x7b\"type\": \"relay_paired\"\x7d"
  hline := by decide +kernel
  hbefore := by decide +kernel
  hpaired := by decide +kernel

/-- A ping, the first of the peer's frames. -/
def firstFrame : ControlFrame := ⟨8, 0, [1, 0, 0, 0, 0, 0, 0, 0], by decide⟩

/-- Segments that end with the pairing line: the frame arrives. -/
theorem adoption_lossless_separate :
    ∃ replyBuf unread,
      readReply none [serverReplies.bytes, firstFrame.encode] = .adopted replyBuf unread ∧
      (TcpConnection.readLoop unread).2 = [firstFrame.delivery] := by
  obtain ⟨replyBuf, unread, hadopt, -, hframes⟩ := adoption_lossless_iff serverReplies
    firstFrame.encode [serverReplies.bytes, firstFrame.encode] (by simp)
  have hcut : CutAfter [serverReplies.bytes, firstFrame.encode] serverReplies.bytes :=
    ⟨[serverReplies.bytes], [firstFrame.encode], rfl, by simp⟩
  exact ⟨replyBuf, unread, hadopt, (hframes [firstFrame] (by simp)).2 hcut⟩

/-- The pairing line and the frame in one segment: the frame stays in the buffer that goes with the
    attempt, and the connection has nothing to read. -/
theorem coalesced_frame_lost :
    readReply none [serverReplies.bytes ++ firstFrame.encode] = .adopted firstFrame.encode [] ∧
      (TcpConnection.readLoop []).2 ≠ [firstFrame.delivery] := by
  decide +kernel

end RemotePlay.Net
