import RemotePlay.Networking.WriteQueue

set_option autoImplicit false

/-! # What is outstanding when a connection ends

`shutdown` closes the socket, clears the outbox and calls `onClose_` at once, whatever is still
outstanding. The handler of the outstanding write has not run, so its buffer goes with the outbox
(`outbox_keeps_buffer_iff`); and a read that had completed before still has its handler run, which
looks at `closed_` only after it has handed the frame up (`silent_after_close_iff`). -/

namespace RemotePlay.Net

/-! ## The buffer of the outstanding write -/

/-- A call or a completed read shuts the connection down. -/
def TcpConnection.breaksOff (c : TcpConnection) : ConnEvent → Bool
  | .close => !c.closed
  | .readDone ec buf =>
      !c.closed &&
        match c.reading with
        | none => false
        | some .header => decide (ec ≠ .success) || (parseFrameHeader buf).isNone
        | some (.body _ _ _ _) => decide (ec ≠ .success)
  | _ => false

namespace TcpConnection

variable (c : TcpConnection)

theorem closed_shutdown (ec : ErrorCode) : (c.shutdown ec).1.closed = true := by
  unfold shutdown
  split
  · next hclosed => exact hclosed
  · rfl

theorem closed_readNext : c.readNext.closed = c.closed := by
  unfold readNext readHeader
  split
  · rfl
  · rfl

theorem closed_readBody (type : UInt16) (flags : UInt8) (payloadSize : UInt32) :
    (c.readBody type flags payloadSize).1.closed = c.closed := by
  unfold readBody
  split
  · exact c.closed_readNext
  · rfl

/-- A completed read leaves the connection closed if it was, or breaks it off. -/
theorem closed_readDone (ec : ErrorCode) (buf : Bytes) :
    (c.step (.readDone ec buf)).1.closed = (c.closed || c.breaksOff (.readDone ec buf)) := by
  have hor : ∀ b : Bool, (c.closed || (!c.closed && b)) = (c.closed || b) := by
    intro b
    cases c.closed with
    | true => rfl
    | false => rfl
  unfold step breaksOff
  dsimp only
  rw [hor]
  cases c.reading with
  | none => exact (Bool.or_false _).symm
  | some reading =>
      cases reading with
      | header =>
          dsimp only
          unfold headerDone
          split
          · next hec => rw [closed_shutdown, decide_eq_true hec, Bool.true_or, Bool.or_true]
          · next hec =>
              rw [decide_eq_false hec, Bool.false_or]
              cases parseFrameHeader buf with
              | none => exact (closed_shutdown _ _).trans (Bool.or_true _).symm
              | some h => exact (closed_readBody _ _ _ _).trans (Bool.or_false _).symm
      | body type flags payloadSize hne =>
          dsimp only
          unfold bodyDone
          split
          · next hec => rw [closed_shutdown, decide_eq_true hec, Bool.or_true]
          · next hec =>
              rw [decide_eq_false hec, Bool.or_false]
              exact closed_readNext _

/-- Apart from the handler of a write, only what breaks off closes a connection. -/
theorem closed_step (e : ConnEvent) (he : ∀ ec, e ≠ .writeDone ec) :
    (c.step e).1.closed = (c.closed || c.breaksOff e) := by
  cases e with
  | start =>
      unfold step
      dsimp only
      split
      · next hclosed => rw [hclosed, Bool.true_or]
      · exact (Bool.or_false _).symm
  | send type flags payload =>
      unfold step
      dsimp only
      split
      · next hclosed => rw [hclosed, Bool.true_or]
      · exact (pumpWrite_frame _).2.1.trans (Bool.or_false _).symm
  | sendAndClose type payload =>
      unfold step
      dsimp only
      split
      · next hclosed => rw [hclosed, Bool.true_or]
      · exact (pumpWrite_frame _).2.1.trans (Bool.or_false _).symm
  | close =>
      refine (c.closed_shutdown .success).trans ?_
      rw [breaksOff]
      cases c.closed with
      | true => rfl
      | false => rfl
  | readDone ec buf => exact c.closed_readDone ec buf
  | writeDone ec => exact absurd rfl (he ec)

end TcpConnection

namespace WriteLog

/-- The frame that an outstanding `async_write` reads from is the front of the outbox. -/
def KeepsBuffer (w : WriteLog) : Prop := ∀ frame ∈ w.pending, w.conn.outbox.head? = some frame

/-- Only a closed connection can have dropped it. -/
theorem keepsBuffer_iff {w : WriteLog} (h : w.Inv) :
    w.KeepsBuffer ↔ (w.conn.closed = true → w.pending = []) := by
  cases hclosed : w.conn.closed with
  | true =>
      have hempty := (h.isClosed hclosed).outbox
      constructor
      · intro hkeeps _
        refine List.eq_nil_iff_forall_not_mem.2 (fun frame hframe => ?_)
        have hhead := hkeeps frame hframe
        rw [hempty] at hhead
        cases hhead
      · intro hnone frame hframe
        rw [hnone rfl] at hframe
        cases hframe
  | false =>
      refine iff_of_true ?_ nofun
      intro frame hframe
      rw [(h.isOpen hclosed).pending] at hframe
      cases houtbox : w.conn.outbox with
      | nil =>
          rw [houtbox] at hframe
          cases hframe
      | cons head tail =>
          rw [houtbox] at hframe
          rw [List.mem_singleton.1 hframe]
          rfl

/-- The handler of a write leaves no write behind on a connection it finds or leaves closed. -/
theorem pending_writeDone {w : WriteLog} (h : w.Inv) (hkeeps : w.KeepsBuffer) (ec : ErrorCode)
    (hended : (w.step (.writeDone ec)).conn.closed = true) :
    (w.step (.writeDone ec)).pending = [] := by
  have hclosed := (keepsBuffer_iff h).1 hkeeps
  unfold step at hended ⊢
  cases hpending : w.pending with
  | nil =>
      dsimp only
      exact hpending
  | cons frame rest =>
      have hopen : w.conn.closed = false := by
        rw [Bool.eq_false_iff]
        intro h'
        rw [hclosed h'] at hpending
        cases hpending
      obtain ⟨rfl, -⟩ := (h.isOpen hopen).outbox_eq hpending
      rw [hpending] at hended
      unfold after at hended ⊢
      dsimp only at hended ⊢
      by_cases hec : ec = .success
      · subst hec
        by_cases hlast : w.conn.closeAfterWrite = true ∧ w.conn.outbox.tail = []
        · rw [TcpConnection.writeDone_flushed hopen hlast.1 hlast.2]
          rfl
        · rw [TcpConnection.writeDone_next (fun hflush hnil => hlast ⟨hflush, hnil⟩),
            (TcpConnection.pumpWrite_frame _).2.1] at hended
          exact absurd (hopen.symm.trans hended) Bool.false_ne_true
      · rw [TcpConnection.writeDone_failed hopen hec]
        rfl

/-- A call or a read does not take an outstanding write away. -/
theorem pending_call {w : WriteLog} {e : ConnEvent} (he : ∀ ec, e ≠ .writeDone ec)
    (hended : (w.step e).conn.closed = true) : (w.step e).pending = w.pending := by
  rw [step_eq he] at hended ⊢
  have hout := w.conn.step_outcome e he
  unfold after at hended ⊢
  dsimp only at hended ⊢
  generalize w.conn.step e = result at hout hended
  cases hout with
  | keeps c' out hframe houtbox hwriting hflush hclosed hwrites hcloses =>
      rw [hwrites, List.append_nil]
  | ends reading ec hframe hopen hharm => exact List.append_nil _
  | queues frame hframe flush hflush hopen =>
      rw [(TcpConnection.pumpWrite_frame _).2.1] at hended
      exact absurd (hopen.symm.trans hended) Bool.false_ne_true

/-- **One step.** The buffer stays in place exactly if no write is outstanding or nothing breaks the
    connection off. -/
theorem keepsBuffer_step_iff {w : WriteLog} (h : w.Inv) (hkeeps : w.KeepsBuffer) (e : ConnEvent) :
    (w.step e).KeepsBuffer ↔ (w.conn.writing = true → w.conn.breaksOff e = false) := by
  rw [keepsBuffer_iff (inv_step h e)]
  by_cases he : ∃ ec, e = .writeDone ec
  · obtain ⟨ec, rfl⟩ := he
    exact iff_of_true (pending_writeDone h hkeeps ec) (fun _ => rfl)
  · have he : ∀ ec, e ≠ .writeDone ec := fun ec heq => he ⟨ec, heq⟩
    have hended : (w.step e).conn.closed = (w.conn.closed || w.conn.breaksOff e) := by
      rw [conn_step h e]
      exact w.conn.closed_step e he
    have hwriting : w.conn.writing = false ↔ w.pending = [] := by
      rw [h.writing, Bool.not_eq_false', List.isEmpty_iff]
    constructor
    · intro hnone hbusy
      rw [Bool.eq_false_iff]
      intro hbreaks
      have hclosed' : (w.step e).conn.closed = true := by rw [hended, hbreaks, Bool.or_true]
      have hpending := hnone hclosed'
      rw [pending_call he hclosed', ← hwriting, hbusy] at hpending
      cases hpending
    · intro hcalm hclosed'
      rw [pending_call he hclosed', ← hwriting, Bool.eq_false_iff]
      intro hbusy
      rw [hended, hcalm hbusy, Bool.or_false] at hclosed'
      have hnone := (keepsBuffer_iff h).1 hkeeps hclosed'
      rw [← hwriting, hbusy] at hnone
      cases hnone

/-- **An outstanding write keeps its buffer** throughout a run exactly if nothing breaks the connection
    off while a write is outstanding. -/
theorem outbox_keeps_buffer_iff (es : List ConnEvent) :
    (∀ p ∈ history step {} es, (step p.1 p.2).KeepsBuffer) ↔
      ∀ p ∈ history step {} es, p.1.conn.writing = true → p.1.conn.breaksOff p.2 = false :=
  forall_history_iff step (fun w => w.Inv ∧ w.KeepsBuffer) (fun w e => (w.step e).KeepsBuffer)
    (fun w e => w.conn.writing = true → w.conn.breaksOff e = false)
    (fun _ e hw hcalm =>
      have hnext := (keepsBuffer_step_iff hw.1 hw.2 e).2 hcalm
      ⟨hnext, inv_step hw.1 e, hnext⟩)
    (fun _ e hw hnext => (keepsBuffer_step_iff hw.1 hw.2 e).1 hnext) {} es
    ⟨inv_init, nofun⟩

/-- `close` runs while the first write is outstanding: its buffer is gone before its handler runs. -/
theorem outbox_loses_buffer :
    ¬ ∀ es : List ConnEvent, ∀ p ∈ history step {} es, (step p.1 p.2).KeepsBuffer := by
  intro hall
  have hkeeps := hall [.start, .send 1 0 [], .close] _ (List.mem_of_getLast? rfl)
  exact absurd (hkeeps (makeFrame 1 0 []) (by decide)) (by decide)

end WriteLog

/-! ## Calls to the owner -/

/-- The effect calls `onFrame_`. -/
def ConnEffect.callsOnFrame : ConnEffect → Bool
  | .onFrame _ _ _ => true
  | _ => false

/-- The effect calls `onClose_`. -/
def ConnEffect.callsOnClose : ConnEffect → Bool
  | .onClose _ => true
  | _ => false

/-- The handler of a read that completed without an error runs on a closed connection, and the read
    was of a payload, or of a header that announces none. -/
def TcpConnection.framesClosed (c : TcpConnection) : ConnEvent → Bool
  | .readDone ec buf =>
      c.closed && decide (ec = .success) &&
        match c.reading with
        | none => false
        | some .header => (parseFrameHeader buf).any (fun h => decide (h.payloadSize = 0))
        | some (.body _ _ _ _) => true
  | _ => false

namespace TcpConnection

/-- What a step calls: nothing, `onFrame_` once, or `onClose_` once when it closes the connection. -/
inductive CallOutcome (c : TcpConnection) (e : ConnEvent) :
    TcpConnection × List ConnEffect → Prop where
  | quiet (c' : TcpConnection) (out : List ConnEffect) (hclosed : c'.closed = c.closed)
      (hout : ∀ effect ∈ out, effect.callsOnFrame = false ∧ effect.callsOnClose = false)
      (hframes : c.framesClosed e = false) : CallOutcome c e (c', out)
  | frame (c' : TcpConnection) (type : UInt16) (flags : UInt8) (payload : Bytes)
      (hclosed : c'.closed = c.closed) (hframes : c.framesClosed e = c.closed) :
      CallOutcome c e (c', [.onFrame type flags payload])
  | ends (c' : TcpConnection) (ec : ErrorCode) (hopen : c.closed = false)
      (hclosed : c'.closed = true) : CallOutcome c e (c', [.onClose ec])

section Calls

variable (c : TcpConnection)

theorem CallOutcome.silent {c c' : TcpConnection} {e : ConnEvent} (hclosed : c'.closed = c.closed)
    (hframes : c.framesClosed e = false) : c.CallOutcome e (c', []) :=
  .quiet c' [] hclosed nofun hframes

/-- Shutting down, from a state that differs in what the calls do not depend on. -/
theorem shutdown_calls {e : ConnEvent} (hframes : c.framesClosed e = false)
    (reading : Option Reading) (outbox : List Bytes) (writing : Bool) (ec : ErrorCode) :
    c.CallOutcome e
      ({ c with reading := reading, outbox := outbox, writing := writing }.shutdown ec) := by
  unfold shutdown
  split
  · exact .silent rfl hframes
  · next hopen => exact .ends _ ec (Bool.eq_false_iff.2 hopen) rfl

theorem pumpWrite_calls {e : ConnEvent} (hframes : c.framesClosed e = false) (outbox : List Bytes)
    (writing closeAfterWrite : Bool) :
    c.CallOutcome e { c with
      outbox := outbox, writing := writing, closeAfterWrite := closeAfterWrite }.pumpWrite := by
  unfold pumpWrite
  split
  · exact .silent rfl hframes
  split
  · exact .silent rfl hframes
  · next frame rest houtbox hidle =>
      refine .quiet _ _ rfl ?_ hframes
      intro effect heffect
      rw [List.mem_singleton.1 heffect]
      exact ⟨rfl, rfl⟩

theorem writeDone_calls (ec : ErrorCode) : c.CallOutcome (.writeDone ec) (c.writeDone ec) := by
  unfold writeDone
  dsimp only
  split
  · exact c.shutdown_calls rfl _ _ _ ec
  split
  · exact c.shutdown_calls rfl _ _ _ .success
  · exact c.pumpWrite_calls rfl _ _ _

/-- A read of a header: it hands up a frame if the header announces no payload. -/
theorem headerDone_calls (ec : ErrorCode) (buf : Bytes)
    (hframes : c.framesClosed (.readDone ec buf) = (c.closed && decide (ec = .success) &&
      (parseFrameHeader buf).any (fun h => decide (h.payloadSize = 0)))) :
    c.CallOutcome (.readDone ec buf) ({ c with reading := none }.headerDone ec buf) := by
  unfold headerDone
  split
  · next hec =>
      rw [decide_eq_false hec, Bool.and_false, Bool.false_and] at hframes
      exact c.shutdown_calls hframes none c.outbox c.writing ec
  · next hec =>
      rw [decide_eq_true (not_not.1 hec), Bool.and_true] at hframes
      cases hparse : parseFrameHeader buf with
      | none =>
          rw [hparse, Option.any_none, Bool.and_false] at hframes
          exact c.shutdown_calls hframes none c.outbox c.writing .invalidArgument
      | some h =>
          rw [hparse, Option.any_some] at hframes
          dsimp only
          unfold readBody
          split
          · next hzero =>
              rw [decide_eq_true hzero, Bool.and_true] at hframes
              exact .frame _ _ _ _ (closed_readNext _) hframes
          · next hsome =>
              rw [decide_eq_false hsome, Bool.and_false] at hframes
              exact .silent rfl hframes

/-- A read of a payload hands up a frame, if it succeeds. -/
theorem bodyDone_calls (type : UInt16) (flags : UInt8) (ec : ErrorCode) (buf : Bytes)
    (hframes : c.framesClosed (.readDone ec buf) = (c.closed && decide (ec = .success))) :
    c.CallOutcome (.readDone ec buf) ({ c with reading := none }.bodyDone type flags ec buf) := by
  unfold bodyDone
  split
  · next hec =>
      rw [decide_eq_false hec, Bool.and_false] at hframes
      exact c.shutdown_calls hframes none c.outbox c.writing ec
  · next hec =>
      rw [decide_eq_true (not_not.1 hec), Bool.and_true] at hframes
      exact .frame _ _ _ _ (closed_readNext _) hframes

theorem readDone_calls (ec : ErrorCode) (buf : Bytes) :
    c.CallOutcome (.readDone ec buf) (c.step (.readDone ec buf)) := by
  unfold step
  dsimp only
  cases hreading : c.reading with
  | none =>
      refine .silent rfl ?_
      rw [framesClosed, hreading, Bool.and_false]
  | some reading =>
      cases reading with
      | header =>
          refine c.headerDone_calls ec buf ?_
          rw [framesClosed, hreading]
      | body type flags payloadSize hne =>
          refine c.bodyDone_calls type flags ec buf ?_
          rw [framesClosed, hreading, Bool.and_true]

/-- **What a step calls.** -/
theorem step_calls (e : ConnEvent) : c.CallOutcome e (c.step e) := by
  cases e with
  | start =>
      unfold step
      dsimp only
      split
      · exact .silent rfl rfl
      · exact .silent rfl rfl
  | send type flags payload =>
      unfold step
      dsimp only
      split
      · exact .silent rfl rfl
      · exact c.pumpWrite_calls rfl _ _ _
  | sendAndClose type payload =>
      unfold step
      dsimp only
      split
      · exact .silent rfl rfl
      · exact c.pumpWrite_calls rfl _ _ _
  | close => exact c.shutdown_calls rfl c.reading c.outbox c.writing .success
  | readDone ec buf => exact c.readDone_calls ec buf
  | writeDone ec =>
      unfold step
      dsimp only
      split
      · exact c.writeDone_calls ec
      · exact .silent rfl rfl

end Calls

end TcpConnection

/-- A connection with what it has called so far. -/
structure CallLog where
  conn : TcpConnection := {}
  calls : List ConnEffect := []
deriving DecidableEq, Repr

namespace CallLog

def step (l : CallLog) (e : ConnEvent) : CallLog :=
  { conn := (l.conn.step e).1, calls := l.calls ++ (l.conn.step e).2 }

/-- `onFrame_` is never called after `onClose_`. -/
def Silent (l : CallLog) : Prop :=
  l.calls.Pairwise (fun a b => a.callsOnClose = true → b.callsOnFrame = false)

/-- `onClose_` has been called once if the connection is closed, and not at all if it is open. -/
def ClosesOnce (l : CallLog) : Prop :=
  l.calls.countP ConnEffect.callsOnClose = if l.conn.closed then 1 else 0

theorem closesOnce_step {l : CallLog} (h : l.ClosesOnce) (e : ConnEvent) : (l.step e).ClosesOnce := by
  have hcalls := l.conn.step_calls e
  unfold ClosesOnce step at *
  dsimp only
  rw [List.countP_append, h]
  generalize l.conn.step e = result at hcalls
  cases hcalls with
  | quiet c' out hclosed hout hframes =>
      have hnone : out.countP ConnEffect.callsOnClose = 0 := by
        rw [List.countP_eq_zero]
        intro effect heffect
        rw [(hout effect heffect).2]
        exact Bool.false_ne_true
      rw [hnone, hclosed, Nat.add_zero]
  | frame c' type flags payload hclosed hframes =>
      rw [hclosed]
      rfl
  | ends c' ec hopen hclosed =>
      rw [hopen, hclosed]
      rfl

/-- **One step** keeps the silence exactly if it hands no frame up on a closed connection. -/
theorem silent_step_iff {l : CallLog} (h : l.ClosesOnce) (hsilent : l.Silent) (e : ConnEvent) :
    (l.step e).Silent ↔ l.conn.framesClosed e = false := by
  have hcalls := l.conn.step_calls e
  unfold Silent step
  dsimp only
  rw [List.pairwise_append]
  generalize l.conn.step e = result at hcalls
  cases hcalls with
  | quiet c' out hclosed hout hframes =>
      refine iff_of_true ⟨hsilent, ?_, ?_⟩ hframes
      · exact List.pairwise_of_forall_mem_list (fun a _ b hb _ => (hout b hb).1)
      · exact fun a _ b hb _ => (hout b hb).1
  | frame c' type flags payload hclosed hframes =>
      rw [hframes]
      unfold ClosesOnce at h
      constructor
      · rintro ⟨-, -, hafter⟩
        by_contra hended
        rw [Bool.not_eq_false] at hended
        rw [hended] at h
        obtain ⟨a, ha, hclose⟩ := List.countP_pos_iff.1 (Nat.lt_of_lt_of_eq Nat.one_pos h.symm)
        have hframe := hafter a ha _ (List.mem_singleton.2 rfl) hclose
        cases hframe
      · intro hopen
        refine ⟨hsilent, List.pairwise_singleton _ _, ?_⟩
        rw [hopen] at h
        exact fun a ha b _ hclose => absurd hclose (List.countP_eq_zero.1 h a ha)
  | ends c' ec hopen hclosed =>
      have hframes : l.conn.framesClosed e = false := by
        cases e with
        | readDone ec' buf => rw [TcpConnection.framesClosed, hopen, Bool.false_and, Bool.false_and]
        | _ => rfl
      refine iff_of_true ⟨hsilent, List.pairwise_singleton _ _, ?_⟩ hframes
      intro a _ b hb _
      rw [List.mem_singleton.1 hb]
      rfl

/-- **No frame after close.** In every state of a run `onClose_` has been called at most once, and
    `onFrame_` never after it exactly if no read that completed before runs its handler, and hands a
    frame up, on the closed connection. -/
theorem silent_after_close_iff (es : List ConnEvent) :
    (∀ p ∈ history step {} es, (step p.1 p.2).calls.countP ConnEffect.callsOnClose ≤ 1 ∧
        (step p.1 p.2).Silent) ↔
      ∀ p ∈ history step {} es, p.1.conn.framesClosed p.2 = false := by
  have honce : ∀ l : CallLog, l.ClosesOnce → l.calls.countP ConnEffect.callsOnClose ≤ 1 := by
    intro l h
    rw [h]
    split
    · exact Nat.le_refl 1
    · exact Nat.zero_le 1
  refine forall_history_iff step (fun l => l.ClosesOnce ∧ l.Silent)
    (fun l e => (l.step e).calls.countP ConnEffect.callsOnClose ≤ 1 ∧ (l.step e).Silent)
    (fun l e => l.conn.framesClosed e = false) ?_ ?_ {} es ⟨rfl, List.Pairwise.nil⟩
  · rintro l e ⟨h, hsilent⟩ hframes
    have hnext := (silent_step_iff h hsilent e).2 hframes
    exact ⟨⟨honce _ (closesOnce_step h e), hnext⟩, closesOnce_step h e, hnext⟩
  · rintro l e ⟨h, hsilent⟩ ⟨-, hnext⟩
    exact (silent_step_iff h hsilent e).1 hnext

/-- The payload of a frame has been read when `close` runs: its handler still hands the frame up. -/
theorem frame_after_close :
    ¬ ∀ es : List ConnEvent, ∀ p ∈ history step {} es,
      (step p.1 p.2).calls.countP ConnEffect.callsOnClose ≤ 1 ∧ (step p.1 p.2).Silent := by
  intro hall
  have hsilent := hall
    [.start, .readDone .success ((makeFrame 1 0 [7]).take kFrameHeaderSize), .close,
      .readDone .success [7]] _ (List.mem_of_getLast? rfl)
  exact absurd hsilent.2 (by unfold Silent; decide)

end CallLog

end RemotePlay.Net
