import RemotePlay.Lib.Runs
import RemotePlay.Networking.TcpTransport

set_option autoImplicit false

/-! # The write queue of a connection

`WriteLog` puts the socket beside a `TcpConnection`: the writes it has been asked for and has not
completed, and a record of the frames that were enqueued, handed to `async_write` and written. Calls
and completions come in any order, and a completion needs an outstanding write.

While the connection is open, the outbox is what has been enqueued and not written, and its first
frame is the outstanding write (`WriteLog.Inv`). -/

namespace RemotePlay.Net

/-- The frames that are handed to `async_write`. -/
def writesOf (out : List ConnEffect) : List Bytes :=
  out.filterMap (fun effect =>
    match effect with
    | .asyncWrite frame => some frame
    | _ => none)

/-- How often `onClose_` is called. -/
def closesOf (out : List ConnEffect) : Nat :=
  out.countP (fun effect =>
    match effect with
    | .onClose _ => true
    | _ => false)

/-- The frame that a call enqueues if the connection is open. -/
def ConnEvent.frame : ConnEvent → Option Bytes
  | .send type flags payload => some (makeFrame type flags payload)
  | .sendAndClose type payload => some (makeFrame type 0 payload)
  | _ => none

/-- Nothing but a flushed `sendAndClose` ends the connection here: `close` is not called, no write
    fails, and no read fails or brings a malformed header. -/
def TcpConnection.Harmless (c : TcpConnection) : ConnEvent → Prop
  | .close => False
  | .writeDone ec => ec = .success
  | .readDone ec buf =>
      ec = .success ∧ (c.reading = some .header → (parseFrameHeader buf).isSome = true)
  | _ => True

/-- A connection with its socket's side of the writes. -/
structure WriteLog where
  conn : TcpConnection := {}
  /-- The outstanding `async_write` operations. -/
  pending : List Bytes := []
  enqueued : List Bytes := []
  handed : List Bytes := []
  written : List Bytes := []
  closes : Nat := 0
deriving DecidableEq, Repr

namespace WriteLog

/-- What a handler of the connection leaves behind. -/
def after (w : WriteLog) (result : TcpConnection × List ConnEffect) : WriteLog :=
  { w with
    conn := result.1
    pending := w.pending ++ writesOf result.2
    handed := w.handed ++ writesOf result.2
    closes := w.closes + closesOf result.2 }

/-- One call or completion. -/
def step (w : WriteLog) (e : ConnEvent) : WriteLog :=
  match e with
  | .writeDone ec =>
      match w.pending with
      | [] => w
      | frame :: rest =>
          { w with
            pending := rest
            written := w.written ++ (if ec = ErrorCode.success then [frame] else []) }.after
              (w.conn.writeDone ec)
  | _ =>
      { w with
        enqueued := w.enqueued ++ (if w.conn.closed then [] else e.frame.toList) }.after
          (w.conn.step e)

end WriteLog

/-! ## What a call can do to the queue -/

namespace TcpConnection

/-- What a call or a read does to the writing side: nothing, an end, or one frame more. -/
inductive QueueOutcome (c : TcpConnection) (e : ConnEvent) :
    TcpConnection × List ConnEffect → Prop where
  | keeps (c' : TcpConnection) (out : List ConnEffect) (hframe : c.closed = true ∨ e.frame = none)
      (houtbox : c'.outbox = c.outbox) (hwriting : c'.writing = c.writing)
      (hflush : c'.closeAfterWrite = c.closeAfterWrite) (hclosed : c'.closed = c.closed)
      (hwrites : writesOf out = []) (hcloses : closesOf out = 0) : QueueOutcome c e (c', out)
  | ends (reading : Option Reading) (ec : ErrorCode) (hframe : e.frame = none)
      (hopen : c.closed = false) (hharm : ¬ c.Harmless e) :
      QueueOutcome c e ({ c with reading := reading, closed := true, outbox := [] }, [.onClose ec])
  | queues (frame : Bytes) (hframe : e.frame = some frame) (flush : Bool)
      (hflush : flush = true ↔ ∃ type payload, e = .sendAndClose type payload)
      (hopen : c.closed = false) :
      QueueOutcome c e { c with
        outbox := c.outbox ++ [frame], closeAfterWrite := c.closeAfterWrite || flush }.pumpWrite

section Outcome

variable (c : TcpConnection)

/-- Shutting down either ends the connection or finds it ended. -/
theorem shutdown_outcome {e : ConnEvent} (hframe : e.frame = none) (hharm : ¬ c.Harmless e)
    (reading : Option Reading) (ec : ErrorCode) :
    c.QueueOutcome e ({ c with reading := reading }.shutdown ec) := by
  unfold shutdown
  split
  · exact .keeps _ _ (.inr hframe) rfl rfl rfl rfl rfl rfl
  · next hopen => exact .ends reading ec hframe (Bool.eq_false_iff.2 hopen) hharm

theorem readNext_outcome {e : ConnEvent} (hframe : e.frame = none) (reading : Option Reading)
    (type : UInt16) (flags : UInt8) (payload : Bytes) :
    c.QueueOutcome e ({ c with reading := reading }.readNext, [.onFrame type flags payload]) := by
  unfold readNext
  split
  · exact .keeps _ _ (.inr hframe) rfl rfl rfl rfl rfl rfl
  · exact .keeps _ _ (.inr hframe) rfl rfl rfl rfl rfl rfl

theorem readDone_outcome (ec : ErrorCode) (buf : Bytes) :
    c.QueueOutcome (.readDone ec buf) (c.step (.readDone ec buf)) := by
  have hframe : (ConnEvent.readDone ec buf).frame = none := rfl
  unfold step
  dsimp only
  split
  · exact .keeps _ _ (.inr hframe) rfl rfl rfl rfl rfl rfl
  · next hreading =>
      unfold headerDone
      split
      · next hec => exact c.shutdown_outcome hframe (fun h => hec h.1) none ec
      split
      · next hparse =>
          refine c.shutdown_outcome hframe ?_ none .invalidArgument
          intro h
          have hsome := h.2 hreading
          rw [hparse] at hsome
          cases hsome
      · unfold readBody
        split
        · exact c.readNext_outcome hframe none _ _ _
        · exact .keeps _ _ (.inr hframe) rfl rfl rfl rfl rfl rfl
  · unfold bodyDone
    split
    · next hec => exact c.shutdown_outcome hframe (fun h => hec h.1) none ec
    · exact c.readNext_outcome hframe none _ _ _

theorem step_outcome (e : ConnEvent) (he : ∀ ec, e ≠ .writeDone ec) :
    c.QueueOutcome e (c.step e) := by
  cases e with
  | start =>
      unfold step
      dsimp only
      split
      · exact .keeps _ _ (.inr rfl) rfl rfl rfl rfl rfl rfl
      · exact .keeps _ _ (.inr rfl) rfl rfl rfl rfl rfl rfl
  | send type flags payload =>
      unfold step
      dsimp only
      split
      · next hclosed => exact .keeps _ _ (.inl hclosed) rfl rfl rfl rfl rfl rfl
      · next hopen =>
          have hqueues := QueueOutcome.queues (c := c) (e := .send type flags payload)
            (makeFrame type flags payload) rfl false (by simp) (Bool.eq_false_iff.2 hopen)
          rwa [Bool.or_false] at hqueues
  | sendAndClose type payload =>
      unfold step
      dsimp only
      split
      · next hclosed => exact .keeps _ _ (.inl hclosed) rfl rfl rfl rfl rfl rfl
      · next hopen =>
          have hqueues := QueueOutcome.queues (c := c) (e := .sendAndClose type payload)
            (makeFrame type 0 payload) rfl true (by simp) (Bool.eq_false_iff.2 hopen)
          rwa [Bool.or_true] at hqueues
  | close => exact c.shutdown_outcome rfl id c.reading .success
  | readDone ec buf => exact c.readDone_outcome ec buf
  | writeDone ec => exact absurd rfl (he ec)

end Outcome

theorem pumpWrite_nil {c : TcpConnection} (h : c.outbox = []) : c.pumpWrite = (c, []) := by
  unfold pumpWrite
  rw [h]

theorem pumpWrite_writing {c : TcpConnection} (h : c.writing = true) : c.pumpWrite = (c, []) := by
  unfold pumpWrite
  split
  · rfl
  · rw [h]
    rfl

theorem pumpWrite_cons {c : TcpConnection} {frame : Bytes} {rest : List Bytes}
    (h : c.outbox = frame :: rest) (hidle : c.writing = false) (hopen : c.closed = false) :
    c.pumpWrite = ({ c with writing := true }, [.asyncWrite frame]) := by
  unfold pumpWrite
  rw [h, hidle, hopen]
  rfl

/-- Pumping only starts a write. -/
theorem pumpWrite_frame (c : TcpConnection) :
    c.pumpWrite.1.outbox = c.outbox ∧ c.pumpWrite.1.closed = c.closed ∧
      c.pumpWrite.1.closeAfterWrite = c.closeAfterWrite := by
  unfold pumpWrite
  split
  · exact ⟨rfl, rfl, rfl⟩
  split
  · exact ⟨rfl, rfl, rfl⟩
  · exact ⟨rfl, rfl, rfl⟩

/-! ## What a completion can do -/

theorem writeDone_closed {c : TcpConnection} (hclosed : c.closed = true) (hempty : c.outbox = [])
    (ec : ErrorCode) : c.writeDone ec = ({ c with writing := false }, []) := by
  have hshutdown : ∀ ec, ({ c with writing := false }).shutdown ec
      = ({ c with writing := false }, []) := fun _ => if_pos hclosed
  unfold writeDone
  dsimp only
  split
  · exact hshutdown ec
  · rw [hempty]
    split
    · rw [List.tail_nil, ← hempty]
      exact hshutdown .success
    · rw [List.tail_nil, pumpWrite_nil rfl, ← hempty]

/-- A failed write ends the connection. -/
theorem writeDone_failed {c : TcpConnection} (hopen : c.closed = false) {ec : ErrorCode}
    (hec : ec ≠ .success) :
    c.writeDone ec = ({ c with writing := false, closed := true, outbox := [] }, [.onClose ec]) := by
  unfold writeDone
  dsimp only
  rw [if_pos hec, shutdown]
  exact if_neg (Bool.eq_false_iff.1 hopen)

/-- The last write after `sendAndClose` ends it too. -/
theorem writeDone_flushed {c : TcpConnection} (hopen : c.closed = false)
    (hflush : c.closeAfterWrite = true) (hlast : c.outbox.tail = []) :
    c.writeDone .success
      = ({ c with writing := false, closed := true, outbox := [] }, [.onClose .success]) := by
  unfold writeDone
  dsimp only
  rw [if_neg (not_not.2 rfl), hlast, hflush, shutdown]
  exact if_neg (Bool.eq_false_iff.1 hopen)

/-- Any other goes on to the next frame. -/
theorem writeDone_next {c : TcpConnection}
    (hgoes : c.closeAfterWrite = true → c.outbox.tail ≠ []) :
    c.writeDone .success = { c with writing := false, outbox := c.outbox.tail }.pumpWrite := by
  unfold writeDone
  dsimp only
  rw [if_neg (not_not.2 rfl), if_neg]
  intro h
  rw [Bool.and_eq_true, List.isEmpty_iff] at h
  exact hgoes h.1 h.2

theorem closeAfterWrite_writeDone (c : TcpConnection) (ec : ErrorCode) :
    (c.writeDone ec).1.closeAfterWrite = c.closeAfterWrite := by
  have hshutdown : ∀ (c : TcpConnection) ec,
      (c.shutdown ec).1.closeAfterWrite = c.closeAfterWrite := by
    intro c ec
    unfold shutdown
    split
    · rfl
    · rfl
  unfold writeDone
  dsimp only
  split
  · exact hshutdown _ ec
  split
  · exact hshutdown _ .success
  · exact (pumpWrite_frame _).2.2

end TcpConnection

namespace WriteLog

/-! ## The invariant -/

/-- While the connection is open: what is enqueued is written or in the outbox, what was handed to
    `async_write` is written or outstanding, and only the first frame of the outbox is outstanding. -/
structure Open (w : WriteLog) : Prop where
  enqueued : w.enqueued = w.written ++ w.conn.outbox
  handed : w.handed = w.written ++ w.pending
  pending : w.pending = w.conn.outbox.take 1
  flush : w.conn.closeAfterWrite = true → w.conn.outbox ≠ []
  closes : w.closes = 0

/-- Once it is closed: a write may still be outstanding, but none is started. -/
structure Closed (w : WriteLog) : Prop where
  outbox : w.conn.outbox = []
  handed : w.handed <+: w.enqueued
  pending : w.pending.length ≤ 1
  closes : w.closes = 1

structure Inv (w : WriteLog) : Prop where
  isOpen : w.conn.closed = false → w.Open
  isClosed : w.conn.closed = true → w.Closed
  writing : w.conn.writing = !w.pending.isEmpty

/-- Pumping an open connection restores the invariant. -/
theorem inv_after_pumpWrite {w : WriteLog} (c : TcpConnection) (hopen : c.closed = false)
    (henqueued : w.enqueued = w.written ++ c.outbox) (hhanded : w.handed = w.written ++ w.pending)
    (hpending : c.writing = false ∧ w.pending = [] ∨
      c.writing = true ∧ w.pending ≠ [] ∧ w.pending = c.outbox.take 1)
    (hflush : c.closeAfterWrite = true → c.outbox ≠ []) (hcloses : w.closes = 0) :
    (w.after c.pumpWrite).Inv := by
  rcases hpending with ⟨hidle, hnone⟩ | ⟨hbusy, hsome, hfirst⟩
  · cases houtbox : c.outbox with
    | nil =>
        rw [TcpConnection.pumpWrite_nil houtbox]
        refine ⟨fun _ => ⟨?_, ?_, ?_, hflush, hcloses⟩, fun h => ?_, ?_⟩
        · exact henqueued
        · show w.handed ++ [] = w.written ++ (w.pending ++ [])
          rw [List.append_nil, List.append_nil, hhanded]
        · show w.pending ++ [] = c.outbox.take 1
          rw [hnone, houtbox]
          rfl
        · exact absurd (hopen.symm.trans h) Bool.false_ne_true
        · show c.writing = !(w.pending ++ []).isEmpty
          rw [hidle, hnone]
          rfl
    | cons frame rest =>
        rw [TcpConnection.pumpWrite_cons houtbox hidle hopen]
        refine ⟨fun _ => ⟨?_, ?_, ?_, hflush, hcloses⟩, fun h => ?_, ?_⟩
        · exact henqueued
        · show w.handed ++ [frame] = w.written ++ (w.pending ++ [frame])
          rw [hhanded, List.append_assoc]
        · show w.pending ++ [frame] = c.outbox.take 1
          rw [hnone, houtbox]
          rfl
        · exact absurd (hopen.symm.trans h) Bool.false_ne_true
        · show true = !(w.pending ++ [frame]).isEmpty
          rw [hnone]
          rfl
  · rw [TcpConnection.pumpWrite_writing hbusy]
    refine ⟨fun _ => ⟨?_, ?_, ?_, hflush, hcloses⟩, fun h => ?_, ?_⟩
    · exact henqueued
    · show w.handed ++ [] = w.written ++ (w.pending ++ [])
      rw [List.append_nil, List.append_nil, hhanded]
    · show w.pending ++ [] = c.outbox.take 1
      rw [List.append_nil, hfirst]
    · exact absurd (hopen.symm.trans h) Bool.false_ne_true
    · show c.writing = !(w.pending ++ []).isEmpty
      rw [hbusy, List.append_nil]
      cases hp : w.pending with
      | nil => exact absurd hp hsome
      | cons frame rest => rfl

theorem inv_init : (WriteLog.mk {} [] [] [] [] 0).Inv :=
  ⟨fun _ => ⟨rfl, rfl, rfl, nofun, rfl⟩, nofun, rfl⟩

/-- What is enqueued covers what was handed over. -/
theorem Open.handed_prefix {w : WriteLog} (h : w.Open) : w.handed <+: w.enqueued := by
  rw [h.handed, h.enqueued, h.pending, List.prefix_append_right_inj]
  exact List.take_prefix _ _

theorem Open.length_pending {w : WriteLog} (h : w.Open) : w.pending.length ≤ 1 := by
  rw [h.pending, List.length_take]
  exact Nat.min_le_left _ _

/-- The outstanding write of an open connection is the head of its outbox. -/
theorem Open.outbox_eq {w : WriteLog} (h : w.Open) {frame : Bytes} {rest : List Bytes}
    (hpending : w.pending = frame :: rest) : rest = [] ∧ ∃ tail, w.conn.outbox = frame :: tail := by
  have hfirst := h.pending
  rw [hpending] at hfirst
  cases houtbox : w.conn.outbox with
  | nil =>
      rw [houtbox] at hfirst
      cases hfirst
  | cons head tail =>
      rw [houtbox] at hfirst
      obtain ⟨hhead, hrest⟩ := List.cons.inj hfirst
      exact ⟨hrest, tail, by rw [hhead]⟩

/-- A completion keeps the invariant. -/
theorem inv_step_writeDone {w : WriteLog} (h : w.Inv) (ec : ErrorCode) :
    (w.step (.writeDone ec)).Inv := by
  unfold step
  dsimp only
  split
  · exact h
  next frame rest hpending =>
  cases hclosed : w.conn.closed with
  | true =>
      have hended := h.isClosed hclosed
      have hrest : rest = [] := by
        have hlen := hended.pending
        rw [hpending] at hlen
        exact List.eq_nil_of_length_eq_zero (by simpa using hlen)
      rw [TcpConnection.writeDone_closed hclosed hended.outbox, hrest]
      refine ⟨fun hopen => ?_, fun _ => ⟨hended.outbox, ?_, Nat.zero_le _, hended.closes⟩, rfl⟩
      · exact absurd (hclosed.symm.trans hopen) (by decide)
      · show w.handed ++ [] <+: w.enqueued
        rw [List.append_nil]
        exact hended.handed
  | false =>
      have hrunning := h.isOpen hclosed
      obtain ⟨rfl, tail, houtbox⟩ := hrunning.outbox_eq hpending
      have hprefix := hrunning.handed_prefix
      by_cases hec : ec = .success
      · subst hec
        by_cases hlast : w.conn.closeAfterWrite = true ∧ w.conn.outbox.tail = []
        · rw [TcpConnection.writeDone_flushed hclosed hlast.1 hlast.2]
          refine ⟨nofun, fun _ => ⟨rfl, ?_, Nat.zero_le _, ?_⟩, rfl⟩
          · show w.handed ++ [] <+: w.enqueued
            rw [List.append_nil]
            exact hprefix
          · show w.closes + 1 = 1
            rw [hrunning.closes]
        · rw [TcpConnection.writeDone_next (fun hflush hnil => hlast ⟨hflush, hnil⟩)]
          refine inv_after_pumpWrite _ hclosed ?_ ?_ (.inl ⟨rfl, rfl⟩) ?_ hrunning.closes
          · show w.enqueued = w.written ++ [frame] ++ w.conn.outbox.tail
            rw [hrunning.enqueued, houtbox, List.append_assoc]
            rfl
          · show w.handed = w.written ++ [frame] ++ []
            rw [hrunning.handed, hpending, List.append_nil]
          · exact fun hflush hnil => hlast ⟨hflush, hnil⟩
      · rw [TcpConnection.writeDone_failed hclosed hec]
        refine ⟨nofun, fun _ => ⟨rfl, ?_, Nat.zero_le _, ?_⟩, rfl⟩
        · show w.handed ++ [] <+: w.enqueued
          rw [List.append_nil]
          exact hprefix
        · show w.closes + 1 = 1
          rw [hrunning.closes]

/-- The step of anything but a completion. -/
theorem step_eq {w : WriteLog} {e : ConnEvent} (he : ∀ ec, e ≠ .writeDone ec) :
    w.step e = { w with
      enqueued := w.enqueued ++ (if w.conn.closed then [] else e.frame.toList) }.after
        (w.conn.step e) := by
  cases e with
  | writeDone ec => exact absurd rfl (he ec)
  | _ => rfl

/-- A call or a read keeps the invariant. -/
theorem inv_step_call {w : WriteLog} (h : w.Inv) {e : ConnEvent} (he : ∀ ec, e ≠ .writeDone ec) :
    (w.step e).Inv := by
  rw [step_eq he]
  have hout := w.conn.step_outcome e he
  generalize w.conn.step e = result at hout
  cases hout with
  | keeps c' out hframe houtbox hwriting hflush hclosed hwrites hcloses =>
      have hnone : (if w.conn.closed then [] else e.frame.toList) = [] := by
        rcases hframe with hframe | hframe
        · rw [if_pos hframe]
        · rw [hframe, Option.toList_none, ite_self]
      have hpending : w.pending ++ writesOf out = w.pending := by rw [hwrites, List.append_nil]
      have hhanded : w.handed ++ writesOf out = w.handed := by rw [hwrites, List.append_nil]
      have hcount : w.closes + closesOf out = w.closes := by rw [hcloses, Nat.add_zero]
      unfold after
      rw [hnone, List.append_nil, hpending, hhanded, hcount]
      refine ⟨fun hopen => ?_, fun hended => ?_, hwriting.trans h.writing⟩
      · have hrunning := h.isOpen (hclosed.symm.trans hopen)
        refine ⟨?_, hrunning.handed, ?_, ?_, hrunning.closes⟩
        · show w.enqueued = w.written ++ c'.outbox
          rw [houtbox, hrunning.enqueued]
        · show w.pending = c'.outbox.take 1
          rw [houtbox, hrunning.pending]
        · show c'.closeAfterWrite = true → c'.outbox ≠ []
          rw [hflush, houtbox]
          exact hrunning.flush
      · have hended := h.isClosed (hclosed.symm.trans hended)
        exact ⟨houtbox.trans hended.outbox, hended.handed, hended.pending, hended.closes⟩
  | ends reading ec hframe hopen hharm =>
      have hrunning := h.isOpen hopen
      refine ⟨nofun, fun _ => ⟨rfl, ?_, ?_, ?_⟩, ?_⟩
      · show w.handed ++ [] <+: w.enqueued ++ _
        rw [List.append_nil, hframe, Option.toList_none, ite_self, List.append_nil]
        exact hrunning.handed_prefix
      · show (w.pending ++ []).length ≤ 1
        rw [List.append_nil]
        exact hrunning.length_pending
      · show w.closes + 1 = 1
        rw [hrunning.closes]
      · show w.conn.writing = !(w.pending ++ []).isEmpty
        rw [List.append_nil]
        exact h.writing
  | queues frame hframe flush hflush hopen =>
      have hrunning := h.isOpen hopen
      refine inv_after_pumpWrite _ hopen ?_ hrunning.handed ?_ ?_ hrunning.closes
      · show w.enqueued ++ _ = w.written ++ (w.conn.outbox ++ [frame])
        rw [hopen, hframe, hrunning.enqueued, List.append_assoc]
        rfl
      · have hwriting := h.writing
        cases houtbox : w.conn.outbox with
        | nil =>
            have hpending := hrunning.pending
            rw [houtbox] at hpending
            rw [hpending] at hwriting
            exact .inl ⟨hwriting, hpending⟩
        | cons head tail =>
            have hpending := hrunning.pending
            rw [houtbox] at hpending
            rw [hpending] at hwriting
            refine .inr ⟨hwriting, ?_, hpending⟩
            show w.pending ≠ []
            rw [hpending]
            exact List.cons_ne_nil _ _
      · intro _
        exact List.append_ne_nil_of_right_ne_nil _ (List.cons_ne_nil _ _)

theorem inv_step {w : WriteLog} (h : w.Inv) (e : ConnEvent) : (w.step e).Inv := by
  by_cases he : ∃ ec, e = .writeDone ec
  · obtain ⟨ec, rfl⟩ := he
    exact inv_step_writeDone h ec
  · exact inv_step_call h (fun ec heq => he ⟨ec, heq⟩)

/-- The log runs the connection's own machine. -/
theorem conn_step {w : WriteLog} (h : w.Inv) (e : ConnEvent) :
    (w.step e).conn = (w.conn.step e).1 := by
  cases e with
  | writeDone ec =>
      have hwriting := h.writing
      unfold step TcpConnection.step
      dsimp only
      cases hpending : w.pending with
      | nil =>
          rw [hpending] at hwriting
          rw [hwriting]
          rfl
      | cons frame rest =>
          rw [hpending] at hwriting
          rw [hwriting]
          rfl
  | _ => rfl

theorem run_inv (es : List ConnEvent) : (runFrom step {} es).Inv :=
  runFrom_preserved step Inv (fun _ e h => inv_step h e) {} es inv_init

/-! ## Flushing and closing -/

/-- Nothing was lost when the connection was closed. -/
def Flushed (w : WriteLog) : Prop :=
  w.conn.closed = true → w.written = w.enqueued ∧ w.pending = []

theorem flushed_after_pumpWrite (w : WriteLog) {c : TcpConnection} (hopen : c.closed = false) :
    (w.after c.pumpWrite).Flushed := by
  intro hclosed
  have hsame : c.pumpWrite.1.closed = true := hclosed
  rw [(TcpConnection.pumpWrite_frame c).2.1, hopen] at hsame
  cases hsame

theorem flushed_step {w : WriteLog} (h : w.Inv) (hflushed : w.Flushed) {e : ConnEvent}
    (hharmless : w.conn.Harmless e) : (w.step e).Flushed := by
  by_cases he : ∃ ec, e = .writeDone ec
  · obtain ⟨ec, rfl⟩ := he
    have hec : ec = .success := hharmless
    subst hec
    unfold step
    dsimp only
    split
    · exact hflushed
    next frame rest hpending =>
    have hopen : w.conn.closed = false := by
      rw [Bool.eq_false_iff]
      intro hclosed
      rw [(hflushed hclosed).2] at hpending
      cases hpending
    have hrunning := h.isOpen hopen
    obtain ⟨rfl, tail, houtbox⟩ := hrunning.outbox_eq hpending
    by_cases hlast : w.conn.closeAfterWrite = true ∧ w.conn.outbox.tail = []
    · rw [TcpConnection.writeDone_flushed hopen hlast.1 hlast.2]
      intro _
      have htail : tail = [] := by
        have := hlast.2
        rwa [houtbox] at this
      refine ⟨?_, rfl⟩
      show w.written ++ [frame] = w.enqueued
      rw [hrunning.enqueued, houtbox, htail]
    · rw [TcpConnection.writeDone_next (fun hflush hnil => hlast ⟨hflush, hnil⟩)]
      exact flushed_after_pumpWrite _ hopen
  · have he : ∀ ec, e ≠ .writeDone ec := fun ec heq => he ⟨ec, heq⟩
    rw [step_eq he]
    have hout := w.conn.step_outcome e he
    generalize w.conn.step e = result at hout
    cases hout with
    | keeps c' out hframe houtbox hwriting hflush hclosed hwrites hcloses =>
        intro hended
        have hended : w.conn.closed = true := hclosed.symm.trans hended
        obtain ⟨hwritten, hpending⟩ := hflushed hended
        refine ⟨?_, ?_⟩
        · show w.written = w.enqueued ++ _
          rw [if_pos hended, List.append_nil]
          exact hwritten
        · show w.pending ++ writesOf out = []
          rw [hpending, hwrites]
          rfl
    | ends reading ec hframe hopen hharm => exact absurd hharmless hharm
    | queues frame hframe flush hflush hopen =>
        exact flushed_after_pumpWrite _ hopen

/-- `closeAfterWrite_` stays set, and what was enqueued stays enqueued. -/
theorem flush_step {w : WriteLog} (hset : w.conn.closeAfterWrite = true) (e : ConnEvent) :
    (w.step e).conn.closeAfterWrite = true ∧ w.enqueued <+: (w.step e).enqueued := by
  by_cases he : ∃ ec, e = .writeDone ec
  · obtain ⟨ec, rfl⟩ := he
    unfold step
    dsimp only
    split
    · exact ⟨hset, List.prefix_refl _⟩
    · exact ⟨(w.conn.closeAfterWrite_writeDone ec).trans hset, List.prefix_refl _⟩
  · have he : ∀ ec, e ≠ .writeDone ec := fun ec heq => he ⟨ec, heq⟩
    rw [step_eq he]
    refine ⟨?_, List.prefix_append _ _⟩
    have hout := w.conn.step_outcome e he
    unfold after
    dsimp only
    generalize w.conn.step e = result at hout
    cases hout with
    | keeps c' out hframe houtbox hwriting hflush hclosed hwrites hcloses => exact hflush.trans hset
    | ends reading ec hframe hopen hharm => exact hset
    | queues frame hframe flush hflush hopen =>
        rw [(TcpConnection.pumpWrite_frame _).2.2]
        show (w.conn.closeAfterWrite || flush) = true
        rw [hset, Bool.true_or]

/-- `sendAndClose` on an open connection. -/
theorem step_sendAndClose {w : WriteLog} (hopen : w.conn.closed = false) (type : UInt16)
    (payload : Bytes) :
    (w.step (.sendAndClose type payload)).conn.closeAfterWrite = true ∧
      (w.step (.sendAndClose type payload)).enqueued
        = w.enqueued ++ [makeFrame type 0 payload] := by
  rw [step_eq (fun ec heq => by cases heq)]
  unfold after TcpConnection.step
  dsimp only
  rw [hopen]
  exact ⟨(TcpConnection.pumpWrite_frame _).2.2, rfl⟩

/-- A connection that a completed write leaves open goes on with the rest of the outbox. -/
theorem outbox_step {w : WriteLog} (h : w.Inv) {frame : Bytes} {tail : List Bytes}
    (houtbox : w.conn.outbox = frame :: tail)
    (hopen : (w.step (.writeDone .success)).conn.closed = false) :
    (w.step (.writeDone .success)).conn.outbox = tail := by
  have hwas : w.conn.closed = false := by
    rw [Bool.eq_false_iff]
    intro hclosed
    rw [(h.isClosed hclosed).outbox] at houtbox
    cases houtbox
  have hpending : w.pending = [frame] := by
    rw [(h.isOpen hwas).pending, houtbox]
    rfl
  unfold step at hopen ⊢
  rw [hpending] at hopen ⊢
  unfold after at hopen ⊢
  dsimp only at hopen ⊢
  by_cases hlast : w.conn.closeAfterWrite = true ∧ w.conn.outbox.tail = []
  · rw [TcpConnection.writeDone_flushed hwas hlast.1 hlast.2] at hopen
    cases hopen
  · rw [TcpConnection.writeDone_next (fun hflush hnil => hlast ⟨hflush, hnil⟩),
      (TcpConnection.pumpWrite_frame _).1, houtbox]
    rfl

/-- Writes that complete without an error flush the outbox, and the connection shuts down. -/
theorem exists_drained {w : WriteLog} (h : w.Inv) (hset : w.conn.closeAfterWrite = true)
    (frames : List Bytes) (houtbox : w.conn.outbox = frames) :
    ∃ n, (runFrom step w (List.replicate n (.writeDone .success))).closes = 1 := by
  induction frames generalizing w with
  | nil =>
      cases hclosed : w.conn.closed with
      | true => exact ⟨0, (h.isClosed hclosed).closes⟩
      | false => exact absurd houtbox ((h.isOpen hclosed).flush hset)
  | cons frame tail ih =>
      cases hclosed : (w.step (.writeDone .success)).conn.closed with
      | true => exact ⟨1, ((inv_step h _).isClosed hclosed).closes⟩
      | false =>
          obtain ⟨n, hn⟩ := ih (inv_step h _) (flush_step hset _).1 (outbox_step h houtbox hclosed)
          exact ⟨n + 1, hn⟩

end WriteLog

/-- **An ordered and lossless write queue.** After any calls, reads and completions, at most one write
    is outstanding, what was handed to `async_write` is a prefix of what was enqueued while the
    connection was open, and it has shut down once if it is closed. When `sendAndClose` was executed
    and nothing else ends the connection, it is closed only after that frame and all before it were
    written; it is closed as soon as no write is outstanding, and gets there if the writes
    complete. -/
theorem ordered_lossless_write_queue (es : List ConnEvent) :
    let w := runFrom WriteLog.step {} es
    (w.pending.length ≤ 1 ∧ w.handed <+: w.enqueued ∧
      w.closes = if w.conn.closed then 1 else 0) ∧
    ∀ before type payload after, es = before ++ .sendAndClose type payload :: after →
      (runFrom WriteLog.step {} before).conn.closed = false →
      (∀ p ∈ history WriteLog.step {} es, p.1.conn.Harmless p.2) →
        (w.conn.closed = true → (runFrom WriteLog.step {} before).enqueued
          ++ [makeFrame type 0 payload] <+: w.written) ∧
        (w.pending = [] → w.conn.closed = true) ∧
        ∃ n, (runFrom WriteLog.step w (List.replicate n (.writeDone .success))).closes = 1 := by
  intro w
  have hinv : w.Inv := WriteLog.run_inv es
  refine ⟨?_, ?_⟩
  · cases hclosed : w.conn.closed with
    | true =>
        have hended := hinv.isClosed hclosed
        exact ⟨hended.pending, hended.handed, hended.closes⟩
    | false =>
        have hrunning := hinv.isOpen hclosed
        exact ⟨hrunning.length_pending, hrunning.handed_prefix, hrunning.closes⟩
  · rintro before type payload after hes hopen hharmless
    obtain ⟨hset, hmore⟩ := WriteLog.step_sendAndClose hopen type payload
    have hflushed : w.Inv ∧ w.Flushed :=
      runFrom_invariant WriteLog.step (fun v => v.Inv ∧ v.Flushed)
        (fun v e => v.conn.Harmless e)
        (fun v e hv he => ⟨WriteLog.inv_step hv.1 e, WriteLog.flushed_step hv.1 hv.2 he⟩) {} es
        ⟨WriteLog.inv_init, nofun⟩ hharmless
    have hafter : w = runFrom WriteLog.step ((runFrom WriteLog.step {} before).step
        (.sendAndClose type payload)) after := by
      show runFrom WriteLog.step {} es = _
      rw [hes, runFrom_append, runFrom_cons]
    have hkept := runFrom_preserved WriteLog.step
      (fun v => v.conn.closeAfterWrite = true ∧ (runFrom WriteLog.step {} before).enqueued
        ++ [makeFrame type 0 payload] <+: v.enqueued)
      (fun v e hv => ⟨(WriteLog.flush_step hv.1 e).1, hv.2.trans (WriteLog.flush_step hv.1 e).2⟩)
      _ after ⟨hset, [], (List.append_nil _).trans hmore.symm⟩
    rw [← hafter] at hkept
    refine ⟨?_, ?_, WriteLog.exists_drained hinv hkept.1 _ rfl⟩
    · intro hclosed
      rw [(hflushed.2 hclosed).1]
      exact hkept.2
    · intro hpending
      by_contra hopen'
      have hrunning := hinv.isOpen (Bool.eq_false_iff.2 hopen')
      have hfirst := hrunning.pending
      rw [hpending] at hfirst
      exact hrunning.flush hkept.1 (List.take_eq_nil_iff.1 hfirst.symm |>.resolve_left (by decide))

end RemotePlay.Net
