import Mathlib.Data.List.Sort
import RemotePlay.Lib.Runs
import RemotePlay.Networking.UdpProtocol

set_option autoImplicit false

/-! # The jitter buffer over a run

`push`, `pop` and `setTargetMs` in any order, with any sequence numbers and clock readings. The
swaps of `push` are an ordered insertion, so the queue stays sorted; a frame that would come out
behind one already popped is turned away. `Jittered pushed b out` ties the buffer to the frames
pushed so far and those handed out: each pushed frame was handed out, is queued, came too late, or
fell to the overflow. -/

namespace RemotePlay.Net

/-- A call on the jitter buffer. -/
inductive JitterOp where
  | push (frame : AssembledFrame) (now : UInt64)
  | pop (now : UInt64)
  | setTargetMs (ms : UInt32)
deriving DecidableEq, Repr

/-- The buffer and the frames its owner has popped so far. -/
def jitterStep (s : JitterBuffer × List AssembledFrame) :
    JitterOp → JitterBuffer × List AssembledFrame
  | .push frame now => (s.1.push frame now, s.2)
  | .pop now => ((s.1.pop now).2, s.2 ++ (s.1.pop now).1)
  | .setTargetMs ms => ({ s.1 with targetMs := ms }, s.2)

/-- The buffer and its output after the calls `ops` since construction. -/
def jitterRun (initialTargetMs : UInt32) (ops : List JitterOp) :
    JitterBuffer × List AssembledFrame :=
  runFrom jitterStep ({ targetMs := initialTargetMs }, []) ops

/-- The frames pushed by a list of calls. -/
def pushedBy (ops : List JitterOp) : List AssembledFrame :=
  ops.filterMap fun op =>
    match op with
    | .push frame _ => some frame
    | _ => none

/-! ## The queue -/

namespace JitterBuffer

/-- The order of the queue read from its back. -/
def Entry.Behind (e x : Entry) : Prop := x.frame.sequence ≤ e.frame.sequence

instance : DecidableRel Entry.Behind := fun e x =>
  inferInstanceAs (Decidable (x.frame.sequence ≤ e.frame.sequence))

instance : Std.Total Entry.Behind := ⟨fun _ _ => UInt64.le_total _ _⟩

instance : IsTrans Entry Entry.Behind := ⟨fun _ _ _ hxy hyz => UInt64.le_trans hyz hxy⟩

/-- The swaps are an ordered insertion. -/
theorem sinkIn_eq_orderedInsert (e : Entry) (q : List Entry) :
    sinkIn e q = q.orderedInsert Entry.Behind e := by
  induction q with
  | nil => rfl
  | cons x xs ih =>
      rw [sinkIn, List.orderedInsert_cons, ih]
      by_cases hlt : e.frame.sequence < x.frame.sequence
      · have hbehind : ¬ Entry.Behind e x := UInt64.not_le.2 hlt
        rw [if_pos hlt, if_neg hbehind]
      · have hbehind : Entry.Behind e x := UInt64.not_lt.1 hlt
        rw [if_neg hlt, if_pos hbehind]

/-- The entries are in the order of their sequence numbers. -/
def Sorted (q : List Entry) : Prop := q.Pairwise fun x y => x.frame.sequence ≤ y.frame.sequence

/-- The new frame joins the queue, and the queue stays sorted. -/
theorem perm_sinkIn (e : Entry) (q : List Entry) :
    (sinkIn e q.reverse).reverse.Perm (e :: q) := by
  rw [sinkIn_eq_orderedInsert]
  refine (List.reverse_perm _).trans ((List.perm_orderedInsert _ e _).trans ?_)
  exact (List.reverse_perm q).cons e

theorem sorted_sinkIn (e : Entry) {q : List Entry} (hq : Sorted q) :
    Sorted (sinkIn e q.reverse).reverse := by
  rw [sinkIn_eq_orderedInsert, Sorted, List.pairwise_reverse]
  exact List.Pairwise.orderedInsert e _ (List.pairwise_reverse.2 hq)

/-- How many of the oldest entries a push drops. -/
def excess (b : JitterBuffer) : Nat := b.queue.length + 1 - kHighWatermark * 2

/-- `push` turns the frame away, or takes it and drops the oldest entries. -/
theorem push_cases (b : JitterBuffer) (frame : AssembledFrame) (now : UInt64) :
    b.push frame now = { b with reordered := b.reordered + 1 } ∨
      ∃ q, b.push frame now = { b with
          queue := q
          overflowDropped := b.overflowDropped + UInt64.ofNat b.excess } ∧
        q.Perm (⟨frame, now⟩ :: b.queue.drop b.excess) := by
  unfold push
  split
  · exact Or.inl rfl
  · exact Or.inr ⟨_, rfl, perm_sinkIn _ _⟩

/-- What `pop` hands out, followed by what it keeps, is the queue. -/
theorem popLoop_append (now : UInt64) (q : List Entry) (b : JitterBuffer) :
    (b.popLoop now q).1 ++ (b.popLoop now q).2.queue.map Entry.frame = q.map Entry.frame := by
  induction q generalizing b with
  | nil => rfl
  | cons front rest ih =>
      rw [popLoop]
      split
      · exact congrArg (front.frame :: ·) (ih _)
      · rfl

/-- `pop` counts nothing. -/
theorem popLoop_counters (now : UInt64) (q : List Entry) (b : JitterBuffer) :
    (b.popLoop now q).2.reordered = b.reordered ∧
      (b.popLoop now q).2.overflowDropped = b.overflowDropped := by
  induction q generalizing b with
  | nil => exact ⟨rfl, rfl⟩
  | cons front rest ih =>
      rw [popLoop]
      split
      · exact ih _
      · exact ⟨rfl, rfl⟩

/-! ## The order of what is handed out -/

/-- The queue is sorted and not behind what was handed out, which is itself in order. -/
structure InOrder (b : JitterBuffer) (out : List AssembledFrame) : Prop where
  sorted : Sorted b.queue
  ahead : b.initialized = true → ∀ e ∈ b.queue, b.lastPoppedSequence ≤ e.frame.sequence
  handed : out.Pairwise fun f g => f.sequence ≤ g.sequence
  behind : ∀ f ∈ out, b.initialized = true ∧ f.sequence ≤ b.lastPoppedSequence

theorem InOrder.push {b : JitterBuffer} {out : List AssembledFrame} (h : b.InOrder out)
    (frame : AssembledFrame) (now : UInt64) : (b.push frame now).InOrder out := by
  unfold JitterBuffer.push
  split
  · exact ⟨h.sorted, h.ahead, h.handed, h.behind⟩
  next hfresh =>
  have hsub : b.dropBacklog.queue.Sublist b.queue := List.drop_sublist _ _
  refine ⟨sorted_sinkIn _ (h.sorted.sublist hsub), ?_, h.handed, h.behind⟩
  intro hinit e he
  have hinit : b.initialized = true := hinit
  show b.lastPoppedSequence ≤ e.frame.sequence
  rcases List.mem_cons.1 ((perm_sinkIn _ _).mem_iff.1 he) with rfl | he
  · -- a frame that was let in is ahead of the last one popped, or that one is number 0
    by_contra hlt
    rw [UInt64.not_le] at hlt
    exact hfresh ⟨hinit, UInt64.le_of_lt hlt, UInt64.lt_of_le_of_lt (UInt64.zero_le) hlt⟩
  · exact h.ahead hinit e (hsub.mem he)

theorem InOrder.popLoop (now : UInt64) (q : List Entry) (b : JitterBuffer)
    (out : List AssembledFrame) (h : { b with queue := q }.InOrder out) :
    (b.popLoop now q).2.InOrder (out ++ (b.popLoop now q).1) := by
  induction q generalizing b out with
  | nil => simpa [JitterBuffer.popLoop] using h
  | cons front rest ih =>
      rw [JitterBuffer.popLoop]
      split
      · obtain ⟨hfront, hrest⟩ := List.pairwise_cons.1 h.sorted
        rw [List.append_cons]
        -- everything handed out so far is not beyond the front entry
        have hold : ∀ f ∈ out, f.sequence ≤ front.frame.sequence := by
          intro f hf
          obtain ⟨hinit, hle⟩ := h.behind f hf
          exact UInt64.le_trans hle (h.ahead hinit front List.mem_cons_self)
        refine ih _ _ ⟨hrest, fun _ => hfront, ?_, ?_⟩
        · refine List.pairwise_append.2 ⟨h.handed, List.pairwise_singleton _ _, ?_⟩
          intro f hf g hg
          rw [List.mem_singleton.1 hg]
          exact hold f hf
        · intro f hf
          refine ⟨rfl, ?_⟩
          rcases List.mem_append.1 hf with hf | hf
          · exact hold f hf
          · rw [List.mem_singleton.1 hf]
            exact UInt64.le_refl _
      · rw [List.append_nil]
        exact h

end JitterBuffer

/-! ## What became of the frames pushed -/

/-- The buffer `b` and its output `out` after the frames `pushed` were pushed. -/
structure Jittered (pushed : List AssembledFrame) (b : JitterBuffer) (out : List AssembledFrame) :
    Prop extends b.InOrder out where
  length_le : b.queue.length ≤ kHighWatermark * 2
  frames : (out ++ b.queue.map JitterBuffer.Entry.frame).Subperm pushed
  account : ∃ late spilled : Nat, b.reordered = UInt64.ofNat late ∧
    b.overflowDropped = UInt64.ofNat spilled ∧
    pushed.length = out.length + b.queue.length + late + spilled

namespace Jittered

variable {pushed out : List AssembledFrame} {b : JitterBuffer}

theorem initial (ms : UInt32) : Jittered [] { targetMs := ms } [] where
  sorted := List.Pairwise.nil
  ahead := fun _ e he => absurd he (by simp)
  handed := List.Pairwise.nil
  behind := fun f hf => absurd hf (by simp)
  length_le := Nat.zero_le _
  frames := List.Subperm.refl _
  account := ⟨0, 0, rfl, rfl, rfl⟩

theorem push (h : Jittered pushed b out) (frame : AssembledFrame) (now : UInt64) :
    Jittered (pushed ++ [frame]) (b.push frame now) out := by
  have horder := h.toInOrder.push frame now
  obtain ⟨late, spilled, hlate, hover, hsum⟩ := h.account
  have hlen := h.length_le
  rcases b.push_cases frame now with heq | ⟨q, heq, hperm⟩
  · rw [heq] at horder ⊢
    refine ⟨horder, hlen, h.frames.trans (List.sublist_append_left _ _).subperm,
      late + 1, spilled, ?_, hover, ?_⟩
    · show b.reordered + 1 = _
      rw [hlate, UInt64.ofNat_add]
      rfl
    · rw [List.length_append, List.length_singleton, hsum]
      dsimp only
      omega
  · rw [heq] at horder ⊢
    have hq : q.length = b.queue.length - b.excess + 1 := by
      rw [hperm.length_eq, List.length_cons, List.length_drop]
    have hexcess : b.excess = b.queue.length + 1 - kHighWatermark * 2 := rfl
    refine ⟨horder, ?_, ?_, late, spilled + b.excess, hlate, ?_, ?_⟩
    · dsimp only
      rw [hq]
      unfold kHighWatermark at *
      omega
    · -- the new frame is one more of those pushed; what was dropped leaves the rest a part of them
      have hrest : (out ++ (b.queue.drop b.excess).map JitterBuffer.Entry.frame).Subperm pushed :=
        ((List.Sublist.refl out).append ((List.drop_sublist _ _).map _)).subperm.trans h.frames
      have hmoved : (out ++ q.map JitterBuffer.Entry.frame).Perm
          (frame :: (out ++ (b.queue.drop b.excess).map JitterBuffer.Entry.frame)) :=
        ((hperm.map JitterBuffer.Entry.frame).append_left out).trans List.perm_middle
      refine hmoved.subperm.trans ?_
      refine ((List.subperm_cons frame).2 hrest).trans ?_
      exact (List.perm_append_singleton frame pushed).symm.subperm
    · show b.overflowDropped + UInt64.ofNat b.excess = _
      rw [hover, UInt64.ofNat_add]
    · rw [List.length_append, List.length_singleton, hsum]
      dsimp only
      rw [hq]
      unfold kHighWatermark at *
      omega

theorem pop (h : Jittered pushed b out) (now : UInt64) :
    Jittered pushed (b.pop now).2 (out ++ (b.pop now).1) := by
  rw [JitterBuffer.pop]
  have horder := JitterBuffer.InOrder.popLoop now b.queue b out h.toInOrder
  have hsplit := JitterBuffer.popLoop_append now b.queue b
  obtain ⟨hreordered, hoverflow⟩ := JitterBuffer.popLoop_counters now b.queue b
  have hlength := congrArg List.length hsplit
  rw [List.length_append, List.length_map, List.length_map] at hlength
  obtain ⟨late, spilled, hlate, hover, hsum⟩ := h.account
  have hlen := h.length_le
  refine ⟨horder, ?_, ?_, late, spilled, hreordered.trans hlate, hoverflow.trans hover, ?_⟩
  · omega
  · rw [List.append_assoc, hsplit]
    exact h.frames
  · rw [List.length_append, hsum]
    omega

theorem setTargetMs (h : Jittered pushed b out) (ms : UInt32) :
    Jittered pushed { b with targetMs := ms } out :=
  ⟨⟨h.sorted, h.ahead, h.handed, h.behind⟩, h.length_le, h.frames, h.account⟩

end Jittered

theorem jitterRun_jittered (ms : UInt32) (ops : List JitterOp) :
    Jittered (pushedBy ops) (jitterRun ms ops).1 (jitterRun ms ops).2 := by
  induction ops using List.reverseRecOn with
  | nil => exact Jittered.initial ms
  | append_singleton ops op ih =>
      rw [jitterRun, runFrom_concat, ← jitterRun, pushedBy, List.filterMap_append, ← pushedBy]
      cases op with
      | push frame now => exact ih.push frame now
      | pop now =>
          rw [List.filterMap_cons_none rfl, List.filterMap_nil, List.append_nil]
          exact ih.pop now
      | setTargetMs target =>
          rw [List.filterMap_cons_none rfl, List.filterMap_nil, List.append_nil]
          exact ih.setTargetMs target

/-- **Order and conservation in the jitter buffer.** After any calls the queue is sorted and holds
    at most 16 frames; what was popped so far never goes back in sequence; what was popped and what
    is queued are frames that were pushed, each for its own push; and the pushes are the frames
    popped, queued, turned away as too late and dropped on overflow. The two counters have 64 bits,
    so the sum is exact below `2^64`. -/
theorem jitter_order_conserved (initialTargetMs : UInt32) (ops : List JitterOp) :
    let b := (jitterRun initialTargetMs ops).1
    let out := (jitterRun initialTargetMs ops).2
    (b.queue.Pairwise fun x y => x.frame.sequence ≤ y.frame.sequence) ∧
      b.queue.length ≤ 16 ∧
      (out.Pairwise fun f g => f.sequence ≤ g.sequence) ∧
      (out ++ b.queue.map JitterBuffer.Entry.frame).Subperm (pushedBy ops) ∧
      UInt64.ofNat (pushedBy ops).length
        = UInt64.ofNat out.length + UInt64.ofNat b.queue.length + b.reordered + b.overflowDropped ∧
      ((pushedBy ops).length < 2 ^ 64 → (pushedBy ops).length
        = out.length + b.queue.length + b.reordered.toNat + b.overflowDropped.toNat) := by
  intro b out
  have h : Jittered (pushedBy ops) b out := jitterRun_jittered initialTargetMs ops
  obtain ⟨late, spilled, hlate, hover, hsum⟩ := h.account
  refine ⟨h.sorted, h.length_le, h.handed, h.frames, ?_, ?_⟩
  · rw [hsum, hlate, hover, UInt64.ofNat_add, UInt64.ofNat_add, UInt64.ofNat_add]
  · intro hlt
    rw [hlate, hover, UInt64.toNat_ofNat', UInt64.toNat_ofNat', Nat.mod_eq_of_lt (by omega),
      Nat.mod_eq_of_lt (by omega), hsum]

end RemotePlay.Net
