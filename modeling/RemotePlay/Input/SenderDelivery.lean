import RemotePlay.Input.SenderRuns

set_option autoImplicit false

/-! # What the sender delivers

`SenderRuns` is about the last event of each key. Here it is all of them: what the sender delivers are
the events it has queued, in their order, but for those that the `clear` of `queueEvent` drops. -/

namespace RemotePlay.Input

namespace SenderTrace

variable {t : SenderTrace}

/-- The call finds more than 256 events in the queue and drops them. -/
def overflows (t : SenderTrace) : SenderEvent → Bool
  | .queueEvent e => t.sender.accepts e && decide (256 < t.sender.eventQueue.length)
  | _ => false

/-- **One step** delivers what it queues, after what was delivered before or, if it overflows, after
    what was beyond the queue. -/
theorem delivered_step (h : t.sender.Live) (e : SenderEvent) :
    (t.step e).queued = t.queued ++ t.sender.queues e ∧
      (t.step e).delivered =
        (if t.overflows e then t.taken else t.delivered) ++ t.sender.queues e := by
  refine ⟨rfl, ?_⟩
  cases e with
  | queueEvent e =>
      cases haccepts : t.sender.accepts e with
      | false =>
          have hsender : t.sender.queueEvent e = t.sender := by
            simp [InputSender.queueEvent, haccepts]
          simp [delivered, taken, step, InputSender.step, InputSender.handle, InputSender.queues,
            overflows, hsender, haccepts]
      | true =>
          by_cases hfull : 256 < t.sender.eventQueue.length
          · simp [delivered, taken, step, InputSender.step, InputSender.handle, InputSender.queues,
              InputSender.pending, overflows, InputSender.queueEvent_of_accepts haccepts, haccepts,
              hfull]
          · simp [delivered, taken, step, InputSender.step, InputSender.handle, InputSender.queues,
              InputSender.pending, overflows, InputSender.queueEvent_of_accepts haccepts, haccepts,
              hfull]
  | setEnabled controller keyboard mouse =>
      simp [delivered, taken, step, InputSender.step, InputSender.handle, InputSender.queues,
        InputSender.setEnabled, InputSender.pending, overflows]
  | stop =>
      simp [delivered, taken, step, InputSender.step, InputSender.handle, InputSender.queues,
        InputSender.pending, overflows]
  | joined =>
      by_cases hended : t.sender.position = .ended
      · simp [delivered, taken, step, InputSender.step, InputSender.handle, InputSender.queues,
          InputSender.pending, overflows, hended]
      · simp [delivered, taken, step, InputSender.step, InputSender.handle, InputSender.queues,
          overflows, hended]
  | thread now states =>
      obtain ⟨-, -, -, hdelivered⟩ := step_thread (e := .thread now states) h rfl
      rw [hdelivered]
      simp [InputSender.queues, overflows]

theorem length_taken_of_overflows {e : SenderEvent} (h : t.overflows e = true) :
    t.taken.length < t.delivered.length := by
  cases e with
  | queueEvent e =>
      have hfull := of_decide_eq_true (Bool.and_eq_true_iff.1 h).2
      rw [delivered, List.length_append]
      omega
  | _ => cases h

theorem taken_prefix (t : SenderTrace) : t.taken <+: t.delivered := List.prefix_append _ _

/-- Nothing is delivered that was not queued, and nothing out of its place. -/
theorem delivered_sublist (controllerSlot : UInt8) (now : UInt64) (es : List SenderEvent) :
    (runFrom step (started controllerSlot now) es).delivered.Sublist
      (runFrom step (started controllerSlot now) es).queued := by
  refine (runFrom_preserved step (fun t => t.sender.Live ∧ t.delivered.Sublist t.queued) ?_ _ es
    ⟨(faithful_started controllerSlot now).live, List.Sublist.refl _⟩).2
  rintro t e ⟨hlive, hsub⟩
  obtain ⟨hqueued, hdelivered⟩ := delivered_step hlive e
  refine ⟨live_step hlive e, ?_⟩
  rw [hqueued, hdelivered]
  refine List.Sublist.append ?_ (List.Sublist.refl _)
  split
  · exact t.taken_prefix.sublist.trans hsub
  · exact hsub

/-- **All that was queued is delivered** exactly if no call of the run overflows the queue. -/
theorem delivered_eq_queued_iff (controllerSlot : UInt8) (now : UInt64) (es : List SenderEvent) :
    (runFrom step (started controllerSlot now) es).delivered =
        (runFrom step (started controllerSlot now) es).queued ↔
      ∀ p ∈ history step (started controllerSlot now) es, p.1.overflows p.2 = false := by
  have habsorbed := runFrom_absorbed step
    (fun t => t.sender.Live ∧ t.delivered = t.queued)
    (fun t => t.sender.Live ∧ t.delivered.length < t.queued.length)
    (fun t e => t.overflows e = false) ?good ?bad ?stay (started controllerSlot now) es
    ⟨(faithful_started controllerSlot now).live, rfl⟩
  case good =>
    rintro t e ⟨hlive, hall⟩ hkeeps
    obtain ⟨hqueued, hdelivered⟩ := delivered_step hlive e
    refine ⟨live_step hlive e, ?_⟩
    rw [hqueued, hdelivered, hkeeps, if_neg Bool.false_ne_true, hall]
  case bad =>
    rintro t e ⟨hlive, hall⟩ hdrops
    obtain ⟨hqueued, hdelivered⟩ := delivered_step hlive e
    have hoverflows := Bool.not_eq_false _ ▸ hdrops
    have hshort := length_taken_of_overflows hoverflows
    refine ⟨live_step hlive e, ?_⟩
    rw [hqueued, hdelivered, if_pos hoverflows, ← hall, List.length_append, List.length_append]
    omega
  case stay =>
    rintro t e ⟨hlive, hshort⟩
    obtain ⟨hqueued, hdelivered⟩ := delivered_step hlive e
    have htaken := t.taken_prefix.length_le
    refine ⟨live_step hlive e, ?_⟩
    rw [hqueued, hdelivered, List.length_append, List.length_append]
    split <;> omega
  rcases habsorbed with ⟨hkept, -, hall⟩ | ⟨hnot, -, hshort⟩
  · exact iff_of_true hall hkept
  · exact iff_of_false (fun heq => absurd (congrArg List.length heq) (Nat.ne_of_lt hshort)) hnot

end SenderTrace

end RemotePlay.Input
