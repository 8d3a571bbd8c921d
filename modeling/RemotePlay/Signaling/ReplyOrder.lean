import RemotePlay.Signaling.SignalingClient

set_option autoImplicit false

/-! # Whose reply a call returns

A client and a server that answers the requests of a connection in their order, one reply each, with
notifications anywhere in between. Requests have numbers, which only the model knows. A reply that was
read leaves its line in the mailbox until a call takes it, a later reply overwrites it or the client is
destroyed: neither a call that gives up nor a new connection empties it. So a call can find the reply
to an earlier request (`answers_own_iff`), though not if no call gives up (`answers_own_of_waits`). -/

namespace RemotePlay.Signaling

/-- A line that the reader takes for a reply. -/
def Reply : Type := { j : Json // isResponse (some j) = true }

/-- Any other line. -/
def Notification : Type := { body : Option Json // isResponse body = false }

/-- A call that has written its request; `waiting` while it is inside `wait_until`. -/
structure Call where
  request : Nat
  kind : Request
  waiting : Bool := false
deriving DecidableEq, Repr

/-- A call that has returned a result, and the line it comes from. -/
structure Answer where
  request : Nat
  line : Line
  result : CallResult

/-- The client, its connection and the server. -/
structure Exchange where
  client : SignalingClient := {}
  /-- The process has ended. -/
  terminated : Bool := false
  /-- The requests of the connection that the server has not answered yet. -/
  unanswered : List Nat := []
  /-- The lines that the reader has not read yet. -/
  wire : List Line := []
  /-- How many requests were written. -/
  requests : Nat := 0
  call : Option Call := none
  answers : List Answer := []

inductive ExchangeEvent where
  | setHandlers (h : Handlers)
  /-- `more`: the reader has read one more line when it is stopped. -/
  | connect (connected more : Bool)
  | disconnect (more : Bool)
  | request (kind : Request) (sent : Bool)
  | replies (j : Reply)
  | notifies (n : Notification)
  | reads
  | readFails
  /-- The call tests the mailbox. -/
  | checks
  /-- `wait_until` returns before the deadline. -/
  | wakes
  | timesOut

namespace Exchange

/-- The reader reads the next line. -/
def read (w : Exchange) : Exchange :=
  match w.wire with
  | [] => w
  | line :: wire =>
      match w.client.readerLine line with
      | none => { w with wire := wire, terminated := true }
      | some client => { w with wire := wire, client := client }

/-- `disconnect`. -/
def disconnect (w : Exchange) (more : Bool) : Exchange :=
  if !w.client.thread.running then w
  else
    let w := { w with client := w.client.closed }
    let w := if more then w.read else w
    { w with wire := [], unanswered := [] }

/-- `connect`. -/
def connect (w : Exchange) (connected more : Bool) : Exchange :=
  let w := w.disconnect more
  match w.client.opened connected with
  | (_, .lost) => { w with terminated := true }
  | (client, .returned ok) =>
      { w with
        client := client
        wire := if ok then [] else w.wire
        unanswered := if ok then [] else w.unanswered }

/-- `hostRegister` or `join`, up to the wait. -/
def request (w : Exchange) (kind : Request) (sent : Bool) : Exchange :=
  if !w.client.writeLine sent then w
  else
    { w with
      requests := w.requests + 1
      unanswered := w.unanswered ++ [w.requests]
      call := some { request := w.requests, kind := kind } }

/-- The call finds a line and returns, with what it makes of the line if that is a result. -/
def take (w : Exchange) (c : Call) (line : Line) : Exchange :=
  { w with
    client := { w.client with pendingLine := none }
    call := none
    answers := w.answers ++
      (line.body.bind c.kind.result).toList.map
        (fun result => { request := c.request, line := line, result := result }) }

/-- The thread of the calls; there is one at a time. -/
def callStep (w : Exchange) : ExchangeEvent → Exchange
  | .checks =>
      match w.call with
      | none => w
      | some c =>
          if c.waiting then w
          else
            match w.client.pendingLine with
            | none => { w with call := some { c with waiting := true } }
            | some line => w.take c line
  | .wakes =>
      match w.call with
      | none => w
      | some c =>
          if !c.waiting then w
          else if !w.client.thread.running then { w with call := none }
          else { w with call := some { c with waiting := false } }
  | .timesOut =>
      match w.call with
      | none => w
      | some c => if !c.waiting then w else { w with call := none }
  | .connect connected more => if w.call.isSome then w else w.connect connected more
  | .disconnect more => if w.call.isSome then w else w.disconnect more
  | .request kind sent => if w.call.isSome then w else w.request kind sent
  | _ => w

def step (w : Exchange) (e : ExchangeEvent) : Exchange :=
  if w.terminated then w
  else
    match e with
    | .setHandlers h => { w with client := { w.client with handlers := h } }
    | .replies j =>
        match w.unanswered with
        | [] => w
        | n :: unanswered =>
            { w with
              unanswered := unanswered
              wire := w.wire ++ [{ body := some j.1, request := some n }] }
    | .notifies n => { w with wire := w.wire ++ [{ body := n.1, request := none }] }
    | .reads => if w.client.thread.running then w.read else w
    | .readFails => if w.client.thread.running then { w with client := w.client.readerEnd } else w
    | e => w.callStep e

/-- The requests whose reply is still to be read, at the server or on the way. -/
def due (w : Exchange) : List Nat := w.wire.filterMap Line.request ++ w.unanswered

/-- The call that finds a line in the mailbox at this event, with the line. -/
def taken (w : Exchange) (e : ExchangeEvent) : Option (Call × Line) :=
  match e, w.terminated, w.call, w.client.pendingLine with
  | .checks, false, some c, some line => if c.waiting then none else some (c, line)
  | _, _, _, _ => none

/-- A call takes a line for its reply while its reply is still to be read. -/
def takesEarly (w : Exchange) (e : ExchangeEvent) : Bool :=
  (w.taken e).any (fun p => (p.2.body.bind p.1.kind.result).isSome && decide (p.1.request ∈ w.due))

/-! ## The mailbox and the replies that are due -/

/-- The reader takes a line for a reply, or leaves the mailbox alone. -/
theorem readerLine_spec (c : SignalingClient) (line : Line) :
    isResponse line.body = true ∧ c.readerLine line = some { c with pendingLine := some line } ∨
      isResponse line.body = false ∧
        ∀ c', c.readerLine line = some c' → c'.pendingLine = c.pendingLine := by
  unfold SignalingClient.readerLine isResponse
  cases typeOf line.body with
  | none => exact .inr ⟨rfl, nofun⟩
  | some type =>
      simp only [Option.any_some, decide_eq_true_eq, decide_eq_false_iff_not]
      split
      · next h => exact .inl ⟨h, rfl⟩
      · next h =>
          refine .inr ⟨h, fun c' hc' => ?_⟩
          split at hc'
          · cases hc'
          · next closes _ =>
              rw [← Option.some.inj hc']
              cases closes with
              | true => rfl
              | false => rfl

/-- The replies that are due are in the order of their requests, and behind the one in the mailbox; the
    latest call is waiting for one of them or for the one in the mailbox. -/
structure Inv (w : Exchange) : Prop where
  due : w.due.Pairwise (· < ·)
  bound : ∀ d ∈ w.due, d < w.requests
  tagged : ∀ line ∈ w.wire, line.request.isSome = isResponse line.body
  pending : ∀ line, w.client.pendingLine = some line →
    ∃ n, line.request = some n ∧ n < w.requests ∧ ∀ d ∈ w.due, n < d
  call : ∀ c, w.call = some c → c.request + 1 = w.requests ∧
    (c.request ∈ w.due ∨ ∃ line, w.client.pendingLine = some line ∧ line.request = some c.request)

theorem inv_init : Inv {} where
  due := List.Pairwise.nil
  bound := nofun
  tagged := nofun
  pending := nofun
  call := nofun

/-- What the invariant speaks of is the same. -/
theorem Inv.congr {w w' : Exchange} (h : Inv w) (hdue : w'.due = w.due)
    (htagged : ∀ line ∈ w'.wire, line.request.isSome = isResponse line.body)
    (hrequests : w'.requests = w.requests)
    (hpending : w'.client.pendingLine = w.client.pendingLine)
    (hcall : ∀ c, w'.call = some c → ∃ c₀, w.call = some c₀ ∧ c₀.request = c.request) : Inv w' where
  due := hdue ▸ h.due
  bound := by
    rw [hdue, hrequests]
    exact h.bound
  tagged := htagged
  pending := by
    rw [hdue, hrequests, hpending]
    exact h.pending
  call := by
    intro c hc
    obtain ⟨c₀, hc₀, hrequest⟩ := hcall c hc
    rw [hdue, hrequests, hpending, ← hrequest]
    exact h.call c₀ hc₀

/-- **The latest request.** A call finds its own reply in the mailbox exactly if that is not still to be
    read. -/
theorem own_iff {w : Exchange} (h : Inv w) {c : Call} {line : Line} (hcall : w.call = some c)
    (hpending : w.client.pendingLine = some line) :
    line.request = some c.request ↔ c.request ∉ w.due := by
  obtain ⟨n, hn, -, hbehind⟩ := h.pending line hpending
  constructor
  · intro hown hdue
    obtain rfl : n = c.request := Option.some.inj (hn.symm.trans hown)
    exact Nat.lt_irrefl _ (hbehind _ hdue)
  · intro hdue
    rcases (h.call c hcall).2 with hstill | ⟨line', hline', hown⟩
    · exact absurd hstill hdue
    · rw [hpending] at hline'
      rw [Option.some.inj hline']
      exact hown

theorem read_call (w : Exchange) : w.read.call = w.call := by
  unfold read
  split
  · rfl
  · split
    · rfl
    · rfl

/-- Reading a line keeps the invariant. -/
theorem inv_read {w : Exchange} (h : Inv w) : Inv w.read := by
  unfold read
  split
  · exact h
  · next line wire hwire =>
      have htagged : ∀ l ∈ wire, l.request.isSome = isResponse l.body := by
        intro l hl
        exact h.tagged l (hwire ▸ List.mem_cons_of_mem _ hl)
      have hline := h.tagged line (hwire ▸ List.mem_cons_self ..)
      rcases readerLine_spec w.client line with ⟨hresponse, hread⟩ | ⟨hother, hkept⟩
      · -- the first of the replies that are due is in the mailbox now
        rw [hresponse] at hline
        obtain ⟨n, hn⟩ := Option.isSome_iff_exists.1 hline
        have hdue : w.due = n :: (wire.filterMap Line.request ++ w.unanswered) := by
          rw [due, hwire, List.filterMap_cons, hn]
          rfl
        have hsorted := h.due
        have hbound := h.bound
        rw [hdue] at hsorted hbound
        rw [List.pairwise_cons] at hsorted
        rw [hread]
        refine ⟨hsorted.2, fun d hd => hbound d (List.mem_cons_of_mem _ hd), htagged, ?_, ?_⟩
        · rintro l hl
          obtain rfl : line = l := Option.some.inj hl
          exact ⟨n, hn, hbound n (List.mem_cons_self ..), hsorted.1⟩
        · intro c hc
          have hcall := h.call c hc
          refine ⟨hcall.1, ?_⟩
          rcases hcall.2 with hstill | ⟨line', hline', hown⟩
          · rw [hdue, List.mem_cons] at hstill
            rcases hstill with rfl | hstill
            · exact .inr ⟨line, rfl, hn⟩
            · exact .inl hstill
          · -- the reply to the latest request was the last one that was due
            obtain ⟨m, hm, -, hbehind⟩ := h.pending line' hline'
            obtain rfl : m = c.request := Option.some.inj (hm.symm.trans hown)
            have hlater := hbehind n (hdue ▸ List.mem_cons_self ..)
            have hlast := hbound n (List.mem_cons_self ..)
            omega
      · rw [hother] at hline
        have hnone : line.request = none := Option.isNone_iff_eq_none.1 (Option.isSome_eq_false_iff.1 hline)
        have hdue : w.due = wire.filterMap Line.request ++ w.unanswered := by
          rw [due, hwire, List.filterMap_cons, hnone]
        split
        · exact h.congr hdue.symm htagged rfl rfl (fun c hc => ⟨c, hc, rfl⟩)
        · next client hclient =>
            exact h.congr hdue.symm htagged rfl (hkept client hclient) (fun c hc => ⟨c, hc, rfl⟩)

/-- Between two calls a new connection has nothing that is due. -/
theorem Inv.reset {w : Exchange} (h : Inv w) (hcall : w.call = none) :
    Inv { w with wire := [], unanswered := [] } where
  due := List.Pairwise.nil
  bound := nofun
  tagged := nofun
  pending := by
    intro line hline
    obtain ⟨n, hn, hlt, -⟩ := h.pending line hline
    exact ⟨n, hn, hlt, nofun⟩
  call := by
    intro c hc
    rw [show w.call = some c from hc] at hcall
    cases hcall

/-- Only the flag, the thread, the socket or the handlers change. -/
theorem Inv.client {w : Exchange} (h : Inv w) {client : SignalingClient}
    (hpending : client.pendingLine = w.client.pendingLine) : Inv { w with client := client } :=
  h.congr rfl h.tagged rfl hpending (fun c hc => ⟨c, hc, rfl⟩)

theorem call_disconnect (w : Exchange) (more : Bool) : (w.disconnect more).call = w.call := by
  unfold disconnect
  split
  · rfl
  · cases more with
    | true => exact read_call _
    | false => rfl

theorem inv_disconnect {w : Exchange} (h : Inv w) (hcall : w.call = none) (more : Bool) :
    Inv (w.disconnect more) := by
  unfold disconnect
  split
  · exact h
  · have hclosed : Inv { w with client := w.client.closed } := h.client rfl
    cases more with
    | true => exact (inv_read hclosed).reset ((read_call _).trans hcall)
    | false => exact hclosed.reset hcall

theorem inv_connect {w : Exchange} (h : Inv w) (hcall : w.call = none) (connected more : Bool) :
    Inv (w.connect connected more) := by
  have hdisconnected := inv_disconnect h hcall more
  have hidle := (call_disconnect w more).trans hcall
  unfold connect
  dsimp only
  split
  · exact hdisconnected.congr rfl hdisconnected.tagged rfl rfl (fun c hc => ⟨c, hc, rfl⟩)
  · next client ok hopened =>
      have hpending : client.pendingLine = (w.disconnect more).client.pendingLine := by
        have hclient : ((w.disconnect more).client.opened connected).1 = client :=
          congrArg Prod.fst hopened
        rw [← hclient]
        rfl
      cases ok with
      | true => exact (hdisconnected.client hpending).reset hidle
      | false => exact hdisconnected.client hpending

theorem inv_request {w : Exchange} (h : Inv w) (kind : Request) (sent : Bool) :
    Inv (w.request kind sent) := by
  unfold request
  split
  · exact h
  · have hdue : ∀ d, d ∈ w.wire.filterMap Line.request ++ (w.unanswered ++ [w.requests]) ↔
        d ∈ w.due ∨ d = w.requests := by
      intro d
      rw [← List.append_assoc, List.mem_append, List.mem_singleton]
      rfl
    refine ⟨?_, ?_, h.tagged, ?_, ?_⟩
    · show (w.wire.filterMap Line.request ++ (w.unanswered ++ [w.requests])).Pairwise (· < ·)
      rw [← List.append_assoc, List.pairwise_append]
      refine ⟨h.due, List.pairwise_singleton .., fun d hd n hn => ?_⟩
      rw [List.mem_singleton.1 hn]
      exact h.bound d hd
    · intro d hd
      rcases (hdue d).1 hd with hd | rfl
      · exact Nat.lt_succ_of_lt (h.bound d hd)
      · exact Nat.lt_succ_self _
    · intro line hline
      obtain ⟨n, hn, hlt, hbehind⟩ := h.pending line hline
      refine ⟨n, hn, Nat.lt_succ_of_lt hlt, fun d hd => ?_⟩
      rcases (hdue d).1 hd with hd | rfl
      · exact hbehind d hd
      · exact hlt
    · intro c hc
      obtain rfl := Option.some.inj hc
      exact ⟨rfl, .inl ((hdue _).2 (.inr rfl))⟩

theorem inv_take {w : Exchange} (h : Inv w) (c : Call) (line : Line) : Inv (w.take c line) :=
  ⟨h.due, h.bound, h.tagged, nofun, nofun⟩

/-- A call that goes on, or gives up, with the mailbox as it is. -/
theorem Inv.waits {w : Exchange} (h : Inv w) {c : Call} (hcall : w.call = some c)
    {call : Option Call} (hsame : ∀ c', call = some c' → c'.request = c.request) :
    Inv { w with call := call } :=
  h.congr rfl h.tagged rfl rfl (fun c' hc' => ⟨c, hcall, (hsame c' hc').symm⟩)

theorem inv_callStep {w : Exchange} (h : Inv w) (e : ExchangeEvent) : Inv (w.callStep e) := by
  cases e with
  | setHandlers _ | replies _ | notifies _ | reads | readFails => exact h
  | connect connected more =>
      unfold callStep
      dsimp only
      split
      · exact h
      · next hidle => exact inv_connect h (Option.not_isSome_iff_eq_none.1 hidle) connected more
  | disconnect more =>
      unfold callStep
      dsimp only
      split
      · exact h
      · next hidle => exact inv_disconnect h (Option.not_isSome_iff_eq_none.1 hidle) more
  | request kind sent =>
      unfold callStep
      dsimp only
      split
      · exact h
      · exact inv_request h kind sent
  | checks =>
      unfold callStep
      dsimp only
      split
      · exact h
      · next c hcall =>
          split
          · exact h
          split
          · exact h.waits hcall (fun c' hc' => Option.some.inj hc' ▸ rfl)
          · exact inv_take h c _
  | wakes =>
      unfold callStep
      dsimp only
      split
      · exact h
      · next c hcall =>
          split
          · exact h
          split
          · exact h.waits hcall nofun
          · exact h.waits hcall (fun c' hc' => Option.some.inj hc' ▸ rfl)
  | timesOut =>
      unfold callStep
      dsimp only
      split
      · exact h
      · next c hcall =>
          split
          · exact h
          · exact h.waits hcall nofun

/-- A reply on its way is as due as it was at the server. -/
theorem due_reply {w : Exchange} {n : Nat} {unanswered : List Nat}
    (h : w.unanswered = n :: unanswered) (body : Option Json) :
    due { w with
      unanswered := unanswered
      wire := w.wire ++ [{ body := body, request := some n }] } = w.due := by
  show (w.wire ++ [_]).filterMap Line.request ++ unanswered = _
  rw [List.filterMap_append, due, h, List.append_assoc]
  rfl

theorem due_notify (w : Exchange) (body : Option Json) :
    due { w with wire := w.wire ++ [{ body := body, request := none }] } = w.due := by
  show (w.wire ++ [_]).filterMap Line.request ++ w.unanswered = _
  rw [List.filterMap_append, due]
  exact congrArg (· ++ w.unanswered) (List.append_nil _)

theorem inv_step {w : Exchange} (h : Inv w) (e : ExchangeEvent) : Inv (w.step e) := by
  unfold step
  split
  · exact h
  cases e with
  | setHandlers handlers => exact h.client rfl
  | replies j =>
      dsimp only
      split
      · exact h
      · next n unanswered hunanswered =>
          refine h.congr (due_reply hunanswered _) ?_ rfl rfl (fun c hc => ⟨c, hc, rfl⟩)
          intro line hline
          rcases List.mem_append.1 hline with hline | hline
          · exact h.tagged line hline
          · rw [List.mem_singleton.1 hline]
            exact j.2.symm
  | notifies n =>
      refine h.congr (w.due_notify _) ?_ rfl rfl (fun c hc => ⟨c, hc, rfl⟩)
      intro line hline
      rcases List.mem_append.1 hline with hline | hline
      · exact h.tagged line hline
      · rw [List.mem_singleton.1 hline]
        exact n.2.symm
  | reads =>
      dsimp only
      split
      · exact inv_read h
      · exact h
  | readFails =>
      dsimp only
      split
      · exact h.client rfl
      · exact h
  | connect _ _ | disconnect _ | request _ _ | checks | wakes | timesOut => exact inv_callStep h _

/-! ## The answers -/

/-- What a call makes of a line. -/
def answer (c : Call) (line : Line) : List Answer :=
  (line.body.bind c.kind.result).toList.map
    (fun result => { request := c.request, line := line, result := result })

/-- The call that returns a result at this event. -/
def answered (w : Exchange) (e : ExchangeEvent) : List Answer :=
  (w.taken e).toList.flatMap (fun p => answer p.1 p.2)

theorem answers_read (w : Exchange) : w.read.answers = w.answers := by
  unfold read
  split
  · rfl
  · split
    · rfl
    · rfl

theorem answers_disconnect (w : Exchange) (more : Bool) :
    (w.disconnect more).answers = w.answers := by
  unfold disconnect
  split
  · rfl
  · cases more with
    | true => exact answers_read _
    | false => rfl

theorem answers_connect (w : Exchange) (connected more : Bool) :
    (w.connect connected more).answers = w.answers := by
  unfold connect
  dsimp only
  split
  · exact answers_disconnect w more
  · exact answers_disconnect w more

theorem answers_callStep_of_ne {e : ExchangeEvent} (w : Exchange) (h : e ≠ .checks) :
    (w.callStep e).answers = w.answers := by
  unfold callStep
  cases e with
  | setHandlers _ | replies _ | notifies _ | reads | readFails => rfl
  | checks => exact absurd rfl h
  | connect connected more =>
      dsimp only
      split
      · rfl
      · exact answers_connect w connected more
  | disconnect more =>
      dsimp only
      split
      · rfl
      · exact answers_disconnect w more
  | request kind sent =>
      dsimp only [request]
      split
      · rfl
      split
      · rfl
      · rfl
  | wakes =>
      dsimp only
      split
      · rfl
      split
      · rfl
      split
      · rfl
      · rfl
  | timesOut =>
      dsimp only
      split
      · rfl
      split
      · rfl
      · rfl

/-- Only a call that tests the mailbox returns a result. -/
theorem answers_step_of_ne {e : ExchangeEvent} (w : Exchange) (h : e ≠ .checks) :
    (w.step e).answers = w.answers := by
  unfold step
  split
  · rfl
  cases e with
  | setHandlers handlers => rfl
  | notifies n => rfl
  | replies j =>
      dsimp only
      split
      · rfl
      · rfl
  | reads =>
      dsimp only
      split
      · exact answers_read w
      · rfl
  | readFails =>
      dsimp only
      split
      · rfl
      · rfl
  | connect _ _ | disconnect _ | request _ _ | checks | wakes | timesOut =>
      exact answers_callStep_of_ne w h

theorem step_checks_of_taken {w : Exchange} {e : ExchangeEvent} {c : Call} {line : Line}
    (h : w.taken e = some (c, line)) :
    w.call = some c ∧ w.client.pendingLine = some line ∧ w.step e = w.take c line := by
  unfold taken at h
  split at h
  · next c' line' hterminated hcall hpending =>
      split at h
      · cases h
      · next hwaiting =>
          obtain ⟨rfl, rfl⟩ := Prod.mk.inj (Option.some.inj h)
          refine ⟨hcall, hpending, ?_⟩
          unfold step callStep
          rw [hterminated, hcall, hpending]
          dsimp only
          rw [if_neg Bool.false_ne_true, if_neg hwaiting]
  · cases h

theorem answers_checks_of_not_taken {w : Exchange} (h : w.taken .checks = none) :
    (w.step .checks).answers = w.answers := by
  unfold step callStep
  split
  · rfl
  · next hterminated =>
      rw [Bool.not_eq_true] at hterminated
      dsimp only
      split
      · rfl
      · next c hcall =>
          split
          · rfl
          · next hwaiting =>
              split
              · rfl
              · next line hpending =>
                  unfold taken at h
                  rw [hterminated, hcall, hpending] at h
                  dsimp only at h
                  rw [if_neg hwaiting] at h
                  cases h

theorem answers_step (w : Exchange) (e : ExchangeEvent) :
    (w.step e).answers = w.answers ++ w.answered e := by
  unfold answered
  cases htaken : w.taken e with
  | none =>
      rw [Option.toList_none, List.flatMap_nil, List.append_nil]
      by_cases hchecks : e = .checks
      · subst hchecks
        exact answers_checks_of_not_taken htaken
      · exact answers_step_of_ne w hchecks
  | some p =>
      rw [(step_checks_of_taken htaken).2.2, Option.toList_some, List.flatMap_singleton]
      rfl

theorem answered_own_iff {w : Exchange} (h : Inv w) (e : ExchangeEvent) :
    (∀ a ∈ w.answered e, a.line.request = some a.request) ↔ w.takesEarly e = false := by
  unfold answered takesEarly
  cases htaken : w.taken e with
  | none => exact iff_of_true nofun rfl
  | some p =>
      obtain ⟨c, line⟩ := p
      obtain ⟨hcall, hpending, -⟩ := step_checks_of_taken htaken
      rw [Option.toList_some, List.flatMap_singleton, Option.any_some, answer]
      cases line.body.bind c.kind.result with
      | none => exact iff_of_true nofun rfl
      | some result =>
          simp [own_iff h hcall hpending]

/-- **When a call returns the reply to its own request.** In a run of requests, connections, replies
    and notifications every result comes from the reply to the request of its call exactly if no call
    takes a line for its reply while its reply is still to be read. -/
theorem answers_own_iff (es : List ExchangeEvent) :
    (∀ a ∈ (runFrom step {} es).answers, a.line.request = some a.request) ↔
      ∀ p ∈ history step {} es, p.1.takesEarly p.2 = false := by
  have hinv := history_preserved step Inv (fun w e h => inv_step h e) {} es inv_init
  rw [forall_mem_log_iff step Exchange.answers answered answers_step
    (fun a => a.line.request = some a.request) {} rfl]
  constructor
  · intro hall p hp
    exact (answered_own_iff (hinv p hp) p.2).1 (hall p hp)
  · intro hall p hp
    exact (answered_own_iff (hinv p hp) p.2).2 (hall p hp)

/-- The reply to a `join`. -/
def joinedReply : Reply := ⟨.object [("type", .string (ascii "joined"))], by decide +kernel⟩

/-- A `join` times out, its reply is read, and the next `join` returns it at once. -/
theorem late_reply_answers_next :
    ¬ ∀ es : List ExchangeEvent,
      ∀ a ∈ (runFrom step {} es).answers, a.line.request = some a.request := by
  intro hall
  have hown := hall [.connect true false, .request .join true, .checks, .timesOut,
    .replies joinedReply, .reads, .request .join true, .checks] _ (List.mem_of_getLast? rfl)
  exact absurd hown (by decide)

/-! ## Calls that wait -/

/-- The call gives up: at its deadline, or because the reader has ended. -/
def givesUp (w : Exchange) : ExchangeEvent → Bool
  | .timesOut => !w.terminated && w.call.any Call.waiting
  | .wakes => !w.terminated && w.call.any Call.waiting && !w.client.thread.running
  | _ => false

/-- The replies that no call has taken yet. -/
def outstanding (w : Exchange) : Nat := w.due.length + w.client.pendingLine.toList.length

theorem outstanding_read_le {w : Exchange} (h : Inv w) : w.read.outstanding ≤ w.outstanding := by
  unfold read
  split
  · exact Nat.le_refl _
  · next line wire hwire =>
      have hline := h.tagged line (hwire ▸ List.mem_cons_self ..)
      have hlength : w.due.length =
          line.request.toList.length + (wire.filterMap Line.request ++ w.unanswered).length := by
        rw [due, hwire]
        cases hrequest : line.request with
        | none => rw [List.filterMap_cons_none hrequest, Option.toList_none, List.length_nil, Nat.zero_add]
        | some n =>
            rw [List.filterMap_cons_some hrequest, Option.toList_some, List.length_singleton, Nat.add_comm]
            rfl
      rcases readerLine_spec w.client line with ⟨hresponse, hread⟩ | ⟨hother, hkept⟩
      · -- the line that is overwritten, if there is one, is not counted any more
        rw [hresponse] at hline
        obtain ⟨n, hn⟩ := Option.isSome_iff_exists.1 hline
        rw [hread]
        show (wire.filterMap Line.request ++ w.unanswered).length + 1 ≤ w.outstanding
        rw [outstanding, hlength, hn, Option.toList_some, List.length_singleton, Nat.add_comm 1]
        exact Nat.le_add_right ..
      · have hrest : (wire.filterMap Line.request ++ w.unanswered).length ≤ w.due.length := by
          rw [hlength]
          exact Nat.le_add_left ..
        split
        · exact Nat.add_le_add_right hrest _
        · next client hclient =>
            unfold outstanding
            dsimp only
            rw [hkept client hclient]
            exact Nat.add_le_add_right hrest _

theorem outstanding_disconnect_le {w : Exchange} (h : Inv w) (more : Bool) :
    (w.disconnect more).outstanding ≤ w.outstanding := by
  have hclosed : Inv { w with client := w.client.closed } := h.client rfl
  have hcleared : ∀ v : Exchange, Exchange.outstanding { v with wire := [], unanswered := [] } ≤
      v.outstanding := fun v => Nat.add_le_add_right (Nat.zero_le _) _
  unfold disconnect
  split
  · exact Nat.le_refl _
  · cases more with
    | true => exact Nat.le_trans (hcleared _) (outstanding_read_le hclosed)
    | false => exact hcleared _

theorem outstanding_connect_le {w : Exchange} (h : Inv w) (connected more : Bool) :
    (w.connect connected more).outstanding ≤ w.outstanding := by
  have hdisconnected := outstanding_disconnect_le h more
  unfold connect
  dsimp only
  split
  · exact hdisconnected
  · next client ok hopened =>
      have hpending : client.pendingLine = (w.disconnect more).client.pendingLine := by
        have hclient : ((w.disconnect more).client.opened connected).1 = client :=
          congrArg Prod.fst hopened
        rw [← hclient]
        rfl
      refine Nat.le_trans ?_ hdisconnected
      unfold outstanding
      dsimp only
      rw [hpending]
      cases ok with
      | true => exact Nat.add_le_add_right (Nat.zero_le _) _
      | false => exact Nat.le_refl _

theorem outstanding_callStep {w : Exchange} (h : Inv w)
    (hone : w.outstanding ≤ w.call.toList.length) (hgoes : w.terminated = false) {e : ExchangeEvent}
    (hwaits : w.givesUp e = false) :
    (w.callStep e).outstanding ≤ (w.callStep e).call.toList.length := by
  unfold callStep
  cases e with
  | setHandlers _ | replies _ | notifies _ | reads | readFails => exact hone
  | connect connected more =>
      dsimp only
      split
      · exact hone
      · next hidle =>
          rw [Option.not_isSome_iff_eq_none] at hidle
          rw [hidle] at hone
          exact Nat.le_trans (outstanding_connect_le h connected more)
            (Nat.le_trans hone (Nat.zero_le _))
  | disconnect more =>
      dsimp only
      split
      · exact hone
      · rw [call_disconnect]
        exact Nat.le_trans (outstanding_disconnect_le h more) hone
  | request kind sent =>
      dsimp only [request]
      split
      · exact hone
      · next hidle =>
          rw [Option.not_isSome_iff_eq_none] at hidle
          split
          · exact hone
          · -- there was nothing before the new request
            rw [hidle] at hone
            have hnone := Nat.le_zero.1 hone
            unfold outstanding due at hnone ⊢
            simp only [List.length_append, Option.toList_some, List.length_singleton] at hnone ⊢
            omega
  | checks =>
      dsimp only
      split
      · exact hone
      · next c hcall =>
          split
          · exact hone
          rw [hcall] at hone
          split
          · exact hone
          · next line hpending =>
              unfold outstanding at hone
              rw [hpending] at hone
              exact Nat.le_of_succ_le_succ hone
  | wakes =>
      dsimp only
      split
      · exact hone
      · next c hcall =>
          split
          · exact hone
          · next hwaiting =>
              rw [Bool.not_eq_true', Bool.not_eq_false] at hwaiting
              rw [givesUp, hgoes, hcall, Option.any_some, hwaiting, Bool.not_false, Bool.true_and,
                Bool.true_and] at hwaits
              rw [hwaits]
              rw [hcall] at hone
              exact hone
  | timesOut =>
      dsimp only
      split
      · exact hone
      · next c hcall =>
          rw [givesUp, hgoes, hcall, Option.any_some, Bool.not_false, Bool.true_and] at hwaits
          rw [hwaits]
          exact hone

/-- **One step.** As long as no call gives up, at most one reply has not been taken, and there is none
    between two calls. -/
theorem outstanding_step {w : Exchange} (h : Inv w) (hone : w.outstanding ≤ w.call.toList.length)
    {e : ExchangeEvent} (hwaits : w.givesUp e = false) :
    (w.step e).outstanding ≤ (w.step e).call.toList.length := by
  unfold step
  split
  · exact hone
  next hgoes =>
  rw [Bool.not_eq_true] at hgoes
  cases e with
  | setHandlers handlers => exact hone
  | replies j =>
      dsimp only
      split
      · exact hone
      · next n unanswered hunanswered =>
          rw [outstanding, due_reply hunanswered]
          exact hone
  | notifies n =>
      rw [outstanding, due_notify]
      exact hone
  | reads =>
      dsimp only
      split
      · rw [read_call]
        exact Nat.le_trans (outstanding_read_le h) hone
      · exact hone
  | readFails =>
      dsimp only
      split
      · exact hone
      · exact hone
  | connect _ _ | disconnect _ | request _ _ | checks | wakes | timesOut =>
      exact outstanding_callStep h hone hgoes hwaits

/-- **Without a time-out** every result comes from the reply to the request of its call. -/
theorem answers_own_of_waits (es : List ExchangeEvent)
    (hwaits : ∀ p ∈ history step {} es, p.1.givesUp p.2 = false) :
    ∀ a ∈ (runFrom step {} es).answers, a.line.request = some a.request := by
  rw [forall_mem_log_iff step Exchange.answers answered answers_step
    (fun a => a.line.request = some a.request) {} rfl]
  have hinv := history_invariant step
    (fun w => Inv w ∧ w.outstanding ≤ w.call.toList.length) (fun w e => w.givesUp e = false)
    (fun _ e h hwaits => ⟨inv_step h.1 e, outstanding_step h.1 h.2 hwaits⟩) {} es
    ⟨inv_init, Nat.le_refl 0⟩ hwaits
  intro p hp
  obtain ⟨h, hone⟩ := hinv p hp
  refine (answered_own_iff h p.2).2 ?_
  unfold takesEarly
  cases htaken : p.1.taken p.2 with
  | none => rfl
  | some taken =>
      obtain ⟨c, line⟩ := taken
      obtain ⟨hcall, hpending, -⟩ := step_checks_of_taken htaken
      rw [outstanding, hcall, hpending] at hone
      have hdue : p.1.due = [] := List.eq_nil_of_length_eq_zero (Nat.le_zero.1 (Nat.le_of_succ_le_succ hone))
      rw [Option.any_some, hdue, decide_eq_false List.not_mem_nil, Bool.and_false]

end Exchange

end RemotePlay.Signaling
