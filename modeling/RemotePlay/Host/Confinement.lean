import RemotePlay.Host.HostSession
import RemotePlay.Lib.OrderedMap

set_option autoImplicit false

/-! # Handlers are confined to their client

The application knows the clients only through the session's callbacks; `reports` are the callbacks
about one client among the effects of an event. Every handler works for one client: it changes the
record it names, sends to that client (`Confined`) and calls back about it (`Local`). -/

namespace RemotePlay.Host

open Proto (Envelope Body Id Reason encodeMessage decodeMessage knownId)

/-- A callback about one client. -/
inductive Report where
  | updated (state : ConnectionState)
  | input (perms : InputPermissions)
  | message (type : UInt16) (payload : Bytes)
deriving DecidableEq, Repr

/-- The callback about `id` that an effect is, if any. -/
def reportOf (id : UInt32) : HostEffect → Option Report
  | .onClientUpdated row => if row.id = id then some (.updated row.state) else none
  | .onInputPermissions clientId perms => if clientId = id then some (.input perms) else none
  | .onAppMessage clientId type payload =>
      if clientId = id then some (.message type payload) else none
  | _ => none

/-- The callbacks about `id`, in order. -/
def reports (id : UInt32) (out : List HostEffect) : List Report := out.filterMap (reportOf id)

/-- The client an effect is sent to. -/
def HostEffect.addressee : HostEffect → Option UInt32
  | .send clientId _ _ => some clientId
  | .sendAndClose clientId _ _ => some clientId
  | .close clientId => some clientId
  | _ => none

@[simp] theorem reports_nil (id : UInt32) : reports id [] = [] := rfl

@[simp] theorem reports_append (id : UInt32) (out out' : List HostEffect) :
    reports id (out ++ out') = reports id out ++ reports id out' := List.filterMap_append

theorem reports_onClientUpdated (id : UInt32) (row : ClientRow) :
    reports id [.onClientUpdated row] = if row.id = id then [.updated row.state] else [] := by
  by_cases hid : row.id = id
  · simp [reports, reportOf, hid]
  · simp [reports, reportOf, hid]

theorem reports_onInputPermissions (id clientId : UInt32) (perms : InputPermissions) :
    reports id [.onInputPermissions clientId perms]
      = if clientId = id then [.input perms] else [] := by
  by_cases hid : clientId = id
  · simp [reports, reportOf, hid]
  · simp [reports, reportOf, hid]

theorem reports_onAppMessage (id clientId : UInt32) (type : UInt16) (payload : Bytes) :
    reports id [.onAppMessage clientId type payload]
      = if clientId = id then [.message type payload] else [] := by
  by_cases hid : clientId = id
  · simp [reports, reportOf, hid]
  · simp [reports, reportOf, hid]

namespace HostSession

/-! ## The small steps -/

section SmallSteps

variable (s : HostSession) (id a : UInt32)

@[simp] theorem clients_rebuildSnapshot : s.rebuildSnapshot.clients = s.clients := rfl

@[simp] theorem clients_post (task : HostTask) : (s.post task).clients = s.clients := rfl

theorem lookup_withClients_insert (rec : ClientRecord) :
    (s.withClients (s.clients.insert id rec)).clients[a]?
      = if id = a then some rec else s.clients[a]? := lookup_insert s.clients id a rec

@[simp] theorem reports_sendTo (msg : Envelope) : reports a (s.sendTo id msg) = [] := by
  unfold sendTo
  split
  · rfl
  · rfl

@[simp] theorem reports_sendAndClose (msg : Envelope) :
    reports a (s.sendAndClose id msg) = [] := by
  unfold sendAndClose
  split
  · rfl
  · rfl

theorem lookup_setState (st : ConnectionState) :
    (s.setState id st).1.clients[a]?
      = if id = a then (s.clients[id]?).map (fun rec => { rec with state := st })
        else s.clients[a]? := by
  unfold setState
  split
  · next h =>
      split
      · next heq => rw [← heq, h, Option.map_none]
      · rfl
  · next rec h =>
      dsimp only
      rw [clients_rebuildSnapshot, lookup_withClients_insert, h, Option.map_some]

/-- `setState` reports the row of the client it changed. -/
theorem reports_setState (st : ConnectionState) :
    reports a (s.setState id st).2
      = if id = a then ((s.clients[id]?).map (fun _ => Report.updated st)).toList else [] := by
  unfold setState
  split
  · next h =>
      rw [h]
      split
      · rfl
      · rfl
  · next rec h =>
      have hrow : ((s.withClients (s.clients.insert id { rec with state := st })).rebuildSnapshot
          ).snapshot.find? (fun row => row.id == id)
          = some (rowOf id { rec with state := st }) :=
        find_map_toList _ rowOf ClientRow.id (fun _ _ => rfl)
          (by rw [withClients, lookup_insert, if_pos rfl])
      simp only [hrow, Option.getD_some, h]
      exact reports_onClientUpdated a _

theorem reports_pushInputPermissions :
    reports a (s.pushInputPermissions id)
      = if id = a then ((s.clients[id]?).map (fun rec => Report.input rec.input)).toList
        else [] := by
  unfold pushInputPermissions
  split
  · next h =>
      rw [h]
      split
      · rfl
      · rfl
  · next rec h =>
      rw [reports_append, reports_sendTo, List.nil_append, h]
      exact reports_onInputPermissions a id _

theorem lookup_dropClient (sendReject : Bool) (reason : Reason) (text : Bytes) :
    (s.dropClient id sendReject reason text).1.clients[a]?
      = if id = a then none else s.clients[a]? := by
  unfold dropClient
  split
  · next h =>
      split
      · next heq => rw [← heq, h]
      · rfl
  · dsimp only
    rw [clients_rebuildSnapshot, withClients, lookup_erase, lookup_setState]
    split
    · rfl
    · rfl

theorem reports_dropClient (sendReject : Bool) (reason : Reason) (text : Bytes) :
    reports a (s.dropClient id sendReject reason text).2
      = if id = a then ((s.clients[id]?).map (fun _ => Report.updated .Disconnected)).toList
        else [] := by
  unfold dropClient
  split
  · next h =>
      rw [h]
      split
      · rfl
      · rfl
  · dsimp only
    have hfarewell : reports a (if sendReject then s.sendAndClose id
          { type := .HostReject
            body := .hostReject { reasonCode := reason.code, reasonText := text } }
        else [.close id]) = [] := by
      split
      · exact s.reports_sendAndClose id a _
      · rfl
    rw [reports_append, reports_setState, hfarewell, List.nil_append]

end SmallSteps

/-! ## One client at a time -/

/-- What only `start`, `stop` and new connections change. -/
structure SameConfig (s t : HostSession) : Prop where
  params : t.params = s.params
  sessionCode : t.sessionCode = s.sessionCode
  appHandler : t.appHandler = s.appHandler
  nextClientId : t.nextClientId = s.nextClientId
  stopping : t.stopping = s.stopping
  running : t.running = s.running

theorem SameConfig.refl (s : HostSession) : SameConfig s s := ⟨rfl, rfl, rfl, rfl, rfl, rfl⟩

theorem SameConfig.trans {s t u : HostSession} (h : SameConfig s t) (h' : SameConfig t u) :
    SameConfig s u :=
  ⟨h'.params.trans h.params, h'.sessionCode.trans h.sessionCode, h'.appHandler.trans h.appHandler,
    h'.nextClientId.trans h.nextClientId, h'.stopping.trans h.stopping, h'.running.trans h.running⟩

/-- A handler's result concerns the client `c` only. -/
structure Confined (c : UInt32) (s : HostSession) (r : HostSession × List HostEffect) : Prop where
  clients : ∀ j, j ≠ c → r.1.clients[j]? = s.clients[j]?
  effects : ∀ eff ∈ r.2, ∀ j, eff.addressee = some j → j = c
  config : SameConfig s r.1

/-- And it calls back about this client only. -/
structure Local (c : UInt32) (s : HostSession) (r : HostSession × List HostEffect) : Prop
    extends Confined c s r where
  silent : ∀ j, j ≠ c → reports j r.2 = []

section Local

variable {s t : HostSession} {c : UInt32} {out out' : List HostEffect}

theorem Local.nil (s : HostSession) : Local c s (s, []) where
  clients := fun _ _ => rfl
  effects := fun eff hmem => absurd hmem (by simp)
  config := .refl s
  silent := fun _ _ => rfl

theorem Local.append {u : HostSession} (h : Local c s (t, out)) (h' : Local c t (u, out')) :
    Local c s (u, out ++ out') where
  clients := fun j hj => (h'.clients j hj).trans (h.clients j hj)
  effects := fun eff hmem => (List.mem_append.1 hmem).elim (h.effects eff) (h'.effects eff)
  config := h.config.trans h'.config
  silent := fun j hj => by rw [reports_append, h.silent j hj, h'.silent j hj, List.nil_append]

/-- The published table and the posted tasks are no client's. -/
theorem Local.rebuild (h : Local c s (t, out)) : Local c s (t.rebuildSnapshot, out) where
  clients := h.clients
  effects := h.effects
  config := ⟨h.config.params, h.config.sessionCode, h.config.appHandler, h.config.nextClientId,
    h.config.stopping, h.config.running⟩
  silent := h.silent

theorem Local.post (h : Local c s (t, out)) (task : HostTask) : Local c s (t.post task, out) where
  clients := h.clients
  effects := h.effects
  config := ⟨h.config.params, h.config.sessionCode, h.config.appHandler, h.config.nextClientId,
    h.config.stopping, h.config.running⟩
  silent := h.silent

theorem Local.quiet {u : HostSession} (h : Local c s (t, out)) (h' : Local c t (u, [])) :
    Local c s (u, out) :=
  List.append_nil out ▸ h.append h'

/-- What is sent first, before the record changes. -/
theorem Local.sending {r : HostSession × List HostEffect} (hsends : Local c s (s, out))
    (h : Local c s r) : Local c s (r.1, out ++ r.2) := hsends.append h

theorem local_insert (rec : ClientRecord) :
    Local c s (s.withClients (s.clients.insert c rec), []) where
  clients := fun j hj => by rw [lookup_withClients_insert, if_neg (Ne.symm hj)]
  effects := fun eff hmem => absurd hmem (by simp)
  config := ⟨rfl, rfl, rfl, rfl, rfl, rfl⟩
  silent := fun _ _ => rfl

theorem local_erase : Local c s (s.withClients (s.clients.erase c), []) where
  clients := fun j hj => by
    simp only [withClients]
    rw [lookup_erase, if_neg (Ne.symm hj)]
  effects := fun eff hmem => absurd hmem (by simp)
  config := ⟨rfl, rfl, rfl, rfl, rfl, rfl⟩
  silent := fun _ _ => rfl

/-- One effect of the client's. -/
theorem local_effect {eff : HostEffect} (h : ∀ j, eff.addressee = some j → j = c)
    (hreport : ∀ j, j ≠ c → reports j [eff] = []) : Local c s (s, [eff]) where
  clients := fun _ _ => rfl
  effects := fun _ hmem => List.mem_singleton.1 hmem ▸ h
  config := .refl s
  silent := hreport

theorem local_sendTo (msg : Envelope) : Local c s (s, s.sendTo c msg) := by
  unfold sendTo
  split
  · exact local_effect (fun j hj => (Option.some.inj hj).symm) fun _ _ => rfl
  · exact .nil s

theorem local_sendAndClose (msg : Envelope) : Local c s (s, s.sendAndClose c msg) := by
  unfold sendAndClose
  split
  · exact local_effect (fun j hj => (Option.some.inj hj).symm) fun _ _ => rfl
  · exact .nil s

theorem local_setState (st : ConnectionState) : Local c s (s.setState c st) where
  clients := fun j hj => by rw [lookup_setState, if_neg (Ne.symm hj)]
  effects := by
    intro eff hmem j hj
    unfold setState at hmem
    split at hmem
    · cases hmem
    · rw [List.mem_singleton.1 hmem] at hj
      cases hj
  config := by
    unfold setState
    split
    · exact .refl s
    · exact ⟨rfl, rfl, rfl, rfl, rfl, rfl⟩
  silent := fun j hj => by rw [reports_setState, if_neg (Ne.symm hj)]

theorem local_pushInputPermissions : Local c s (s, s.pushInputPermissions c) := by
  unfold pushInputPermissions
  split
  · exact .nil s
  · exact (local_sendTo _).append (local_effect (fun j hj => by cases hj)
      fun j hj => by rw [reports_onInputPermissions, if_neg (Ne.symm hj)])

theorem local_dropClient (sendReject : Bool) (reason : Reason) (text : Bytes) :
    Local c s (s.dropClient c sendReject reason text) := by
  unfold dropClient
  split
  · exact .nil s
  have hfarewell : Local c s (s, if sendReject then s.sendAndClose c
      { type := .HostReject, body := .hostReject { reasonCode := reason.code, reasonText := text } }
      else [.close c]) := by
    split
    · exact local_sendAndClose _
    · exact local_effect (fun j hj => (Option.some.inj hj).symm) fun _ _ => rfl
  exact ((hfarewell.sending (local_setState .Disconnected)).quiet local_erase).rebuild

/-! ### Frames -/

theorem local_admitHello (rec : ClientRecord) (hello : Proto.Msg.ClientHello) :
    Local c s (s.admitHello c rec hello) := by
  unfold admitHello
  split
  · exact local_dropClient _ _ _
  split
  · exact local_dropClient _ _ _
  dsimp only
  split
  · exact (local_insert _).rebuild.post _
  · exact (local_insert _).rebuild.append (local_effect (fun j hj => by cases hj) fun _ _ => rfl)

theorem local_handleClientHello (hello : Proto.Msg.ClientHello) :
    Local c s (s.handleClientHello c hello) := by
  unfold handleClientHello
  split
  · exact .nil s
  split
  · exact .nil s
  · exact (local_insert _).append (local_admitHello _ hello)

theorem local_handleClientCapabilities (caps : Proto.Msg.ClientCapabilities) :
    Local c s (s.handleClientCapabilities c caps) := by
  unfold handleClientCapabilities
  split
  · exact .nil s
  split
  · exact .nil s
  dsimp only
  split
  · exact (local_sendTo _).sending (local_dropClient _ _ _)
  · exact ((local_sendTo _).append (local_setState _)).append local_pushInputPermissions

theorem local_handlePong (pong : Proto.Msg.Pong) (now : Int) :
    Local c s (s.handlePong c pong now, []) := by
  unfold handlePong
  split
  · exact .nil s
  · exact (local_insert _).rebuild

theorem local_handleOther (type : UInt16) (payload : Bytes) :
    Local c s (s.handleOther c type payload) := by
  unfold handleOther
  dsimp only
  split
  · exact local_effect (fun j hj => by cases hj)
      fun j hj => by rw [reports_onAppMessage, if_neg (Ne.symm hj)]
  · exact local_dropClient _ _ _

/-- **A frame concerns its sender only.** -/
theorem local_handleFrame (type : UInt16) (payload : Bytes) (now later : Int) :
    Local c s (s.handleFrame c type payload now later) := by
  unfold handleFrame
  split
  · exact .nil s
  split
  · exact local_dropClient _ _ _
  split
  · exact .nil s
  next rec h =>
  -- storing the activity time comes first and puts nothing out
  have hstored := local_insert (s := s) (c := c) { rec with lastActivity := now }
  refine hstored.append ?_
  split
  · exact local_dropClient _ _ _
  unfold dispatch
  split
  · exact local_handleClientHello _
  · exact local_handleClientCapabilities _
  · exact local_sendTo _
  · exact local_handlePong _ _
  · exact local_dropClient _ _ _
  · exact local_handleOther _ _

/-! ### Tasks and closed connections -/

theorem local_runApproveClient (accept : Bool) (now : Int) :
    Local c s (s.runApproveClient c accept now) := by
  unfold runApproveClient
  split
  · exact .nil s
  split
  · exact .nil s
  split
  · exact local_dropClient _ _ _
  · exact ((local_sendTo _).append (local_sendTo _)).quiet (local_insert _)

theorem local_runKickClient (reason : Bytes) : Local c s (s.runKickClient c reason) := by
  unfold runKickClient
  split
  · exact .nil s
  · exact (local_sendAndClose _).sending (local_setState _)

theorem local_runSetClientInput (enableAll : Bool) :
    Local c s (s.runSetClientInput c enableAll) := by
  unfold runSetClientInput
  split
  · exact .nil s
  · exact (local_insert _).append local_pushInputPermissions

theorem local_handleClientClosed : Local c s (s.handleClientClosed c) := by
  unfold handleClientClosed
  split
  · exact .nil s
  split
  · exact .nil s
  · exact local_erase.rebuild.append (local_effect (fun j hj => by cases hj)
      fun j hj => by rw [reports_onClientUpdated, if_neg (Ne.symm hj)])

theorem local_probe (now : Int) : Local c s (s.probe now c) := by
  unfold probe
  split
  · exact .nil s
  split
  · exact (local_insert _).append (local_sendTo _)
  · exact .nil s

end Local

/-! ### Housekeeping -/

section Loops

variable (s : HostSession)

/-- A loop over ids keeps what its body keeps, and has only effects its body has. -/
theorem forIds_rule (I : HostSession → Prop) (P : HostEffect → Prop)
    (f : HostSession → UInt32 → HostSession × List HostEffect)
    (hf : ∀ s c, I s → I (f s c).1 ∧ ∀ eff ∈ (f s c).2, P eff) (ids : List UInt32) (h : I s) :
    I (forIds f s ids).1 ∧ ∀ eff ∈ (forIds f s ids).2, P eff := by
  induction ids generalizing s with
  | nil => exact ⟨h, fun eff hmem => absurd hmem (by simp [forIds])⟩
  | cons c ids ih =>
      obtain ⟨hone, hout⟩ := hf s c h
      obtain ⟨hrest, hrestOut⟩ := ih (f s c).1 hone
      exact ⟨hrest, fun eff hmem => (List.mem_append.1 hmem).elim (hout eff) (hrestOut eff)⟩

/-- What both loops of `housekeeping` keep, it keeps. -/
theorem housekeeping_rule (I : HostSession → Prop) (P : HostEffect → Prop) (now : Int)
    (hprobe : ∀ t c, I t → I (t.probe now c).1 ∧ ∀ eff ∈ (t.probe now c).2, P eff)
    (hdrop : ∀ t c, I t →
      I (t.dropClient c true .InactivityTimeout (ascii "Connection timed out.")).1 ∧
        ∀ eff ∈ (t.dropClient c true .InactivityTimeout (ascii "Connection timed out.")).2, P eff)
    (h : I s) : I (s.housekeeping now).1 ∧ ∀ eff ∈ (s.housekeeping now).2, P eff := by
  unfold housekeeping
  split
  · exact ⟨h, fun eff hmem => absurd hmem (by simp)⟩
  · obtain ⟨hprobes, hprobesOut⟩ := s.forIds_rule I P (fun s id => s.probe now id) hprobe
      s.clients.keys h
    obtain ⟨hdrops, hdropsOut⟩ := forIds_rule _ I P (fun s id => s.dropClient id true
      .InactivityTimeout (ascii "Connection timed out.")) hdrop
      (s.clients.keys.filter (fun id => (s.clients[id]?).any (fun rec => timedOut rec now))) hprobes
    exact ⟨hdrops, fun eff hmem => (List.mem_append.1 hmem).elim (hprobesOut eff) (hdropsOut eff)⟩

theorem sameConfig_housekeeping (s : HostSession) (now : Int) :
    SameConfig s (s.housekeeping now).1 :=
  (s.housekeeping_rule (SameConfig s) (fun _ => True) now
    (fun _ _ ht => ⟨ht.trans (local_probe now).config, fun _ _ => trivial⟩)
    (fun _ _ ht => ⟨ht.trans (local_dropClient _ _ _).config, fun _ _ => trivial⟩) (.refl s)).1

end Loops

end HostSession

end RemotePlay.Host
