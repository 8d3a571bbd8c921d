import RemotePlay.App.HostSystem
import RemotePlay.App.PlayerSeats
import RemotePlay.Host.Reports
import RemotePlay.Security.KeySchedule

set_option autoImplicit false

/-! # The permissions in force are the host's

A client's input permissions are kept twice, in its record of the session and in the injector's
entry of its player index. The session reports every change behind the change itself, so the two
agree once the reports are delivered, unless the coordinator drops the injector's entry of a client
that keeps its seat or seats two clients on one index. -/

namespace RemotePlay.App

open Crypto (Cng EcdhKeyPair)
open Host (ClientRecord ClientView HostEffect HostEvent HostLaunchSettings HostSession)
open Host (Report reports reportOf)
open Input (InputInjector PlatformResults)

/-! ## Reports on their way -/

/-- Whether `agrees`, the agreement of a connected client's record with the injector, will hold once
    the pending reports about the client are delivered, if its record has the permissions `w`. -/
def Settles (w : InputPermissions) : List Report → (agrees : Prop) → Prop
  | [], agrees => agrees
  | .updated st :: rs, agrees => Settles w rs (st ≠ .Connected ∧ agrees)
  | .input p :: rs, _ => Settles w rs (p = w)
  | .message _ _ :: rs, agrees => Settles w rs agrees

section Settles

variable {w : InputPermissions}

theorem Settles.mono {rs : List Report} {a b : Prop} (h : Settles w rs a) (hab : a → b) :
    Settles w rs b := by
  induction rs generalizing a b with
  | nil => exact hab h
  | cons r rs ih =>
      cases r with
      | updated st => exact ih h (fun ⟨hst, ha⟩ => ⟨hst, hab ha⟩)
      | input p => exact h
      | message type payload => exact ih h hab

/-- A report of the record's own permissions settles everything before it. -/
theorem settles_concat_input (rs : List Report) (a : Prop) : Settles w (rs ++ [.input w]) a := by
  induction rs generalizing a with
  | nil => exact rfl
  | cons r rs ih =>
      cases r with
      | updated st => exact ih _
      | input p => exact ih _
      | message type payload => exact ih _

theorem Settles.concat_message {rs : List Report} {a : Prop} (h : Settles w rs a) (type : UInt16)
    (payload : Bytes) : Settles w (rs ++ [.message type payload]) a := by
  induction rs generalizing a with
  | nil => exact h
  | cons r rs ih =>
      cases r with
      | updated st => exact ih h
      | input p => exact ih h
      | message type payload => exact ih h

/-- The next report is delivered: a report of permissions puts them in force, and nothing but the
    seating of the client may disturb what was agreed. -/
theorem Settles.deliver {rs : List Report} {r : Option Report} {a b : Prop}
    (h : Settles w (r.toList ++ rs) a) (hinput : r = some (.input w) → b)
    (hkeep : r ≠ some (.updated .Connected) → (∀ p, r ≠ some (.input p)) → a → b) :
    Settles w rs b := by
  match r with
  | none => exact Settles.mono h (hkeep (by simp) (by simp))
  | some (.updated st) =>
      refine Settles.mono h (fun ⟨hst, ha⟩ => hkeep ?_ (by simp) ha)
      simpa using hst
  | some (.input p) => exact Settles.mono h (fun heq => hinput (by rw [heq]))
  | some (.message type payload) => exact Settles.mono h (hkeep (by simp) (by simp))

end Settles

/-- The report that an invocation delivers. -/
def HostCoordinatorEvent.reportAbout (id : UInt32) : HostCoordinatorEvent → Option Report
  | .clientUpdated row _ _ => if row.id = id then some (.updated row.state) else none
  | .inputPermissions clientId p => if clientId = id then some (.input p) else none
  | .appMessage clientId type payload =>
      if clientId = id then some (.message type payload) else none
  | _ => none

theorem reportAbout_invocation {keys : Option EcdhKeyPair} {salt : Bytes} {eff : HostEffect}
    {inv : HostCoordinatorEvent} (h : invocation keys salt eff = some inv) (id : UInt32) :
    inv.reportAbout id = reportOf id eff := by
  cases eff <;> cases h <;> rfl

theorem reportAbout_eq_input {inv : HostCoordinatorEvent} {id : UInt32} {p : InputPermissions}
    (h : inv.reportAbout id = some (.input p)) : inv = .inputPermissions id p := by
  cases inv with
  | inputPermissions clientId q =>
      simp only [HostCoordinatorEvent.reportAbout] at h
      split at h
      · next hid =>
          obtain rfl : q = p := by simpa using h
          rw [hid]
      · cases h
  | clientUpdated row keys salt =>
      simp only [HostCoordinatorEvent.reportAbout] at h
      split at h
      · simp at h
      · cases h
  | appMessage clientId type payload =>
      simp only [HostCoordinatorEvent.reportAbout] at h
      split at h
      · simp at h
      · cases h
  | streamBound index udpPort => cases h
  | streamResult index ok err => cases h
  | streamError clientId running => cases h
  | kick clientId => cases h

theorem reportOf_of_invocation_none {keys : Option EcdhKeyPair} {salt : Bytes} {eff : HostEffect}
    (h : invocation keys salt eff = none) (id : UInt32) : reportOf id eff = none := by
  cases eff <;> first | rfl | cases h

theorem reports_filter_isCall (id : UInt32) (out : List HostEffect) :
    reports id (out.filter isCall) = reports id out := by
  unfold reports
  rw [List.filterMap_filter]
  congr 1
  funext eff
  split
  · rfl
  · next h => exact (reportOf_of_invocation_none (by simpa [isCall] using h) id).symm

namespace HostSystem

variable {c : Cng} {s : HostSystem} {e : HostSystemEvent}

/-- The report taken off the queue is the one the invocation delivers. -/
theorem reports_calls {inv : HostCoordinatorEvent} (h : s.invocationAt e = some inv)
    (id : UInt32) :
    reports id s.calls = (inv.reportAbout id).toList ++ reports id (s.callsAfter e) := by
  cases e with
  | call keys salt io =>
      cases hcalls : s.calls with
      | nil => simp [invocationAt, hcalls] at h
      | cons eff rest =>
          simp only [invocationAt, hcalls, List.head?_cons, Option.bind_some] at h
          rw [reportAbout_invocation h, callsAfter, hcalls, List.tail_cons]
          unfold reports
          rw [List.filterMap_cons]
          cases reportOf id eff with
          | none => rfl
          | some r => rfl
  | session se => cases h
  | input index data io => cases h
  | streamBound index udpPort => cases h; rfl
  | streamResult index ok err => cases h; rfl
  | streamError clientId running => cases h; rfl
  | kick clientId => cases h; rfl

theorem reports_calls_of_none (h : s.invocationAt e = none) (id : UInt32) :
    reports id (s.callsAfter e) = reports id s.calls := by
  cases e with
  | call keys salt io =>
      cases hcalls : s.calls with
      | nil => simp [callsAfter, hcalls]
      | cons eff rest =>
          simp only [invocationAt, hcalls, List.head?_cons, Option.bind_some] at h
          rw [callsAfter, hcalls, List.tail_cons]
          unfold reports
          rw [List.filterMap_cons, reportOf_of_invocation_none h]
  | session se => rfl
  | input index data io => rfl
  | streamBound index udpPort => cases h
  | streamResult index ok err => cases h
  | streamError clientId running => cases h
  | kick clientId => cases h

/-- The session's reports queue up behind the others. -/
theorem reports_onSession (s : HostSystem) (se : HostEvent) (id : UInt32) :
    reports id (s.onSession se).1.calls
      = reports id s.calls ++ reports id (s.session.handle se).2 := by
  rw [onSession, Host.reports_append, reports_filter_isCall]

/-! ## The coordinator's calls -/

theorem enforced_callInjector (io : PlatformResults) (j : InputInjector)
    (eff : HostCoordinatorEffect) :
    (callInjector io j eff).enforced = HostCoordinator.applyCall j.enforced eff := by
  funext q
  cases eff with
  | setPermissions p perms =>
      rw [callInjector, HostCoordinator.applyCall, InputInjector.enforced_setPermissions,
        Function.update_apply]
      simp only [eq_comm]
  | clientDisconnected p =>
      rw [callInjector, HostCoordinator.applyCall, InputInjector.enforced_clientDisconnected,
        Function.update_apply]
      simp only [eq_comm]
  | _ => rfl

theorem enforced_foldl_callInjector (io : PlatformResults) (out : List HostCoordinatorEffect)
    (j : InputInjector) :
    (out.foldl (callInjector io) j).enforced = out.foldl HostCoordinator.applyCall j.enforced := by
  induction out generalizing j with
  | nil => rfl
  | cons eff out ih => rw [List.foldl_cons, List.foldl_cons, ih, enforced_callInjector]

theorem viewOf_foldl_callHost (out : List HostCoordinatorEffect) (h : HostSession) (id : UInt32) :
    (out.foldl ConnectedPair.callHost h).viewOf id = h.viewOf id := by
  rw [HostSession.viewOf, HostSession.viewOf, (foldl_callHost_keeps out h).2.2]

/-! ## The invariant -/

/-- The permissions in force for a seated client are `w`. -/
def InForce (s : HostSystem) (id : UInt32) (w : InputPermissions) : Prop :=
  ∀ i, s.app.seats id = some i → s.injector.enforced i = w

/-- No index is given twice, and every connected client's permissions are in force or on their
    way. -/
structure Synchronized (s : HostSystem) : Prop where
  distinct : ∀ a b i, s.app.seats a = some i → s.app.seats b = some i → a = b
  settles : ∀ id w, s.session.viewOf id = some { state := .Connected, input := w } →
    Settles w (reports id s.calls) (s.InForce id w)

/-- A step that takes no wrong turn: an entry the coordinator drops under a client that keeps its
    seat has the default permissions, and a client is seated while there is a free index. -/
structure Harmless (s : HostSystem) (e : HostSystemEvent) : Prop where
  reset : ∀ inv id i, s.invocationAt e = some inv → s.app.Resets inv id →
    s.app.seats id = some i → s.injector.enforced i = {}
  seat : ∀ row keys salt, s.invocationAt e = some (.clientUpdated row keys salt) →
    row.state = .Connected → s.app.seats row.id = none → s.app.HasFreeSeat

/-- The session's events. -/
theorem synchronized_onSession (h : s.Synchronized) (se : HostEvent) :
    (s.onSession se).1.Synchronized := by
  refine ⟨h.distinct, ?_⟩
  intro id w hview
  rw [reports_onSession]
  show Settles w _ (s.InForce id w)
  have hchange := s.session.step_change se id
  change (s.session.step se).viewOf id = _ at hview
  generalize reports id (s.session.handle se).2 = rs at hchange ⊢
  generalize (s.session.step se).viewOf id = v at hchange hview
  cases hchange with
  | stay =>
      rw [List.append_nil]
      exact h.settles id w hview
  | connection hassigns hid => simp at hview
  | hello input hold hroom => simp at hview
  | capabilities input hold hadmits =>
      obtain rfl : input = w := by simpa using hview
      have hsettled : Settles input (reports id s.calls ++ [.updated .Connected] ++ [.input input])
          (s.InForce id input) := settles_concat_input _ _
      rwa [List.append_assoc] at hsettled
  | setInput v hold input =>
      obtain ⟨-, rfl⟩ : v.state = .Connected ∧ input = w := by simpa using hview
      exact settles_concat_input _ _
  | kick v hold => simp at hview
  | forward input hold type payload => exact (h.settles id w hview).concat_message type payload
  | dropped v hold => cases hview
  | stopped he => cases hview

/-- What is put in force for one client concerns no other. -/
theorem Synchronized.update_other (h : s.Synchronized) {a id : UInt32} {i₀ i : UInt8}
    (hseat : s.app.seats a = some i₀) (hid : id ≠ a) (hi : s.app.seats id = some i)
    (f : UInt8 → InputPermissions) (p : InputPermissions) : Function.update f i₀ p i = f i := by
  have hne : i ≠ i₀ := by
    rintro rfl
    exact hid (h.distinct id a i hi hseat)
  exact Function.update_of_ne hne _ _

/-- What an invocation leaves in force for a connected client. -/
theorem settles_onApp (h : s.Synchronized) (hharmless : s.Harmless e) {t : HostSystem}
    {inv : HostCoordinatorEvent} (hinv : s.invocationAt e = some inv)
    {seats : UInt32 → Option UInt8} {g : (UInt8 → InputPermissions) → UInt8 → InputPermissions}
    (hchange : HostCoordinator.SeatChange s.app inv seats g) (hseats : t.app.seats = seats)
    (henforced : t.injector.enforced = g s.injector.enforced) {id : UInt32} {w : InputPermissions}
    (hsettles : Settles w (reports id s.calls) (s.InForce id w)) :
    Settles w (reports id (s.callsAfter e)) (t.InForce id w) := by
  rw [reports_calls hinv id] at hsettles
  unfold InForce
  rw [hseats, henforced]
  cases hchange with
  | stay hperms =>
      refine hsettles.deliver ?_ (fun _ _ ha => ha)
      intro hreport i hi
      -- permissions of a client without a seat
      have hid := reportAbout_eq_input hreport
      rw [hperms id w hid] at hi
      cases hi
  | seat row keys salt hrow hstate hnew =>
      subst hrow
      refine hsettles.deliver ?_ ?_
      · intro hreport
        have hid := reportAbout_eq_input hreport
        cases hid
      · intro hconn _ ha i hi
        have hne : id ≠ row.id := by
          rintro rfl
          simp [HostCoordinatorEvent.reportAbout, hstate] at hconn
        rw [Function.update_of_ne hne] at hi
        exact ha i hi
  | leave a i₀ hseat hends =>
      refine hsettles.deliver ?_ ?_
      · intro hreport
        have hid := reportAbout_eq_input hreport
        simp [hid, HostCoordinator.endsStream] at hends
      · intro _ _ ha i hi
        by_cases hid : id = a
        · rw [hid, Function.update_self] at hi
          cases hi
        · rw [Function.update_of_ne hid] at hi
          exact (h.update_other hseat hid hi _ _).trans (ha i hi)
  | permissions a i₀ p hseat hperms =>
      subst hperms
      refine hsettles.deliver ?_ ?_
      · intro hreport i hi
        have hid := reportAbout_eq_input hreport
        obtain ⟨rfl, rfl⟩ := HostCoordinatorEvent.inputPermissions.inj hid
        obtain rfl := Option.some.inj (hseat.symm.trans hi)
        exact Function.update_self ..
      · intro _ hother ha i hi
        have hid : id ≠ a := by
          rintro rfl
          exact hother p (by simp [HostCoordinatorEvent.reportAbout])
        exact (h.update_other hseat hid hi _ _).trans (ha i hi)
  | reset a i₀ hseat hresets =>
      have hdefault := hharmless.reset inv a i₀ hinv hresets hseat
      have hsame : Function.update s.injector.enforced i₀ {} = s.injector.enforced := by
        rw [← hdefault, Function.update_eq_self]
      dsimp only
      rw [hsame]
      refine hsettles.deliver ?_ (fun _ _ ha => ha)
      intro hreport
      have hid := reportAbout_eq_input hreport
      rcases hresets with ⟨m, hm⟩ | ⟨herr, -⟩
      · simp [hid, HostCoordinator.messageOf] at hm
      · rw [hid] at herr
        cases herr

/-- The seats stay distinct while there are free ones. -/
theorem distinct_onApp (h : s.Synchronized) (hharmless : s.Harmless e)
    {inv : HostCoordinatorEvent} (hinv : s.invocationAt e = some inv)
    {seats : UInt32 → Option UInt8} {g : (UInt8 → InputPermissions) → UInt8 → InputPermissions}
    (hchange : HostCoordinator.SeatChange s.app inv seats g) :
    ∀ a b i, seats a = some i → seats b = some i → a = b :=
  hchange.distinct (fun row keys salt hrow => hharmless.seat row keys salt (hrow ▸ hinv)) h.distinct

/-- **One step.** -/
theorem synchronized_step (h : s.Synchronized) (hharmless : s.Harmless e) :
    (s.step c e).Synchronized := by
  have hshape := step_shape c s e
  generalize s.step c e = t at hshape
  cases hshape with
  | session se he ht =>
      rw [ht]
      exact synchronized_onSession h se
  | invoke inv io hinv ht =>
      have hchange := s.app.step_seats c inv
      subst ht
      refine ⟨distinct_onApp h hharmless hinv hchange, ?_⟩
      intro id w hview
      have hview' : s.session.viewOf id = some { state := .Connected, input := w } := by
        rw [← hview]
        exact (viewOf_foldl_callHost _ _ id).symm
      exact settles_onApp h hharmless hinv hchange rfl (enforced_foldl_callInjector io _ _)
        (h.settles id w hview')
  | quiet hinv hsession happ hcalls henforced =>
      refine ⟨happ ▸ h.distinct, ?_⟩
      intro id w hview
      rw [hsession] at hview
      rw [hcalls, reports_calls_of_none hinv]
      refine (h.settles id w hview).mono ?_
      intro ha i hi
      rw [henforced]
      exact ha i (happ ▸ hi)

/-! ## Every run -/

/-- For every connected client with a stream, what `applyInput` goes by is what its record says. -/
def PermissionsAgree (s : HostSystem) : Prop :=
  ∀ (id : UInt32) (rec : ClientRecord) (cs : ClientStream), s.session.clients[id]? = some rec →
    rec.state = .Connected → s.app.streams[id]? = some cs →
      s.injector.enforced cs.playerIndex = rec.input

theorem Synchronized.permissionsAgree (h : s.Synchronized) (hempty : s.calls = []) :
    s.PermissionsAgree := by
  intro id rec cs hrec hstate hcs
  have hview := s.session.viewOf_of_lookup id hrec
  rw [hstate] at hview
  have hsettles := h.settles id rec.input hview
  rw [hempty] at hsettles
  exact hsettles cs.playerIndex (HostCoordinator.seats_of_stream hcs)

theorem started_synchronized (userName : Bytes) (settings : HostLaunchSettings)
    (sessionCode : Bytes) : (started userName settings sessionCode).Synchronized := by
  constructor
  · intro a b i ha _
    simp [HostCoordinator.seats, started] at ha
  · intro id w hview
    simp [started, HostSession.started, HostSession.viewOf] at hview

/-- **Host-authoritative permissions.** In every run of the host whose steps are all harmless,
    whenever the queue of callbacks is empty, the permissions in force for every connected client
    with a stream are those of its record. -/
theorem permissions_agree_of_harmless (c : Cng) (userName : Bytes) (settings : HostLaunchSettings)
    (sessionCode : Bytes) (es : List HostSystemEvent)
    (hharmless : ∀ p ∈ history (step c) (started userName settings sessionCode) es,
      p.1.Harmless p.2)
    (hempty : (runFrom (step c) (started userName settings sessionCode) es).calls = []) :
    (runFrom (step c) (started userName settings sessionCode) es).PermissionsAgree := by
  have hsync := runFrom_invariant (step c) Synchronized Harmless
    (fun _ _ => synchronized_step) _ es (started_synchronized userName settings sessionCode)
    hharmless
  exact hsync.permissionsAgree hempty

/-! ## A client that stops its stream -/

/-- A client connects and gets its seat and its permissions. -/
def joinRun : List HostSystemEvent :=
  [.session (.newConnection (ascii "192.0.2.7:4000") 0),
    .session (.frame 1 Proto.Id.ClientHello.code (Proto.encodeMessage
      { type := .ClientHello, body := .clientHello { sessionCode := Crypto.Session.code } }) 1 1),
    .session (.approveClient 1 true),
    .session (.runTask 2),
    .session (.frame 1 Proto.Id.ClientCapabilities.code (Proto.encodeMessage
      { type := .ClientCapabilities
        body := .clientCapabilities { supportedCodecs := [.H264] } }) 3 3),
    .call (some Crypto.Session.hostKeys) Crypto.Session.hostSalt {},
    .call none [] {}]

/-- The host disables the client's input; the client then stops its stream, as the protocol lets
    it. -/
def stopRun : List HostSystemEvent :=
  joinRun ++
    [.session (.setClientInput 1 false),
      .session (.runTask 4),
      .session (.runTask 4),
      .call none [] {},
      .session (.frame 1 Proto.Id.StreamStop.code (Proto.encodeMessage
        { type := .StreamStop, body := .streamStop {} }) 5 5),
      .call none [] {}]

theorem harmless_of_no_invocation (h : s.invocationAt e = none) : s.Harmless e :=
  ⟨fun inv _ _ hinv => absurd (h.symm.trans hinv) (by simp),
    fun _ _ _ hinv => absurd (h.symm.trans hinv) (by simp)⟩

/-- The first client finds every seat free. -/
theorem harmless_of_no_seats (hempty : ∀ id, s.app.seats id = none) : s.Harmless e := by
  refine ⟨fun inv id i _ _ hseat => ?_, fun _ _ _ _ _ _ => ⟨0, by decide, fun id => ?_⟩⟩
  · rw [hempty id] at hseat
    cases hseat
  · rw [hempty id]
    simp

theorem harmless_inputPermissions (id : UInt32) (p : InputPermissions)
    (h : s.invocationAt e = some (.inputPermissions id p)) : s.Harmless e := by
  refine ⟨?_, fun _ _ _ hinv => absurd (h.symm.trans hinv) (by simp)⟩
  intro inv a i hinv hresets _
  obtain rfl := Option.some.inj (h.symm.trans hinv)
  rcases hresets with ⟨m, hm⟩ | ⟨herr, -⟩
  · cases hm
  · cases herr

theorem permissions_agree_join :
    (runFrom (step Crypto.Session.record.replay) (started [] {} Crypto.Session.code)
      joinRun).PermissionsAgree := by
  refine permissions_agree_of_harmless Crypto.Session.record.replay [] {} Crypto.Session.code
    joinRun ?_ (by decide +kernel)
  intro p hp
  simp only [joinRun, history_cons, history_nil, List.mem_cons, List.not_mem_nil, or_false] at hp
  rcases hp with rfl | rfl | rfl | rfl | rfl | rfl | rfl
  · exact harmless_of_no_invocation rfl
  · exact harmless_of_no_invocation rfl
  · exact harmless_of_no_invocation rfl
  · exact harmless_of_no_invocation rfl
  · exact harmless_of_no_invocation rfl
  · exact harmless_of_no_seats (fun _ => rfl)
  · exact harmless_inputPermissions 1 {} (by decide +kernel)

/-- After its `STREAM_STOP` the client, whose input the host has disabled, may use its controller
    again. -/
theorem streamStop_restores_controller :
    let s := runFrom (step Crypto.Session.record.replay) (started [] {} Crypto.Session.code) stopRun
    s.calls = [] ∧
      s.session.viewOf 1 = some
        { state := .Connected
          input :=
            { controller := false, keyboard := false, mouse := false, vibration := false } } ∧
      s.app.seats 1 = some 0 ∧
      s.injector.enforced 0 = { controller := true } ∧
      ¬ s.PermissionsAgree := by
  intro s
  have hview : s.session.viewOf 1 = some
      { state := .Connected
        input :=
          { controller := false, keyboard := false, mouse := false, vibration := false } } := by
    decide +kernel
  have hseat : s.app.seats 1 = some 0 := by decide +kernel
  have hforce : s.injector.enforced 0 = { controller := true } := by decide +kernel
  refine ⟨by decide +kernel, hview, hseat, hforce, ?_⟩
  intro hagree
  obtain ⟨rec, hrec, hview⟩ := Option.map_eq_some_iff.1 hview
  obtain ⟨cs, hcs, hseat⟩ := Option.map_eq_some_iff.1 hseat
  obtain ⟨hstate, hinput⟩ := ClientView.mk.inj hview
  have h := hagree 1 rec cs hrec hstate hcs
  rw [hseat, hforce, hinput] at h
  cases h

end HostSystem

end RemotePlay.App
