import RemotePlay.Host.Lifecycle

set_option autoImplicit false

/-! # What the application is told about a client

`viewOf` is what a record says about its client, the state and the input permissions.
`Change s e id` lists everything an event can do to the view of `id` together with the callbacks it
causes; `step_change` reads it off the changes of the record. -/

namespace RemotePlay.Host

/-- What a record says about its client. -/
structure ClientView where
  state : ConnectionState
  input : InputPermissions
deriving DecidableEq, Repr

namespace HostSession

/-- The view of the record under `id`. -/
def viewOf (s : HostSession) (id : UInt32) : Option ClientView :=
  (s.clients[id]?).map (fun rec => { state := rec.state, input := rec.input })

section Views

variable (s : HostSession) (id : UInt32)

theorem stateOf_eq_viewOf : s.stateOf id = (s.viewOf id).map ClientView.state := by
  rw [stateOf, viewOf, Option.map_map]
  rfl

theorem viewOf_of_lookup {rec : ClientRecord} (h : s.clients[id]? = some rec) :
    s.viewOf id = some { state := rec.state, input := rec.input } := by
  rw [viewOf, h]
  rfl

end Views

/-! ## Everything an event can do to a client -/

/-- The view of `id` after an event, with the callbacks about it. -/
inductive Change (s : HostSession) (e : HostEvent) (id : UInt32) :
    Option ClientView → List Report → Prop where
  | stay : Change s e id (s.viewOf id) []
  | connection (hassigns : s.assigns e = true) (hid : id = s.nextClientId) :
      Change s e id (some { state := .Connecting, input := {} }) []
  | hello (input : InputPermissions)
      (hview : s.viewOf id = some { state := .Connecting, input := input })
      (hroom : s.clients.size ≤ s.params.maxClients) :
      Change s e id (some { state := .Authenticating, input := s.params.inputDefaults }) []
  | capabilities (input : InputPermissions)
      (hview : s.viewOf id = some { state := .Authenticating, input := input })
      (hadmits : s.Admits e id) :
      Change s e id (some { state := .Connected, input := input })
        [.updated .Connected, .input input]
  | setInput (v : ClientView) (hview : s.viewOf id = some v) (input : InputPermissions) :
      Change s e id (some { v with input := input }) [.input input]
  | kick (v : ClientView) (hview : s.viewOf id = some v) :
      Change s e id (some { v with state := .Disconnected }) [.updated .Disconnected]
  | forward (input : InputPermissions)
      (hview : s.viewOf id = some { state := .Connected, input := input }) (type : UInt16)
      (payload : Bytes) : Change s e id (s.viewOf id) [.message type payload]
  | dropped (v : ClientView) (hview : s.viewOf id = some v) :
      Change s e id none [.updated .Disconnected]
  | stopped (he : e = .endStop) : Change s e id none []

theorem Change.stay_of {s : HostSession} {e : HostEvent} {id : UInt32} {v : Option ClientView}
    (h : v = s.viewOf id) : Change s e id v [] :=
  h ▸ .stay

/-- **What an event can do to a client.** -/
theorem step_change (s : HostSession) (e : HostEvent) (id : UInt32) :
    Change s e id ((s.step e).viewOf id) (reports id (s.handle e).2) := by
  have hchange := s.step_record e id
  have hview : ∀ rec : ClientRecord, s.clients[id]? = some rec →
      s.viewOf id = some { state := rec.state, input := rec.input } :=
    fun _ => s.viewOf_of_lookup id
  have hviewAs : ∀ (rec : ClientRecord) (st : ConnectionState), s.clients[id]? = some rec →
      rec.state = st → s.viewOf id = some { state := st, input := rec.input } := by
    rintro rec st hrec rfl
    exact hview rec hrec
  unfold viewOf
  generalize (s.step e).clients[id]? = v at hchange ⊢
  generalize reports id (s.handle e).2 = rs at hchange ⊢
  cases hchange with
  | stay hnew hdecided => exact .stay
  | connection address now he hassigns hid => exact .connection hassigns hid
  | approved rec now he hdeciding hrec hstate => exact .stay_of (hview rec hrec).symm
  | setInput rec now enableAll he htask hrec input hinput =>
      exact .setInput _ (hview rec hrec) input
  | kick rec now reason he htask hrec => exact .kick _ (hview rec hrec)
  | hello rec hello type payload now later he hrec hstate hroom =>
      exact .hello rec.input (hviewAs rec _ hrec hstate) hroom
  | capabilities rec type payload now later he hrec hstate hadmits =>
      exact .capabilities rec.input (hviewAs rec _ hrec hstate) hadmits
  | heard rec env type payload now later he hrun hstop hdec hrec hleaves rttMs =>
      exact .stay_of (hview rec hrec).symm
  | forward rec type payload now later he hrec hstate =>
      rw [Option.map_some, ← hview rec hrec]
      exact .forward rec.input (hviewAs rec _ hrec hstate) type payload
  | probed rec now he hrec => exact .stay_of (hview rec hrec).symm
  | dropped rec hrec => exact .dropped _ (hview rec hrec)
  | stopped he => exact .stopped he

end HostSession

end RemotePlay.Host
