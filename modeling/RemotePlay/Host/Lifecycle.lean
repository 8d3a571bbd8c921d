import RemotePlay.Host.Records
import RemotePlay.Lib.Runs

set_option autoImplicit false

/-! # What an event can do to a client's state

`stateOf` is the state of the record under an id, if there is one. `Transition s e id` lists every
state that id can be in after the event `e`, with the guards of the handler that puts it there;
`step_transition` reads it off the changes of the record. What a run preserves follows from it
without looking at the handlers again. -/

namespace RemotePlay.Host

open Proto (Envelope Body Id Reason encodeMessage decodeMessage knownId)

namespace HostSession

/-- The state of the record under `id`. -/
def stateOf (s : HostSession) (id : UInt32) : Option ConnectionState :=
  (s.clients[id]?).map ClientRecord.state

section StateOf

variable (s : HostSession) (id a : UInt32)

@[simp] theorem stateOf_rebuildSnapshot : s.rebuildSnapshot.stateOf a = s.stateOf a := rfl

@[simp] theorem stateOf_post (task : HostTask) : (s.post task).stateOf a = s.stateOf a := rfl

theorem stateOf_of_lookup {rec : ClientRecord} (h : s.clients[id]? = some rec) :
    s.stateOf id = some rec.state := by
  rw [stateOf, h]
  rfl

theorem stateOf_insert (rec : ClientRecord) :
    (s.withClients (s.clients.insert id rec)).stateOf a
      = if id = a then some rec.state else s.stateOf a := by
  rw [stateOf, lookup_withClients_insert]
  split
  · rfl
  · rfl

/-- Rewriting a record without touching its state. -/
theorem stateOf_insert_same {rec : ClientRecord} (rec' : ClientRecord)
    (h : s.clients[id]? = some rec)
    (hstate : rec'.state = rec.state) :
    (s.withClients (s.clients.insert id rec')).stateOf a = s.stateOf a := by
  rw [stateOf_insert]
  split
  · next heq => rw [← heq, s.stateOf_of_lookup id h, hstate]
  · rfl

theorem stateOf_erase :
    (s.withClients (s.clients.erase id)).stateOf a = if id = a then none else s.stateOf a := by
  simp only [stateOf, withClients]
  rw [lookup_erase]
  split
  · rfl
  · rfl

theorem stateOf_eq_none_of_lookup (h : s.clients[id]? = none) : s.stateOf id = none := by
  rw [stateOf, h]
  rfl

theorem stateOf_dropClient (sendReject : Bool) (reason : Reason) (text : Bytes) :
    (s.dropClient id sendReject reason text).1.stateOf a =
      if id = a then none else s.stateOf a := by
  rw [stateOf, lookup_dropClient]
  split
  · rfl
  · rfl

theorem stateOf_handlePong (pong : Proto.Msg.Pong) (now : Int) :
    (s.handlePong a pong now).stateOf id = s.stateOf id := by
  unfold handlePong
  split
  · rfl
  · next rec h => exact s.stateOf_insert_same a id _ h rfl

theorem stateOf_probe (now : Int) : (s.probe now a).1.stateOf id = s.stateOf id := by
  unfold probe
  split
  · rfl
  · next rec h =>
      split
      · exact s.stateOf_insert_same a id _ h rfl
      · rfl

end StateOf

/-! ## The transitions -/

/-- Every state that `id` can be in after the event. -/
inductive Transition (s : HostSession) (e : HostEvent) (id : UInt32) :
    Option ConnectionState → Prop where
  | stay : Transition s e id (s.stateOf id)
  | connection (hid : id = s.nextClientId) : Transition s e id (some .Connecting)
  | hello (type : UInt16) (payload : Bytes) (now later : Int)
      (he : e = .frame id type payload now later) (hstate : s.stateOf id = some .Connecting) :
      Transition s e id (some .Authenticating)
  | capabilities (hstate : s.stateOf id = some .Authenticating) (hadmits : s.Admits e id) :
      Transition s e id (some .Connected)
  | kick (now : Int) (reason : Bytes) (he : e = .runTask now)
      (htask : s.tasks.head? = some (.kickClient id reason)) :
      Transition s e id (some .Disconnected)
  | gone : Transition s e id none

theorem Transition.of_eq {s : HostSession} {e : HostEvent} {id : UInt32}
    {st : Option ConnectionState} (h : st = s.stateOf id) : Transition s e id st := h ▸ .stay

/-- **What an event can do to a client's state.** -/
theorem step_transition (s : HostSession) (e : HostEvent) (id : UInt32) :
    Transition s e id ((s.step e).stateOf id) := by
  have hchange := s.step_record e id
  have hsame : ∀ rec : ClientRecord, s.clients[id]? = some rec →
      some rec.state = s.stateOf id := fun rec hrec => (s.stateOf_of_lookup id hrec).symm
  unfold stateOf
  generalize (s.step e).clients[id]? = v at hchange ⊢
  generalize reports id (s.handle e).2 = rs at hchange
  cases hchange with
  | stay hnew hdecided => exact .stay
  | connection address now he hassigns hid => exact .connection hid
  | approved rec now he hdeciding hrec hstate => exact .of_eq (hsame rec hrec)
  | setInput rec now enableAll he htask hrec input hinput => exact .of_eq (hsame rec hrec)
  | kick rec now reason he htask hrec => exact .kick now reason he htask
  | hello rec hello type payload now later he hrec hstate hroom =>
      exact .hello type payload now later he (hstate ▸ s.stateOf_of_lookup id hrec)
  | capabilities rec type payload now later he hrec hstate hadmits =>
      exact .capabilities (hstate ▸ s.stateOf_of_lookup id hrec) hadmits
  | heard rec env type payload now later he hrun hstop hdec hrec hleaves rttMs =>
      exact .of_eq (hsame rec hrec)
  | forward rec type payload now later he hrec hstate => exact .of_eq (hsame rec hrec)
  | probed rec now he hrec => exact .of_eq (hsame rec hrec)
  | dropped rec hrec => exact .gone
  | stopped he => exact .gone

/-- A hello, as a client with this code sends it. -/
def helloFrame (id : UInt32) (sessionCode : Bytes) (now : Int) : HostEvent :=
  .frame id Id.ClientHello.code (encodeMessage
    { type := .ClientHello, body := .clientHello { sessionCode := sessionCode } }) now now

end HostSession

end RemotePlay.Host
