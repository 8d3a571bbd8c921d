import Mathlib.Data.Finset.Card
import RemotePlay.App.HostSystem
import RemotePlay.App.LivePermissions
import RemotePlay.Host.PlayerCap

set_option autoImplicit false

/-! # A seat for everybody

The coordinator has four seats and hears of the clients late: a seat is taken when the report of a
connected client is delivered, and freed when a later report or a kick is. That it never runs out
follows from the session's cap. `awaited` are the clients that will be seated once the queue is
delivered; together with the players of the session they are at most `maxClients`, and no prefix of
the queue seats more. -/

namespace RemotePlay.App

open Crypto (Cng EcdhKeyPair)
open Host (ClientView HostEffect HostEvent HostLaunchSettings HostSession)
open Host (Report isPlayer reports reportOf)

/-! ## Delivering a queue -/

/-- The seated clients after a callback, if every client that is to be seated is. -/
def seatedAfter (seated : Finset UInt32) : HostEffect → Finset UInt32
  | .onClientUpdated row =>
      if row.state = .Connected then insert row.id seated
      else if row.state = .Disconnected then seated.erase row.id
      else seated
  | _ => seated

/-- No prefix of the queue seats more than `cap` clients. -/
def Fits (cap : Nat) (seated : Finset UInt32) (calls : List HostEffect) : Prop :=
  ∀ pre post, calls = pre ++ post → (runFrom seatedAfter seated pre).card ≤ cap

/-- Whether a client is seated after its reports. -/
def sitsAfter (sits : Prop) : List Report → Prop
  | [] => sits
  | .updated st :: rs => sitsAfter (st = .Connected ∨ st ≠ .Disconnected ∧ sits) rs
  | _ :: rs => sitsAfter sits rs

section Queue

variable {cap : Nat} {seated seated' : Finset UInt32} {calls : List HostEffect} {id : UInt32}

theorem mem_seatedAfter_onClientUpdated (row : Host.ClientRow) :
    id ∈ seatedAfter seated (.onClientUpdated row) ↔
      if row.id = id then row.state = .Connected ∨ row.state ≠ .Disconnected ∧ id ∈ seated
      else id ∈ seated := by
  rw [seatedAfter]
  by_cases hid : row.id = id
  · subst hid
    rw [if_pos rfl]
    split
    · next hconn => simp [hconn]
    split
    · next hdisc => simp [hdisc]
    · next hconn hdisc => simp [hconn, hdisc]
  · rw [if_neg hid]
    split
    · simp [Ne.symm hid]
    split
    · simp [Ne.symm hid]
    · rfl

/-- A client's seat depends on the reports about it only. -/
theorem mem_runFrom_seatedAfter (seated : Finset UInt32) (calls : List HostEffect)
    (id : UInt32) :
    id ∈ runFrom seatedAfter seated calls ↔ sitsAfter (id ∈ seated) (reports id calls) := by
  induction calls generalizing seated with
  | nil => rfl
  | cons eff calls ih =>
      have hcons : reports id (eff :: calls) = reports id [eff] ++ reports id calls :=
        Host.reports_append id [eff] calls
      rw [runFrom_cons, ih, hcons]
      cases eff with
      | onClientUpdated row =>
          rw [mem_seatedAfter_onClientUpdated, Host.reports_onClientUpdated]
          split
          · rfl
          · rfl
      | onInputPermissions clientId perms =>
          rw [Host.reports_onInputPermissions]
          split
          · rfl
          · rfl
      | onAppMessage clientId type payload =>
          rw [Host.reports_onAppMessage]
          split
          · rfl
          · rfl
      | _ => rfl

theorem seatedAfter_subset (h : seated ⊆ seated') (eff : HostEffect) :
    seatedAfter seated eff ⊆ seatedAfter seated' eff := by
  cases eff with
  | onClientUpdated row =>
      intro id
      rw [mem_seatedAfter_onClientUpdated, mem_seatedAfter_onClientUpdated]
      split
      · exact fun hid => hid.imp_right (fun ⟨hst, hmem⟩ => ⟨hst, h hmem⟩)
      · exact fun hmem => h hmem
  | _ => exact h

theorem runFrom_seatedAfter_subset (h : seated ⊆ seated') (calls : List HostEffect) :
    runFrom seatedAfter seated calls ⊆ runFrom seatedAfter seated' calls :=
  runFrom_related seatedAfter (· ⊆ ·) (fun _ _ eff hsub => seatedAfter_subset hsub eff) _ _ calls h

theorem Fits.subset (hfits : Fits cap seated' calls) (h : seated ⊆ seated') :
    Fits cap seated calls := by
  intro pre post hcalls
  exact (Finset.card_le_card (runFrom_seatedAfter_subset h pre)).trans (hfits pre post hcalls)

theorem Fits.tail {eff : HostEffect} (hfits : Fits cap seated (eff :: calls)) :
    Fits cap (seatedAfter seated eff) calls := by
  intro pre post hcalls
  exact hfits (eff :: pre) post (by rw [hcalls]; rfl)

theorem Fits.append {out : List HostEffect} (hfits : Fits cap seated calls)
    (hout : Fits cap (runFrom seatedAfter seated calls) out) : Fits cap seated (calls ++ out) := by
  intro pre post hcalls
  rcases List.append_eq_append_iff.1 hcalls with ⟨more, hpre, hmore⟩ | ⟨more, hpre, -⟩
  · rw [hpre, runFrom_append]
    exact hout more post hmore
  · exact hfits pre more hpre

/-- A queue that seats members of a small set only. -/
theorem fits_of_subset {room : Finset UInt32} (hroom : room.card ≤ cap) (hseated : seated ⊆ room)
    (hcalls : ∀ row, .onClientUpdated row ∈ calls → row.state = .Connected → row.id ∈ room) :
    Fits cap seated calls := by
  intro pre post hpre
  refine (Finset.card_le_card ?_).trans hroom
  refine runFrom_invariant seatedAfter (· ⊆ room) (fun _ eff => eff ∈ calls) ?_ seated pre
    hseated ?_
  · intro seated eff hsub hmem
    cases eff with
    | onClientUpdated row =>
        intro id hid
        rw [mem_seatedAfter_onClientUpdated] at hid
        split at hid
        · next heq =>
            rcases hid with hconn | ⟨-, hold⟩
            · exact heq ▸ hcalls row hmem hconn
            · exact hsub hold
        · exact hsub hid
    | _ => exact hsub
  · rintro ⟨t, eff⟩ hp
    obtain ⟨before, after, hsplit, -⟩ := (mem_history_iff _ _ _ _ _).1 hp
    rw [hpre, hsplit]
    simp

theorem sitsAfter_append (sits : Prop) (rs rs' : List Report) :
    sitsAfter sits (rs ++ rs') = sitsAfter (sitsAfter sits rs) rs' := by
  induction rs generalizing sits with
  | nil => rfl
  | cons r rs ih =>
      cases r with
      | updated st => exact ih _
      | input p => exact ih _
      | message type payload => exact ih _

end Queue

/-! ## What an event of the session adds to the queue -/

section Change

variable {s : HostSession} {e : HostEvent} {id : UInt32} {v : Option ClientView}
variable {rs : List Report} {sits : Prop}

/-- Who is to be seated after an event was before, or is an admitted player; and has a record, or
    had none before, or lost it to the end of the session. -/
theorem sits_of_change (hchange : HostSession.Change s e id v rs) (hsits : sitsAfter sits rs) :
    (sits ∧ (v = none → s.viewOf id = none ∨ e = .endStop)) ∨
      (id ∈ s.playerIds ∧ v ≠ none) := by
  cases hchange with
  | stay => exact .inl ⟨hsits, .inl⟩
  | connection hassigns hid => exact .inl ⟨hsits, by simp⟩
  | hello input hview hroom => exact .inl ⟨hsits, by simp⟩
  | capabilities input hview hadmits =>
      exact .inr ⟨(s.mem_playerIds_iff id).2 ⟨_, hview, rfl⟩, by simp⟩
  | setInput w hview input => exact .inl ⟨hsits, by simp⟩
  | kick w hview => simp [sitsAfter] at hsits
  | forward input hview type payload => exact .inl ⟨hsits, .inl⟩
  | dropped w hview => simp [sitsAfter] at hsits
  | stopped he => exact .inl ⟨hsits, fun _ => .inr he⟩

/-- Only a player is reported as connected. -/
theorem player_of_connected (hchange : HostSession.Change s e id v rs)
    (hmem : .updated .Connected ∈ rs) : id ∈ s.playerIds := by
  cases hchange with
  | capabilities input hview hadmits => exact (s.mem_playerIds_iff id).2 ⟨_, hview, rfl⟩
  | _ => simp at hmem

end Change

/-! ## The invariant -/

namespace HostCoordinator

/-- The clients with a seat. -/
def seatedIds (k : HostCoordinator) : Finset UInt32 := k.streams.keys.toFinset

theorem mem_seatedIds_iff (k : HostCoordinator) (id : UInt32) :
    id ∈ k.seatedIds ↔ k.seats id ≠ none := by
  rw [seatedIds, List.mem_toFinset, Std.TreeMap.mem_keys, seats, Ne, Option.map_eq_none_iff,
    lookup_eq_none_iff, not_not]

/-- With fewer than four clients seated there is a free seat. -/
theorem hasFreeSeat_of_card (k : HostCoordinator) (h : k.seatedIds.card < 4) : k.HasFreeSeat := by
  have hused : (k.seatedIds.image (fun id => (k.seats id).getD 0)).card
      < ({0, 1, 2, 3} : Finset UInt8).card := Finset.card_image_le.trans_lt h
  obtain ⟨i, hi, hfree⟩ := Finset.exists_mem_notMem_of_card_lt_card hused
  refine ⟨i, ?_, ?_⟩
  · simp only [Finset.mem_insert, Finset.mem_singleton] at hi
    rcases hi with rfl | rfl | rfl | rfl
    · decide
    · decide
    · decide
    · decide
  · intro id hid
    have hmem : id ∈ k.seatedIds := (k.mem_seatedIds_iff id).2 (by simp [hid])
    exact hfree (Finset.mem_image.2 ⟨id, hmem, by rw [hid]; rfl⟩)

end HostCoordinator

namespace HostSystem

variable {c : Cng} {s t : HostSystem} {e : HostSystemEvent}

/-- The clients that will be seated once the queue is delivered. -/
def awaited (s : HostSystem) : Finset UInt32 := runFrom seatedAfter s.app.seatedIds s.calls

/-- There will be a seat for everybody. The last field says that the clients to be seated have
    records, except after the end of the session, which reports nobody. -/
structure Seatable (s : HostSystem) : Prop where
  fits : Fits s.session.params.maxClients s.app.seatedIds s.calls
  within : (s.session.playerIds.toFinset ∪ s.awaited).card ≤ s.session.params.maxClients
  known : (∀ id ∈ s.awaited, s.session.viewOf id ≠ none) ∨
    (s.session.running = false ∧ ∀ id, s.session.viewOf id = none)

theorem mem_awaited_onSession (s : HostSystem) (se : HostEvent) (id : UInt32) :
    id ∈ (s.onSession se).1.awaited ↔
      sitsAfter (id ∈ s.awaited) (reports id (s.session.handle se).2) := by
  rw [awaited, mem_runFrom_seatedAfter, reports_onSession, sitsAfter_append, awaited,
    mem_runFrom_seatedAfter]
  rfl

/-- Who is to be seated after an event of the session was before, or is a player. -/
theorem awaited_onSession_subset (s : HostSystem) (se : HostEvent) :
    (s.onSession se).1.awaited ⊆ s.session.playerIds.toFinset ∪ s.awaited := by
  intro id hid
  rw [mem_awaited_onSession] at hid
  rw [Finset.mem_union, List.mem_toFinset]
  rcases sits_of_change (s.session.step_change se id) hid with ⟨hsits, -⟩ | ⟨hplayer, -⟩
  · exact .inr hsits
  · exact .inl hplayer

theorem fits_onSession (h : s.Seatable) (se : HostEvent) :
    Fits s.session.params.maxClients s.app.seatedIds (s.onSession se).1.calls := by
  refine h.fits.append (fits_of_subset h.within Finset.subset_union_right ?_)
  intro row hmem hconn
  rw [Finset.mem_union, List.mem_toFinset]
  refine .inl (player_of_connected (s.session.step_change se row.id) ?_)
  refine List.mem_filterMap.2 ⟨_, List.mem_of_mem_filter hmem, ?_⟩
  simp [reportOf, hconn]

/-- With a table within the cap, everybody who matters is in it. -/
theorem within_of_room (hknown : ∀ id ∈ s.awaited, s.session.viewOf id ≠ none)
    (hsize : s.session.clients.size ≤ s.session.params.maxClients) (se : HostEvent) :
    ((s.session.step se).playerIds.toFinset ∪ (s.onSession se).1.awaited).card
      ≤ s.session.params.maxClients := by
  rw [← Std.TreeMap.length_keys] at hsize
  refine (Finset.card_le_card ?_).trans ((List.toFinset_card_le s.session.clients.keys).trans hsize)
  intro id hid
  rw [List.mem_toFinset]
  rcases Finset.mem_union.1 hid with hplayer | hawaited
  · obtain ⟨v, hv, hstate⟩ := (HostSession.mem_playerIds_iff _ id).1 (List.mem_toFinset.1 hplayer)
    rcases HostSession.player_step hv hstate with hold | ⟨hold, -⟩
    · exact HostSession.mem_keys_of_player hold
    · exact hold
  · rcases Finset.mem_union.1 (awaited_onSession_subset s se hawaited) with hold | hold
    · exact HostSession.mem_keys_of_player (List.mem_toFinset.1 hold)
    · exact (s.session.mem_keys_iff_viewOf id).2 (hknown id hold)

theorem within_onSession (h : s.Seatable) (se : HostEvent) :
    ((s.session.step se).playerIds.toFinset ∪ (s.onSession se).1.awaited).card
      ≤ s.session.params.maxClients := by
  by_cases hroom : (∀ id ∈ s.awaited, s.session.viewOf id ≠ none) ∧
      s.session.clients.size ≤ s.session.params.maxClients
  · exact within_of_room hroom.1 hroom.2 se
  · -- nobody is admitted
    refine (Finset.card_le_card (Finset.union_subset ?_ (awaited_onSession_subset s se))).trans
      h.within
    intro id hplayer
    obtain ⟨v, hv, hstate⟩ := (HostSession.mem_playerIds_iff _ id).1 (List.mem_toFinset.1 hplayer)
    refine Finset.mem_union_left _ (List.mem_toFinset.2 ?_)
    rcases HostSession.player_step hv hstate with hold | ⟨hkey, hsize⟩
    · exact hold
    · rcases h.known with hknown | ⟨-, hnone⟩
      · exact absurd ⟨hknown, hsize⟩ hroom
      · exact absurd (hnone id) ((s.session.mem_keys_iff_viewOf id).1 hkey)

/-- A session that is over gets no new records. -/
theorem over_onSession (hrun : s.session.running = false) (hnone : ∀ id, s.session.viewOf id = none)
    (se : HostEvent) :
    (s.session.step se).running = false ∧ ∀ id, (s.session.step se).viewOf id = none := by
  constructor
  · by_cases hend : se = .endStop
    · subst hend
      simp [HostSession.step, HostSession.handle, hrun]
    · rw [(s.session.step_kept se).running hend, hrun]
  · intro id
    have hchange := s.session.step_change se id
    have hold := hnone id
    generalize (s.session.step se).viewOf id = v at hchange ⊢
    generalize reports id (s.session.handle se).2 = rs at hchange
    cases hchange with
    | stay => exact hold
    | connection hassigns hid => simp [HostSession.assigns, hrun] at hassigns
    | hello input hview hroom => simp [hold] at hview
    | capabilities input hview hadmits => simp [hold] at hview
    | setInput w hview input => simp [hold] at hview
    | kick w hview => simp [hold] at hview
    | forward input hview type payload => exact hold
    | dropped w hview => rfl
    | stopped he => rfl

theorem known_onSession (h : s.Seatable) (se : HostEvent) :
    (∀ id ∈ (s.onSession se).1.awaited, (s.session.step se).viewOf id ≠ none) ∨
      ((s.session.step se).running = false ∧ ∀ id, (s.session.step se).viewOf id = none) := by
  rcases h.known with hknown | ⟨hrun, hnone⟩
  swap
  · exact .inr (over_onSession hrun hnone se)
  by_cases hend : se = .endStop ∧ s.session.stopping = true ∧ s.session.running = true
  · obtain ⟨rfl, hend⟩ := hend
    refine .inr ⟨?_, fun id => ?_⟩
    · simp [HostSession.step, HostSession.handle, hend]
    · simp [HostSession.step, HostSession.handle, hend, HostSession.viewOf]
  · refine .inl ?_
    intro id hid hgone
    rw [mem_awaited_onSession] at hid
    rcases sits_of_change (s.session.step_change se id) hid with ⟨hsits, hlost⟩ | ⟨-, hview⟩
    · rcases hlost hgone with hnone | rfl
      · exact hknown id hsits hnone
      · -- an end that ends nothing
        have hstay : s.session.step .endStop = s.session := by
          have hnot : ¬ (s.session.stopping = true ∧ s.session.running = true) :=
            fun hboth => hend ⟨rfl, hboth⟩
          simp only [HostSession.step, HostSession.handle, if_neg hnot]
        rw [hstay] at hgone
        exact hknown id hsits hgone
    · exact hview hgone

theorem seatable_onSession (h : s.Seatable) (se : HostEvent) : (s.onSession se).1.Seatable := by
  have hparams : (s.session.step se).params = s.session.params := (s.session.step_kept se).params
  constructor
  · show Fits (s.session.step se).params.maxClients s.app.seatedIds (s.onSession se).1.calls
    rw [hparams]
    exact fits_onSession h se
  · show ((s.session.step se).playerIds.toFinset ∪ _).card ≤ (s.session.step se).params.maxClients
    rw [hparams]
    exact within_onSession h se
  · exact known_onSession h se

/-! ## Invocations on the coordinator -/

/-- The seated clients when the event has delivered what it takes off the queue. -/
def delivered (s : HostSystem) : HostSystemEvent → Finset UInt32
  | .call _ _ _ => (s.calls.head?).elim s.app.seatedIds (seatedAfter s.app.seatedIds)
  | _ => s.app.seatedIds

theorem fits_delivered (h : s.Seatable) (e : HostSystemEvent) :
    Fits s.session.params.maxClients (s.delivered e) (s.callsAfter e) := by
  have hfits := h.fits
  cases e with
  | call keys salt io =>
      rw [delivered, callsAfter]
      cases hcalls : s.calls with
      | nil =>
          rw [hcalls] at hfits
          exact hfits
      | cons eff rest =>
          rw [hcalls] at hfits
          exact hfits.tail
  | _ => exact hfits

theorem runFrom_delivered (s : HostSystem) (e : HostSystemEvent) :
    runFrom seatedAfter (s.delivered e) (s.callsAfter e) = s.awaited := by
  cases e with
  | call keys salt io =>
      rw [delivered, callsAfter, awaited]
      cases s.calls with
      | nil => rfl
      | cons eff rest => rfl
  | _ => rfl

/-- A step that leaves the session's clients alone and seats nobody but the client that it was told
    about. -/
theorem Seatable.of_delivered (h : s.Seatable) (hparams : t.session.params = s.session.params)
    (hrunning : t.session.running = s.session.running)
    (hclients : t.session.clients = s.session.clients) (hcalls : t.calls = s.callsAfter e)
    (hseated : t.app.seatedIds ⊆ s.delivered e) : t.Seatable := by
  have hawaited : t.awaited ⊆ s.awaited := by
    rw [awaited, hcalls, ← runFrom_delivered s e]
    exact runFrom_seatedAfter_subset hseated _
  have hview : t.session.viewOf = s.session.viewOf := by
    funext id
    rw [HostSession.viewOf, HostSession.viewOf, hclients]
  have hplayers : t.session.playerIds = s.session.playerIds := by
    rw [HostSession.playerIds, HostSession.playerIds, hclients]
  constructor
  · rw [hparams, hcalls]
    exact (fits_delivered h e).subset hseated
  · rw [hparams, hplayers]
    exact (Finset.card_le_card (Finset.union_subset_union_right hawaited)).trans h.within
  · rw [hview, hrunning]
    exact h.known.imp_left (fun hknown id hid => hknown id (hawaited hid))

theorem seatedIds_subset_delivered_of_none (h : s.invocationAt e = none) :
    s.app.seatedIds ⊆ s.delivered e := by
  cases e with
  | call keys salt io =>
      rw [delivered]
      cases hcalls : s.calls with
      | nil => exact subset_rfl
      | cons eff rest =>
          simp only [invocationAt, hcalls, List.head?_cons, Option.bind_some] at h
          cases eff with
          | onClientUpdated row => cases h
          | _ => exact subset_rfl
  | _ => exact subset_rfl

theorem seatedIds_step_subset_delivered {inv : HostCoordinatorEvent}
    (hinv : s.invocationAt e = some inv) : (s.app.step c inv).seatedIds ⊆ s.delivered e := by
  intro id hid
  rw [HostCoordinator.mem_seatedIds_iff] at hid
  have hsource := (s.app.step_seats c inv).seated hid
  -- every other invocation but the report of an update keeps the seats within those of before
  have hkept : (∀ row keys salt, inv ≠ .clientUpdated row keys salt) → id ∈ s.app.seatedIds := by
    intro hother
    rcases hsource with hold | ⟨row, keys, salt, hrow, -⟩
    · exact (s.app.mem_seatedIds_iff id).2 hold
    · exact absurd hrow (hother row keys salt)
  cases e with
  | session se => cases hinv
  | input index data io => cases hinv
  | streamBound index udpPort => exact hkept (by cases hinv; simp)
  | streamResult index ok err => exact hkept (by cases hinv; simp)
  | streamError clientId running => exact hkept (by cases hinv; simp)
  | kick clientId => exact hkept (by cases hinv; simp)
  | call keys salt io =>
      rw [delivered]
      cases hcalls : s.calls with
      | nil => simp [invocationAt, hcalls] at hinv
      | cons eff rest =>
          simp only [invocationAt, hcalls, List.head?_cons, Option.bind_some] at hinv
          rw [List.head?_cons, Option.elim_some]
          cases eff with
          | onInputPermissions clientId perms => exact hkept (by cases hinv; simp)
          | onAppMessage clientId type payload => exact hkept (by cases hinv; simp)
          | onClientUpdated row =>
              obtain rfl : .clientUpdated row keys salt = inv := Option.some.inj hinv
              rw [mem_seatedAfter_onClientUpdated]
              split
              · next heq =>
                  subst heq
                  by_cases hdisc : row.state = .Disconnected
                  · exact absurd (s.app.seats_step_disconnected c row keys salt hdisc) hid
                  · rcases hsource with hold | ⟨row', keys', salt', hrow, hconn, -⟩
                    · exact .inr ⟨hdisc, (s.app.mem_seatedIds_iff _).2 hold⟩
                    · obtain ⟨rfl, -⟩ := HostCoordinatorEvent.clientUpdated.inj hrow
                      exact .inl hconn
              · next hne =>
                  rcases hsource with hold | ⟨row', keys', salt', hrow, -, hid'⟩
                  · exact (s.app.mem_seatedIds_iff id).2 hold
                  · obtain ⟨rfl, -⟩ := HostCoordinatorEvent.clientUpdated.inj hrow
                    exact absurd hid' hne
          | _ => cases hinv

/-- **One step.** -/
theorem seatable_step (c : Cng) (h : s.Seatable) (e : HostSystemEvent) : (s.step c e).Seatable := by
  have hshape := step_shape c s e
  generalize s.step c e = t at hshape
  cases hshape with
  | session se he ht =>
      rw [ht]
      exact seatable_onSession h se
  | invoke inv io hinv ht =>
      subst ht
      obtain ⟨hparams, hrunning, hclients⟩ :=
        foldl_callHost_keeps (s.app.handle c inv).2 s.session
      exact h.of_delivered hparams hrunning hclients rfl (seatedIds_step_subset_delivered hinv)
  | quiet hinv hsession happ hcalls henforced =>
      refine h.of_delivered (by rw [hsession]) (by rw [hsession]) (by rw [hsession]) hcalls ?_
      rw [happ]
      exact seatedIds_subset_delivered_of_none hinv

/-- Whoever is to be seated finds a free seat. -/
theorem Seatable.hasFreeSeat (h : s.Seatable) (hcap : s.session.params.maxClients ≤ 4)
    {row : Host.ClientRow} {keys : Option EcdhKeyPair} {salt : Bytes}
    (hinv : s.invocationAt e = some (.clientUpdated row keys salt))
    (hconn : row.state = .Connected) (hnew : s.app.seats row.id = none) : s.app.HasFreeSeat := by
  refine s.app.hasFreeSeat_of_card ?_
  have hnot : row.id ∉ s.app.seatedIds := by
    rw [HostCoordinator.mem_seatedIds_iff, hnew]
    simp
  have hdelivered : s.delivered e = insert row.id s.app.seatedIds := by
    cases e with
    | call keys' salt' io =>
        rw [delivered]
        cases hcalls : s.calls with
        | nil => simp [invocationAt, hcalls] at hinv
        | cons eff rest =>
            simp only [invocationAt, hcalls, List.head?_cons, Option.bind_some] at hinv
            cases eff with
            | onClientUpdated row' =>
                obtain ⟨rfl, -⟩ := HostCoordinatorEvent.clientUpdated.inj (Option.some.inj hinv)
                exact if_pos hconn
            | _ => cases hinv
    | _ => cases hinv
  have hcard := fits_delivered h e [] _ rfl
  rw [runFrom_nil, hdelivered, Finset.card_insert_of_notMem hnot] at hcard
  omega

/-! ## Every run -/

/-- The seats are distinct, and there are four. -/
structure WellSeated (s : HostSystem) : Prop where
  seatable : s.Seatable
  cap : s.session.params.maxClients ≤ 4
  distinct : ∀ a b i, s.app.seats a = some i → s.app.seats b = some i → a = b
  below : ∀ a i, s.app.seats a = some i → i < 4

theorem WellSeated.step (h : s.WellSeated) (c : Cng) (e : HostSystemEvent) :
    (s.step c e).WellSeated := by
  have hseatable := seatable_step c h.seatable e
  have hshape := step_shape c s e
  generalize s.step c e = t at hshape hseatable
  cases hshape with
  | session se he ht =>
      subst ht
      refine ⟨hseatable, ?_, h.distinct, h.below⟩
      show (s.session.step se).params.maxClients ≤ 4
      rw [(s.session.step_kept se).params]
      exact h.cap
  | invoke inv io hinv ht =>
      subst ht
      have hchange := s.app.step_seats c inv
      refine ⟨hseatable, ?_, hchange.distinct ?_ h.distinct, hchange.below h.below⟩
      · show ((s.app.handle c inv).2.foldl ConnectedPair.callHost s.session).params.maxClients ≤ 4
        rw [(foldl_callHost_keeps (s.app.handle c inv).2 s.session).1]
        exact h.cap
      · rintro row keys salt rfl hconn hnew
        exact h.seatable.hasFreeSeat h.cap hinv hconn hnew
  | quiet hinv hsession happ hcalls henforced =>
      exact ⟨hseatable, by rw [hsession]; exact h.cap, by rw [happ]; exact h.distinct,
        by rw [happ]; exact h.below⟩

theorem started_wellSeated (userName : Bytes) (settings : HostLaunchSettings) (sessionCode : Bytes)
    (hcap : settings.maxClients ≤ 4) : (started userName settings sessionCode).WellSeated := by
  have hseats : ∀ id, (started userName settings sessionCode).app.seats id = none := by
    intro id
    simp [HostCoordinator.seats, started]
  have hempty : (started userName settings sessionCode).app.seatedIds = ∅ := by
    rw [Finset.eq_empty_iff_forall_notMem]
    intro id hid
    exact (HostCoordinator.mem_seatedIds_iff _ id).1 hid (hseats id)
  refine ⟨⟨?_, ?_, .inl ?_⟩, hcap, ?_, ?_⟩
  · refine fits_of_subset (Nat.zero_le _) (Finset.subset_of_eq hempty) ?_
    intro row hmem
    cases hmem
  · rw [awaited, hempty]
    exact Nat.zero_le _
  · intro id hid
    rw [awaited, hempty] at hid
    exact absurd hid (Finset.notMem_empty id)
  · intro a b i ha
    rw [hseats a] at ha
    cases ha
  · intro a i ha
    rw [hseats a] at ha
    cases ha

/-- The entries of `streams_` have distinct player indices, all below four. The injector's entries
    and the virtual pads go by these indices. -/
def DistinctIndices (s : HostSystem) : Prop :=
  (∀ (a b : UInt32) (cs cs' : ClientStream), s.app.streams[a]? = some cs →
      s.app.streams[b]? = some cs' → cs.playerIndex = cs'.playerIndex → a = b) ∧
    ∀ (a : UInt32) (cs : ClientStream), s.app.streams[a]? = some cs → cs.playerIndex < 4

/-- When the event has the coordinator call `assignPlayerIndex`, one of the four indices is
    unused. -/
def FindsSeat (s : HostSystem) (e : HostSystemEvent) : Prop :=
  ∀ row keys salt, s.invocationAt e = some (.clientUpdated row keys salt) →
    row.state = .Connected → s.app.streams[row.id]? = none → s.app.HasFreeSeat

theorem WellSeated.distinctIndices (h : s.WellSeated) : s.DistinctIndices := by
  constructor
  · intro a b cs cs' ha hb hindex
    have hseat := HostCoordinator.seats_of_stream hb
    rw [← hindex] at hseat
    exact h.distinct a b _ (HostCoordinator.seats_of_stream ha) hseat
  · intro a cs ha
    exact h.below a _ (HostCoordinator.seats_of_stream ha)

theorem WellSeated.findsSeat (h : s.WellSeated) (e : HostSystemEvent) : s.FindsSeat e := by
  intro row keys salt hinv hconn hnew
  exact h.seatable.hasFreeSeat h.cap hinv hconn (HostCoordinator.seats_of_no_stream hnew)

/-- **Players have distinct indices.** With at most four clients, in every run of the host, however
    late the session's reports are delivered and whoever is kicked meanwhile, no two streams have
    the same index, and `assignPlayerIndex` is only called while an index is free. -/
theorem player_indices_distinct (c : Cng) (userName : Bytes) (settings : HostLaunchSettings)
    (sessionCode : Bytes) (hcap : settings.maxClients ≤ 4) (es : List HostSystemEvent) :
    (runFrom (step c) (started userName settings sessionCode) es).DistinctIndices ∧
      ∀ p ∈ history (step c) (started userName settings sessionCode) es, p.1.FindsSeat p.2 := by
  have hstart := started_wellSeated userName settings sessionCode hcap
  have hstep : ∀ (s : HostSystem) (e : HostSystemEvent), s.WellSeated → (s.step c e).WellSeated :=
    fun _ e h => h.step c e
  constructor
  · exact (runFrom_preserved (step c) WellSeated hstep _ es hstart).distinctIndices
  · intro p hp
    exact (history_preserved (step c) WellSeated hstep _ es hstart p hp).findsSeat p.2

/-- The session's part of a client's way in. -/
def joins (id : UInt32) : List HostSystemEvent :=
  [.session (.newConnection (ascii "192.0.2.7:4000") 0),
    .session (HostSession.helloFrame id Crypto.Session.code 1),
    .session (.approveClient id true),
    .session (.runTask 2),
    .session (.frame id Proto.Id.ClientCapabilities.code (Proto.encodeMessage
      { type := .ClientCapabilities
        body := .clientCapabilities { supportedCodecs := [.H264] } }) 3 3)]

/-- Two clients join, the first is kicked and its connection closes, and a third one joins, all
    before the coordinator hears of any of it. -/
def lateReports : List HostSystemEvent :=
  joins 1 ++ joins 2 ++
    [.session (.kickClient 1 []), .session (.runTask 4), .session (.closed 1)] ++ joins 3 ++
    List.replicate 8 (.call (some Crypto.Session.hostKeys) Crypto.Session.hostSalt {})

/-- The third client gets the seat of the first. -/
theorem player_indices_distinct_late :
    (runFrom (step Crypto.Session.record.replay) (started [] {} Crypto.Session.code)
        lateReports).app.seats 2 = some 1 ∧
      (runFrom (step Crypto.Session.record.replay) (started [] {} Crypto.Session.code)
        lateReports).app.seats 3 = some 0 ∧
      (runFrom (step Crypto.Session.record.replay) (started [] {} Crypto.Session.code)
        lateReports).DistinctIndices :=
  ⟨by decide +kernel, by decide +kernel,
    (player_indices_distinct Crypto.Session.record.replay [] {} Crypto.Session.code (by decide)
      lateReports).1⟩

end HostSystem

end RemotePlay.App
