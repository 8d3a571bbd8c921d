import RemotePlay.Adapt.AdaptiveBitrate
import RemotePlay.App.StreamCodec
import RemotePlay.Host.HostApp

set_option autoImplicit false

/-! # The bitrate of the streams

`settingsFromConfig` cuts the configured bitrate down to the user's maximum, once. The controller
that `startLan` then creates gets this bitrate as its starting point and keeps its own upper bound
of 30 Mbps, so on a good link it passes every maximum below that. -/

namespace RemotePlay.App

open Crypto (Cng)
open Host (Config HostLaunchSettings settingsFromConfig)
open Media (AdaptiveBitrate Double LinkSample)
open Proto (Id)

/-- The coordinator with its bitrate controller. -/
structure BitrateHost where
  app : HostCoordinator
  abr : AdaptiveBitrate
  abrEnabled : Bool := true

inductive BitrateHostEvent where
  | invocation (e : HostCoordinatorEvent)
  /-- `onStatsTimer`, with the link as the loop over the streams leaves it. -/
  | statsTimer (rttMs lossPercent jitterMs fpsRatio : Double)
  | setAbrEnabled (on : Bool)

namespace BitrateHost

/-- `startLan`, as far as bitrates go. -/
def startLan (sessionCode : Bytes) (settings : HostLaunchSettings) : BitrateHost where
  app := { sessionCode := sessionCode, settings := streamSettings settings }
  abr := .create settings.bitrateKbps.toInt32.toInt Media.defaultMinKbps Media.defaultMaxKbps
  abrEnabled := true

/-- The streams that have a streamer. -/
def streaming (s : BitrateHost) : List ClientStream :=
  s.app.streams.values.filter (fun cs => cs.streamer.isSome)

/-- The sample `onStatsTimer` makes: the client's decode queue is not fed back. -/
def sample (rttMs lossPercent jitterMs fpsRatio : Double) : LinkSample :=
  { rttMs := rttMs
    lossPercent := lossPercent
    jitterMs := jitterMs
    decodeQueueFrames := .finite 0
    fpsRatio := fpsRatio }

/-- One event, with the bitrates it passes to streamers: in the `StreamConfig` of those it starts,
    or by `setBitrate`. -/
def handle (c : Cng) (s : BitrateHost) : BitrateHostEvent → BitrateHost × List Int
  | .invocation e =>
      ({ s with app := s.app.step c e },
        (s.app.started e).map fun st => st.config.bitrateKbps.toInt32.toInt)
  | .statsTimer rttMs lossPercent jitterMs fpsRatio =>
      if !s.streaming.isEmpty ∧ s.abrEnabled then
        let (next, abr) := s.abr.update (sample rttMs lossPercent jitterMs fpsRatio)
        ({ s with abr := abr }, next.toList.flatMap fun kbps => s.streaming.map fun _ => kbps)
      else (s, [])
  | .setAbrEnabled on => ({ s with abrEnabled := on }, [])

def step (c : Cng) (s : BitrateHost) (e : BitrateHostEvent) : BitrateHost := (s.handle c e).1

/-- Every bitrate passed to a streamer, along every run, is within the user's maximum. -/
def RespectsCap (c : Cng) (sessionCode : Bytes) (cfg : Config) : Prop :=
  ∀ es, ∀ p ∈ history (step c) (startLan sessionCode (settingsFromConfig cfg)) es,
    ∀ kbps ∈ (p.1.handle c p.2).2, kbps ≤ cfg.maxBitrateMbps.toInt * 1000

/-! ## Within the bounds of the controller -/

/-- The settings are the launch settings and the controller is within its bounds. -/
structure Launched (settings : HostLaunchSettings) (s : BitrateHost) : Prop where
  settings : s.app.settings = streamSettings settings
  filed : s.app.Filed
  inBounds : s.abr.InBounds
  maxKbps : s.abr.maxKbps = 30000

theorem startLan_launched (sessionCode : Bytes) (settings : HostLaunchSettings) :
    (startLan sessionCode settings).Launched settings where
  settings := rfl
  filed := by
    intro id cs hcs
    exact absurd hcs (by simp [startLan])
  inBounds := Media.AdaptiveBitrate.create_inBounds _ _ _ (by decide)
  maxKbps := rfl

theorem step_launched (c : Cng) {settings : HostLaunchSettings} {s : BitrateHost}
    (h : s.Launched settings) (e : BitrateHostEvent) : (s.step c e).Launched settings := by
  cases e with
  | invocation e =>
      have hkeeps := s.app.step_keeps c e
      exact ⟨hkeeps.settings.trans h.settings, hkeeps.filed h.filed, h.inBounds, h.maxKbps⟩
  | statsTimer rttMs lossPercent jitterMs fpsRatio =>
      unfold step handle
      dsimp only
      split
      · obtain ⟨-, hmax, hin, -⟩ := Media.AdaptiveBitrate.update_spec h.inBounds
          (sample rttMs lossPercent jitterMs fpsRatio)
        exact ⟨h.settings, h.filed, hin, hmax.trans h.maxKbps⟩
      · exact h
  | setAbrEnabled on => exact ⟨h.settings, h.filed, h.inBounds, h.maxKbps⟩

/-- What is passed to a streamer is the launch bitrate or at most the controller's bound. -/
theorem passed_le (c : Cng) {settings : HostLaunchSettings} {s : BitrateHost}
    (h : s.Launched settings) (e : BitrateHostEvent) {kbps : Int}
    (hk : kbps ∈ (s.handle c e).2) :
    kbps = settings.bitrateKbps.toInt32.toInt ∨ kbps ≤ 30000 := by
  cases e with
  | invocation e =>
      obtain ⟨st, hst, rfl⟩ := List.mem_map.1 hk
      left
      rw [(HostCoordinator.of_mem_started hst h.filed).1, h.settings]
      rfl
  | statsTimer rttMs lossPercent jitterMs fpsRatio =>
      right
      simp only [handle] at hk
      split at hk
      · obtain ⟨-, hmax, hin, hret⟩ := Media.AdaptiveBitrate.update_spec h.inBounds
          (sample rttMs lossPercent jitterMs fpsRatio)
        obtain ⟨next, hnext, hmem⟩ := List.mem_flatMap.1 hk
        obtain ⟨cs, -, rfl⟩ := List.mem_map.1 hmem
        rw [hret next (Option.mem_toList.1 hnext), ← h.maxKbps, ← hmax]
        exact hin.2
      · cases hk
  | setAbrEnabled on => cases hk

theorem toInt_toInt32_le (n : UInt32) : n.toInt32.toInt ≤ n.toNat := by
  show n.toBitVec.toInt ≤ n.toBitVec.toNat
  rw [BitVec.toInt_eq_toNat_cond]
  split
  · omega
  · omega

/-- The launch bitrate is within the maximum: the product may wrap, but not upwards. -/
theorem launch_bitrate_le (cfg : Config) (h : 0 ≤ cfg.maxBitrateMbps.toInt) :
    (settingsFromConfig cfg).bitrateKbps.toInt32.toInt ≤ cfg.maxBitrateMbps.toInt * 1000 := by
  have hcap : (settingsFromConfig cfg).bitrateKbps.toNat
      ≤ (cfg.maxBitrateMbps.toUInt32 * 1000).toNat := by
    simp only [settingsFromConfig]
    split
    · exact Nat.le_refl _
    · next hle => exact UInt32.le_iff_toNat_le.1 (UInt32.not_lt.1 hle)
  have hmul : (cfg.maxBitrateMbps.toUInt32 * 1000).toNat
      ≤ cfg.maxBitrateMbps.toUInt32.toNat * 1000 := by
    rw [UInt32.toNat_mul]
    exact Nat.mod_le _ _
  have hmax : (cfg.maxBitrateMbps.toUInt32.toNat : Int) = cfg.maxBitrateMbps.toInt := by
    rw [Int32.toNat_toUInt32_of_le (Int32.le_iff_toInt_le.2 h), Int32.toNatClampNeg]
    omega
  have hsigned := toInt_toInt32_le (settingsFromConfig cfg).bitrateKbps
  omega

/-! ## A client that streams -/

/-- A client joins, exchanges keys and reports itself ready. -/
def joinEvents : List HostCoordinatorEvent :=
  [.clientUpdated { id := 1, state := .Connected } (some Crypto.Session.hostKeys)
      Crypto.Session.hostSalt,
    .appMessage 1 Id.KeyExchange.code (HostCoordinator.keyExchangePayload
      Crypto.Session.clientPublic Crypto.Session.clientSalt)]

def readyEvent : HostCoordinatorEvent := .appMessage 1 Id.SessionKeyReady.code []

theorem decode_join : ∃ env, Proto.decodeMessage Id.KeyExchange.code
    (HostCoordinator.keyExchangePayload Crypto.Session.clientPublic Crypto.Session.clientSalt)
      = some env ∧ env.body = .keyExchange
        { publicKey := Crypto.Session.clientPublic, salt := Crypto.Session.clientSalt } := by
  refine Option.map_eq_some_iff.1 ?_
  decide +kernel

theorem decode_ready : ∃ env, Proto.decodeMessage Id.SessionKeyReady.code [] = some env ∧
    env.body = .sessionKeyReady := by
  refine Option.map_eq_some_iff.1 ?_
  decide +kernel

/-- Whatever `finish` makes of the exchange, the client then has a channel. -/
theorem exchange_channel (c : Cng) {k : HostCoordinator} {id : UInt32} {cs : ClientStream}
    (hcs : k.streams[id]? = some cs) (hecdh : cs.ecdh.isSome) (hready : cs.keysReady = false)
    (m : Proto.Msg.KeyExchange) :
    ∃ cs', (k.handleKeyExchange c id m).1.streams[id]? = some cs' ∧ cs'.channel.isSome := by
  obtain ⟨ecdh, hecdh⟩ := Option.isSome_iff_exists.1 hecdh
  have hput : ∀ cs' : ClientStream, (k.putStream id cs').streams[id]? = some cs' := by
    intro cs'
    rw [HostCoordinator.putStream, lookup_insert, if_pos rfl]
  simp only [HostCoordinator.handleKeyExchange, hcs, hecdh, hready, Bool.false_eq_true, if_false]
  split
  · exact ⟨_, hput _, rfl⟩
  · exact ⟨_, hput _, rfl⟩

theorem join_channel (c : Cng) (code : Bytes) (settings : StreamSettings) :
    ∃ cs, (runFrom (HostCoordinator.step c) { sessionCode := code, settings := settings }
      joinEvents).streams[(1 : UInt32)]? = some cs ∧ cs.channel.isSome := by
  obtain ⟨env, henv, hbody⟩ := decode_join
  simp only [joinEvents, runFrom_cons, runFrom_nil, HostCoordinator.step, HostCoordinator.handle,
    HostCoordinator.handleAppMessage, henv, hbody]
  have hjoined : ∃ cs, ((HostCoordinator.mk code settings {} []).handleClientUpdated
      { id := 1, state := .Connected } (some Crypto.Session.hostKeys)
      Crypto.Session.hostSalt).1.streams[(1 : UInt32)]? = some cs ∧ cs.ecdh.isSome ∧
        cs.keysReady = false := by
    simp [HostCoordinator.handleClientUpdated, HostCoordinator.beginKeyExchange,
      HostCoordinator.putStream]
  obtain ⟨cs, hcs, hecdh, hready⟩ := hjoined
  exact exchange_channel c hcs hecdh hready _

/-- A client with a channel gets a streamer when it says that it is ready. -/
theorem ready_streams (c : Cng) {k : HostCoordinator} {cs : ClientStream}
    (hcs : k.streams[(1 : UInt32)]? = some cs) (hchannel : cs.channel.isSome) :
    (∃ st, k.started readyEvent = [st] ∧ st.config = k.settings) ∧
      ∃ cs', (k.step c readyEvent).streams[(1 : UInt32)]? = some cs' ∧ cs'.streamer.isSome := by
  obtain ⟨env, henv, hbody⟩ := decode_ready
  have hsome : ¬ cs.channel.isNone = true := by
    rw [Option.isNone_iff_eq_none]
    exact Option.isSome_iff_ne_none.1 hchannel
  constructor
  · simp only [readyEvent, HostCoordinator.started, HostCoordinator.messageOf, henv, hbody,
      Option.map_some, hcs, if_neg hsome]
    exact ⟨_, rfl, rfl⟩
  · simp only [readyEvent, HostCoordinator.step, HostCoordinator.handle,
      HostCoordinator.handleAppMessage, henv, hbody, HostCoordinator.handleSessionKeyReady, hcs,
      if_neg hsome, HostCoordinator.startStreamFor, HostCoordinator.putStream, lookup_insert,
      if_true]
    exact ⟨_, rfl, rfl⟩

/-- Invocations run the coordinator and leave the controller alone. -/
theorem run_invocations (c : Cng) (s : BitrateHost) (es : List HostCoordinatorEvent) :
    runFrom (step c) s (es.map .invocation) =
      { s with app := runFrom (HostCoordinator.step c) s.app es } := by
  induction es generalizing s with
  | nil => rfl
  | cons e es ih =>
      rw [List.map_cons, runFrom_cons, ih]
      rfl

theorem streaming_of_streamer {s : BitrateHost} {id : UInt32} {cs : ClientStream}
    (hcs : s.app.streams[id]? = some cs) (hstreamer : cs.streamer.isSome) :
    s.streaming.isEmpty = false := by
  have hany : s.app.streams.values.any (fun cs => cs.streamer.isSome) = true :=
    (any_values_iff _ _).2 ⟨id, cs, hcs, hstreamer⟩
  rw [List.isEmpty_eq_false_iff, streaming, ne_eq, List.filter_eq_nil_iff]
  intro hnone
  obtain ⟨x, hx, hsome⟩ := List.any_eq_true.1 hany
  exact hnone x hx hsome

/-- A sample of a link without faults. -/
def goodTick : BitrateHostEvent := .statsTimer (.finite 0) (.finite 0) (.finite 0) (.finite 1)

def goodSample : LinkSample := sample (.finite 0) (.finite 0) (.finite 0) (.finite 1)

/-- While something streams, good ticks are samples of the controller. -/
theorem run_goodTicks (c : Cng) (s : BitrateHost) (hstreams : s.streaming.isEmpty = false)
    (habr : s.abrEnabled = true) (n : Nat) :
    runFrom (step c) s (List.replicate n goodTick) =
      { s with abr := runFrom AdaptiveBitrate.step s.abr (List.replicate n goodSample) } := by
  induction n generalizing s with
  | zero => rfl
  | succ n ih =>
      have hstep : s.step c goodTick = { s with abr := s.abr.step goodSample } := by
        simp only [step, goodTick, handle, hstreams, habr]
        rfl
      rw [List.replicate_succ, runFrom_cons, hstep]
      exact ih { s with abr := s.abr.step goodSample } hstreams habr

/-- What the controller returns on a tick goes to the streamers. -/
theorem goodTick_passes (c : Cng) {s : BitrateHost} (hstreams : s.streaming.isEmpty = false)
    (habr : s.abrEnabled = true) {kbps : Int} (hnext : (s.abr.update goodSample).1 = some kbps) :
    kbps ∈ (s.handle c goodTick).2 := by
  have hguard : (!s.streaming.isEmpty) = true ∧ s.abrEnabled = true := by simp [hstreams, habr]
  have hsample : sample (.finite 0) (.finite 0) (.finite 0) (.finite 1) = goodSample := rfl
  simp only [goodTick, handle]
  rw [if_pos hguard, hsample, hnext, Option.toList_some, List.flatMap_singleton]
  obtain ⟨cs, hcs⟩ := List.exists_mem_of_ne_nil _ (List.isEmpty_eq_false_iff.1 hstreams)
  exact List.mem_map.2 ⟨cs, hcs, rfl⟩

/-- Every launch has a run in which its bitrate is passed to a streamer. -/
theorem exists_launch_passed (c : Cng) (sessionCode : Bytes) (settings : HostLaunchSettings) :
    ∃ es, ∃ p ∈ history (step c) (startLan sessionCode settings) es,
      settings.bitrateKbps.toInt32.toInt ∈ (p.1.handle c p.2).2 := by
  obtain ⟨cs, hcs, hchannel⟩ := join_channel c sessionCode (streamSettings settings)
  obtain ⟨⟨st, hst, hconfig⟩, -⟩ := ready_streams c hcs hchannel
  have hsettings : (runFrom (HostCoordinator.step c)
      { sessionCode := sessionCode, settings := streamSettings settings } joinEvents).settings
        = streamSettings settings :=
    runFrom_preserved (HostCoordinator.step c) (fun k => k.settings = streamSettings settings)
      (fun k e hk => (k.step_keeps c e).settings.trans hk) _ joinEvents rfl
  refine ⟨joinEvents.map .invocation ++ [.invocation readyEvent],
    (runFrom (step c) (startLan sessionCode settings) (joinEvents.map .invocation),
      .invocation readyEvent),
    (mem_history_iff _ _ _ _ _).2 ⟨_, [], rfl, rfl⟩, ?_⟩
  rw [run_invocations]
  refine List.mem_map.2 ⟨st, ?_, ?_⟩
  · exact hst ▸ List.mem_singleton_self st
  · rw [hconfig, hsettings]
    rfl

/-- A client has joined and streams; the controller is as launched. -/
theorem exists_streaming (c : Cng) (sessionCode : Bytes) (settings : HostLaunchSettings) :
    ∃ es, (runFrom (step c) (startLan sessionCode settings) es).streaming.isEmpty = false ∧
      (runFrom (step c) (startLan sessionCode settings) es).abrEnabled = true ∧
      (runFrom (step c) (startLan sessionCode settings) es).abr
        = (startLan sessionCode settings).abr := by
  obtain ⟨cs, hcs, hchannel⟩ := join_channel c sessionCode (streamSettings settings)
  obtain ⟨-, cs', hcs', hstreamer⟩ := ready_streams c hcs hchannel
  have hjoined : (runFrom (HostCoordinator.step c) (startLan sessionCode settings).app
      (joinEvents ++ [readyEvent])).streams[(1 : UInt32)]? = some cs' := by
    rw [runFrom_concat]
    exact hcs'
  refine ⟨(joinEvents ++ [readyEvent]).map .invocation, ?_⟩
  rw [run_invocations]
  exact ⟨streaming_of_streamer hjoined hstreamer, rfl, rfl⟩

/-- A launch below the controller's bound has a run in which the bound is passed to a streamer. -/
theorem exists_bound_passed (c : Cng) (sessionCode : Bytes) (settings : HostLaunchSettings)
    (hlow : settings.bitrateKbps.toInt32.toInt < 30000) :
    ∃ es, ∃ p ∈ history (step c) (startLan sessionCode settings) es,
      30000 ∈ (p.1.handle c p.2).2 := by
  obtain ⟨es, hstreaming, henabled, habr⟩ := exists_streaming c sessionCode settings
  generalize hs : runFrom (step c) (startLan sessionCode settings) es = s
    at hstreaming henabled habr
  obtain ⟨-, -, hin, hmax⟩ := startLan_launched sessionCode settings
  rw [← habr] at hin hmax
  have hroom : s.abr.currentKbps < 30000 := by
    rw [habr]
    show AdaptiveBitrate.clamp _ 2000 30000 < 30000
    unfold AdaptiveBitrate.clamp
    split
    · decide
    split
    · omega
    · omega
  obtain ⟨n, hn⟩ := AdaptiveBitrate.exists_reaches_max (s := goodSample) (by decide +kernel)
    (by decide +kernel) (30000 - s.abr.currentKbps).toNat s.abr hin (by omega) (by omega)
  refine ⟨es ++ List.replicate n goodTick ++ [goodTick],
    (runFrom (step c) (startLan sessionCode settings) (es ++ List.replicate n goodTick), goodTick),
    (mem_history_iff _ _ _ _ _).2 ⟨_, [], rfl, rfl⟩, ?_⟩
  rw [runFrom_append, hs, run_goodTicks c s hstreaming henabled]
  rw [hmax] at hn
  exact goodTick_passes
    (s := { s with abr := runFrom AdaptiveBitrate.step s.abr (List.replicate n goodSample) })
    c hstreaming henabled hn

/-- **When the user's maximum holds.** For every configuration: the bitrates passed to streamers
    stay within the configured maximum in every run, with any clients, messages and link samples,
    exactly when the maximum is at least the 30 Mbps that the controller is bounded by. -/
theorem bitrate_cap_respected_iff (c : Cng) (sessionCode : Bytes) (cfg : Config) :
    RespectsCap c sessionCode cfg ↔ 30 ≤ cfg.maxBitrateMbps.toInt := by
  constructor
  · intro hcap
    obtain ⟨es, p, hp, hlaunch⟩ := exists_launch_passed c sessionCode (settingsFromConfig cfg)
    have hle := hcap es p hp _ hlaunch
    by_contra hlow
    obtain ⟨es, p, hp, hbound⟩ := exists_bound_passed c sessionCode (settingsFromConfig cfg)
      (by omega)
    have := hcap es p hp _ hbound
    omega
  · intro hhigh es p hp kbps hk
    have hlaunched : p.1.Launched (settingsFromConfig cfg) :=
      history_preserved (step c) (Launched (settingsFromConfig cfg))
        (fun s e hs => step_launched c hs e) _ es (startLan_launched _ _) p hp
    rcases passed_le c hlaunched p.2 hk with rfl | hle
    · exact launch_bitrate_le cfg (by omega)
    · omega

/-- Under the default configuration, 8 Mbps with a maximum of 15, seventy seconds of a good link
    take the stream of one client to 15.588 Mbps. -/
theorem default_maximum_exceeded :
    (∃ p ∈ history (step Crypto.Session.record.replay)
        (startLan Crypto.Session.code (settingsFromConfig {}))
        ((joinEvents ++ [readyEvent]).map .invocation ++ List.replicate 70 goodTick),
      15588 ∈ (p.1.handle Crypto.Session.record.replay p.2).2) ∧
    ¬ RespectsCap Crypto.Session.record.replay Crypto.Session.code {} := by
  have hpassed : ∃ p ∈ history (step Crypto.Session.record.replay)
      (startLan Crypto.Session.code (settingsFromConfig {}))
      ((joinEvents ++ [readyEvent]).map .invocation ++ List.replicate 70 goodTick),
      15588 ∈ (p.1.handle Crypto.Session.record.replay p.2).2 := by
    decide +kernel
  refine ⟨hpassed, ?_⟩
  intro hcap
  obtain ⟨p, hp, hk⟩ := hpassed
  exact absurd (hcap _ p hp _ hk) (by decide)

end BitrateHost

end RemotePlay.App
