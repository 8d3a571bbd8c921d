import RemotePlay.App.ThreadReaping
import RemotePlay.Encoding.AudioCodec

set_option autoImplicit false

/-! # The audio path of `ClientStreamer::decodeLoop`

A poll returns the audio frames that are due. The samples of a poll are collected in one vector, which
`decode` adds to and which is pushed to the player after each frame, from its beginning: what was
decoded earlier in the poll is pushed again. Which polls play everything once is `plays_once_iff`. -/

namespace RemotePlay.Media

/-- `kMaxQueueFrames`. -/
def kMaxQueueFrames : Nat := 48000 / 1000 * 400

/-- `WasapiPlayer`: its thread and `queue_`. -/
structure WasapiPlayer where
  thread : OwnedThread := {}
  queue : List Int16 := []
deriving DecidableEq, Repr

namespace WasapiPlayer

/-- The samples of `frameCount` stereo frames. -/
def block (samples : List Int16) (frameCount : Nat) : List Int16 := samples.take (frameCount * 2)

/-- `WasapiPlayer::push`. -/
def push (p : WasapiPlayer) (samples : List Int16) (frameCount : Nat) : WasapiPlayer :=
  let queue := p.queue ++ block samples frameCount
  { p with
    queue :=
      if kMaxQueueFrames * 2 < queue.length then queue.drop (queue.length - kMaxQueueFrames * 2)
      else queue }

/-- `renderThread` takes what there is of the `need` samples that the device has room for. -/
def render (p : WasapiPlayer) (need : Nat) : WasapiPlayer := { p with queue := p.queue.drop need }

end WasapiPlayer

/-- The audio members of a streamer. `pushed` are the blocks that `push` was given and `decoded` the
    samples that `decode` produced, which no code reads. -/
structure AudioPath where
  audioDecoder : Option AudioDecoderOpus := none
  audioPlayer : Option WasapiPlayer := none
  audioActive : Bool := false
  /-- `initDevices` has failed. `renderThread` runs all the same: on a null client, which is undefined
      behaviour, or for ever on one that is not initialised. Nothing is said about what comes then. -/
  lost : Bool := false
  pushed : List (List Int16) := []
  decoded : List Int16 := []
deriving DecidableEq, Repr

inductive AudioEvent where
  /-- What `pollAudio` returns, as the decoder takes it, and whether the device comes up. -/
  | poll (packets : List PacketEnd) (device : Bool)
  | renders (need : Nat)
deriving DecidableEq, Repr

namespace AudioPath

/-- The player is made with the first samples. -/
def startPlayer (s : AudioPath) (device : Bool) : AudioPath :=
  if s.audioPlayer.isSome then s
  else
    match Threads.WasapiPlayer.start {} device with
    | (thread, .returned true) => { s with audioPlayer := some { thread := thread }, audioActive := true }
    | (_, .returned false) => s
    | (_, .lost) => { s with lost := true }

def pushSamples (s : AudioPath) (audioSamples : List Int16) : AudioPath :=
  match s.audioPlayer with
  | none => s
  | some p =>
      { s with
        audioPlayer := some (p.push audioSamples (audioSamples.length / 2))
        pushed := s.pushed ++ [WasapiPlayer.block audioSamples (audioSamples.length / 2)] }

/-- `decode` has produced `samples`. -/
def produced (s : AudioPath) (d : AudioDecoderOpus) (samples : List Int16) : AudioPath :=
  { s with audioDecoder := some d, decoded := s.decoded ++ samples }

/-- A frame of the poll, with the vector before and after it. -/
def playFrame (device : Bool) (s : AudioPath) (d : AudioDecoderOpus) (audioSamples : List Int16)
    (packet : PacketEnd) : AudioPath × List Int16 :=
  match d.decode packet audioSamples with
  | (d, samples, ok) =>
      let s := s.produced d (samples.drop audioSamples.length)
      if ok && !samples.isEmpty then ((s.startPlayer device).pushSamples samples, samples)
      else (s, samples)

/-- The frames of a poll. -/
def playFrames (device : Bool) : AudioPath → List Int16 → List PacketEnd → AudioPath
  | s, _, [] => s
  | s, audioSamples, packet :: packets =>
      match s.audioDecoder with
      | none => s
      | some d =>
          match s.playFrame device d audioSamples packet with
          | (s, audioSamples) => if s.lost then s else playFrames device s audioSamples packets

def step (s : AudioPath) (e : AudioEvent) : AudioPath :=
  match e with
  | .poll packets device => if s.lost then s else s.playFrames device [] packets
  | .renders need => { s with audioPlayer := s.audioPlayer.map (fun p => p.render need) }

/-- Everything that was decoded was pushed, once and in its order. -/
def PlaysOnce (s : AudioPath) : Prop := s.pushed.flatten = s.decoded

/-- The samples of the packets that are decoded, packet by packet. -/
def blocks (packets : List PacketEnd) : List (List Int16) :=
  packets.filterMap (fun packet =>
    match packet with
    | .rejected => none
    | .received frames _ => some frames.flatten)

/-- The poll can be played once: its samples are pairs, at most one of them comes before the last packet
    that is decoded, and if there are any, there is a player or its device comes up. -/
def singly (s : AudioPath) : AudioEvent → Bool
  | .poll packets device =>
      s.audioDecoder.isNone ||
        decide ((blocks packets).dropLast.flatten.length ≤ 1) &&
          decide ((blocks packets).flatten.length % 2 = 0) &&
            ((blocks packets).flatten.isEmpty || s.audioPlayer.isSome || device)
  | .renders _ => true

/-! ## What a poll pushes -/

/-- The pairs of `l`. -/
def pairs (l : List Int16) : List Int16 := WasapiPlayer.block l (l.length / 2)

/-- The blocks of a poll, one behind the other, when `acc` is in the vector. -/
def repeated : List Int16 → List (List Int16) → List Int16
  | _, [] => []
  | acc, b :: bs => pairs (acc ++ b) ++ repeated (acc ++ b) bs

theorem length_pairs (l : List Int16) : (pairs l).length = l.length / 2 * 2 := by
  rw [pairs, WasapiPlayer.block, List.length_take, Nat.min_eq_left (Nat.div_mul_le_self ..)]

theorem pairs_of_even {l : List Int16} (h : l.length % 2 = 0) : pairs l = l := by
  rw [pairs, WasapiPlayer.block, List.take_of_length_le]
  omega

theorem repeated_concat (acc : List Int16) (bs : List (List Int16)) (b : List Int16) :
    repeated acc (bs ++ [b]) = repeated acc bs ++ pairs (acc ++ bs.flatten ++ b) := by
  induction bs generalizing acc with
  | nil => simp [repeated]
  | cons c bs ih => simp [repeated, ih]

theorem length_repeated (bs : List (List Int16)) : (repeated [] bs).length % 2 = 0 := by
  induction bs using List.reverseRecOn with
  | nil => rfl
  | append_singleton bs b ih =>
      rw [repeated_concat, List.length_append, length_pairs]
      omega

theorem repeated_eq_nil_iff (bs : List (List Int16)) :
    repeated [] bs = [] ↔ bs.flatten.length ≤ 1 := by
  induction bs using List.reverseRecOn with
  | nil => exact iff_of_true rfl (Nat.zero_le 1)
  | append_singleton bs b ih =>
      rw [repeated_concat, List.append_eq_nil_iff, ih, List.nil_append, ← List.length_eq_zero_iff,
        length_pairs, List.flatten_append, List.flatten_singleton, List.length_append]
      omega

/-- **A poll is played once** exactly if it comes in pairs and all but its last block are at most one
    sample. -/
theorem repeated_eq_flatten_iff (bs : List (List Int16)) :
    repeated [] bs = bs.flatten ↔ bs.dropLast.flatten.length ≤ 1 ∧ bs.flatten.length % 2 = 0 := by
  induction bs using List.reverseRecOn with
  | nil => exact iff_of_true rfl ⟨Nat.zero_le 1, rfl⟩
  | append_singleton bs b _ =>
      have hflatten : bs.flatten ++ b = (bs ++ [b]).flatten := by
        rw [List.flatten_append, List.flatten_singleton]
      rw [repeated_concat, List.nil_append, hflatten, List.dropLast_concat, ← repeated_eq_nil_iff bs]
      constructor
      · intro h
        have hlength := congrArg List.length h
        have heven := length_repeated bs
        rw [List.length_append, length_pairs] at hlength
        exact ⟨List.length_eq_zero_iff.1 (by omega), by omega⟩
      · rintro ⟨hnil, heven⟩
        rw [hnil, List.nil_append, pairs_of_even heven]

/-! ## The frames of a poll -/

/-- The loop goes on, with a decoder that is open. -/
structure Ready (s : AudioPath) : Prop where
  goes : s.lost = false
  decodes : ∃ d, s.audioDecoder = some d ∧ d.ctx = true

theorem Ready.not_lost {s : AudioPath} (h : s.Ready) : ¬ s.lost = true := by
  rw [h.goes]
  exact Bool.false_ne_true

theorem playFrames_cons {device : Bool} {s s' : AudioPath} {d : AudioDecoderOpus}
    {acc acc' : List Int16} {packet : PacketEnd} (hd : s.audioDecoder = some d)
    (hframe : s.playFrame device d acc packet = (s', acc')) (packets : List PacketEnd) :
    s.playFrames device acc (packet :: packets) =
      if s'.lost then s' else s'.playFrames device acc' packets := by
  rw [playFrames, hd]
  dsimp only
  rw [hframe]

theorem playFrame_rejected (device : Bool) {s : AudioPath} {d : AudioDecoderOpus}
    (hd : s.audioDecoder = some d) (hctx : d.ctx = true) (acc : List Int16) :
    s.playFrame device d acc .rejected = (s, acc) := by
  have hdecode : d.decode .rejected acc = (d, acc, false) := by
    rw [AudioDecoderOpus.decode, hctx]
    rfl
  have hnothing : s.produced d [] = s := by
    rw [produced, ← hd, List.append_nil]
  rw [playFrame, hdecode]
  dsimp only
  rw [List.drop_length, hnothing]
  rfl

/-- What becomes of a frame that is decoded. -/
theorem playFrame_received (device : Bool) (s : AudioPath) {d : AudioDecoderOpus} (hctx : d.ctx = true)
    (acc : List Int16) (frames : List (List Int16)) (failed : Bool) :
    s.playFrame device d acc (.received frames failed) =
      (if (acc ++ frames.flatten).isEmpty then
          s.produced { d with packets := d.packets + 1 } frames.flatten
        else
          ((s.produced { d with packets := d.packets + 1 } frames.flatten).startPlayer
            device).pushSamples (acc ++ frames.flatten),
        acc ++ frames.flatten) := by
  have hdecode : d.decode (.received frames failed) acc =
      ({ d with packets := d.packets + 1 }, acc ++ frames.flatten, true) := by
    rw [AudioDecoderOpus.decode, hctx]
    rfl
  rw [playFrame, hdecode]
  dsimp only
  rw [List.drop_left, Bool.true_and]
  cases (acc ++ frames.flatten).isEmpty with
  | true => rfl
  | false => rfl

theorem startPlayer_of_isSome {s : AudioPath} (h : s.audioPlayer.isSome = true) (device : Bool) :
    s.startPlayer device = s := if_pos h

theorem startPlayer_comes_up {s : AudioPath} (h : s.audioPlayer = none) :
    s.startPlayer true =
      { s with
        audioPlayer := some { thread := { running := true, joinable := true } }
        audioActive := true } := by
  rw [startPlayer, h]
  rfl

theorem startPlayer_lost {s : AudioPath} (h : s.audioPlayer = none) :
    s.startPlayer false = { s with lost := true } := by
  rw [startPlayer, h]
  rfl

theorem pushSamples_some {s : AudioPath} {p : WasapiPlayer} (h : s.audioPlayer = some p)
    (samples : List Int16) :
    s.pushSamples samples =
      { s with
        audioPlayer := some (p.push samples (samples.length / 2))
        pushed := s.pushed ++ [pairs samples] } := by
  rw [pushSamples, h]
  rfl

theorem pushSamples_none {s : AudioPath} (h : s.audioPlayer = none) (samples : List Int16) :
    s.pushSamples samples = s := by
  rw [pushSamples, h]

/-- A player that is there, or comes up, is given the samples. -/
theorem playSamples_spec {device : Bool} {s : AudioPath}
    (hplayer : s.audioPlayer.isSome = true ∨ device = true) (samples : List Int16) :
    ∃ p active, (s.startPlayer device).pushSamples samples =
      { s with
        audioPlayer := some p
        audioActive := active
        pushed := s.pushed ++ [pairs samples] } := by
  cases haudio : s.audioPlayer with
  | some p =>
      have hsome : s.audioPlayer.isSome = true := by
        rw [haudio]
        rfl
      rw [startPlayer_of_isSome hsome, pushSamples_some haudio]
      exact ⟨_, _, rfl⟩
  | none =>
      rw [haudio] at hplayer
      obtain rfl : device = true := hplayer.resolve_left nofun
      rw [startPlayer_comes_up haudio, pushSamples_some rfl]
      exact ⟨_, _, rfl⟩

/-- A frame that is decoded, with such a player. -/
theorem playFrame_ready {device : Bool} {s : AudioPath} (h : s.Ready) {d : AudioDecoderOpus}
    (hctx : d.ctx = true) (hplayer : s.audioPlayer.isSome = true ∨ device = true) (acc : List Int16)
    (frames : List (List Int16)) (failed : Bool) :
    ∃ s', s.playFrame device d acc (.received frames failed) = (s', acc ++ frames.flatten) ∧ s'.Ready ∧
      (s'.audioPlayer.isSome = true ∨ device = true) ∧
      s'.pushed.flatten = s.pushed.flatten ++ pairs (acc ++ frames.flatten) ∧
      s'.decoded = s.decoded ++ frames.flatten := by
  have hplayer' : (s.produced { d with packets := d.packets + 1 } frames.flatten).audioPlayer.isSome =
      true ∨ device = true := hplayer
  rw [playFrame_received device s hctx]
  refine ⟨_, rfl, ?_⟩
  by_cases hempty : (acc ++ frames.flatten).isEmpty = true
  · rw [if_pos hempty, List.isEmpty_iff.1 hempty]
    exact ⟨⟨h.goes, _, rfl, hctx⟩, hplayer, (List.append_nil _).symm, rfl⟩
  · rw [if_neg hempty]
    obtain ⟨p, active, hplayed⟩ := playSamples_spec hplayer' (acc ++ frames.flatten)
    rw [hplayed]
    refine ⟨⟨h.goes, _, rfl, hctx⟩, .inl rfl, ?_, rfl⟩
    show (s.pushed ++ [pairs (acc ++ frames.flatten)]).flatten = _
    rw [List.flatten_append, List.flatten_singleton]

/-- **A poll with a player.** -/
theorem playFrames_spec {device : Bool} (packets : List PacketEnd) {s : AudioPath} (h : s.Ready)
    (hplayer : s.audioPlayer.isSome = true ∨ device = true) (acc : List Int16) :
    (s.playFrames device acc packets).Ready ∧
      (s.playFrames device acc packets).pushed.flatten =
        s.pushed.flatten ++ repeated acc (blocks packets) ∧
      (s.playFrames device acc packets).decoded = s.decoded ++ (blocks packets).flatten := by
  induction packets generalizing s acc with
  | nil => exact ⟨h, (List.append_nil _).symm, (List.append_nil _).symm⟩
  | cons packet packets ih =>
      obtain ⟨d, hd, hctx⟩ := h.decodes
      cases packet with
      | rejected =>
          rw [playFrames_cons hd (playFrame_rejected device hd hctx acc), if_neg h.not_lost]
          exact ih h hplayer acc
      | received frames failed =>
          obtain ⟨s', hframe, h', hplayer', hpushed, hdecoded⟩ :=
            playFrame_ready h hctx hplayer acc frames failed
          rw [playFrames_cons hd hframe, if_neg h'.not_lost]
          obtain ⟨hready, hrest, hrest'⟩ := ih h' hplayer' (acc ++ frames.flatten)
          refine ⟨hready, ?_, ?_⟩
          · rw [hrest, hpushed, List.append_assoc]
            rfl
          · rw [hrest', hdecoded, List.append_assoc]
            rfl

/-- The first samples, with no player and a device that does not come up. -/
theorem playFrame_mute {s : AudioPath} {d : AudioDecoderOpus} (hctx : d.ctx = true)
    (hmute : s.audioPlayer = none) {frames : List (List Int16)} (hsome : frames.flatten ≠ [])
    (failed : Bool) :
    s.playFrame false d [] (.received frames failed) =
      ({ s.produced { d with packets := d.packets + 1 } frames.flatten with lost := true },
        frames.flatten) := by
  have hnonempty : ¬ frames.flatten.isEmpty = true := by
    rw [List.isEmpty_iff]
    exact hsome
  have hmute' : (s.produced { d with packets := d.packets + 1 } frames.flatten).audioPlayer = none :=
    hmute
  rw [playFrame_received false s hctx, List.nil_append, if_neg hnonempty, startPlayer_lost hmute',
    pushSamples_none (by exact hmute)]

theorem mute_of_no_player {s : AudioPath} {device : Bool}
    (h : ¬ (s.audioPlayer.isSome = true ∨ device = true)) : s.audioPlayer = none ∧ device = false := by
  rw [not_or, Bool.not_eq_true, Bool.not_eq_true, Option.isSome_eq_false_iff,
    Option.isNone_iff_eq_none] at h
  exact h

/-- **A poll without a player**, on a device that does not come up: nothing is pushed, and the loop ends
    at the first samples. -/
theorem playFrames_mute (packets : List PacketEnd) {s : AudioPath} (h : s.Ready)
    (hmute : s.audioPlayer = none) :
    (s.playFrames false [] packets).pushed = s.pushed ∧
      if (blocks packets).flatten = [] then
        (s.playFrames false [] packets).Ready ∧ (s.playFrames false [] packets).decoded = s.decoded
      else (s.playFrames false [] packets).decoded ≠ s.decoded := by
  induction packets generalizing s with
  | nil => exact ⟨rfl, h, rfl⟩
  | cons packet packets ih =>
      obtain ⟨d, hd, hctx⟩ := h.decodes
      cases packet with
      | rejected =>
          rw [playFrames_cons hd (playFrame_rejected false hd hctx []), if_neg h.not_lost]
          exact ih h hmute
      | received frames failed =>
          have hblocks : (blocks (.received frames failed :: packets)).flatten =
              frames.flatten ++ (blocks packets).flatten := rfl
          rw [hblocks]
          by_cases hempty : frames.flatten = []
          · have hframe := playFrame_received false s hctx [] frames failed
            have h' : (s.produced { d with packets := d.packets + 1 } []).Ready :=
              ⟨h.goes, _, rfl, hctx⟩
            have hnext := ih h' hmute
            have hsame : (s.produced { d with packets := d.packets + 1 } []).decoded = s.decoded :=
              List.append_nil _
            rw [hempty, List.append_nil, if_pos (by rfl)] at hframe
            rw [hsame] at hnext
            rw [playFrames_cons hd hframe, if_neg h'.not_lost, hempty, List.nil_append]
            exact hnext
          · have hdecoded : ¬ (frames.flatten ++ (blocks packets).flatten = []) :=
              fun hnil => hempty (List.append_eq_nil_iff.1 hnil).1
            rw [playFrames_cons hd (playFrame_mute hctx hmute hempty failed), if_pos (by rfl),
              if_neg hdecoded]
            exact ⟨rfl, fun hsame => hempty (List.append_right_eq_self.1 hsame)⟩

/-! ## Devices that come up -/

theorem startPlayer_goes {s : AudioPath} (h : s.lost = false) : (s.startPlayer true).lost = false := by
  cases haudio : s.audioPlayer with
  | some p =>
      have hsome : s.audioPlayer.isSome = true := by
        rw [haudio]
        rfl
      rw [startPlayer_of_isSome hsome]
      exact h
  | none =>
      rw [startPlayer_comes_up haudio]
      exact h

theorem pushSamples_lost (s : AudioPath) (samples : List Int16) :
    (s.pushSamples samples).lost = s.lost := by
  unfold pushSamples
  split <;> rfl

theorem playFrame_goes {s : AudioPath} (h : s.lost = false) (d : AudioDecoderOpus) (acc : List Int16)
    (packet : PacketEnd) : (s.playFrame true d acc packet).1.lost = false := by
  unfold playFrame
  dsimp only
  split
  · rw [pushSamples_lost]
    exact startPlayer_goes h
  · exact h

theorem playFrames_goes (packets : List PacketEnd) {s : AudioPath} (h : s.lost = false)
    (acc : List Int16) : (s.playFrames true acc packets).lost = false := by
  induction packets generalizing s acc with
  | nil => exact h
  | cons packet packets ih =>
      cases hd : s.audioDecoder with
      | none =>
          rw [playFrames, hd]
          exact h
      | some d =>
          have hframe := playFrame_goes h d acc packet
          cases hplay : s.playFrame true d acc packet with
          | mk s' acc' =>
              rw [hplay] at hframe
              rw [playFrames_cons hd hplay, if_neg (Bool.eq_false_iff.1 hframe)]
              exact ih hframe acc'

/-- With a device that comes up the player is never lost. -/
theorem step_goes {s : AudioPath} (h : s.lost = false) (e : AudioEvent)
    (hdevice : ∀ packets device, e = .poll packets device → device = true) :
    (s.step e).lost = false := by
  cases e with
  | poll packets device =>
      obtain rfl := hdevice packets device rfl
      rw [step, if_neg (Bool.eq_false_iff.1 h)]
      exact playFrames_goes packets h []
  | renders need => exact h

/-! ## Runs -/

/-- The members when the loop starts; the decoder is missing if it could not be opened. -/
def start (opened : Bool) : AudioPath :=
  { audioDecoder := if opened then some { ctx := true } else none }

/-- What holds as long as everything is played once. -/
structure Inv (s : AudioPath) : Prop where
  plays : s.PlaysOnce
  goes : s.lost = false
  decodes : ∀ d, s.audioDecoder = some d → d.ctx = true

theorem inv_start (opened : Bool) : Inv (start opened) := by
  refine ⟨rfl, rfl, ?_⟩
  intro d hd
  cases opened with
  | true =>
      rw [← Option.some.inj hd]
  | false => cases hd

theorem playFrames_none {s : AudioPath} (h : s.audioDecoder = none) (device : Bool) (acc : List Int16)
    (packets : List PacketEnd) : s.playFrames device acc packets = s := by
  cases packets with
  | nil => rfl
  | cons packet packets => rw [playFrames, h]

/-- Nothing is decoded in a poll without samples. -/
theorem dropLast_of_flatten_nil {bs : List (List Int16)} (h : bs.flatten = []) :
    bs.dropLast.flatten.length ≤ 1 := by
  have hnil : bs.dropLast.flatten = [] := by
    rw [List.flatten_eq_nil_iff] at h ⊢
    intro b hb
    exact h b (List.dropLast_subset bs hb)
  rw [hnil]
  exact Nat.zero_le 1

/-- **One poll** is played once exactly if it can be. -/
theorem plays_poll_iff {s : AudioPath} (h : Inv s) (packets : List PacketEnd) (device : Bool) :
    (s.playFrames device [] packets).PlaysOnce ↔ s.singly (.poll packets device) = true := by
  have hplays : s.pushed.flatten = s.decoded := h.plays
  cases hdecoder : s.audioDecoder with
  | none =>
      rw [playFrames_none hdecoder]
      refine iff_of_true h.plays ?_
      rw [singly, hdecoder]
      rfl
  | some d =>
      have hready : s.Ready := ⟨h.goes, d, hdecoder, h.decodes d hdecoder⟩
      simp only [singly, hdecoder, Option.isNone_some, Bool.false_or, Bool.and_eq_true, Bool.or_eq_true,
        decide_eq_true_eq, List.isEmpty_iff]
      by_cases hplayer : s.audioPlayer.isSome = true ∨ device = true
      · obtain ⟨-, hpushed, hdecoded⟩ := playFrames_spec packets hready hplayer []
        rw [PlaysOnce, hpushed, hdecoded, hplays, List.append_cancel_left_eq, repeated_eq_flatten_iff]
        constructor
        · rintro ⟨hfirst, heven⟩
          exact ⟨⟨hfirst, heven⟩, by rcases hplayer with h | h <;> simp [h]⟩
        · exact And.left
      · obtain ⟨hmute, rfl⟩ := mute_of_no_player hplayer
        obtain ⟨hpushed, hdecoded⟩ := playFrames_mute packets hready hmute
        rw [PlaysOnce, hpushed, hplays, hmute]
        by_cases hempty : (blocks packets).flatten = []
        · rw [if_pos hempty] at hdecoded
          refine iff_of_true hdecoded.2.symm ⟨⟨dropLast_of_flatten_nil hempty, ?_⟩, .inl (.inl hempty)⟩
          rw [hempty]
          rfl
        · rw [if_neg hempty] at hdecoded
          refine iff_of_false (fun hsame => hdecoded hsame.symm) ?_
          rintro ⟨-, (hnil | hsome) | hcomes⟩
          · exact hempty hnil
          · cases hsome
          · cases hcomes

/-- After a poll that is played once the loop goes on. -/
theorem ready_of_plays {s : AudioPath} (h : Inv s) (hready : s.Ready) {packets : List PacketEnd}
    {device : Bool} (hplays : (s.playFrames device [] packets).PlaysOnce) :
    (s.playFrames device [] packets).Ready := by
  by_cases hplayer : s.audioPlayer.isSome = true ∨ device = true
  · exact (playFrames_spec packets hready hplayer []).1
  · obtain ⟨hmute, rfl⟩ := mute_of_no_player hplayer
    obtain ⟨hpushed, hdecoded⟩ := playFrames_mute packets hready hmute
    by_cases hempty : (blocks packets).flatten = []
    · rw [if_pos hempty] at hdecoded
      exact hdecoded.1
    · rw [if_neg hempty] at hdecoded
      have hsame : (s.playFrames false [] packets).pushed.flatten =
          (s.playFrames false [] packets).decoded := hplays
      rw [hpushed, h.plays] at hsame
      exact absurd hsame.symm hdecoded

theorem step_poll {s : AudioPath} (h : Inv s) (packets : List PacketEnd) (device : Bool) :
    s.step (.poll packets device) = s.playFrames device [] packets := by
  rw [step, h.goes]
  rfl

theorem plays_step_iff {s : AudioPath} (h : Inv s) (e : AudioEvent) :
    (s.step e).PlaysOnce ↔ s.singly e = true := by
  cases e with
  | poll packets device =>
      rw [step_poll h]
      exact plays_poll_iff h packets device
  | renders need => exact iff_of_true h.plays rfl

theorem inv_step {s : AudioPath} (h : Inv s) {e : AudioEvent} (hsingly : s.singly e = true) :
    Inv (s.step e) := by
  have hplays := (plays_step_iff h e).2 hsingly
  cases e with
  | renders need => exact ⟨hplays, h.goes, h.decodes⟩
  | poll packets device =>
      rw [step_poll h] at hplays ⊢
      cases hdecoder : s.audioDecoder with
      | none =>
          rw [playFrames_none hdecoder]
          exact h
      | some d =>
          have hnext := ready_of_plays h ⟨h.goes, d, hdecoder, h.decodes d hdecoder⟩ hplays
          obtain ⟨d', hd', hctx⟩ := hnext.decodes
          refine ⟨hplays, hnext.goes, fun d'' hd'' => ?_⟩
          rw [hd'] at hd''
          exact Option.some.inj hd'' ▸ hctx

/-- **When everything is played once.** After every poll of a run the pushed blocks are the decoded
    samples exactly if every poll can be played once. -/
theorem plays_once_iff (opened : Bool) (es : List AudioEvent) :
    (∀ p ∈ history step (start opened) es, (step p.1 p.2).PlaysOnce) ↔
      ∀ p ∈ history step (start opened) es, p.1.singly p.2 = true :=
  forall_history_iff step Inv (fun s e => (s.step e).PlaysOnce) (fun s e => s.singly e = true)
    (fun _ e h hsingly => ⟨(plays_step_iff h e).2 hsingly, inv_step h hsingly⟩)
    (fun _ e h hplays => (plays_step_iff h e).1 hplays) (start opened) es (inv_start opened)

/-- Two packets in one poll: the first one is played twice. -/
theorem first_packet_twice :
    ¬ ∀ (opened : Bool) (es : List AudioEvent),
      ∀ p ∈ history step (start opened) es, (step p.1 p.2).PlaysOnce := by
  intro hall
  have hplays := hall true [.poll [.received [[1, 2]] false, .received [[3, 4]] false] true] _
    (List.mem_singleton.2 rfl)
  exact absurd hplays (by unfold PlaysOnce; decide +kernel)

end AudioPath

end RemotePlay.Media
