import Mathlib.Data.List.TakeWhile
import RemotePlay.Server.RelaySteps

set_option autoImplicit false

/-! # What travels through the TCP relay

A connection takes a seat when it puts itself into an entry of `PAIRS` under its role, and it
forwards to whoever sat in the opposite seat when it went on. As long as no seat is taken twice, that
is one connection for ever, and the data written to a connection is what its partner has read. -/

namespace RemotePlay.Server

/-! ## What a connection has been sent -/

/-- The bytes of the other side. -/
def payload (out : List RelayOut) : Bytes :=
  out.flatMap (fun x => match x with
    | .data bytes => bytes
    | _ => [])

def RelayOut.isData : RelayOut → Bool
  | .data _ => true
  | _ => false

@[simp] theorem payload_append (out out' : List RelayOut) :
    payload (out ++ out') = payload out ++ payload out' := List.flatMap_append

theorem payload_eq_nil {out : List RelayOut} (h : ∀ x ∈ out, x.isData = false) :
    payload out = [] := by
  unfold payload
  rw [List.flatMap_eq_nil_iff]
  intro x hx
  cases x with
  | data bytes => exact absurd (h _ hx) (by simp [RelayOut.isData])
  | accepted => rfl
  | rejected reason => rfl
  | paired => rfl

/-- Nothing but the relay's own lines up to `relay_paired`, and nothing but data after it. -/
def Orderly (out : List RelayOut) : Prop :=
  ∃ lines data : List RelayOut, (∀ x ∈ lines, x.isData = false ∧ x ≠ .paired) ∧
    (∀ x ∈ data, x.isData = true) ∧ (out = lines ∨ out = lines ++ .paired :: data)

namespace Orderly

theorem nil : Orderly [] := ⟨[], [], by simp, by simp, Or.inl rfl⟩

/-- A connection that has not been told so has received the relay's lines only. -/
theorem lines {out : List RelayOut} (h : Orderly out) (hun : .paired ∉ out) :
    ∀ x ∈ out, x.isData = false ∧ x ≠ .paired := by
  obtain ⟨lines, data, hlines, -, rfl | rfl⟩ := h
  · exact hlines
  · exact absurd (List.mem_append_right _ List.mem_cons_self) hun

/-- One more line of the relay. -/
theorem line {out : List RelayOut} (h : Orderly out) (hun : .paired ∉ out) {x : RelayOut}
    (hx : x.isData = false) (hne : x ≠ .paired) : Orderly (out ++ [x]) := by
  refine ⟨out ++ [x], [], ?_, by simp, Or.inl rfl⟩
  intro y hy
  rcases List.mem_append.1 hy with hy | hy
  · exact h.lines hun y hy
  · rw [List.mem_singleton.1 hy]
    exact ⟨hx, hne⟩

theorem paired {out : List RelayOut} (h : Orderly out) (hun : .paired ∉ out) :
    Orderly (out ++ [.paired]) := ⟨out, [], h.lines hun, by simp, Or.inr rfl⟩

theorem data {out : List RelayOut} (h : Orderly out) (hin : .paired ∈ out) (bytes : Bytes) :
    Orderly (out ++ [.data bytes]) := by
  obtain ⟨lines, data, hlines, hdata, rfl | rfl⟩ := h
  · exact absurd rfl (hlines _ hin).2
  · refine ⟨lines, data ++ [.data bytes], hlines, ?_, Or.inr (by simp)⟩
    intro y hy
    rcases List.mem_append.1 hy with hy | hy
    · exact hdata y hy
    · rw [List.mem_singleton.1 hy]
      rfl

/-- How the list reads from the `relay_paired` line. -/
theorem around {out pre post : List RelayOut} (h : Orderly out) (hout : out = pre ++ .paired :: post) :
    payload pre = [] ∧ payload out = payload post ∧ ∀ x ∈ post, x.isData = true := by
  obtain ⟨lines, data, hlines, hdata, heq | heq⟩ := h
  · have hin : RelayOut.paired ∈ lines := by
      rw [← heq, hout]
      exact List.mem_append_right _ List.mem_cons_self
    exact absurd rfl (hlines _ hin).2
  · -- the line is not among the first ones and not among the data, so the two splits agree
    have hpre : .paired ∉ lines := fun hin => (hlines _ hin).2 rfl
    have hpost : .paired ∉ data := fun hin => absurd (hdata _ hin) (by simp [RelayOut.isData])
    rw [hout] at heq
    have hsplit : pre = lines ∧ post = data := by
      rcases List.append_eq_append_iff.1 heq with ⟨as, h1, h2⟩ | ⟨as, h1, h2⟩
      · cases as with
        | nil =>
            rw [List.append_nil] at h1
            rw [List.nil_append] at h2
            exact ⟨h1.symm, (List.cons.inj h2).2⟩
        | cons a as =>
            obtain ⟨rfl, -⟩ := List.cons.inj h2
            exact absurd (h1 ▸ List.mem_append_right _ List.mem_cons_self) hpre
      · cases as with
        | nil =>
            rw [List.append_nil] at h1
            rw [List.nil_append] at h2
            exact ⟨h1, (List.cons.inj h2).2.symm⟩
        | cons a as =>
            have htail : data = as ++ .paired :: post := (List.cons.inj h2).2
            exact absurd (htail ▸ List.mem_append_right _ List.mem_cons_self) hpost
    obtain ⟨rfl, rfl⟩ := hsplit
    have hnil := payload_eq_nil (fun x hx => (hlines x hx).1)
    refine ⟨hnil, ?_, hdata⟩
    rw [hout, payload_append, hnil]
    rfl

end Orderly

/-! ## Seats and partners -/

/-- Who sits where. -/
abbrev Seating := RelayId → Option (PairRef × Side)

/-- The two connections sit opposite each other. -/
def Seating.Partners (seats : Seating) (r o : RelayId) : Prop :=
  ∃ p side, seats r = some (p, side) ∧ seats o = some (p, side.opposite)

/-- No seat is taken twice. -/
def Seating.Single (seats : Seating) : Prop :=
  ∀ r r' s, seats r = some s → seats r' = some s → r = r'

theorem Seating.Partners.symm {seats : Seating} {r o : RelayId} (h : seats.Partners r o) :
    seats.Partners o r := by
  obtain ⟨p, side, hr, ho⟩ := h
  exact ⟨p, side.opposite, ho, by rw [Side.opposite_opposite, hr]⟩

theorem Seating.Partners.ne {seats : Seating} {r o : RelayId} (h : seats.Partners r o) : r ≠ o := by
  rintro rfl
  obtain ⟨p, side, hr, ho⟩ := h
  rw [hr] at ho
  exact side.opposite_ne (Prod.mk.inj (Option.some.inj ho)).2.symm

/-- Partners are one to one. -/
theorem Seating.Partners.unique {seats : Seating} (hs : seats.Single) {r o o' : RelayId}
    (h : seats.Partners r o) (h' : seats.Partners r o') : o = o' := by
  obtain ⟨p, side, hr, ho⟩ := h
  obtain ⟨p', side', hr', ho'⟩ := h'
  rw [hr] at hr'
  obtain ⟨rfl, rfl⟩ := Prod.mk.inj (Option.some.inj hr')
  exact hs o o' _ ho ho'

section Newcomer

variable {seats : Seating} {r : RelayId} {p : PairRef} {side : Side}

theorem Seating.update_of_some (hnone : seats r = none) {s : Option (PairRef × Side)} {x : RelayId}
    {s' : PairRef × Side} (hx : seats x = some s') : Function.update seats r s x = some s' := by
  have hne : x ≠ r := by
    rintro rfl
    rw [hnone] at hx
    exact absurd hx (by simp)
  rw [Function.update_of_ne hne, hx]

/-- A newcomer parts nobody. -/
theorem Seating.Partners.update {x o : RelayId} (h : seats.Partners x o) (hnone : seats r = none)
    {s : Option (PairRef × Side)} : Seating.Partners (Function.update seats r s) x o := by
  obtain ⟨p', side', hx, ho⟩ := h
  exact ⟨p', side', Seating.update_of_some hnone hx, Seating.update_of_some hnone ho⟩

theorem Seating.Single.update (h : seats.Single) {s : PairRef × Side}
    (hvacant : ∀ x, seats x ≠ some s) : Seating.Single (Function.update seats r (some s)) := by
  intro x x' s' hx hx'
  by_cases hxr : x = r
  · by_cases hxr' : x' = r
    · rw [hxr, hxr']
    · rw [hxr, Function.update_self] at hx
      rw [Function.update_of_ne hxr', ← hx] at hx'
      exact absurd hx' (hvacant x')
  · by_cases hxr' : x' = r
    · rw [hxr', Function.update_self] at hx'
      rw [Function.update_of_ne hxr, ← hx'] at hx
      exact absurd hx (hvacant x)
    · rw [Function.update_of_ne hxr] at hx
      rw [Function.update_of_ne hxr'] at hx'
      exact h x x' s' hx hx'

/-- Neither a newcomer on a seat that nobody has taken nor whoever sits opposite has had a partner. -/
theorem Seating.unmet (hnone : seats r = none) (hvacant : ∀ x, seats x ≠ some (p, side))
    {o : RelayId} (h : Seating.Partners (Function.update seats r (some (p, side))) r o) :
    (∀ y, ¬ seats.Partners r y) ∧ ∀ y, ¬ seats.Partners o y := by
  obtain ⟨p', side', hr, ho⟩ := h
  rw [Function.update_self] at hr
  obtain ⟨rfl, rfl⟩ := Prod.mk.inj (Option.some.inj hr)
  constructor
  · rintro y ⟨p', side', hr', -⟩
    rw [hnone] at hr'
    exact absurd hr' (by simp)
  · rintro y ⟨p', side', ho', hy⟩
    by_cases hor : o = r
    · rw [hor, hnone] at ho'
      exact absurd ho' (by simp)
    · rw [Function.update_of_ne hor, ho'] at ho
      obtain ⟨rfl, rfl⟩ := Prod.mk.inj (Option.some.inj ho)
      rw [Side.opposite_opposite] at hy
      exact hvacant y hy

end Newcomer

/-- The seat fits the position of the coroutine. -/
def Seating.Fits (seats : Seating) (r : RelayId) : RelayPhase → Prop
  | .idle => seats r = none
  | .handshake => seats r = none
  | .rejecting => seats r = none
  | .accepting _ _ => seats r = none
  | .waiting p side => seats r = some (p, side)
  | .pairing o => seats.Partners r o
  | .reading o => seats.Partners r o
  | .forwarding o => seats.Partners r o
  | .closing => True
  | .finished => True

theorem Seating.Fits.mono {seats seats' : Seating} {x : RelayId} {phase : RelayPhase}
    (h : seats.Fits x phase) (hx : seats' x = seats x)
    (hkeep : ∀ o, seats.Partners x o → seats'.Partners x o) : seats'.Fits x phase := by
  cases phase with
  | pairing o => exact hkeep o h
  | reading o => exact hkeep o h
  | forwarding o => exact hkeep o h
  | closing => trivial
  | finished => trivial
  | _ => exact hx.trans h

/-- The connection has not been told yet that it is paired. -/
def RelayPhase.early : RelayPhase → Bool
  | .idle => true
  | .handshake => true
  | .rejecting => true
  | .accepting _ _ => true
  | .waiting _ _ => true
  | _ => false

def TcpRelay.seats (t : TcpRelay) : Seating := fun r => (t.conns r).seat

/-- The lines of a connection are in order, and `relay_paired` has come when its coroutine has gone on
    from the event's `wait`, and not before. -/
structure RelayConn.Ordered (c : RelayConn) : Prop where
  orderly : Orderly c.out
  early : c.phase.early = true → .paired ∉ c.out
  late : c.phase.early = false → c.closed = true ∨ .paired ∈ c.out

/-- What has been written to `c` is what its partner `d` has read, less what came after `c` was
    closed. -/
def RelayConn.Receives (c d : RelayConn) : Prop :=
  payload c.out <+: d.stream.take d.readPos ∧
    (c.closed = false → payload c.out = d.stream.take d.readPos)

/-- The invariant of the relay: every connection has its own seat or none, its data comes from the
    opposite one, and it starts after the `relay_paired` line. -/
structure Piped (t : TcpRelay) : Prop where
  single : t.seats.Single
  fits : ∀ r, t.seats.Fits r (t.conns r).phase
  entries : ∀ p side r, (t.pairs p).get side = some r → t.seats r = some (p, side)
  ordered : ∀ r, (t.conns r).Ordered
  receives : ∀ r o, t.seats.Partners r o → (t.conns r).Receives (t.conns o)
  alone : ∀ r, (∀ o, ¬ t.seats.Partners r o) →
    payload (t.conns r).out = [] ∧ (t.conns r).readPos = 0
  bound : ∀ r, (t.conns r).readPos ≤ (t.conns r).stream.length

/-! ## Steps of one connection -/

/-- A change of a connection that takes no seat, reads nothing and is sent nothing. -/
structure Quiet (c c' : RelayConn) : Prop where
  seat : c'.seat = c.seat
  readPos : c'.readPos = c.readPos
  stream : c.stream <+: c'.stream
  payload : payload c'.out = payload c.out
  closed : c.closed = true → c'.closed = true

theorem Quiet.refl (c : RelayConn) : Quiet c c := ⟨rfl, rfl, List.prefix_rfl, rfl, id⟩

theorem take_of_prefix {α : Type*} {l l' : List α} (h : l <+: l') {n : Nat} (hn : n ≤ l.length) :
    l'.take n = l.take n := by
  obtain ⟨m, rfl⟩ := h
  exact List.take_append_of_le_length hn

/-- Quiet changes keep what a connection receives. -/
theorem RelayConn.Receives.quiet {c d c' d' : RelayConn} (h : c.Receives d) (hc : Quiet c c')
    (hd : Quiet d d') (hbound : d.readPos ≤ d.stream.length) : c'.Receives d' := by
  unfold RelayConn.Receives
  rw [hc.payload, hd.readPos, take_of_prefix hd.stream hbound]
  refine ⟨h.1, ?_⟩
  intro hopen
  refine h.2 ?_
  rw [← Bool.not_eq_true]
  intro hclosed
  rw [hc.closed hclosed] at hopen
  exact absurd hopen (by decide)

theorem seats_modifyConn (t : TcpRelay) (r : RelayId) (f : RelayConn → RelayConn)
    (h : (f (t.conns r)).seat = (t.conns r).seat) : (t.modifyConn r f).seats = t.seats := by
  funext x
  unfold TcpRelay.seats
  by_cases hx : x = r
  · rw [hx, conns_modifyConn_self, h]
  · rw [conns_modifyConn_of_ne t hx]

namespace TcpRelay

variable (t : TcpRelay) (r : RelayId) (p : PairRef) (side : Side)

theorem conns_sit_self : (t.sit r p side).conns r
    = { t.conns r with seat := some (p, side), phase := .waiting p side } :=
  conns_modifyConn_self ..

variable {r} in
theorem conns_sit_of_ne {x : RelayId} (hx : x ≠ r) : (t.sit r p side).conns x = t.conns x :=
  conns_modifyConn_of_ne _ hx _

theorem seats_sit : (t.sit r p side).seats = Function.update t.seats r (some (p, side)) := by
  funext x
  unfold seats
  by_cases hx : x = r
  · rw [hx, conns_sit_self, Function.update_self]
  · rw [t.conns_sit_of_ne p side hx, Function.update_of_ne hx]

/-- Taking a seat moves no bytes. -/
theorem sit_same (x : RelayId) : ((t.sit r p side).conns x).out = (t.conns x).out ∧
    ((t.sit r p side).conns x).readPos = (t.conns x).readPos ∧
    ((t.sit r p side).conns x).stream = (t.conns x).stream := by
  by_cases hx : x = r
  · rw [hx, conns_sit_self]
    exact ⟨rfl, rfl, rfl⟩
  · rw [t.conns_sit_of_ne p side hx]
    exact ⟨rfl, rfl, rfl⟩

/-- The cleanup is about the entries only. -/
theorem conns_cleanup (token : Option String) (role : RoleField) :
    (t.cleanup token role).conns = t.conns := by
  have hvacate : ∀ token f, (t.vacate token f).conns = t.conns := by
    intro token f
    unfold vacate
    split
    · rfl
    · dsimp only
      split
      · rfl
      · rfl
  unfold cleanup
  split
  · rfl
  split
  · rfl
  split
  · exact hvacate ..
  · exact hvacate ..
  · exact hvacate ..
  · rfl
  · rfl

variable {t r p side}

theorem get_sit {p' : PairRef} {side' : Side} {x : RelayId}
    (hget : ((t.sit r p side).pairs p').get side' = some x) :
    (p' = p ∧ side' = side ∧ x = r) ∨ (t.pairs p').get side' = some x := by
  unfold sit modifyConn modifyPair at hget
  dsimp only at hget
  by_cases hp : p' = p
  · rw [hp, Function.update_self] at hget
    by_cases hside : side' = side
    · rw [hside, Pair.get_put_self] at hget
      exact Or.inl ⟨hp, hside, (Option.some.inj hget).symm⟩
    · rw [Pair.get_put_of_ne _ hside] at hget
      rw [hp]
      exact Or.inr hget
  · rw [Function.update_of_ne hp] at hget
    exact Or.inr hget

end TcpRelay

namespace Piped

/-- **The quiet step.** -/
theorem modifyConn {t : TcpRelay} (h : Piped t) (r : RelayId) (f : RelayConn → RelayConn)
    (hquiet : Quiet (t.conns r) (f (t.conns r))) (hfits : t.seats.Fits r (f (t.conns r)).phase)
    (hordered : (f (t.conns r)).Ordered) : Piped (t.modifyConn r f) := by
  have hseats := seats_modifyConn t r f hquiet.seat
  have hq : ∀ x, Quiet (t.conns x) ((t.modifyConn r f).conns x) := by
    intro x
    by_cases hx : x = r
    · rw [hx, conns_modifyConn_self]
      exact hquiet
    · rw [conns_modifyConn_of_ne t hx]
      exact Quiet.refl _
  constructor
  case single =>
    rw [hseats]
    exact h.single
  case fits =>
    intro x
    rw [hseats]
    by_cases hx : x = r
    · rw [hx, conns_modifyConn_self]
      exact hfits
    · rw [conns_modifyConn_of_ne t hx]
      exact h.fits x
  case entries =>
    rw [hseats]
    exact h.entries
  case ordered =>
    intro x
    by_cases hx : x = r
    · rw [hx, conns_modifyConn_self]
      exact hordered
    · rw [conns_modifyConn_of_ne t hx]
      exact h.ordered x
  case receives =>
    intro x o hp
    rw [hseats] at hp
    exact (h.receives x o hp).quiet (hq x) (hq o) (h.bound o)
  case alone =>
    intro x hx
    rw [hseats] at hx
    rw [(hq x).payload, (hq x).readPos]
    exact h.alone x hx
  case bound =>
    intro x
    rw [(hq x).readPos]
    exact (h.bound x).trans (hq x).stream.length_le

/-- A coroutine goes to another `await` of its way before the event's `wait`, or after it. -/
theorem goto {t : TcpRelay} (h : Piped t) (r : RelayId) {phase : RelayPhase}
    (hfits : t.seats.Fits r phase) (hearly : phase.early = (t.conns r).phase.early) :
    Piped (t.goto r phase) :=
  h.modifyConn r _ ⟨rfl, rfl, List.prefix_rfl, rfl, id⟩ hfits
    ⟨(h.ordered r).orderly, fun he => (h.ordered r).early (hearly ▸ he),
      fun he => (h.ordered r).late (hearly ▸ he)⟩

theorem close {t : TcpRelay} (h : Piped t) (r : RelayId) : Piped (t.close r) :=
  h.modifyConn r _ ⟨rfl, rfl, List.prefix_rfl, rfl, fun _ => rfl⟩ (h.fits r)
    ⟨(h.ordered r).orderly, (h.ordered r).early, fun _ => Or.inl rfl⟩

theorem finish {t : TcpRelay} (h : Piped t) (r : RelayId) : Piped (t.finish r) := by
  unfold TcpRelay.finish TcpRelay.goto
  refine (h.close r).modifyConn r _ ⟨rfl, rfl, List.prefix_rfl, rfl, id⟩ trivial ?_
  refine ⟨((h.close r).ordered r).orderly, by simp [RelayPhase.early], fun _ => Or.inl ?_⟩
  show ((t.close r).conns r).closed = true
  rw [TcpRelay.close, conns_modifyConn_self]

theorem unpipe {t : TcpRelay} (h : Piped t) (r other : RelayId) : Piped (t.unpipe r other) :=
  (h.close other).finish r

end Piped

/-- A line of the relay's own is no data. -/
theorem RelayConn.quiet_write (c : RelayConn) {x : RelayOut} (hx : x.isData = false) :
    Quiet c (c.write x) := by
  unfold RelayConn.write
  split
  · exact Quiet.refl c
  · refine ⟨rfl, rfl, List.prefix_rfl, ?_, id⟩
    dsimp only
    have hnil : payload [x] = [] := payload_eq_nil (by simpa using hx)
    rw [payload_append, hnil, List.append_nil]

theorem RelayConn.ordered_write {c : RelayConn} (h : c.Ordered) (hearly : c.phase.early = true)
    {x : RelayOut} (hx : x.isData = false) (hne : x ≠ .paired) : (c.write x).Ordered := by
  unfold RelayConn.write
  split
  · exact h
  · have hun := h.early hearly
    refine ⟨h.orderly.line hun hx hne, ?_, fun hlate => absurd (hlate.symm.trans hearly) (by simp)⟩
    intro _ hin
    rcases List.mem_append.1 hin with hin | hin
    · exact hun hin
    · exact hne (List.mem_singleton.1 hin).symm

/-- Data to a connection that has been told. -/
theorem RelayConn.Ordered.data {c : RelayConn} (h : c.Ordered)
    (htold : c.closed = true ∨ .paired ∈ c.out) (chunk : Bytes) :
    (c.write (.data chunk)).Ordered := by
  unfold RelayConn.write
  split
  · exact h
  · next hopen =>
      have hin := htold.resolve_left hopen
      exact ⟨h.orderly.data hin chunk, fun he => absurd hin (h.early he),
        fun _ => Or.inr (List.mem_append_left _ hin)⟩

/-- What has been read and is written to the partner is received. -/
theorem RelayConn.Receives.data {c d d' : RelayConn} (h : c.Receives d) {chunk : Bytes}
    (htake : d'.stream.take d'.readPos = d.stream.take d.readPos ++ chunk) :
    (c.write (.data chunk)).Receives d' := by
  unfold RelayConn.Receives RelayConn.write
  rw [htake]
  split
  · next hclosed =>
      exact ⟨h.1.trans (List.prefix_append _ _), fun hopen =>
        absurd (hopen.symm.trans hclosed) (by simp)⟩
  · next hopen =>
      have heq := h.2 (by simpa using hopen)
      have hpay : payload (c.out ++ [.data chunk]) = d.stream.take d.readPos ++ chunk := by
        rw [payload_append, heq]
        simp [payload]
      exact ⟨hpay ▸ List.prefix_rfl, fun _ => hpay⟩

namespace Piped

/-- One more line to a connection that is not paired yet, which then stands at `phase`. -/
theorem tell {t : TcpRelay} (h : Piped t) (r : RelayId) {x : RelayOut} (hx : x.isData = false)
    (hne : x ≠ .paired) (hearly : (t.conns r).phase.early = true) {phase : RelayPhase}
    (hfits : t.seats.Fits r phase) (hnext : phase.early = true) :
    Piped ((t.write r x).goto r phase) := by
  have hphase : ((t.conns r).write x).phase = (t.conns r).phase := RelayConn.phase_write _ _
  have hwritten : Piped (t.write r x) := by
    refine h.modifyConn r _ (RelayConn.quiet_write _ hx) ?_ ?_
    · rw [hphase]
      exact h.fits r
    · exact RelayConn.ordered_write (h.ordered r) hearly hx hne
  refine hwritten.goto r ?_ ?_
  · rw [TcpRelay.write, seats_modifyConn _ _ _ (RelayConn.seat_write _ _)]
    exact hfits
  · rw [TcpRelay.write, conns_modifyConn_self, hphase, hearly, hnext]

/-- The `relay_paired` line to a connection that sits opposite to another one. -/
theorem pairing {t : TcpRelay} (h : Piped t) {r other : RelayId}
    (hearly : (t.conns r).phase.early = true) (hpartners : t.seats.Partners r other) :
    Piped ((t.write r .paired).goto r (.pairing other)) := by
  have hboth : (t.write r .paired).goto r (.pairing other)
      = t.modifyConn r (fun c => { c.write .paired with phase := .pairing other }) := by
    simp [TcpRelay.write, TcpRelay.goto, TcpRelay.modifyConn]
  have hquiet := RelayConn.quiet_write (t.conns r) (x := .paired) rfl
  have hun := (h.ordered r).early hearly
  rw [hboth]
  refine h.modifyConn r _ ⟨hquiet.seat, hquiet.readPos, hquiet.stream, hquiet.payload, hquiet.closed⟩
    hpartners ⟨?_, by simp [RelayPhase.early], fun _ => ?_⟩
  · show Orderly ((t.conns r).write .paired).out
    unfold RelayConn.write
    split
    · exact (h.ordered r).orderly
    · exact (h.ordered r).orderly.paired hun
  · show ((t.conns r).write .paired).closed = true ∨ .paired ∈ ((t.conns r).write .paired).out
    unfold RelayConn.write
    split
    · next hclosed => exact Or.inl hclosed
    · exact Or.inr (List.mem_append_right _ (List.mem_singleton.2 rfl))

theorem pairUp {t : TcpRelay} (h : Piped t) {r : RelayId} {p : PairRef} {side : Side}
    (hphase : (t.conns r).phase = .waiting p side) : Piped (t.pairUp r p side) := by
  unfold TcpRelay.pairUp
  split
  · exact h.finish r
  · next other hother =>
      have hseat : t.seats r = some (p, side) := by
        have hfits := h.fits r
        rwa [hphase] at hfits
      refine h.pairing ?_ ⟨p, side, hseat, h.entries p side.opposite other hother⟩
      rw [hphase]
      rfl

/-- A change of an entry that seats nobody. -/
theorem modifyPair {t : TcpRelay} (h : Piped t) (p : PairRef) (f : Pair → Pair)
    (hf : ∀ side r, (f (t.pairs p)).get side = some r → (t.pairs p).get side = some r) :
    Piped (t.modifyPair p f) := by
  refine ⟨h.single, h.fits, ?_, h.ordered, h.receives, h.alone, h.bound⟩
  intro p' side r hget
  unfold TcpRelay.modifyPair at hget
  dsimp only at hget
  by_cases hp : p' = p
  · rw [hp, Function.update_self] at hget
    rw [hp]
    exact h.entries p side r (hf side r hget)
  · rw [Function.update_of_ne hp] at hget
    exact h.entries p' side r hget

theorem setReady {t : TcpRelay} (h : Piped t) (p : PairRef) : Piped (t.setReady p) := by
  unfold TcpRelay.setReady
  split
  · refine h.modifyPair p _ ?_
    intro side r hget
    cases side
    · exact hget
    · exact hget
  · exact h

theorem vacate {t : TcpRelay} (h : Piped t) (token : String) (f : Pair → Pair)
    (hf : ∀ q side r, (f q).get side = some r → q.get side = some r) :
    Piped (t.vacate token f) := by
  unfold TcpRelay.vacate
  split
  · exact h
  · next p _ =>
      have hafter := h.modifyPair p f (hf _)
      dsimp only
      split
      · exact ⟨hafter.single, hafter.fits, hafter.entries, hafter.ordered, hafter.receives,
          hafter.alone, hafter.bound⟩
      · exact hafter

theorem cleanup {t : TcpRelay} (h : Piped t) (token : Option String) (role : RoleField) :
    Piped (t.cleanup token role) := by
  unfold TcpRelay.cleanup
  split
  · exact h
  · split
    · exact h
    · split
      · next side =>
          refine h.vacate _ _ ?_
          intro q side' r hget
          by_cases hside : side' = side
          · rw [hside, Pair.get_put_self] at hget
            exact absurd hget (by simp)
          · rwa [Pair.get_put_of_ne _ hside] at hget
      · refine h.vacate _ _ ?_
        intro q side r hget
        cases side
        · exact hget
        · exact hget
      · exact h.vacate _ _ (fun _ _ _ => id)
      · exact h
      · exact h

theorem registerPair {t : TcpRelay} (h : Piped t) (token : String) : Piped (t.registerPair token) := by
  refine ⟨h.single, h.fits, ?_, h.ordered, h.receives, h.alone, h.bound⟩
  intro p side r hget
  unfold TcpRelay.registerPair at hget
  dsimp only at hget
  by_cases hp : p = t.allocated
  · rw [hp, Function.update_self] at hget
    cases side
    · exact absurd hget (by simp [Pair.get])
    · exact absurd hget (by simp [Pair.get])
  · rw [Function.update_of_ne hp] at hget
    exact h.entries p side r hget

/-- **Taking a seat** that nobody has taken before. -/
theorem sit {t : TcpRelay} (h : Piped t) {r : RelayId} {p : PairRef} {side : Side}
    (hphase : (t.conns r).phase = .accepting p side)
    (hfirst : ∀ r', r' ≠ r → t.seats r' ≠ some (p, side)) : Piped (t.sit r p side) := by
  have hfits := h.fits r
  rw [hphase] at hfits
  have hnone : t.seats r = none := hfits
  have hvacant : ∀ x, t.seats x ≠ some (p, side) := by
    intro x
    by_cases hx : x = r
    · rw [hx, hnone]
      simp
    · exact hfirst x hx
  have hseats := t.seats_sit r p side
  have hself := t.conns_sit_self r p side
  have hother : ∀ x, x ≠ r → (t.sit r p side).conns x = t.conns x :=
    fun x hx => t.conns_sit_of_ne p side hx
  have hsame := t.sit_same r p side
  have hseated : ∀ x s, t.seats x = some s → (t.sit r p side).seats x = some s := by
    intro x s hx
    rw [hseats]
    exact Seating.update_of_some hnone hx
  have hkeep : ∀ x o, t.seats.Partners x o → (t.sit r p side).seats.Partners x o := by
    intro x o hp
    rw [hseats]
    exact hp.update hnone
  have hfresh : ∀ x y, (∀ z, ¬ t.seats.Partners x z) → (∀ z, ¬ t.seats.Partners y z) →
      ((t.sit r p side).conns x).Receives ((t.sit r p side).conns y) := by
    intro x y hx hy
    unfold RelayConn.Receives
    rw [(hsame x).1, (hsame y).2.1, (h.alone x hx).1, (h.alone y hy).2, List.take_zero]
    exact ⟨List.prefix_rfl, fun _ => rfl⟩
  constructor
  case single => exact hseats ▸ h.single.update hvacant
  case fits =>
    intro x
    by_cases hx : x = r
    · rw [hx, hself, hseats]
      exact Function.update_self ..
    · have hsx : (t.sit r p side).seats x = t.seats x := by rw [hseats, Function.update_of_ne hx]
      rw [hother x hx]
      exact (h.fits x).mono hsx (hkeep x)
  case entries =>
    intro p' side' x hget
    rcases TcpRelay.get_sit hget with ⟨hp, hside, hx⟩ | hbefore
    · rw [hseats, hp, hside, hx, Function.update_self]
    · exact hseated x _ (h.entries p' side' x hbefore)
  case ordered =>
    intro x
    by_cases hx : x = r
    · have hordered := h.ordered r
      rw [hx, hself]
      refine ⟨hordered.orderly, fun _ => hordered.early ?_, by simp [RelayPhase.early]⟩
      rw [hphase]
      rfl
    · rw [hother x hx]
      exact h.ordered x
  case receives =>
    intro x o hp
    -- neither the newcomer nor whoever sits opposite has had a partner before
    rw [hseats] at hp
    by_cases hx : x = r
    · obtain ⟨hr, ho⟩ := Seating.unmet hnone hvacant (hx ▸ hp)
      exact hfresh x o (hx ▸ hr) ho
    · by_cases ho : o = r
      · obtain ⟨hr, hx'⟩ := Seating.unmet hnone hvacant (ho ▸ hp.symm)
        exact hfresh x o hx' (ho ▸ hr)
      · rw [hother x hx, hother o ho]
        obtain ⟨p', side', hx', ho'⟩ := hp
        rw [Function.update_of_ne hx] at hx'
        rw [Function.update_of_ne ho] at ho'
        exact h.receives x o ⟨p', side', hx', ho'⟩
  case alone =>
    intro x hx
    rw [(hsame x).1, (hsame x).2.1]
    exact h.alone x (fun o hp => hx o (hkeep x o hp))
  case bound =>
    intro x
    rw [(hsame x).2.1, (hsame x).2.2]
    exact h.bound x

theorem join {t : TcpRelay} (h : Piped t) {r : RelayId} {p : PairRef} {side : Side}
    (hphase : (t.conns r).phase = .accepting p side)
    (hfirst : ∀ r', r' ≠ r → t.seats r' ≠ some (p, side)) : Piped (t.join r p side) := by
  have hsit := h.sit hphase hfirst
  have hready := hsit.setReady p
  have hwaiting : (((t.sit r p side).setReady p).conns r).phase = .waiting p side := by
    have hconns : ((t.sit r p side).setReady p).conns = (t.sit r p side).conns := by
      unfold TcpRelay.setReady
      split
      · rfl
      · rfl
    rw [hconns, TcpRelay.sit, conns_modifyConn_self]
  unfold TcpRelay.join
  dsimp only
  split
  · split
    · exact hready.pairUp hwaiting
    · exact hready
  · exact hsit.finish r

end Piped

/-- `read` can return `n` bytes, and some. -/
def TcpRelay.Returns (t : TcpRelay) (r : RelayId) (n : Nat) : Prop :=
  0 < n ∧ n ≤ 65536 ∧ n ≤ ((t.conns r).stream.drop (t.conns r).readPos).length

namespace Piped

/-- What a turn of the pipe does to the reader and to its partner. -/
structure Forwarded (t t' : TcpRelay) (r other : RelayId) (n : Nat) (chunk : Bytes) : Prop where
  reader : t'.conns r =
    { t.conns r with readPos := (t.conns r).readPos + n, phase := .forwarding other }
  partner : t'.conns other = (t.conns other).write (.data chunk)
  others : ∀ x, x ≠ r → x ≠ other → t'.conns x = t.conns x

namespace Forwarded

variable {t t' : TcpRelay} {r other : RelayId} {n : Nat} {chunk : Bytes}

theorem seats (hf : Forwarded t t' r other n chunk) : t'.seats = t.seats := by
  funext x
  unfold TcpRelay.seats
  by_cases hxr : x = r
  · rw [hxr, hf.reader]
  · by_cases hxo : x = other
    · rw [hxo, hf.partner, RelayConn.seat_write]
    · rw [hf.others x hxr hxo]

theorem fits (hf : Forwarded t t' r other n chunk) (h : Piped t) (hp : t.seats.Partners r other)
    (x : RelayId) : t'.seats.Fits x (t'.conns x).phase := by
  rw [hf.seats]
  by_cases hxr : x = r
  · rw [hxr, hf.reader]
    exact hp
  · by_cases hxo : x = other
    · rw [hxo, hf.partner, RelayConn.phase_write]
      exact h.fits other
    · rw [hf.others x hxr hxo]
      exact h.fits x

theorem ordered (hf : Forwarded t t' r other n chunk) (h : Piped t)
    (hphase : (t.conns r).phase = .reading other)
    (htold : (t.conns other).closed = true ∨ .paired ∈ (t.conns other).out) (x : RelayId) :
    (t'.conns x).Ordered := by
  by_cases hxr : x = r
  · have hordered := h.ordered r
    rw [hxr, hf.reader]
    refine ⟨hordered.orderly, by simp [RelayPhase.early], fun _ => hordered.late ?_⟩
    rw [hphase]
    rfl
  · by_cases hxo : x = other
    · rw [hxo, hf.partner]
      exact (h.ordered other).data htold chunk
    · rw [hf.others x hxr hxo]
      exact h.ordered x

theorem receives (hf : Forwarded t t' r other n chunk) (h : Piped t)
    (hp : t.seats.Partners r other)
    (hchunk : ((t.conns r).stream.drop (t.conns r).readPos).take n = chunk) {x o : RelayId}
    (hxo : t.seats.Partners x o) : (t'.conns x).Receives (t'.conns o) := by
  have htake : (t.conns r).stream.take ((t.conns r).readPos + n)
      = (t.conns r).stream.take (t.conns r).readPos ++ chunk := by rw [← hchunk, List.take_add]
  by_cases hx : x = other
  · -- the partner receives what has been read
    obtain rfl := hp.symm.unique h.single (hx ▸ hxo)
    rw [hx, hf.partner, hf.reader]
    exact (h.receives other r hp.symm).data htake
  · by_cases hxr : x = r
    · -- the reader's own side of the pipe is as it was
      obtain rfl := hp.unique h.single (hxr ▸ hxo)
      have hflow := h.receives r other hp
      rw [hxr, hf.reader, hf.partner]
      unfold RelayConn.Receives RelayConn.write
      split
      · exact hflow
      · exact hflow
    · have hor : o ≠ r := by
        rintro rfl
        exact hx (hxo.symm.unique h.single hp)
      have hoo : o ≠ other := by
        rintro rfl
        exact hxr (hxo.symm.unique h.single hp.symm)
      rw [hf.others x hxr hx, hf.others o hor hoo]
      exact h.receives x o hxo

theorem bound (hf : Forwarded t t' r other n chunk) (h : Piped t)
    (hn : n ≤ ((t.conns r).stream.drop (t.conns r).readPos).length) (x : RelayId) :
    (t'.conns x).readPos ≤ (t'.conns x).stream.length := by
  by_cases hxr : x = r
  · have hbound := h.bound r
    rw [hxr, hf.reader]
    rw [List.length_drop] at hn
    dsimp only
    omega
  · by_cases hxo : x = other
    · have hbound := h.bound other
      rw [hxo, hf.partner]
      unfold RelayConn.write
      split
      · exact hbound
      · exact hbound
    · rw [hf.others x hxr hxo]
      exact h.bound x

end Forwarded

/-- **Forwarding** what has been read to the partner, if it has been told. -/
theorem relay {t : TcpRelay} (h : Piped t) {r other : RelayId} {n : Nat}
    (hphase : (t.conns r).phase = .reading other)
    (htold : (t.conns other).closed = true ∨ .paired ∈ (t.conns other).out)
    (hn : n ≤ ((t.conns r).stream.drop (t.conns r).readPos).length) :
    Piped (((t.write other (.data (((t.conns r).stream.drop (t.conns r).readPos).take n))).modifyConn
      r (fun c => { c with readPos := c.readPos + n })).goto r (.forwarding other)) := by
  have hpartners : t.seats.Partners r other := by
    have hfits := h.fits r
    rwa [hphase] at hfits
  have hne := hpartners.ne
  generalize hchunk : ((t.conns r).stream.drop (t.conns r).readPos).take n = chunk
  generalize hafter : ((t.write other (.data chunk)).modifyConn r
    (fun c => { c with readPos := c.readPos + n })).goto r (.forwarding other) = t'
  have hf : Forwarded t t' r other n chunk := by
    constructor
    · rw [← hafter, TcpRelay.goto, conns_modifyConn_self, conns_modifyConn_self, TcpRelay.write,
        conns_modifyConn_of_ne _ hne]
    · rw [← hafter, TcpRelay.goto, conns_modifyConn_of_ne _ hne.symm,
        conns_modifyConn_of_ne _ hne.symm, TcpRelay.write, conns_modifyConn_self]
    · intro x hxr hxo
      rw [← hafter, TcpRelay.goto, conns_modifyConn_of_ne _ hxr, conns_modifyConn_of_ne _ hxr,
        TcpRelay.write, conns_modifyConn_of_ne _ hxo]
  have hpairs : t'.pairs = t.pairs := by
    rw [← hafter]
    rfl
  constructor
  case single => exact hf.seats ▸ h.single
  case fits => exact hf.fits h hpartners
  case entries =>
    rw [hpairs, hf.seats]
    exact h.entries
  case ordered => exact hf.ordered h hphase htold
  case receives =>
    intro x o hp
    rw [hf.seats] at hp
    exact hf.receives h hpartners hchunk hp
  case alone =>
    intro x hx
    rw [hf.seats] at hx
    have hxr : x ≠ r := fun heq => hx other (heq ▸ hpartners)
    have hxo : x ≠ other := fun heq => hx r (heq ▸ hpartners.symm)
    rw [hf.others x hxr hxo]
    exact h.alone x hx
  case bound => exact hf.bound h hn

theorem forward {t : TcpRelay} (h : Piped t) {r other : RelayId} {n : Nat}
    (hphase : (t.conns r).phase = .reading other)
    (htold : t.Returns r n → (t.conns other).closed = true ∨ .paired ∈ (t.conns other).out) :
    Piped (t.forward r other n) := by
  unfold TcpRelay.forward
  dsimp only
  split
  · split
    · exact h.unpipe r other
    · exact h
  · next hn =>
      split
      · next hle => exact h.relay hphase (htold ⟨Nat.pos_of_ne_zero hn, hle⟩) hle.2
      · exact h

end Piped

/-! ## What a step leaves alone -/

namespace TcpRelay

/-- Whom the coroutine forwards to is its partner. -/
theorem partners_of_target {t : TcpRelay} (h : Piped t) {r other : RelayId}
    (htarget : (t.conns r).phase.target = some other) : t.seats.Partners r other := by
  have hfits := h.fits r
  cases hphase : (t.conns r).phase
  case reading o =>
    rw [hphase] at htarget hfits
    obtain rfl := Option.some.inj htarget
    exact hfits
  case forwarding o =>
    rw [hphase] at htarget hfits
    obtain rfl := Option.some.inj htarget
    exact hfits
  all_goals exact absurd (hphase ▸ htarget) (by simp [RelayPhase.target])

/-- A seat that is taken stays taken by the same connection. -/
theorem seats_step {t : TcpRelay} (h : Piped t) (e : RelayEvent) {x : RelayId}
    {s : PairRef × Side} (hx : t.seats x = some s) : (t.step e).seats x = some s := by
  rcases t.step_changes e with hchanges | ⟨p, side, -, hphase, hchanges⟩
  · exact (hchanges.seat x).trans hx
  · -- who takes a seat had none
    have hne : x ≠ e.conn := by
      rintro rfl
      have hfits := h.fits e.conn
      rw [hphase] at hfits
      exact absurd (hfits.symm.trans hx) (by simp)
    refine (hchanges.seat x).trans ?_
    rw [t.conns_sit_of_ne p side hne]
    exact hx

/-- A step of one connection changes another one only if it forwards to it. -/
theorem conns_step_of_ne {t : TcpRelay} (h : Piped t) (e : RelayEvent) {x : RelayId}
    (hx : x ≠ e.conn) (hpartners : ¬ t.seats.Partners e.conn x) :
    (t.step e).conns x = t.conns x := by
  have htarget : (t.conns e.conn).phase.target ≠ some x := fun heq =>
    hpartners (partners_of_target h heq)
  rcases t.step_changes e with hchanges | ⟨p, side, -, -, hchanges⟩
  · exact hchanges.conns_of_ne hx htarget
  · exact (hchanges.conns_of_ne hx htarget).trans (t.conns_sit_of_ne p side hx)

/-! ## Runs of the relay -/

/-- Nobody else has ever sat where the connection is about to sit. -/
def FirstOfItsRole (t : TcpRelay) : RelayEvent → Prop
  | .resume r true => ∀ p side, (t.conns r).phase = .accepting p side →
      ∀ r', r' ≠ r → (t.conns r').seat ≠ some (p, side)
  | _ => True

/-- `read` returns bytes only when the coroutine of the other side has gone on from the event's
    `wait`. -/
def PartnerAwake (t : TcpRelay) : RelayEvent → Prop
  | .read r n => ∀ other, (t.conns r).phase = .reading other → t.Returns r n →
      ∀ p side, (t.conns other).phase ≠ .waiting p side
  | _ => True

/-- Once it has gone on, it has sent its own connection the `relay_paired` line, or closed it. -/
theorem told_of_awake {t : TcpRelay} (h : Piped t) {r other : RelayId}
    (hphase : (t.conns r).phase = .reading other)
    (hawake : ∀ p side, (t.conns other).phase ≠ .waiting p side) :
    (t.conns other).closed = true ∨ .paired ∈ (t.conns other).out := by
  refine (h.ordered other).late ?_
  have hpartners : t.seats.Partners r other := by
    have hfits := h.fits r
    rwa [hphase] at hfits
  obtain ⟨p, side, -, hseat⟩ := hpartners
  -- before the `wait` it has no seat
  have hfits := h.fits other
  cases hother : (t.conns other).phase
  case waiting p side => exact absurd hother (hawake p side)
  case idle | handshake | rejecting | accepting =>
    rw [hother] at hfits
    exact absurd (hfits.symm.trans hseat) (by simp)
  all_goals rfl

end TcpRelay

namespace Piped

/-- The handshake of a connection ends with an answer, whether it is accepted or not. -/
theorem onRelay {t : TcpRelay} (h : Piped t) {r : RelayId} (hphase : (t.conns r).phase = .handshake)
    (token : Option String) (role : RoleField) : Piped (t.onRelay r token role) := by
  have hfits := h.fits r
  rw [hphase] at hfits
  have hread : Piped (t.modifyConn r (fun c => { c with token := token, role := role })) :=
    h.modifyConn r _ ⟨rfl, rfl, List.prefix_rfl, rfl, id⟩ (h.fits r)
      ⟨(h.ordered r).orderly, (h.ordered r).early, (h.ordered r).late⟩
  have hearly : ((t.modifyConn r
      (fun c => { c with token := token, role := role })).conns r).phase.early = true := by
    rw [conns_modifyConn_self, hphase]
    rfl
  have hseats := seats_modifyConn t r (fun c => { c with token := token, role := role }) rfl
  unfold TcpRelay.onRelay
  dsimp only
  split
  · exact hread.tell r rfl (by simp) hearly (by rw [hseats]; exact hfits) rfl
  · exact hread.tell r rfl (by simp) hearly (by rw [hseats]; exact hfits) rfl

theorem handshake {t : TcpRelay} (h : Piped t) (r : RelayId) (line : Handshake) :
    Piped (t.step (.handshake r line)) := by
  unfold TcpRelay.step
  dsimp only
  split
  · next hphase =>
      have hfits := h.fits r
      rw [hphase] at hfits
      cases line with
      | relay token role => exact h.onRelay hphase token role
      | other => exact h.tell r rfl (by simp) (by rw [hphase]; rfl) hfits rfl
      | failure => exact h.finish r
  · exact h

/-- What comes after an `await`, unless somebody else has sat where the connection is about to. -/
theorem resume {t : TcpRelay} (h : Piped t) (r : RelayId) (ok : Bool)
    (hfirst : t.FirstOfItsRole (.resume r ok)) : Piped (t.resume r ok) := by
  have hfits := h.fits r
  unfold TcpRelay.resume
  dsimp only
  split
  · exact h.finish r
  · next p side hphase =>
      split
      · next hok =>
          subst hok
          exact h.join hphase (hfirst p side hphase)
      · exact h.finish r
  · next p side hphase =>
      split
      · exact h.pairUp hphase
      · exact h
  · next other hphase =>
      rw [hphase] at hfits
      split
      · exact h.goto r hfits (by rw [hphase]; rfl)
      · exact h.finish r
  · next other hphase =>
      rw [hphase] at hfits
      split
      · exact h.goto r hfits (by rw [hphase]; rfl)
      · exact h.unpipe r other
  · next hphase =>
      refine (h.cleanup _ _).goto r trivial ?_
      rw [TcpRelay.conns_cleanup, hphase]
      rfl
  · exact h

/-- **One step** of a connection keeps the pipes apart. -/
theorem step {t : TcpRelay} (h : Piped t) (e : RelayEvent) (hfirst : t.FirstOfItsRole e)
    (hawake : t.PartnerAwake e) : Piped (t.step e) := by
  cases e with
  | connect r =>
      unfold TcpRelay.step
      dsimp only
      split
      · next hphase =>
          have hfits := h.fits r
          rw [hphase] at hfits
          exact h.goto r hfits (by rw [hphase]; rfl)
      · exact h
  | handshake r line => exact h.handshake r line
  | receive r bytes =>
      unfold TcpRelay.step
      dsimp only
      split
      · exact h
      · exact h.modifyConn r _ ⟨rfl, rfl, List.prefix_append _ _, rfl, id⟩ (h.fits r)
          ⟨(h.ordered r).orderly, (h.ordered r).early, (h.ordered r).late⟩
  | hangup r =>
      unfold TcpRelay.step
      exact h.modifyConn r _ ⟨rfl, rfl, List.prefix_rfl, rfl, id⟩ (h.fits r)
        ⟨(h.ordered r).orderly, (h.ordered r).early, (h.ordered r).late⟩
  | read r n =>
      unfold TcpRelay.step
      dsimp only
      split
      · next other hphase =>
          exact h.forward hphase fun hreturns =>
            TcpRelay.told_of_awake h hphase (hawake other hphase hreturns)
      · exact h
  | readFails r =>
      unfold TcpRelay.step
      dsimp only
      split
      · exact h.unpipe ..
      · exact h
  | resume r ok => exact h.resume r ok hfirst

end Piped

theorem piped_empty : Piped {} := by
  constructor
  case single =>
    intro r r' s hr
    exact absurd hr (by simp [TcpRelay.seats])
  case fits =>
    intro r
    rfl
  case entries =>
    intro p side r hget
    cases side
    · exact absurd hget (by simp [Pair.get])
    · exact absurd hget (by simp [Pair.get])
  case ordered =>
    intro r
    exact ⟨Orderly.nil, by simp, by simp [RelayPhase.early]⟩
  case receives =>
    rintro r o ⟨p, side, hr, -⟩
    exact absurd hr (by simp [TcpRelay.seats])
  case alone =>
    intro r _
    exact ⟨rfl, rfl⟩
  case bound =>
    intro r
    exact Nat.zero_le _

/-- What happens to the relay and to `PAIRS`. -/
inductive PipeEvent where
  /-- `on_join` calls `register_pair`. -/
  | registerPair (token : String)
  | conn (e : RelayEvent)
deriving DecidableEq, Repr

namespace TcpRelay

def pipeStep (t : TcpRelay) : PipeEvent → TcpRelay
  | .registerPair token => t.registerPair token
  | .conn e => t.step e

/-- The conditions on a step. -/
def Undisturbed (t : TcpRelay) : PipeEvent → Prop
  | .registerPair _ => True
  | .conn e => t.FirstOfItsRole e ∧ t.PartnerAwake e

end TcpRelay

theorem Piped.pipeStep {t : TcpRelay} (h : Piped t) (e : PipeEvent) (hq : t.Undisturbed e) :
    Piped (t.pipeStep e) := by
  cases e with
  | registerPair token => exact h.registerPair token
  | conn e => exact h.step e hq.1 hq.2

theorem seats_pipeStep {t : TcpRelay} (h : Piped t) (e : PipeEvent) {x : RelayId}
    {s : PairRef × Side} (hx : t.seats x = some s) : (t.pipeStep e).seats x = some s := by
  cases e with
  | registerPair token => exact hx
  | conn e => exact TcpRelay.seats_step h e hx

/-- The state that the relay reaches. -/
abbrev relayRun (es : List PipeEvent) : TcpRelay := runFrom TcpRelay.pipeStep {} es

/-- The lines of a connection before `relay_paired`, and what comes after it. -/
def beforePaired (out : List RelayOut) : List RelayOut := out.takeWhile (· ≠ .paired)

def afterPaired (out : List RelayOut) : List RelayOut := (out.dropWhile (· ≠ .paired)).tail

theorem Orderly.split {out : List RelayOut} (h : Orderly out) :
    payload (beforePaired out) = [] ∧ payload (afterPaired out) = payload out ∧
      ∀ x ∈ afterPaired out, x.isData = true := by
  have hkeep : ∀ l : List RelayOut, .paired ∉ l → ∀ x ∈ l, decide (x ≠ .paired) = true := by
    intro l hl x hx
    have hne : x ≠ .paired := fun heq => hl (heq ▸ hx)
    exact decide_eq_true hne
  by_cases hin : RelayOut.paired ∈ out
  · obtain ⟨before, after, rfl, hbefore⟩ := List.eq_append_cons_of_mem hin
    obtain ⟨h1, h2, h3⟩ := h.around rfl
    unfold beforePaired afterPaired
    rw [List.takeWhile_append_of_pos (hkeep before hbefore),
      List.dropWhile_append_of_pos (hkeep before hbefore), h2]
    simpa using ⟨h1, h3⟩
  · have hnil := payload_eq_nil (fun x hx => (h.lines hin x hx).1)
    unfold beforePaired afterPaired
    rw [List.takeWhile_eq_self_iff.2 (hkeep out hin), List.dropWhile_eq_nil_iff.2 (hkeep out hin),
      hnil]
    exact ⟨rfl, rfl, by simp⟩

/-- The relay is an exclusive and transparent pipe in the run. What an endpoint receives is what has
    been written to it, or an initial part of that. -/
structure ExclusivePipe (es : List PipeEvent) : Prop where
  /-- There is one partner of the opposite role for the whole run, and after the `relay_paired` line
      come bytes that the partner has sent, from its first one on. -/
  transparent : ∀ r, ∃ o, ∀ pre, pre <+: es →
    (∀ x ∈ afterPaired ((relayRun pre).conns r).out, x.isData = true) ∧
      payload (afterPaired ((relayRun pre).conns r).out) <+: ((relayRun pre).conns o).stream ∧
      (payload (afterPaired ((relayRun pre).conns r).out) ≠ [] →
        (relayRun pre).seats.Partners r o)
  /-- No byte of a peer comes before that line. -/
  silent : ∀ pre, pre <+: es → ∀ r, payload (beforePaired ((relayRun pre).conns r).out) = []
  /-- A step of one connection writes to another or closes it only if the two are partners, -/
  apart : ∀ q ∈ history TcpRelay.pipeStep {} es, ∀ e, q.2 = .conn e → ∀ r, r ≠ e.conn →
    ((q.1.step e).conns r).out ≠ (q.1.conns r).out ∨
      ((q.1.step e).conns r).closed ≠ (q.1.conns r).closed →
    (relayRun es).seats.Partners r e.conn
  /-- and a connection has no two partners. -/
  exclusive : ∀ r o o', (relayRun es).seats.Partners r o → (relayRun es).seats.Partners r o' → o = o'

/-- In an undisturbed run the relay keeps its invariant, and seats stay taken. -/
theorem piped_relayRun (pre post : List PipeEvent)
    (h : ∀ q ∈ history TcpRelay.pipeStep {} (pre ++ post), q.1.Undisturbed q.2) :
    Piped (relayRun pre) ∧ ∀ r o, (relayRun pre).seats.Partners r o →
      (relayRun (pre ++ post)).seats.Partners r o := by
  rw [history_append] at h
  have hpre : Piped (relayRun pre) := by
    refine runFrom_invariant TcpRelay.pipeStep Piped TcpRelay.Undisturbed ?_ {} pre piped_empty ?_
    · intro t e ht he
      exact ht.pipeStep e he
    · intro q hq
      exact h q (List.mem_append_left _ hq)
  refine ⟨hpre, ?_⟩
  have hpost := runFrom_invariant TcpRelay.pipeStep
    (fun t => Piped t ∧ ∀ x s, (relayRun pre).seats x = some s → t.seats x = some s)
    TcpRelay.Undisturbed (by
      rintro t e ⟨ht, hseats⟩ he
      exact ⟨ht.pipeStep e he, fun x s hx => seats_pipeStep ht e (hseats x s hx)⟩)
    (relayRun pre) post ⟨hpre, fun _ _ => id⟩
    (fun q hq => h q (List.mem_append_right _ hq))
  rintro r o ⟨p, side, hr, ho⟩
  rw [relayRun, runFrom_append]
  exact ⟨p, side, hpost.2 r _ hr, hpost.2 o _ ho⟩

/-- **The TCP relay is an exclusive, transparent pipe** in every run in which no connection takes a
    seat that another one has taken before it, and nothing is read from a connection while the coroutine
    of its partner is still suspended at the event's `wait`. -/
theorem exclusive_pipe_of_undisturbed (es : List PipeEvent)
    (h : ∀ q ∈ history TcpRelay.pipeStep {} es, q.1.Undisturbed q.2) : ExclusivePipe es := by
  have hend : Piped (relayRun es) := (piped_relayRun es [] (by rwa [List.append_nil])).1
  have hreach : ∀ pre, pre <+: es → Piped (relayRun pre) ∧ ∀ r o,
      (relayRun pre).seats.Partners r o → (relayRun es).seats.Partners r o := by
    rintro pre ⟨post, rfl⟩
    exact piped_relayRun pre post h
  refine ⟨?_, ?_, ?_, ?_⟩
  · intro r
    by_cases hpartner : ∃ o, (relayRun es).seats.Partners r o
    · obtain ⟨o, ho⟩ := hpartner
      refine ⟨o, ?_⟩
      intro pre hpre
      obtain ⟨hpiped, hlater⟩ := hreach pre hpre
      obtain ⟨-, hpay, hdata⟩ := (hpiped.ordered r).orderly.split
      refine ⟨hdata, ?_⟩
      rw [hpay]
      by_cases hmet : ∃ o', (relayRun pre).seats.Partners r o'
      · obtain ⟨o', ho'⟩ := hmet
        obtain rfl := ho.unique hend.single (hlater r o' ho')
        exact ⟨(hpiped.receives r o ho').1.trans (List.take_prefix _ _), fun _ => ho'⟩
      · rw [(hpiped.alone r (not_exists.1 hmet)).1]
        exact ⟨List.nil_prefix, fun hne => absurd rfl hne⟩
    · refine ⟨r, ?_⟩
      intro pre hpre
      obtain ⟨hpiped, hlater⟩ := hreach pre hpre
      obtain ⟨-, hpay, hdata⟩ := (hpiped.ordered r).orderly.split
      rw [hpay, (hpiped.alone r (fun o ho => hpartner ⟨o, hlater r o ho⟩)).1]
      exact ⟨hdata, List.nil_prefix, fun hne => absurd rfl hne⟩
  · intro pre hpre r
    exact ((hreach pre hpre).1.ordered r).orderly.split.1
  · rintro ⟨t, e'⟩ hq e rfl r hr hchanged
    obtain ⟨pre, post, rfl, rfl⟩ := (mem_history_iff TcpRelay.pipeStep {} es t (.conn e)).1 hq
    obtain ⟨hpiped, hlater⟩ := hreach pre (List.prefix_append _ _)
    by_contra hnot
    have hsame := TcpRelay.conns_step_of_ne hpiped e hr
      (fun hp => hnot (hlater _ _ hp.symm))
    rcases hchanged with hout | hclosed
    · exact hout (by rw [hsame])
    · exact hclosed (by rw [hsame])
  · intro r o o' ho ho'
    exact ho.unique hend.single ho'

/-- The handshake of a connection and the `await` after the answer. -/
def joinAs (r : RelayId) (side : Side) : List PipeEvent :=
  [.conn (.connect r), .conn (.handshake r (.relay (some "t") (.side side))), .conn (.resume r true)]

/-- Two connections are paired, and each has started to read. -/
def pairedRun : List PipeEvent :=
  .registerPair "t" :: joinAs 0 .host ++ joinAs 1 .client ++
    [.conn (.resume 0 true), .conn (.resume 0 true), .conn (.resume 1 true)]

theorem exclusive_pipe_of_undisturbed_pair :
    ExclusivePipe (pairedRun ++ [.conn (.receive 0 [7]), .conn (.read 0 1)]) := by
  refine exclusive_pipe_of_undisturbed _ ?_
  simp only [pairedRun, joinAs, List.cons_append, List.nil_append, history_cons, history_nil,
    List.forall_mem_cons]
  refine ⟨trivial, ⟨trivial, trivial⟩, ⟨trivial, trivial⟩, ⟨?_, trivial⟩, ⟨trivial, trivial⟩,
    ⟨trivial, trivial⟩, ⟨?_, trivial⟩, ⟨?_, trivial⟩, ⟨?_, trivial⟩, ⟨?_, trivial⟩,
    ⟨trivial, trivial⟩, ⟨trivial, ?_⟩, by simp⟩
  · rintro p side hphase (_ | _ | r') hr' hseat
    · cases hseat
    · cases hseat
    · cases hseat
  · rintro p side hphase (_ | _ | r') hr' hseat
    · cases hphase
      cases hseat
    · cases hseat
    · cases hseat
  · intro p side hphase
    cases hphase
  · intro p side hphase
    cases hphase
  · intro p side hphase
    cases hphase
  · intro other hphase _ p side hwaiting
    cases hphase
    cases hwaiting

/-- A third connection presents the token in the role of the host: its byte reaches the client before
    that of the host. -/
def thirdConnectionRun : List PipeEvent :=
  pairedRun ++ joinAs 2 .host ++
    [.conn (.resume 2 true), .conn (.receive 2 [1]), .conn (.read 2 1), .conn (.receive 0 [2]),
      .conn (.read 0 1)]

theorem third_connection_injects :
    payload (afterPaired ((relayRun thirdConnectionRun).conns 1).out) = [1, 2] ∧
      ¬ ExclusivePipe thirdConnectionRun := by
  refine ⟨by decide +kernel, ?_⟩
  intro h
  refine absurd (h.exclusive 1 0 2 ⟨0, .client, ?_, ?_⟩ ⟨0, .client, ?_, ?_⟩) (by decide)
  · decide +kernel
  · decide +kernel
  · decide +kernel
  · decide +kernel

end RemotePlay.Server
