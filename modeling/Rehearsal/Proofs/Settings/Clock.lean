import Rehearsal.Proofs.Run.Clock
import Rehearsal.Proofs.Time.Seconds
import Rehearsal.Settings.Read

/-!
# The clock that settings start

Accepted settings have a positive number of seconds for the tick and a start time with an offset.
The tick of the environment that they start is the number in whole microseconds, so it is positive
for more than half a microsecond only. Where it is, a body that asks for the time again and again
is answered with later and later times.
-/

namespace Rehearsal

/-! ## Times that a body asks for -/

def Program.asksTime : Program → Bool
  | .ask .systemTime => true
  | _ => false

/-- The answers to the requests for the time that a body yields itself, one after the other. -/
def Body.stamps (server : Responder) : Body → Environment → List Value
  | .done _, _ | .raise _, _ => []
  | .yield p next, e =>
    match p.simulate server e with
    | .error _ => []
    | .ok (v, after) =>
      (if p.asksTime then [v] else []) ++
        match after.require "advance" >>= Environment.advance with
        | .error _ => []
        | .ok resumed => (next v).stamps server resumed

theorem Value.less_instant {s t : Time.Instant} (offset : t.offset = s.offset)
    (wall : s.wall < t.wall) : (Value.instant s).less (.instant t) = .ok true := by
  unfold Value.less Value.compare Time.Instant.universal?
  rw [offset]
  cases s.offset with
  | none =>
    have order : Ord.compare s.wall t.wall = .lt := Nat.compare_eq_lt.mpr wall
    simp [order, Relation.holds]
  | some o =>
    have order : Ord.compare ((s.wall : Int) - o.micros) (t.wall - o.micros) = .lt := by
      rw [Int.compare_eq_lt]
      omega
    simp [order, Relation.holds]

/-- One tick moves a clock that runs forward. -/
theorem Environment.advance_later {e t : Environment} (h : e.advance = .ok t)
    (forward : 0 < e.tick.micros) :
    e.clock.wall < t.clock.wall ∧ t.clock.offset = e.clock.offset ∧ t.tick = e.tick := by
  obtain ⟨clock, hc, rfl⟩ := Environment.advance_ok h
  obtain ⟨wall, offset⟩ := Time.Instant.add?_eq_some.mp hc
  exact ⟨by dsimp only; omega, offset, rfl⟩

/-- Along a trail a clock that runs forward does not go back. -/
theorem Trail.clock_forward {server : Responder} {s t : Environment} {events : List Event}
    (h : Trail server s events t) (forward : 0 < s.tick.micros) :
    s.clock.wall ≤ t.clock.wall ∧ t.clock.offset = s.clock.offset ∧ t.tick = s.tick := by
  obtain ⟨tick, moved⟩ := h.clock
  obtain ⟨wall, offset⟩ := Time.Instant.add?_eq_some.mp moved
  have ahead : 0 ≤ (s.tick.times (events.countP Event.isTick)).micros :=
    Int.mul_nonneg (Int.natCast_nonneg _) (Int.le_of_lt forward)
  exact ⟨by omega, offset, tick⟩

theorem Program.trace_asksTime {server : Responder} {p : Program} {e : Environment} {run : Run}
    (asks : p.asksTime = true) (h : p.trace server e = .ok run) : run.value = .instant e.clock := by
  unfold Program.asksTime at asks
  split at asks
  · obtain ⟨v, left, hr, rfl⟩ := Program.trace_ask_ok h
    cases hr
    rfl
  · cases asks

/-- The times that a body asks for are no earlier than its start, and each is later than those
before it. -/
theorem Body.stamps_later {server : Responder} :
    ∀ (b : Body) {e : Environment} {run : Run}, b.trace server e = .ok run → run.Keeps →
      0 < e.tick.micros →
      (∀ v ∈ b.stamps server e, ∃ t, v = .instant t ∧ e.clock.wall ≤ t.wall ∧
        t.offset = e.clock.offset) ∧
      (b.stamps server e).Pairwise fun x y => x.less y = .ok true
  | .done _, _, _, _, _, _ => ⟨nofun, .nil⟩
  | .raise _, _, _, _, _, _ => ⟨nofun, .nil⟩
  | .yield p next, e, run, h, keeps, forward => by
    obtain ⟨first, left, resumed, second, hf, hl, hr, hs, rfl⟩ := Body.trace_yield_ok h
    obtain ⟨before, after⟩ := Run.keeps_andThen.mp keeps
    obtain ⟨t, ht, _, walked⟩ := p.trace_walks_of_keeps hf before
    obtain rfl : t = left := by simpa [hl] using ht.symm
    obtain ⟨reached, offset, tick⟩ := walked.clock_forward forward
    obtain ⟨moved, offset', tick'⟩ := Environment.advance_later hr (tick ▸ forward)
    have forward' : 0 < resumed.tick.micros := by rwa [tick', tick]
    obtain ⟨later, sorted⟩ := (next first.value).stamps_later hs after forward'
    have rest : (Body.yield p next).stamps server e =
        (if p.asksTime then [first.value] else []) ++
          (next first.value).stamps server resumed := by
      simp only [Body.stamps, Program.simulate_of_trace hf, hl, Aftermath.require, bind,
        Except.bind, hr]
    have own : ∀ v ∈ (if p.asksTime then [first.value] else []), v = .instant e.clock := by
      intro v hv
      split at hv
      · next asks => rw [List.mem_singleton.mp hv, Program.trace_asksTime asks hf]
      · cases hv
    rw [rest]
    constructor
    · intro v hv
      obtain here | there := List.mem_append.mp hv
      · exact ⟨e.clock, own v here, Nat.le_refl _, rfl⟩
      · obtain ⟨u, rfl, wall, same⟩ := later v there
        exact ⟨u, rfl, by omega, by rw [same, offset', offset]⟩
    · refine List.pairwise_append.mpr ⟨?_, sorted, ?_⟩
      · split
        · exact List.pairwise_singleton _ _
        · exact .nil
      · intro v hv w hw
        obtain ⟨u, rfl, wall, same⟩ := later w hw
        rw [own v hv]
        exact Value.less_instant (by rw [same, offset', offset]) (by omega)

/-! ## Accepted settings -/

namespace Settings

open Time

/-- A field that is read has what its reader gives or the default. -/
theorem readField_holds {α : Type} {P : α → Prop} {reader : Reader α} {default : α}
    (fields : List (String × Value)) (name : String) (hd : P default)
    (hr : ∀ v a, reader v = .ok a → P a) : P (readField fields name reader default).1 := by
  unfold readField
  split
  · exact hd
  · split
    · next h => exact hr _ _ h
    · exact hd

theorem positive_of_readPositive {v : Value} {x : Float} (h : readPositive v = .ok x) : 0 < x := by
  unfold readPositive at h
  cases hx : readFloat v with
  | error e =>
    rw [hx] at h
    cases h
  | ok y =>
    simp only [hx, bind, Except.bind] at h
    split at h
    · next positive =>
      cases h
      exact positive
    · cases h

theorem zoned_of_readInstant {v : Value} {t : Instant} (h : readInstant v = .ok t) :
    t.offset.isSome = true := by
  -- Whatever form the time is given in, its offset is looked at last.
  have last {read : Except Refused Instant}
      (hr : (read >>= fun t => if t.offset.isNone = true then refuse .zone else pure t) = .ok t) :
      t.offset.isSome = true := by
    cases read with
    | error e => cases hr
    | ok u =>
      simp only [bind, Except.bind] at hr
      split at hr
      · cases hr
      · next zoned =>
        cases hr
        exact Option.isSome_iff_ne_none.mpr (by simpa using zoned)
  unfold readInstant at h
  dsimp only at h
  split at h
  · next w =>
    cases hw : readWording w with
    | error e =>
      rw [hw] at h
      cases h
    | ok text =>
      rw [hw] at h
      exact last h
  · exact last h
  · exact last h
  · next n =>
    cases hn : readTimestamp n with
    | error e =>
      rw [hn] at h
      cases h
    | ok read =>
      rw [hn] at h
      exact last h
  all_goals exact last h

/-- Accepted settings tick by a positive number of seconds from a time with an offset. -/
theorem accepted {fields : List (String × Value)} {s : Settings} (h : ofFields fields = .ok s) :
    0 < s.tickSeconds ∧ s.startTime.offset.isSome = true := by
  unfold ofFields at h
  dsimp only at h
  split at h
  · cases h
    constructor
    · exact readField_holds fields "tick_seconds" (by decide) fun _ _ => positive_of_readPositive
    · exact readField_holds (P := fun t : Instant => t.offset.isSome = true) fields "start_time" rfl
        fun _ _ => zoned_of_readInstant
  · cases h

section Environment

variable {s : Settings} {session : String} {clientLocal : Value}

theorem tick_of_toEnvironment {e : Environment} (h : s.toEnvironment session clientLocal = .ok e) :
    Duration.ofSeconds s.tickSeconds = .ok e.tick := by
  unfold toEnvironment at h
  cases ht : Duration.ofSeconds s.tickSeconds with
  | error failure =>
    rw [ht] at h
    cases h
  | ok tick =>
    rw [ht] at h
    cases h
    rfl

theorem toEnvironment_of_tick {tick : Duration} (h : Duration.ofSeconds s.tickSeconds = .ok tick) :
    ∃ e, s.toEnvironment session clientLocal = .ok e ∧ e.tick = tick := by
  unfold toEnvironment
  rw [h]
  exact ⟨_, rfl, rfl⟩

/-- The tick is more than half a microsecond and less than a thousand million days. -/
def Ticks (s : Settings) : Prop :=
  ∃ d, Number.read s.tickSeconds = .finite d ∧ d.ratio.2 < 2 * secondMicros * d.ratio.1 ∧
    d.ratio.1 < Duration.secondLimit * d.ratio.2

/-- Settings start an environment with a clock that moves if their seconds say so. -/
theorem ticks_iff (positive : 0 < s.tickSeconds) :
    (∃ e, s.toEnvironment session clientLocal = .ok e ∧ 0 < e.tick.micros) ↔ s.Ticks := by
  constructor
  · rintro ⟨e, he, forward⟩
    obtain ⟨d, hd, limit, tick⟩ := (Duration.ofSeconds_ok positive).mp (tick_of_toEnvironment he)
    rw [tick, Int.natCast_pos, Duration.microsOfSeconds_pos d (Number.mantissa_lt hd)] at forward
    exact ⟨d, hd, forward, limit⟩
  · rintro ⟨d, hd, more, limit⟩
    have tick := (Duration.ofSeconds_ok positive).mpr ⟨d, hd, limit, rfl⟩
    obtain ⟨e, he, same⟩ : ∃ e, s.toEnvironment session clientLocal = .ok e ∧ e.tick = _ :=
      toEnvironment_of_tick tick
    refine ⟨e, he, ?_⟩
    rw [same, Int.natCast_pos, Duration.microsOfSeconds_pos d (Number.mantissa_lt hd)]
    exact more

end Environment

/-- Accepted settings start an environment with a clock that moves forward if their tick is more
than half a microsecond and less than a thousand million days, and only then. From such an
environment, a body that returns and puts no other environment in place is answered with later and
later times. -/
theorem clock_moves_forward (fields : List (String × Value)) (s : Settings)
    (h : ofFields fields = .ok s) (session : String) (clientLocal : Value) :
    0 < s.tickSeconds ∧ s.startTime.offset.isSome = true ∧
      ((∃ e, s.toEnvironment session clientLocal = .ok e ∧ 0 < e.tick.micros) ↔ s.Ticks) ∧
      ∀ e, s.toEnvironment session clientLocal = .ok e → 0 < e.tick.micros →
        ∀ (server : Responder) (b : Body) (v : Value) (after : Aftermath),
          b.simulate server e = .ok (v, after) →
            ∃ events, b.trace server e = .ok ⟨v, after, events⟩ ∧
              ((∀ event ∈ events, event.Keeps) →
                (b.stamps server e).Pairwise fun x y => x.less y = .ok true) := by
  obtain ⟨positive, zoned⟩ := accepted h
  refine ⟨positive, zoned, ticks_iff positive, fun e he forward server b v after returned => ?_⟩
  obtain ⟨events, traced⟩ := Program.trace_of_simulate (p := .body b) returned
  exact ⟨events, traced, fun keeps => (b.stamps_later traced keeps forward).2⟩

/-- A body that asks for the time three times, once after other steps. -/
def asking : Body :=
  .yield (.ask .systemTime) fun first => .yield (.ask .systemTime) fun _ =>
    .yield (.bind (.ask (.flush (.handle .stdout))) .pure) fun _ =>
      .yield (.ask .systemTime) fun _ => .done first

theorem ofFields_tickSeconds {x : Float} (h : 0 < x) :
    ofFields [("tick_seconds", .float x)] = .ok { tickSeconds := x } := by
  have read : readPositive (.float x) = .ok x := if_pos h
  have field : readField [("tick_seconds", .float x)] "tick_seconds" readPositive 1 = (x, []) := by
    simp [readField, read]
  unfold ofFields
  dsimp only
  rw [field]
  rfl

/-- A fresh environment of a session with a tick. -/
def ticking (tick : Duration) : Environment :=
  { Environment.fresh with session := "day", tick }

theorem toEnvironment_tickSeconds {x : Float} {tick : Duration}
    (h : Duration.ofSeconds x = .ok tick) :
    ({ tickSeconds := x } : Settings).toEnvironment "day" .none = .ok (ticking tick) := by
  unfold toEnvironment
  dsimp only
  rw [h]
  rfl

/-- A tick of a quarter of a second is given in the fields. -/
theorem asking_moves_forward :
    ∃ s e, ofFields [("tick_seconds", .float (Number.nearest false 1 4))] = .ok s ∧ s.Ticks ∧
      s.toEnvironment "day" .none = .ok e ∧ e.tick.micros = 250000 ∧
      (∃ r, asking.simulate .unreachable e = .ok r) ∧
      (asking.stamps .unreachable e).length = 3 ∧
      (asking.stamps .unreachable e).Pairwise fun x y => x.less y = .ok true := by
  have positive : 0 < Number.nearest false 1 4 := by decide +kernel
  have read := ofFields_tickSeconds positive
  have quarter : Number.read (Number.nearest false 1 4) = .finite ⟨false, 2 ^ 52, -54⟩ := by
    decide +kernel
  have tick : Duration.ofSeconds (Number.nearest false 1 4) = .ok ⟨250000⟩ :=
    (Duration.ofSeconds_ok positive).mpr ⟨_, quarter, by decide +kernel, by decide +kernel⟩
  have started := toEnvironment_tickSeconds tick
  have keeps : asking.All Request.KeepsEnvironment := by
    simp [asking, Body.All, Program.All, Request.KeepsEnvironment]
  have runs : (asking.simulate .unreachable (ticking ⟨250000⟩)).toOption.isSome = true := by
    decide +kernel
  have thrice : (asking.stamps .unreachable (ticking ⟨250000⟩)).length = 3 := by decide +kernel
  obtain ⟨_, _, ticks, later⟩ := clock_moves_forward _ _ read "day" .none
  cases returned : asking.simulate .unreachable (ticking ⟨250000⟩) with
  | error e =>
    rw [returned] at runs
    cases runs
  | ok r =>
    obtain ⟨events, traced, sorted⟩ := later _ started (by decide) .unreachable asking _ _ returned
    exact ⟨_, _, read, ticks.mp ⟨_, started, by decide⟩, started, rfl, ⟨r, returned⟩, thrice,
      sorted (Body.trace_keeps asking keeps traced)⟩

/-- A tick of a tenth of a microsecond is accepted and comes to nothing: the clock stands still. -/
theorem asking_stands_still :
    ∃ s e, ofFields [("tick_seconds", .float (Number.nearest false 1 10000000))] = .ok s ∧
      s.toEnvironment "day" .none = .ok e ∧ e.tick.micros = 0 ∧
      (asking.stamps .unreachable e).length = 3 ∧
      ¬ (asking.stamps .unreachable e).Pairwise fun x y => x.less y = .ok true := by
  have positive : 0 < Number.nearest false 1 10000000 := by decide +kernel
  have tenth : Number.read (Number.nearest false 1 10000000) =
      .finite ⟨false, 7555786372591432, -76⟩ := by decide +kernel
  have nothing : Duration.ofSeconds (Number.nearest false 1 10000000) = .ok ⟨0⟩ :=
    (Duration.ofSeconds_ok positive).mpr ⟨_, tenth, by decide +kernel, by decide +kernel⟩
  have thrice : (asking.stamps .unreachable (ticking ⟨0⟩)).length = 3 := by decide +kernel
  have still : (asking.stamps .unreachable (ticking ⟨0⟩))[0].less
      (asking.stamps .unreachable (ticking ⟨0⟩))[1] = .ok false := rfl
  refine ⟨_, _, ofFields_tickSeconds positive, toEnvironment_tickSeconds nothing, rfl, thrice,
    fun sorted => ?_⟩
  have later := List.pairwise_iff_getElem.mp sorted 0 1 (by omega) (by omega) (by decide)
  rw [still] at later
  cases later

end Settings

end Rehearsal
