import Rehearsal.Host.Run

/-!
# What requests leave alone

Most requests reach the world, the streams, the echo flags and the cookies of a host only. A
property of hosts that none of these bears on is kept by them; what is left to look at are a
request without a session, a new session and a recorded assertion. Where streams bear on the
property, what reads or writes one is to be looked at as well.
-/

namespace Rehearsal

namespace Host

variable {σ : Type}

/-- The world, the echo flags and the cookies do not bear on the property. -/
structure Backdrop (P : Host σ → Prop) : Prop where
  world : ∀ {h : Host σ} (w : σ), P h → P { h with world := w }
  echo : ∀ {h : Host σ} (name : String) (on : Bool), P h → P (h.setEcho name on)
  cookies : ∀ {h : Host σ} (client : Nat) (jar : List Cookie), P h → P (h.setCookies client jar)

/-- The streams do not bear on it either. -/
structure Frame (P : Host σ → Prop) : Prop extends Backdrop P where
  stream : ∀ {h : Host σ} (name : String) (s : Stream), P h → P (h.setStream name s)

variable {P : Host σ → Prop} {h : Host σ}

theorem andThen_keeps {α β : Type} {step : Outcome α × Host σ}
    {next : α → Host σ → Outcome β × Host σ} (hs : P step.2)
    (hn : ∀ a u, P u → P (next a u).2) : P (andThen step next).2 := by
  obtain ⟨_ | a, left⟩ := step
  · exact hs
  · exact hn a left hs

theorem withStream_keeps (frame : Frame P) (hp : P h) (handle : Value)
    (use : String → Stream → Outcome (Value × Stream)) : P (h.withStream handle use).2 :=
  andThen_keeps hp fun (name, _) _ hu =>
    andThen_keeps hu fun (_, s) _ hv => frame.stream name s hv

section Requests

variable (backdrop : Backdrop P) (m : Machine σ) (hp : P h)

include backdrop hp

theorem setEchoOf_keeps (handle : Value) (on : Bool) : P (h.setEchoOf handle on).2 :=
  andThen_keeps hp fun (name, _) _ hu => backdrop.echo name on hu

theorem loadFile_keeps (path : Value) : P (h.loadFile m path).2 := by
  refine andThen_keeps hp fun p u hu => ?_
  dsimp only
  split <;> exact backdrop.world _ hu

theorem saveFile_keeps (path contents : Value) : P (h.saveFile m path contents).2 := by
  refine andThen_keeps hp fun p u hu => ?_
  dsimp only
  split <;> exact backdrop.world _ hu

theorem drawBetween_keeps (a b : Value) : P (h.drawBetween m a b).2 := by
  refine andThen_keeps hp fun bounds u hu => ?_
  dsimp only
  split <;> exact backdrop.world _ hu

theorem received_keeps (client : Nat) (asked : Url) (answer : Outcome Response) :
    P (h.received m client asked answer).2 :=
  andThen_keeps hp fun _ _ hu => backdrop.cookies client _ (backdrop.world _ hu)

end Requests

/-- Once it has its client, a request leaves the property alone. -/
theorem request_keeps (backdrop : Backdrop P) (m : Machine σ) (r : HttpRequest) (session : Value)
    (own : P (h.clientFor session).2) : P (h.request m r session).2 :=
  andThen_keeps own fun client _ ha =>
    andThen_keeps ha fun url _ hb =>
      andThen_keeps hb fun _ _ hc =>
        received_keeps backdrop m (backdrop.world _ hc) client url _

end Host

/-- Whether the request reads or writes a stream. -/
def Request.UsesStream : Request → Prop
  | .getChar _ | .getLine _ | .put _ _ => True
  | _ => False

open Host in
/-- A request that uses no stream leaves a property of hosts alone if finding the client, making a
session and recording an assertion do. -/
theorem Request.perform_keeps_apart {σ : Type} {P : Host σ → Prop} {h : Host σ}
    (backdrop : Backdrop P) (m : Machine σ) (context : List Value) (r : Request)
    (apart : ¬ r.UsesStream) (hp : P h)
    (own : ∀ request session, r = .http request session → P (h.clientFor session).2)
    (made : r = .newSession → P h.newSession.2)
    (noted : ∀ a, r = .record a → P { h with assertions := h.assertions ++ [a] }) :
    P (r.perform m context h).2 := by
  cases r with
  | getChar _ | getLine _ | put _ _ => exact absurd trivial apart
  | http request session => exact request_keeps backdrop m request session (own _ _ rfl)
  | newSession => exact made rfl
  | record a => exact noted a rfl
  | setEcho handle on => exact setEchoOf_keeps backdrop hp handle on
  | loadFile path => exact loadFile_keeps backdrop m hp path
  | saveFile path contents => exact saveFile_keeps backdrop m hp path contents
  | randomBetween a b => exact drawBetween_keeps backdrop m hp a b
  | systemTime => exact backdrop.world _ hp
  | randomInt => exact backdrop.world _ hp
  | _ => exact hp

open Host in
/-- A request leaves a property of hosts alone if finding the client, making a session and recording
an assertion do. -/
theorem Request.perform_keeps {σ : Type} {P : Host σ → Prop} {h : Host σ} (frame : Frame P)
    (m : Machine σ) (context : List Value) (r : Request) (hp : P h)
    (own : ∀ request session, r = .http request session → P (h.clientFor session).2)
    (made : r = .newSession → P h.newSession.2)
    (noted : ∀ a, r = .record a → P { h with assertions := h.assertions ++ [a] }) :
    P (r.perform m context h).2 := by
  cases r with
  | getChar handle => exact withStream_keeps frame hp handle _
  | getLine handle => exact withStream_keeps frame hp handle _
  | put handle text => exact withStream_keeps frame hp handle _
  | _ => exact Request.perform_keeps_apart frame.toBackdrop m context _ not_false hp own made noted

end Rehearsal
