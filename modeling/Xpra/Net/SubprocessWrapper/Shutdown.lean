import Mathlib.Logic.Relation

/-!
# The shutdown of `SubprocessCallee`

`SubprocessCallee.start()` makes the protocol, runs the GLib main loop, and in
its `finally` block calls `cleanup()` and closes the protocol if it is still
set.  While the loop runs, three things stop it.

* `stop()`: `cleanup()`, `protocol.close()` if the protocol is set, then
  `mainloop.quit()`.
* `net_stop()`, which the protocol calls from its own thread:
  `GLib.idle_add(self.stop)`.
* An OS signal.  `__init__` installs `handle_signal`, which installs
  `signal_stop` for the next signal, sends `("signal", signame)`, and adds two
  timeouts: `cleanup` after 0 ms and `stop` after 150 ms, to let the
  notification reach the wire.  `signal_stop` calls `stop()` at once.

`CalleeState` is the phase of `start()`, whether `self.protocol` is set, the
installed handler, the pending timeouts with the time each is due at, the
clock of the main loop, the signal notifications sent, and how often
`cleanup()` and `protocol.close()` ran.  `CalleeStep` is one step: `start()`,
an OS signal, `net_stop()`, the clock moving on, GLib running a due timeout, or
`run()` returning (after `mainloop.quit()`, or by an exception).

`ShutdownInv` is the invariant and `shutdownInv_step` its step lemma.  From it,
`callee_shutdown_safe`: the protocol is closed at most once, and exactly once
when `start()` returns; one signal notification at most is sent; and after a
signal, while the loop runs, a `stop` is pending and due within 150 ms.
`callee_stops_within_grace` is the matching progress result: from every such
state, the loop can be stopped by 150 ms later.

The input and output files, which the `finally` block also closes, and the
exit status of `start()` are not modelled.
-/

namespace Xpra.Net.SubprocessWrapper

/-- Where `SubprocessCallee.start()` is. -/
inductive CalleePhase where
  /-- Before `start()`. -/
  | created
  /-- In `run()`: the main loop dispatches signals and timeouts. -/
  | running
  /-- `mainloop.quit()` was called. -/
  | stopped
  /-- The `finally` block of `start()` has run. -/
  | finished
  deriving DecidableEq, Repr

/-- The handler `register_os_signals` installed for `SIGINT` and `SIGTERM`. -/
inductive SignalHandler where
  | handleSignal
  | signalStop
  deriving DecidableEq, Repr

/-- The callback of a pending GLib timeout or idle source. -/
inductive LoopCallback where
  | cleanup
  | stop
  deriving DecidableEq, Repr

/-- The state the shutdown path reads and writes. -/
structure CalleeState where
  phase : CalleePhase
  /-- Whether `self.protocol` is set. -/
  protocol : Bool
  handler : SignalHandler
  /-- The pending sources: the time each is due at, and its callback. -/
  timers : List (Nat × LoopCallback)
  /-- The clock of the main loop, in milliseconds. -/
  now : Nat
  /-- The signal names of the `("signal", signame)` packets sent. -/
  signalsSent : List String
  /-- How often `cleanup()` ran. -/
  cleanups : Nat
  /-- How often `protocol.close()` ran. -/
  closes : Nat
  deriving DecidableEq, Repr

namespace CalleeState

/-- `__init__`: no protocol, `handle_signal` installed. -/
def init : CalleeState := ⟨.created, false, .handleSignal, [], 0, [], 0, 0⟩

/-- `start()` up to `run()`: `self.protocol = self.make_protocol()`. -/
def start (s : CalleeState) : CalleeState := { s with phase := .running, protocol := true }

/-- `cleanup()`, which subclasses override; here it only counts. -/
def cleanup (s : CalleeState) : CalleeState := { s with cleanups := s.cleanups + 1 }

/-- `if p: self.protocol = None; p.close()`. -/
def closeProtocol (s : CalleeState) : CalleeState :=
  { s with protocol := false, closes := if s.protocol then s.closes + 1 else s.closes }

@[simp] theorem closeProtocol_protocol (s : CalleeState) : s.closeProtocol.protocol = false := rfl

/-- `stop()`: `cleanup()`, close the protocol, `mainloop.quit()`. -/
def stop (s : CalleeState) : CalleeState := { s.cleanup.closeProtocol with phase := .stopped }

/-- The `finally` block of `start()`: `cleanup()`, then close the protocol. -/
def finish (s : CalleeState) : CalleeState := { s.cleanup.closeProtocol with phase := .finished }

/-- `handle_signal(sig)`: install `signal_stop`, send `("signal", signame)`,
add `cleanup` after 0 ms and `stop` after 150 ms. -/
def handleSignal (s : CalleeState) (signame : String) : CalleeState :=
  { s with handler := .signalStop, signalsSent := s.signalsSent ++ [signame],
           timers := s.timers ++ [(s.now, .cleanup), (s.now + 150, .stop)] }

/-- An OS signal: the installed handler runs. -/
def osSignal (s : CalleeState) (signame : String) : CalleeState :=
  match s.handler with
  | .handleSignal => s.handleSignal signame
  | .signalStop => s.stop

/-- `net_stop()`: `GLib.idle_add(self.stop)`. -/
def netStop (s : CalleeState) : CalleeState := { s with timers := s.timers ++ [(s.now, .stop)] }

/-- GLib runs the pending source `(due, task)` and removes it. -/
def fire (s : CalleeState) (due : Nat) (task : LoopCallback) : CalleeState :=
  let s := { s with timers := s.timers.erase (due, task) }
  match task with
  | .cleanup => s.cleanup
  | .stop => s.stop

end CalleeState

/-- One step of the callee's lifecycle. -/
inductive CalleeStep : CalleeState → CalleeState → Prop where
  | start {s : CalleeState} : s.phase = .created → CalleeStep s s.start
  | osSignal {s : CalleeState} (signame : String) : s.phase = .running →
      CalleeStep s (s.osSignal signame)
  | netStop {s : CalleeState} : s.phase = .running → CalleeStep s s.netStop
  | tick {s : CalleeState} (now : Nat) : s.now ≤ now → CalleeStep s { s with now := now }
  | fire {s : CalleeState} (due : Nat) (task : LoopCallback) : s.phase = .running →
      (due, task) ∈ s.timers → due ≤ s.now → CalleeStep s (s.fire due task)
  | finish {s : CalleeState} : s.phase = .running ∨ s.phase = .stopped → CalleeStep s s.finish

/-! ## The invariant -/

/-- The invariant of the callee's lifecycle. -/
structure ShutdownInv (s : CalleeState) : Prop where
  /-- Once started, the protocol is set or was closed once. -/
  closed_once : s.closes + (if s.protocol then 1 else 0) = if s.phase = .created then 0 else 1
  /-- Nothing happens before `start()`. -/
  created : s.phase = .created → s.handler = .handleSignal
  /-- Once the loop has quit, the protocol is closed. -/
  quit_closed : s.phase = .stopped ∨ s.phase = .finished → s.protocol = false
  /-- `handle_signal` ran once at most, and sent one notification. -/
  signal_once : (s.handler = .handleSignal ∧ s.signalsSent = []) ∨
    (s.handler = .signalStop ∧ s.signalsSent.length = 1)
  /-- After a signal, while the loop runs, a `stop` is due within 150 ms. -/
  stop_pending : s.phase = .running → s.handler = .signalStop →
    ∃ due, (due, .stop) ∈ s.timers ∧ due ≤ s.now + 150

theorem shutdownInv_init : ShutdownInv .init :=
  ⟨rfl, fun _ => rfl, fun h => by simp [CalleeState.init] at h, .inl ⟨rfl, rfl⟩, fun h => by cases h⟩

/-- `cleanup()` only counts, so it keeps the invariant. -/
theorem ShutdownInv.cleanup {s : CalleeState} (hi : ShutdownInv s) : ShutdownInv s.cleanup :=
  ⟨hi.closed_once, hi.created, hi.quit_closed, hi.signal_once, hi.stop_pending⟩

/-- Closing a started protocol leaves it closed once. -/
theorem closes_closeProtocol {s : CalleeState}
    (hc : s.closes + (if s.protocol then 1 else 0) = 1) : s.cleanup.closeProtocol.closes = 1 := by
  cases hp : s.protocol <;> simp_all [CalleeState.cleanup, CalleeState.closeProtocol]

/-- `stop()` of a running loop keeps the invariant, whatever timeouts are
pending. -/
theorem shutdownInv_stop {s : CalleeState}
    (hc : s.closes + (if s.protocol then 1 else 0) = 1)
    (hsig : (s.handler = .handleSignal ∧ s.signalsSent = []) ∨
      (s.handler = .signalStop ∧ s.signalsSent.length = 1)) :
    ShutdownInv s.stop :=
  ⟨by simp [CalleeState.stop, closes_closeProtocol hc], (nomatch ·), fun _ => rfl, hsig,
    (nomatch ·)⟩

theorem shutdownInv_step {s t : CalleeState} (hi : ShutdownInv s) (h : CalleeStep s t) :
    ShutdownInv t := by
  have hrun (hr : s.phase = .running) : s.closes + (if s.protocol then 1 else 0) = 1 := by
    simpa [hr] using hi.closed_once
  have hnot (hr : s.phase = .running) : s.phase ≠ .created ∧ s.phase ≠ .stopped ∧
      s.phase ≠ .finished := by simp [hr]
  cases h with
  | start hc =>
    have := hi.closed_once
    simp only [hc, if_true] at this
    exact ⟨by simp_all [CalleeState.start], (nomatch ·), fun h => by simp [CalleeState.start] at h,
      hi.signal_once, fun _ hs => absurd (hi.created hc) (by simp_all [CalleeState.start])⟩
  | osSignal signame hr =>
    unfold CalleeState.osSignal
    split
    · refine ⟨hi.closed_once, fun h => absurd h (hnot hr).1,
        fun h => (h.elim (hnot hr).2.1 (hnot hr).2.2).elim, .inr ⟨rfl, ?_⟩,
        fun _ _ => ⟨s.now + 150, by simp [CalleeState.handleSignal], Nat.le_refl _⟩⟩
      rcases hi.signal_once with h | h
      · simp [CalleeState.handleSignal, h.2]
      · simp_all
    · exact shutdownInv_stop (hrun hr) hi.signal_once
  | netStop hr =>
    refine ⟨hi.closed_once, hi.created, hi.quit_closed, hi.signal_once, fun hr hh => ?_⟩
    obtain ⟨due, hmem, hdue⟩ := hi.stop_pending hr hh
    exact ⟨due, List.mem_append_left _ hmem, hdue⟩
  | tick now hnow =>
    refine ⟨hi.closed_once, hi.created, hi.quit_closed, hi.signal_once, fun hr hh => ?_⟩
    obtain ⟨due, hmem, hdue⟩ := hi.stop_pending hr hh
    exact ⟨due, hmem, by simp only; omega⟩
  | fire due task hr _ _ =>
    cases task with
    | cleanup =>
      refine ShutdownInv.cleanup ⟨hi.closed_once, hi.created, hi.quit_closed, hi.signal_once,
        fun hr hh => ?_⟩
      obtain ⟨d, hmem, hd⟩ := hi.stop_pending hr hh
      exact ⟨d, (List.mem_erase_of_ne (by simp)).2 hmem, hd⟩
    | stop => exact shutdownInv_stop (hrun hr) hi.signal_once
  | finish hr =>
    have hc : s.closes + (if s.protocol then 1 else 0) = 1 := by
      rcases hr with h | h <;> simpa [h] using hi.closed_once
    exact ⟨by simp [CalleeState.finish, closes_closeProtocol hc], (nomatch ·), fun _ => rfl,
      hi.signal_once, (nomatch ·)⟩

theorem shutdownInv_reachable {s : CalleeState} (h : Relation.ReflTransGen CalleeStep .init s) :
    ShutdownInv s := by
  induction h with
  | refl => exact shutdownInv_init
  | tail _ hstep ih => exact shutdownInv_step ih hstep

/-! ## What every run keeps -/

/-- Over every run of the callee, whatever the interleaving of signals,
`net_stop()` calls and timeouts: `protocol.close()` runs at most once, and
exactly once by the time `start()` returns; one signal notification at most is
sent; and after a signal, while the main loop runs, a `stop` is pending and
due within 150 ms. -/
theorem callee_shutdown_safe {s : CalleeState} (h : Relation.ReflTransGen CalleeStep .init s) :
    s.closes ≤ 1 ∧ (s.phase = .finished → s.closes = 1 ∧ s.protocol = false) ∧
      s.signalsSent.length ≤ 1 ∧
      (s.phase = .running → s.handler = .signalStop →
        ∃ due, (due, .stop) ∈ s.timers ∧ due ≤ s.now + 150) := by
  have hi := shutdownInv_reachable h
  have hc := hi.closed_once
  have hle : (if s.phase = .created then 0 else 1) ≤ 1 := by split <;> decide
  refine ⟨by omega, fun hf => ?_, ?_, hi.stop_pending⟩
  · have hp := hi.quit_closed (.inr hf)
    simp_all
  · rcases hi.signal_once with h | h <;> simp [h.2]

/-- `start()`, then `SIGTERM`. -/
def sigtermState : CalleeState := CalleeState.init.start.osSignal "SIGTERM"

theorem sigtermState_reachable : Relation.ReflTransGen CalleeStep .init sigtermState :=
  .tail (.single (.start rfl)) (.osSignal "SIGTERM" rfl)

/-- The run that `SIGTERM` starts, to the end of `start()`: GLib runs
`cleanup` at once and `stop` 150 ms later, and `run()` returns. -/
def sigtermFinished : CalleeState :=
  ({ sigtermState.fire 0 .cleanup with now := 150 }.fire 150 .stop).finish

theorem callee_shutdown_safe_sigterm :
    sigtermFinished.phase = .finished ∧ sigtermFinished.signalsSent = ["SIGTERM"] ∧
      (sigtermFinished.closes ≤ 1 ∧
        (sigtermFinished.phase = .finished →
          sigtermFinished.closes = 1 ∧ sigtermFinished.protocol = false) ∧
        sigtermFinished.signalsSent.length ≤ 1 ∧
        (sigtermFinished.phase = .running → sigtermFinished.handler = .signalStop →
          ∃ due, (due, .stop) ∈ sigtermFinished.timers ∧ due ≤ sigtermFinished.now + 150)) :=
  ⟨rfl, rfl, callee_shutdown_safe (.tail (.tail (.tail (.tail sigtermState_reachable
    (.fire 0 .cleanup rfl (by decide) (Nat.le_refl _))) (.tick 150 (by decide)))
    (.fire 150 .stop rfl (by decide) (Nat.le_refl _))) (.finish (.inr rfl)))⟩

/-- After a signal, the main loop can always be stopped within the grace
delay: from every reachable state where it still runs, the clock moving on to
the pending `stop` and GLib running it quit the loop by 150 ms later. -/
theorem callee_stops_within_grace {s : CalleeState}
    (h : Relation.ReflTransGen CalleeStep .init s) (hr : s.phase = .running)
    (hh : s.handler = .signalStop) :
    ∃ t, Relation.ReflTransGen CalleeStep s t ∧ t.phase = .stopped ∧ t.now ≤ s.now + 150 := by
  obtain ⟨due, hmem, hdue⟩ := (shutdownInv_reachable h).stop_pending hr hh
  let u : CalleeState := { s with now := max s.now due }
  have hu : CalleeStep s u := .tick _ (Nat.le_max_left _ _)
  have hfire : CalleeStep u (u.fire due .stop) := .fire due .stop hr hmem (Nat.le_max_right _ _)
  exact ⟨u.fire due .stop, .tail (.single hu) hfire, rfl, show max s.now due ≤ s.now + 150 by omega⟩

theorem callee_stops_within_grace_sigterm :
    sigtermState.phase = .running ∧ sigtermState.handler = .signalStop ∧
      ∃ t, Relation.ReflTransGen CalleeStep sigtermState t ∧ t.phase = .stopped ∧
        t.now ≤ sigtermState.now + 150 :=
  ⟨rfl, rfl, callee_stops_within_grace sigtermState_reachable rfl rfl⟩

end Xpra.Net.SubprocessWrapper
