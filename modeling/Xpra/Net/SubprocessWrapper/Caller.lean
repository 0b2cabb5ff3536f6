import Xpra.Net.SubprocessWrapper.Callee

/-!
# `SubprocessCaller` of `xpra/net/subprocess_wrapper.py`

The caller spawns the child and talks to its callee.  This file models its
signal subscriptions and its lifecycle.

* Subscriptions.  `connect` is `connect`, `initialCallbacks` the two
  subscriptions `__init__` makes, `fireCallback` is `_fire_callback` and
  `callerProcessPacket` is `process_packet`.  The result of the last two is the
  list of calls handed to `GLib.idle_add`, each as the callback and the
  arguments after `self`.
* Lifecycle.  `CallerState` holds `self.process` and `self.protocol`.
  `start`, `stopProcess`, `stopProtocol`, `stop` and `abortTest` are the
  methods of the same names, and `childExit` is the child exiting with a
  return code, which `Popen.poll()` reports from then on.  `CallerStep` is one
  of these steps and `CallerReachable` the states a run reaches.
* Liveness tests.  `abortTest_ok_iff` and `stopProcess_terminates_iff` say
  when each test finds the child alive, and `liveness_tests_disagree_iff`
  that they disagree exactly on a child that exited with return code `0`.

The caller's send queue and `get_packet` are the write loop of
`Xpra.Net.Protocol.WriteLoop`.  The child reaper, the environment of the child
and the command line are not modelled: no modelled function reads them.
-/

namespace Xpra.Net.SubprocessWrapper

/-- A callback of a subscription: one of the two built-in handlers, or one
that the owner of the caller registered. -/
inductive Callback (C : Type) where
  | connectionLost
  | gibberish
  | user (c : C)
  deriving DecidableEq, Repr

variable {C V : Type}

/-- `signal_callbacks`: the subscriptions to each signal, in registration
order. -/
def SignalCallbacks (C V : Type) : Type := String → List (Callback C × List (PyVal V))

/-- `connect(signal, cb, *args)`:
`signal_callbacks.setdefault(signal, []).append((cb, list(args)))`. -/
def connect (callbacks : SignalCallbacks C V) (signal : String) (cb : Callback C)
    (args : List (PyVal V)) : SignalCallbacks C V :=
  fun s => if s = signal then callbacks s ++ [(cb, args)] else callbacks s

/-- The subscriptions `__init__` makes: `connection_lost` on `CONNECTION_LOST`
and `gibberish` on `GIBBERISH`. -/
def initialCallbacks : SignalCallbacks C V :=
  connect (connect (fun _ => []) CONNECTION_LOST .connectionLost []) GIBBERISH .gibberish []

/-- `_fire_callback(signal_name, extra_args)`: for every subscription
`(cb, args)` to the signal, in order, `GLib.idle_add(cb, self, *all_args)` with
`all_args = list(args) + list(extra_args)`. -/
def fireCallback (callbacks : SignalCallbacks C V) (signalName : String)
    (extraArgs : List (PyVal V)) : List (Callback C × List (PyVal V)) :=
  (callbacks signalName).map fun sub => (sub.1, sub.2 ++ extraArgs)

/-- `SubprocessCaller.process_packet(proto, packet)`. -/
def callerProcessPacket (callbacks : SignalCallbacks C V) (packet : Packet V) :
    List (Callback C × List (PyVal V)) :=
  fireCallback callbacks packet.tag packet.args

/-- The packet `SubprocessCaller.send(packet_type, *packet_data)` queues:
`Packet(packet_type, *packet_data)`. -/
def callerPacket (packetType : String) (packetData : List (PyVal V)) : Packet V :=
  ⟨packetType, packetData⟩

@[simp] theorem connect_apply (callbacks : SignalCallbacks C V) (signal s : String)
    (cb : Callback C) (args : List (PyVal V)) :
    connect callbacks signal cb args s =
      if s = signal then callbacks s ++ [(cb, args)] else callbacks s := rfl

/-- Registering subscriptions one after another appends them to their signal's
list, in order. -/
theorem foldl_connect_apply (callbacks : SignalCallbacks C V)
    (subs : List (String × Callback C × List (PyVal V))) (s : String) :
    subs.foldl (fun cbs sub => connect cbs sub.1 sub.2.1 sub.2.2) callbacks s =
      callbacks s ++ (subs.filter fun sub => sub.1 = s).map fun sub => sub.2 := by
  induction subs generalizing callbacks with
  | nil => simp
  | cons sub subs ih =>
    rw [List.foldl_cons, ih]
    by_cases h : s = sub.1
    · simp [h]
    · simp [h, Ne.symm h]

/-! ## Lifecycle -/

/-- The child process as `Popen.poll()` reports it: `none` while it runs, its
return code once it has exited (negative when a signal ended it). -/
structure Child where
  returncode : Option Int
  deriving DecidableEq, Repr

/-- What the lifecycle methods read and write: `self.process`, and whether
`self.protocol` is set. -/
structure CallerState where
  process : Option Child
  protocol : Bool
  deriving DecidableEq, Repr

/-- The exceptions of the lifecycle methods. -/
inductive CallerError where
  /-- `assert self.process is None, "already started"`. -/
  | assertionError (message : String)
  /-- `ConnectionClosedException` with its message. -/
  | connectionClosed (message : String)
  deriving DecidableEq, Repr

/-- The caller `__init__` builds: no process, no protocol. -/
def CallerState.init : CallerState := ⟨none, false⟩

/-- The truth value of `p.poll()`: `None` and `0` are false. -/
def pollTruthy (child : Child) : Bool :=
  match child.returncode with
  | none => false
  | some code => code != 0

/-- `start()`: spawn the child and set up the protocol. -/
def start (s : CallerState) : Except CallerError CallerState :=
  if s.process.isSome then .error (.assertionError "already started")
  else .ok ⟨some ⟨none⟩, true⟩

/-- `abort_test(action)`. -/
def abortTest (s : CallerState) (action : String) : Except CallerError Unit :=
  match s.process with
  | none => .error (.connectionClosed s!"cannot {action}: subprocess has terminated")
  | some p =>
    if pollTruthy p then .error (.connectionClosed s!"cannot {action}: subprocess has terminated")
    else .ok ()

/-- `stop_process()`: the new state, and whether `proc.terminate()` was
called. -/
def stopProcess (s : CallerState) : CallerState × Bool :=
  match s.process with
  | none => (s, false)
  | some proc => ({ s with process := none }, proc.returncode.isNone)

/-- `stop_protocol()`. -/
def stopProtocol (s : CallerState) : CallerState := { s with protocol := false }

/-- `stop()`: `stop_process()` then `stop_protocol()`. -/
def stop (s : CallerState) : CallerState := stopProtocol (stopProcess s).1

/-- The child exits with return code `code`: from then on `poll()` reports it. -/
def childExit (s : CallerState) (code : Int) : CallerState :=
  match s.process with
  | some ⟨none⟩ => { s with process := some ⟨some code⟩ }
  | _ => s

/-- `start()` succeeds only on a caller with no process, and then has a
running child and a protocol. -/
theorem start_eq_ok {s t : CallerState} (h : start s = .ok t) :
    s.process = none ∧ t = ⟨some ⟨none⟩, true⟩ := by
  simp only [start] at h
  split at h
  · cases h
  · cases h; exact ⟨Option.not_isSome_iff_eq_none.mp ‹_›, rfl⟩

@[simp] theorem childExit_protocol (s : CallerState) (code : Int) :
    (childExit s code).protocol = s.protocol := by
  unfold childExit; split <;> rfl

/-- A child exiting leaves a caller with no process as it is. -/
theorem childExit_process_eq_none {s : CallerState} {code : Int} :
    (childExit s code).process = none ↔ s.process = none := by
  unfold childExit; split <;> simp_all

/-- One step of the caller's lifecycle. -/
inductive CallerStep : CallerState → CallerState → Prop where
  | start {s t} : start s = .ok t → CallerStep s t
  | stop (s) : CallerStep s (stop s)
  | stopProcess (s) : CallerStep s (stopProcess s).1
  | childExit (s) (code : Int) : CallerStep s (childExit s code)

/-- The states a run of the lifecycle reaches from `__init__`. -/
inductive CallerReachable : CallerState → Prop where
  | init : CallerReachable .init
  | step {s t} : CallerReachable s → CallerStep s t → CallerReachable t

/-! ## The two liveness tests -/

/-- `abort_test` passes exactly on a child that runs, or that exited with
return code `0`. -/
theorem abortTest_ok_iff (s : CallerState) (action : String) :
    abortTest s action = .ok () ↔
      ∃ p, s.process = some p ∧ (p.returncode = none ∨ p.returncode = some 0) := by
  rcases s with ⟨_ | ⟨_ | code⟩, protocol⟩
  · simp [abortTest]
  · simp [abortTest, pollTruthy]
  · by_cases h : code = 0 <;> simp [abortTest, pollTruthy, h]

/-- When `abort_test` raises, it raises `ConnectionClosedException` naming the
action. -/
theorem abortTest_error (s : CallerState) (action : String) (h : abortTest s action ≠ .ok ()) :
    abortTest s action =
      .error (.connectionClosed s!"cannot {action}: subprocess has terminated") := by
  rcases s with ⟨_ | p, protocol⟩
  · rfl
  · by_cases hp : pollTruthy p <;> simp_all [abortTest]

/-- `stop_process` calls `terminate()` exactly on a child that runs. -/
theorem stopProcess_terminates_iff (s : CallerState) :
    (stopProcess s).2 = true ↔ ∃ p, s.process = some p ∧ p.returncode = none := by
  rcases s with ⟨_ | ⟨_ | code⟩, protocol⟩ <;> simp [stopProcess]

/-- The two liveness tests disagree exactly on a child that exited with return
code `0`: `abort_test` lets the connection go on although `stop_process` sees a
terminated child.  On every other state, `abort_test` raises exactly when there
is no child or `stop_process` would send no `terminate()`. -/
theorem liveness_tests_disagree_iff (s : CallerState) (action : String) :
    ((abortTest s action = .ok ()) ≠ (∃ p, s.process = some p ∧ (stopProcess s).2 = true)) ↔
      ∃ p, s.process = some p ∧ p.returncode = some 0 := by
  rw [abortTest_ok_iff, stopProcess_terminates_iff]
  rcases s with ⟨_ | ⟨_ | code⟩, protocol⟩
  · simp
  · simp
  · by_cases h : code = 0 <;> simp [h]

/-- `abort_test` and `stop_process` disagree on a child that exited with status
`0`: the state is reached by `start()` and the exit, `stop_process` sees the
child as terminated and sends no `terminate()`, and `abort_test` raises
nothing, because `poll()` returns the falsy `0`. -/
theorem abortTest_passes_after_clean_exit :
    CallerReachable (childExit ⟨some ⟨none⟩, true⟩ 0) ∧
      (childExit ⟨some ⟨none⟩, true⟩ 0).process = some ⟨some 0⟩ ∧
      (stopProcess (childExit ⟨some ⟨none⟩, true⟩ 0)).2 = false ∧
      abortTest (childExit ⟨some ⟨none⟩, true⟩ 0) "write" = .ok () :=
  ⟨.step (.step .init (.start rfl)) (.childExit _ 0), rfl, rfl, rfl⟩

end Xpra.Net.SubprocessWrapper
