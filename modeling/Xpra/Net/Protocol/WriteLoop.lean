import Mathlib.Data.List.Basic

/-!
# The write loop and its packet sources

Section 4.3 of the spec describes the write loop of the protocol engine: every
`source_has_more()` posts a wake, an idle loop waits for one, and a woken loop
calls the get-packet callback of its owner as long as the callback answers
that more is queued.  The owners in the sources put a packet on a queue and
then call `source_has_more()`:

* `SubprocessCaller.send` and `SubprocessCallee.send` put on a `SimpleQueue`,
  and their `get_packet` is `send_queue.get(False)` followed by
  `send_queue.qsize() > 0`, with `Empty` caught;
* `XpraTkClient.send` appends to `_ordinary_packets`, and its `next_packet` is
  `_ordinary_packets.pop(0)` followed by `bool(self._ordinary_packets)`, with
  nothing caught.

`LoopState` is the queue, the wakes posted and not yet taken, the phase of the
loop, and the producers between their put and their `source_has_more()`.
`step` takes one atomic step of any thread: a producer's put or wake, or the
loop's wake, `take` (the first half of the callback) or `more` (its second
half).  `sent` and `written` record what was put and what the callback
returned.  `PacketSource` is the one place where the two owners differ: what
`take` does on an empty queue.

`step_cases` says once what a step can do, and `step_packets` what it does to
the packets.  `Inv` is the invariant of the loop: nothing is lost or duplicated
(`written ++ held ++ queue = sent`), and a non-empty queue has the loop busy,
a wake pending, or a producer about to post one.  `step_inv` proves that one
step keeps it, `reachable_inv` that every run does.  `Inv.written_eq_take`,
`Inv.queue_eq_nil` and `Inv.written_eq_sent` read off it what a quiet loop has
written: a prefix of what was sent, and all of it once nothing is pending.
-/

namespace Xpra.Net.Protocol

/-- The owner of the write loop, by what its callback does on an empty queue. -/
inductive PacketSource where
  /-- `get_packet` of `SubprocessCaller` and `SubprocessCallee`: `Empty` is
  caught and the call returns `(None, False, False)`. -/
  | sendQueue
  /-- `next_packet` of `XpraTkClient`: `pop(0)` raises `IndexError`. -/
  | ordinaryPackets
  deriving DecidableEq, Repr

/-- The phase of the write loop. -/
inductive LoopPhase (P : Type) where
  /-- Waiting for a wake. -/
  | idle
  /-- Woken: the next step calls the callback. -/
  | draining
  /-- Inside the callback, between taking `packet` off the queue and testing
  whether more is queued. -/
  | fetched (packet : P)
  /-- The callback raised. -/
  | failed
  deriving DecidableEq, Repr

/-- The packet the loop holds between the two halves of the callback. -/
def LoopPhase.held {P : Type} : LoopPhase P → List P
  | .fetched packet => [packet]
  | _ => []

theorem LoopPhase.length_held_le {P : Type} (phase : LoopPhase P) : phase.held.length ≤ 1 := by
  cases phase <;> simp [LoopPhase.held]

/-- Modelled from the spec: the write loop of `SocketProtocol` (section 4.3;
the protocol engine is not under `src/`), the queue of its owner, and the
producers feeding it. -/
structure LoopState (P : Type) where
  queue : List P
  /-- Wakes posted by `source_has_more()` and not yet taken by the loop. -/
  wakes : Nat
  phase : LoopPhase P
  /-- The producers between their put and their `source_has_more()`. -/
  putting : List Nat
  /-- Every packet put on the queue, in order. -/
  sent : List P
  /-- Every packet the callback returned, in order. -/
  written : List P
  deriving DecidableEq, Repr

/-- One atomic step of a producer or of the loop. -/
inductive LoopAction (P : Type) where
  /-- `send`: the producer puts the packet on the queue. -/
  | put (producer : Nat) (packet : P)
  /-- `send`: the producer calls `source_has_more()`. -/
  | hasMore (producer : Nat)
  /-- The idle loop takes a wake. -/
  | wake
  /-- First half of the callback: take the head of the queue. -/
  | take
  /-- Second half of the callback: test whether more is queued. -/
  | more
  deriving DecidableEq, Repr

variable {P : Type}

/-- The loop before anything was sent. -/
def LoopState.init : LoopState P := ⟨[], 0, .idle, [], [], []⟩

/-- Modelled from the spec: one atomic step of a producer or of the write loop
of section 4.3; `none` when the action is not enabled.  The callback is split
into `take` and `more`, so a producer can put between the `get` and the
`qsize()` of `get_packet`.  That order does not matter: every
`source_has_more()` adds one to `wakes`, so a packet that `more` misses is
still announced by the wake its producer posts after the put. -/
def step (src : PacketSource) (s : LoopState P) : LoopAction P → Option (LoopState P)
  | .put producer packet =>
    if producer ∈ s.putting then none
    else some { s with queue := s.queue ++ [packet], putting := producer :: s.putting,
                       sent := s.sent ++ [packet] }
  | .hasMore producer =>
    if producer ∈ s.putting then
      some { s with putting := s.putting.erase producer, wakes := s.wakes + 1 }
    else none
  | .wake =>
    match s.phase with
    | .idle => if 0 < s.wakes then some { s with wakes := s.wakes - 1, phase := .draining } else none
    | _ => none
  | .take =>
    match s.phase, s.queue with
    | .draining, packet :: rest => some { s with queue := rest, phase := .fetched packet }
    | .draining, [] =>
      match src with
      | .sendQueue => some { s with phase := .idle }
      | .ordinaryPackets => some { s with phase := .failed }
    | _, _ => none
  | .more =>
    match s.phase with
    | .fetched packet =>
      some { s with written := s.written ++ [packet],
                    phase := if s.queue.isEmpty then .idle else .draining }
    | _ => none

/-- Run a list of actions; `none` as soon as one is not enabled. -/
def run (src : PacketSource) : LoopState P → List (LoopAction P) → Option (LoopState P)
  | s, [] => some s
  | s, a :: acts => (step src s a).bind fun t => run src t acts

/-- The states some interleaving of the threads reaches. -/
inductive Reachable (src : PacketSource) : LoopState P → Prop where
  | init : Reachable src .init
  | step {s t : LoopState P} (a : LoopAction P) :
      Reachable src s → step src s a = some t → Reachable src t

theorem reachable_run {src : PacketSource} {s t : LoopState P} {acts : List (LoopAction P)}
    (hs : Reachable src s) (h : run src s acts = some t) : Reachable src t := by
  induction acts generalizing s with
  | nil => cases h; exact hs
  | cons a acts ih =>
    simp only [run, Option.bind_eq_some] at h
    obtain ⟨u, hu, ht⟩ := h
    exact ih (.step a hs hu) ht

/-! ## What one step can do -/

/-- Every step, with its guard. -/
theorem step_cases {src : PacketSource} {s t : LoopState P} {a : LoopAction P}
    (h : step src s a = some t) :
    (∃ producer packet, producer ∉ s.putting ∧
      t = { s with queue := s.queue ++ [packet], putting := producer :: s.putting,
                   sent := s.sent ++ [packet] }) ∨
    (∃ producer, producer ∈ s.putting ∧
      t = { s with putting := s.putting.erase producer, wakes := s.wakes + 1 }) ∨
    (s.phase = .idle ∧ 0 < s.wakes ∧ t = { s with wakes := s.wakes - 1, phase := .draining }) ∨
    (∃ packet rest, s.phase = .draining ∧ s.queue = packet :: rest ∧
      t = { s with queue := rest, phase := .fetched packet }) ∨
    (s.phase = .draining ∧ s.queue = [] ∧
      t = { s with phase := if src = .sendQueue then .idle else .failed }) ∨
    (∃ packet, s.phase = .fetched packet ∧
      t = { s with written := s.written ++ [packet],
                   phase := if s.queue.isEmpty then .idle else .draining }) := by
  cases a with
  | put producer packet =>
    simp only [step] at h
    split at h
    · cases h
    · cases h; exact .inl ⟨producer, packet, ‹_›, rfl⟩
  | hasMore producer =>
    simp only [step] at h
    split at h
    · cases h; exact .inr (.inl ⟨producer, ‹_›, rfl⟩)
    · cases h
  | wake =>
    simp only [step] at h
    split at h
    · split at h
      · cases h; exact .inr (.inr (.inl ⟨‹_›, ‹_›, rfl⟩))
      · cases h
    · cases h
  | take =>
    simp only [step] at h
    split at h
    · cases h; exact .inr (.inr (.inr (.inl ⟨_, _, ‹_›, ‹_›, rfl⟩)))
    · rename_i hphase hqueue
      refine .inr (.inr (.inr (.inr (.inl ⟨hphase, hqueue, ?_⟩))))
      cases src <;> cases h <;> rfl
    · cases h
  | more =>
    simp only [step] at h
    split at h
    · cases h; exact .inr (.inr (.inr (.inr (.inr ⟨_, ‹_›, rfl⟩))))
    · cases h

/-- What a step does to the packets: it appends at most one packet to `sent`
and to the queue, and otherwise moves the head of the queue to the loop and
the loop's packet to `written`. -/
theorem step_packets {src : PacketSource} {s t : LoopState P} {a : LoopAction P}
    (h : step src s a = some t) :
    ∃ new : List P, t.sent = s.sent ++ new ∧
      t.written ++ t.phase.held ++ t.queue = s.written ++ s.phase.held ++ s.queue ++ new ∧
      t.queue <:+ s.queue ++ new := by
  rcases step_cases h with ⟨_, packet, -, rfl⟩ | ⟨_, -, rfl⟩ | ⟨hphase, -, rfl⟩ |
    ⟨packet, rest, hphase, hqueue, rfl⟩ | ⟨hphase, -, rfl⟩ | ⟨packet, hphase, rfl⟩
  · exact ⟨[packet], rfl, by simp, List.suffix_refl _⟩
  · exact ⟨[], by simp, by simp, by simp⟩
  · exact ⟨[], by simp, by simp [LoopPhase.held, hphase], by simp⟩
  · exact ⟨[], by simp, by simp [LoopPhase.held, hphase, hqueue],
      by simp [hqueue, List.suffix_cons]⟩
  · exact ⟨[], by simp, by split <;> simp [LoopPhase.held, hphase], by simp⟩
  · exact ⟨[], by simp, by split <;> simp [LoopPhase.held, hphase], by simp⟩

/-- A put appends its packet to what was sent, and its producer to those
between a put and a wake. -/
theorem step_put {src : PacketSource} {s t : LoopState P} {producer : Nat} {packet : P}
    (h : step src s (.put producer packet) = some t) :
    t.sent = s.sent ++ [packet] ∧ t.putting = producer :: s.putting := by
  simp only [step] at h
  split at h <;> cases h
  exact ⟨rfl, rfl⟩

/-- `source_has_more()` sends nothing and drops its producer. -/
theorem step_hasMore {src : PacketSource} {s t : LoopState P} {producer : Nat}
    (h : step src s (.hasMore producer) = some t) :
    t.sent = s.sent ∧ t.putting = s.putting.erase producer := by
  simp only [step] at h
  split at h <;> cases h
  exact ⟨rfl, rfl⟩

/-- The loop's own steps send nothing and leave the producers alone. -/
theorem step_loop_frame {src : PacketSource} {s t : LoopState P} {a : LoopAction P}
    (ha : a = .wake ∨ a = .take ∨ a = .more) (h : step src s a = some t) :
    t.sent = s.sent ∧ t.putting = s.putting := by
  rcases ha with rfl | rfl | rfl <;> simp only [step] at h <;> (repeat' split at h) <;>
    cases h <;> exact ⟨rfl, rfl⟩

/-! ## The invariant -/

/-- The invariant of the loop. -/
structure Inv (src : PacketSource) (s : LoopState P) : Prop where
  /-- Every packet sent was written, is held by the loop, or is queued, in
  order and once. -/
  accounted : s.written ++ s.phase.held ++ s.queue = s.sent
  /-- A queued packet has the loop busy, a wake pending, or a producer about to
  post one. -/
  announced : s.queue ≠ [] → s.phase ≠ .idle ∨ 0 < s.wakes ∨ s.putting ≠ []
  /-- `get_packet` never raises. -/
  noFailure : src = .sendQueue → s.phase ≠ .failed

theorem inv_init (src : PacketSource) : Inv src (LoopState.init : LoopState P) :=
  ⟨rfl, fun h => absurd rfl h, fun _ h => by cases h⟩

theorem step_inv {src : PacketSource} {s t : LoopState P} {a : LoopAction P}
    (hi : Inv src s) (h : step src s a = some t) : Inv src t := by
  obtain ⟨hacc, -, hfail⟩ := hi
  have hacc' : t.written ++ t.phase.held ++ t.queue = t.sent := by
    obtain ⟨new, hsent, heq, -⟩ := step_packets h
    rw [heq, hacc, hsent]
  rcases step_cases h with ⟨producer, packet, -, rfl⟩ | ⟨producer, -, rfl⟩ |
    ⟨hphase, -, rfl⟩ | ⟨packet, rest, hphase, hqueue, rfl⟩ | ⟨hphase, hqueue, rfl⟩ |
    ⟨packet, hphase, rfl⟩
  · exact ⟨hacc', fun _ => .inr (.inr (List.cons_ne_nil _ _)), hfail⟩
  · exact ⟨hacc', fun _ => .inr (.inl (Nat.succ_pos _)), hfail⟩
  · exact ⟨hacc', fun _ => .inl (by simp), fun _ => by simp⟩
  · exact ⟨hacc', fun _ => .inl (by simp), fun _ => by simp⟩
  · cases src
    · exact ⟨hacc', fun h => absurd hqueue h, fun _ => by simp⟩
    · exact ⟨hacc', fun _ => .inl (by simp), fun h => by cases h⟩
  · refine ⟨hacc', fun hq => .inl ?_, fun _ => ?_⟩
    · simp [List.isEmpty_iff, hq]
    · split <;> simp

theorem reachable_inv {src : PacketSource} {s : LoopState P} (h : Reachable src s) :
    Inv src s := by
  induction h with
  | init => exact inv_init src
  | step a _ hstep ih => exact step_inv ih hstep

/-- What the callback returned is a prefix of what was sent. -/
theorem Inv.written_eq_take {src : PacketSource} {s : LoopState P} (hi : Inv src s) :
    s.written = s.sent.take s.written.length := by
  rw [← hi.accounted, List.append_assoc, List.take_left]

/-- A quiet loop has an empty queue: idle, no wake pending, and no producer
between its put and its `source_has_more()`. -/
theorem Inv.queue_eq_nil {src : PacketSource} {s : LoopState P} (hi : Inv src s)
    (hidle : s.phase = .idle) (hwakes : s.wakes = 0) (hput : s.putting = []) : s.queue = [] := by
  by_contra hq
  rcases hi.announced hq with h | h | h
  · exact h hidle
  · omega
  · exact h hput

/-- A quiet loop has returned every packet sent. -/
theorem Inv.written_eq_sent {src : PacketSource} {s : LoopState P} (hi : Inv src s)
    (hidle : s.phase = .idle) (hwakes : s.wakes = 0) (hput : s.putting = []) :
    s.written = s.sent := by
  simpa [hi.queue_eq_nil hidle hwakes hput, hidle, LoopPhase.held] using hi.accounted

/-! ## The bridge send queues -/

/-- No packet of a bridge send queue is lost, duplicated, reordered or stranded,
whatever the number of producers and the interleaving of their steps with the
loop's.  The packets `get_packet` returned are the packets put, in order and
once, up to those the loop holds or that are still queued; `get_packet` never
raises; and whenever the loop is idle, no wake is pending and no producer is
between its put and its `source_has_more()`, the queue is empty and every
packet put was returned. -/
theorem sendQueue_no_lost_packet {s : LoopState P} (h : Reachable .sendQueue s) :
    s.written ++ s.phase.held ++ s.queue = s.sent ∧ s.phase ≠ .failed ∧
      (s.phase = .idle → s.wakes = 0 → s.putting = [] → s.queue = [] ∧ s.written = s.sent) := by
  have hi := reachable_inv h
  exact ⟨hi.accounted, hi.noFailure rfl, fun hidle hwakes hput =>
    ⟨hi.queue_eq_nil hidle hwakes hput, hi.written_eq_sent hidle hwakes hput⟩⟩

/-- Two producers, the first one's wake arriving after the loop has drained
both packets: the late wake finds an empty queue, and `get_packet` returns
`None`. -/
def lateWakeRun : List (LoopAction String) :=
  [.put 1 "a", .put 2 "b", .hasMore 2, .wake, .take, .more, .take, .more, .hasMore 1, .wake, .take]

/-- Where `lateWakeRun` ends. -/
def lateWakeState : LoopState String := ⟨[], 0, .idle, [], ["a", "b"], ["a", "b"]⟩

theorem sendQueue_no_lost_packet_late_wake :
    run .sendQueue .init lateWakeRun = some lateWakeState ∧
      (lateWakeState.written ++ lateWakeState.phase.held ++ lateWakeState.queue = lateWakeState.sent ∧
        lateWakeState.phase ≠ .failed ∧
        (lateWakeState.phase = .idle → lateWakeState.wakes = 0 → lateWakeState.putting = [] →
          lateWakeState.queue = [] ∧ lateWakeState.written = lateWakeState.sent)) := by
  have hrun : run .sendQueue .init lateWakeRun = some lateWakeState := rfl
  exact ⟨hrun, sendQueue_no_lost_packet (reachable_run .init hrun)⟩

end Xpra.Net.Protocol
