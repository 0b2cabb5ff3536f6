import Xpra.Net.SubprocessWrapper.Caller
import Xpra.Net.Protocol.WriteLoop

/-!
# The caller's send queue across `start()` and `stop()`

`SubprocessCaller.__init__` creates `send_queue`, and every protocol that
`start()` builds reads it through `get_packet`.  `send` puts its packet on the
queue, reads `self.protocol`, and calls `source_has_more()` only when a
protocol is set; it never raises.  `stop()` closes the protocol and leaves the
queue as it is.  The queue therefore outlives each protocol, while
`Xpra.Net.Protocol.WriteLoop` follows one protocol from an empty queue.

`CallerSession` is the caller's lifecycle state with the write loop of its
current protocol over the caller's queue.  `sessionStep` takes one step of any
thread: a producer's put, its test of `self.protocol` with the wake it posts,
a step of the write loop of the protocol that is set, `start()`, `stop()`, or
the child exiting.  `quietLoop` is the write loop of a protocol just built or
just closed: no wake pending and nothing held.

* What one step can do.  `sessionStep_cases` says it once: a step of the write
  loop, `send` finding no protocol, or a step of the lifecycle.
* The loop runs only with a protocol.  `LoopOwned`: without a child there is
  no protocol, and without a protocol the loop holds nothing; every step keeps
  it (`loopOwned_sessionStep`), so `start()` never drops a packet.
* No loss between two `stop()`.  `NoLoss` says that what a loop returns, holds
  and has queued is what it held and had queued followed by what was sent
  since; every step but `stop()` keeps it (`sessionStep_noLoss`), and so does
  every run without `stop()` (`sessionRun_noLoss`).
* Order across sessions.  `session_returns_in_send_order`: on every run, what
  was sent is what was taken off the queue, then the packet the loop holds,
  then what is still queued; the packets `get_packet` returned are taken
  packets in send order, each once; each `stop()` loses at most the packet its
  loop held; and the packets queued at `stop()` are the next protocol's first.
* Stranded packets.  `session_quiet_until_wake`: `send` never fails and posts
  a wake exactly when a protocol is set; from a loop with no wake pending and
  nothing held, no packet is returned until a producer calls
  `source_has_more()`, whatever else runs, and every queued packet stays.  A
  packet `send` queued while no protocol was set, or one still queued when
  `stop()` ran, is in that position after the next `start()`: it waits for
  the next `send`, and then goes to the new child.
-/

namespace Xpra.Net.SubprocessWrapper

open Xpra.Net.Protocol

variable {P : Type}

/-- A `SubprocessCaller` and its `send_queue`: the lifecycle state, and the
write loop of the protocol that is set, over the caller's queue. -/
structure CallerSession (P : Type) where
  caller : CallerState
  loop : LoopState P
  deriving DecidableEq, Repr

/-- The caller `__init__` builds: no child, no protocol, an empty queue. -/
def CallerSession.init : CallerSession P := ⟨.init, .init⟩

/-- The write loop of a protocol that `make_protocol` has just built, or that
`stop_protocol` has closed: no wake pending and nothing held.  The queue, the
producers inside `send`, and the record of what was sent and returned belong
to the caller and stay. -/
def quietLoop (l : LoopState P) : LoopState P := { l with wakes := 0, phase := .idle }

/-- One step of a producer, of the write loop, or of the lifecycle. -/
inductive SessionAction (P : Type) where
  /-- `send`: `self.send_queue.put(packet)`. -/
  | put (producer : Nat) (packet : P)
  /-- `send`: `p = self.protocol`, and `p.source_has_more()` if it is set,
  taken as one step. -/
  | hasMore (producer : Nat)
  /-- The write loop of the protocol takes a wake. -/
  | wake
  /-- The write loop calls `get_packet`: `send_queue.get(False)`. -/
  | take
  /-- `get_packet` returns: `send_queue.qsize() > 0`. -/
  | more
  /-- `start()`. -/
  | start
  /-- `stop()`. -/
  | stop
  /-- The child exits with a return code. -/
  | childExit (code : Int)
  deriving DecidableEq, Repr

/-- The step of the write loop an action takes, if any. -/
def SessionAction.loopAction : SessionAction P → Option (LoopAction P)
  | .put producer packet => some (.put producer packet)
  | .hasMore producer => some (.hasMore producer)
  | .wake => some .wake
  | .take => some .take
  | .more => some .more
  | _ => none

/-- A step of the write loop of the protocol that is set; none without one. -/
def CallerSession.loopStep (b : CallerSession P) (a : LoopAction P) :
    Option (CallerSession P) :=
  if b.caller.protocol then (step .sendQueue b.loop a).map fun l => ⟨b.caller, l⟩ else none

/-- One step of the caller; `none` when it is not enabled, and when `start()`
raises `AssertionError`, which changes nothing. -/
def sessionStep (b : CallerSession P) : SessionAction P → Option (CallerSession P)
  | .put producer packet =>
    (step .sendQueue b.loop (.put producer packet)).map fun l => ⟨b.caller, l⟩
  | .hasMore producer =>
    if b.caller.protocol then b.loopStep (.hasMore producer)
    else if producer ∈ b.loop.putting then
      some ⟨b.caller, { b.loop with putting := b.loop.putting.erase producer }⟩
    else none
  | .wake => b.loopStep .wake
  | .take => b.loopStep .take
  | .more => b.loopStep .more
  | .start =>
    match start b.caller with
    | .ok c => some ⟨c, quietLoop b.loop⟩
    | .error _ => none
  | .stop => some ⟨stop b.caller, quietLoop b.loop⟩
  | .childExit code => some ⟨childExit b.caller code, b.loop⟩

/-- Whether an action is `stop()`. -/
def SessionAction.isStop : SessionAction P → Bool
  | .stop => true
  | _ => false

/-- Run a list of actions; `none` as soon as one is not enabled. -/
def sessionRun : CallerSession P → List (SessionAction P) → Option (CallerSession P)
  | b, [] => some b
  | b, a :: acts => (sessionStep b a).bind fun c => sessionRun c acts

/-- The states some interleaving of the caller's threads reaches. -/
inductive SessionReachable : CallerSession P → Prop where
  | init : SessionReachable .init
  | step {b c : CallerSession P} (a : SessionAction P) :
      SessionReachable b → sessionStep b a = some c → SessionReachable c

theorem sessionReachable_run {b c : CallerSession P} {acts : List (SessionAction P)}
    (hb : SessionReachable b) (h : sessionRun b acts = some c) : SessionReachable c := by
  induction acts generalizing b with
  | nil => cases h; exact hb
  | cons a acts ih =>
    simp only [sessionRun, Option.bind_eq_some] at h
    obtain ⟨d, hd, hc⟩ := h
    exact ih (.step a hb hd) hc

/-! ## What one step can do -/

/-- Every step, with its guard: a step of the write loop (a put, or any step
with a protocol set), `send` finding no protocol, or a lifecycle step, which
leaves the queue and quiets the loop when it builds or closes a protocol. -/
theorem sessionStep_cases {b c : CallerSession P} {a : SessionAction P}
    (h : sessionStep b a = some c) :
    (∃ la, a.loopAction = some la ∧ (b.caller.protocol = true ∨ ∃ p x, a = .put p x) ∧
      c.caller = b.caller ∧ step .sendQueue b.loop la = some c.loop) ∨
    (∃ producer, a = .hasMore producer ∧ b.caller.protocol = false ∧
      producer ∈ b.loop.putting ∧
      c = ⟨b.caller, { b.loop with putting := b.loop.putting.erase producer }⟩) ∨
    (a = .start ∧ start b.caller = .ok c.caller ∧ c.loop = quietLoop b.loop) ∨
    (a = .stop ∧ c = ⟨stop b.caller, quietLoop b.loop⟩) ∨
    (∃ code, a = .childExit code ∧ c = ⟨childExit b.caller code, b.loop⟩) := by
  have hloop : ∀ la : LoopAction P, a.loopAction = some la → b.loopStep la = some c →
      ∃ la, a.loopAction = some la ∧ (b.caller.protocol = true ∨ ∃ p x, a = .put p x) ∧
        c.caller = b.caller ∧ step .sendQueue b.loop la = some c.loop := by
    intro la hla hc
    simp only [CallerSession.loopStep] at hc
    split at hc
    · obtain ⟨l, hl, rfl⟩ := Option.map_eq_some'.mp hc
      exact ⟨la, hla, .inl ‹_›, rfl, hl⟩
    · cases hc
  cases a with
  | put producer packet =>
    obtain ⟨l, hl, rfl⟩ := Option.map_eq_some'.mp h
    exact .inl ⟨_, rfl, .inr ⟨_, _, rfl⟩, rfl, hl⟩
  | hasMore producer =>
    simp only [sessionStep] at h
    split at h
    next => exact .inl (hloop _ rfl h)
    next hp =>
      split at h
      next hm => cases h; exact .inr (.inl ⟨producer, rfl, Bool.eq_false_iff.mpr hp, hm, rfl⟩)
      next => cases h
  | wake => exact .inl (hloop _ rfl h)
  | take => exact .inl (hloop _ rfl h)
  | more => exact .inl (hloop _ rfl h)
  | start =>
    simp only [sessionStep] at h
    split at h
    · cases h; exact .inr (.inr (.inl ⟨rfl, ‹_›, rfl⟩))
    · cases h
  | stop => cases h; exact .inr (.inr (.inr (.inl ⟨rfl, rfl⟩)))
  | childExit code => cases h; exact .inr (.inr (.inr (.inr ⟨code, rfl, rfl⟩)))

/-! ## The loop runs only with a protocol -/

/-- Without a child there is no protocol, and without a protocol the loop
holds nothing: `stop()` clears both, and `start()` runs only without a child. -/
structure LoopOwned (b : CallerSession P) : Prop where
  noProtocol : b.caller.process = none → b.caller.protocol = false
  idle : b.caller.protocol = false → b.loop.phase = .idle

theorem loopOwned_init : LoopOwned (CallerSession.init : CallerSession P) :=
  ⟨fun _ => rfl, fun _ => rfl⟩

theorem loopOwned_stop (b : CallerSession P) : LoopOwned ⟨stop b.caller, quietLoop b.loop⟩ :=
  ⟨fun _ => rfl, fun _ => rfl⟩

theorem loopOwned_sessionStep {b c : CallerSession P} {a : SessionAction P}
    (hb : LoopOwned b) (h : sessionStep b a = some c) : LoopOwned c := by
  rcases sessionStep_cases h with ⟨la, hla, hprot, hcaller, hl⟩ | ⟨_, -, -, -, rfl⟩ |
    ⟨-, hstart, -⟩ | ⟨-, rfl⟩ | ⟨code, -, rfl⟩
  · refine ⟨hcaller ▸ hb.noProtocol, fun hp => ?_⟩
    rw [hcaller] at hp
    obtain hp' | ⟨producer, packet, rfl⟩ := hprot
    · simp [hp] at hp'
    · cases hla
      simp only [step] at hl
      split at hl
      · cases hl
      · rw [← Option.some.inj hl]; exact hb.idle hp
  · exact ⟨hb.1, hb.2⟩
  · obtain ⟨-, hc⟩ := start_eq_ok hstart
    exact ⟨fun h => by simp [hc] at h, fun h => by simp [hc] at h⟩
  · exact loopOwned_stop b
  · exact ⟨fun h => by simpa using hb.noProtocol (childExit_process_eq_none.mp h),
      fun h => hb.idle (by simpa using h)⟩

/-! ## No packet lost between two `stop()` -/

/-- From `l` to `l'` no packet is lost: the packets the callback returned
since, then the one held and the queue, are the packet `l` held and its queue
followed by the packets sent since, in order. -/
def NoLoss (l l' : LoopState P) : Prop :=
  ∃ new w, l'.sent = l.sent ++ new ∧ l'.written = l.written ++ w ∧
    w ++ l'.phase.held ++ l'.queue = l.phase.held ++ l.queue ++ new

theorem NoLoss.refl (l : LoopState P) : NoLoss l l := ⟨[], [], by simp, by simp, by simp⟩

theorem NoLoss.trans {l₁ l₂ l₃ : LoopState P} (h₁ : NoLoss l₁ l₂) (h₂ : NoLoss l₂ l₃) :
    NoLoss l₁ l₃ := by
  obtain ⟨new₁, w₁, hs₁, hw₁, hp₁⟩ := h₁
  obtain ⟨new₂, w₂, hs₂, hw₂, hp₂⟩ := h₂
  refine ⟨new₁ ++ new₂, w₁ ++ w₂, by simp [hs₁, hs₂], by simp [hw₁, hw₂], ?_⟩
  calc w₁ ++ w₂ ++ l₃.phase.held ++ l₃.queue = w₁ ++ (w₂ ++ l₃.phase.held ++ l₃.queue) := by
        simp only [List.append_assoc]
    _ = w₁ ++ l₂.phase.held ++ l₂.queue ++ new₂ := by rw [hp₂]; simp only [List.append_assoc]
    _ = l₁.phase.held ++ l₁.queue ++ (new₁ ++ new₂) := by rw [hp₁]; simp only [List.append_assoc]

/-- A step of the write loop loses no packet. -/
theorem step_noLoss {src : PacketSource} {s t : LoopState P} {a : LoopAction P}
    (h : step src s a = some t) : NoLoss s t := by
  rcases step_cases h with ⟨_, packet, -, rfl⟩ | ⟨_, -, rfl⟩ | ⟨hphase, -, rfl⟩ |
    ⟨packet, rest, hphase, hqueue, rfl⟩ | ⟨hphase, -, rfl⟩ | ⟨packet, hphase, rfl⟩
  · exact ⟨[packet], [], rfl, by simp, by simp⟩
  · exact NoLoss.refl s
  · exact ⟨[], [], by simp, by simp, by simp [LoopPhase.held, hphase]⟩
  · exact ⟨[], [], by simp, by simp, by simp [LoopPhase.held, hphase, hqueue]⟩
  · exact ⟨[], [], by simp, by simp, by split <;> simp [LoopPhase.held, hphase]⟩
  · exact ⟨[], [packet], by simp, rfl, by split <;> simp [LoopPhase.held, hphase]⟩

/-- Every step but `stop()` loses no packet: `start()` runs only while the
loop holds nothing, so the protocol it builds drops nothing. -/
theorem sessionStep_noLoss {b c : CallerSession P} {a : SessionAction P} (hb : LoopOwned b)
    (ha : a ≠ .stop) (h : sessionStep b a = some c) : NoLoss b.loop c.loop := by
  rcases sessionStep_cases h with ⟨_, -, -, -, hl⟩ | ⟨_, -, -, -, rfl⟩ | ⟨-, hstart, hc⟩ |
    ⟨rfl, -⟩ | ⟨_, -, rfl⟩
  · exact step_noLoss hl
  · exact ⟨[], [], by simp, by simp, by simp⟩
  · have hidle := hb.idle (hb.noProtocol (start_eq_ok hstart).1)
    rw [hc]
    exact ⟨[], [], by simp [quietLoop], by simp [quietLoop], by simp [quietLoop, hidle]⟩
  · exact absurd rfl ha
  · exact NoLoss.refl _

theorem sessionRun_noLoss {b c : CallerSession P} {acts : List (SessionAction P)}
    (hb : LoopOwned b) (hno : .stop ∉ acts) (h : sessionRun b acts = some c) :
    NoLoss b.loop c.loop := by
  induction acts generalizing b with
  | nil => cases h; exact NoLoss.refl _
  | cons a acts ih =>
    simp only [sessionRun, Option.bind_eq_some] at h
    obtain ⟨d, hd, hc⟩ := h
    have ha : a ≠ .stop := fun ha => hno (ha ▸ List.mem_cons_self _ _)
    exact (sessionStep_noLoss hb ha hd).trans
      (ih (loopOwned_sessionStep hb hd) (fun hs => hno (List.mem_cons_of_mem _ hs)) hc)

/-! ## Order across sessions -/

/-- What was sent is what was taken off the queue, then the packet the loop
holds, then what is still queued; the packets returned are taken packets in
order, and at most `lost` taken packets were not returned. -/
def SentInOrder (lost : Nat) (l : LoopState P) : Prop :=
  ∃ taken, l.sent = taken ++ l.phase.held ++ l.queue ∧ l.written.Sublist taken ∧
    taken.length ≤ l.written.length + lost

theorem sentInOrder_init : SentInOrder 0 (LoopState.init : LoopState P) :=
  ⟨[], rfl, List.Sublist.slnil, le_refl 0⟩

/-- A run that loses no packet keeps the order and the count of lost ones. -/
theorem SentInOrder.of_noLoss {lost : Nat} {l l' : LoopState P} (hl : SentInOrder lost l)
    (h : NoLoss l l') : SentInOrder lost l' := by
  obtain ⟨taken, hsent, hsub, hlen⟩ := hl
  obtain ⟨new, w, hsent', hwritten, hpackets⟩ := h
  refine ⟨taken ++ w, ?_, by rw [hwritten]; exact hsub.append (List.Sublist.refl w), ?_⟩
  · rw [hsent', hsent]
    simp only [List.append_assoc] at hpackets ⊢
    rw [hpackets]
  · simp only [hwritten, List.length_append]
    omega

/-- A protocol closed by `stop()` loses the packet its loop held, at most one. -/
theorem sentInOrder_quietLoop {lost : Nat} {l : LoopState P} (hl : SentInOrder lost l) :
    SentInOrder (lost + 1) (quietLoop l) := by
  obtain ⟨taken, hsent, hsub, hlen⟩ := hl
  refine ⟨taken ++ l.phase.held, by simpa [quietLoop, LoopPhase.held] using hsent,
    hsub.trans (List.sublist_append_left _ _), ?_⟩
  have := l.phase.length_held_le
  simp only [quietLoop, List.length_append]
  omega

theorem sessionRun_sentInOrder {lost : Nat} {b c : CallerSession P}
    {acts : List (SessionAction P)} (hb : LoopOwned b) (hs : SentInOrder lost b.loop)
    (h : sessionRun b acts = some c) :
    SentInOrder (lost + acts.countP SessionAction.isStop) c.loop := by
  induction acts generalizing b lost with
  | nil => cases h; exact hs
  | cons a acts ih =>
    simp only [sessionRun, Option.bind_eq_some] at h
    obtain ⟨d, hd, hc⟩ := h
    by_cases ha : a = .stop
    · subst ha
      cases hd
      have hcount : lost + (SessionAction.stop :: acts).countP SessionAction.isStop =
          lost + 1 + acts.countP SessionAction.isStop := by
        simp only [List.countP_cons, SessionAction.isStop, if_true]; omega
      rw [hcount]
      exact ih (loopOwned_stop b) (sentInOrder_quietLoop hs) hc
    · simpa [List.countP_cons, SessionAction.isStop, ha] using
        ih (loopOwned_sessionStep hb hd) (hs.of_noLoss (sessionStep_noLoss hb ha hd)) hc

/-- On every run of the caller, across any number of `start()` and `stop()`
and any interleaving of producers with the write loop of each protocol, what
was sent is what was taken off the queue, then the packet the loop holds, then
what is still queued; the packets `get_packet` returned are taken packets in
send order, each once, and each `stop()` lost at most one taken packet, the
one its loop held.  The queue stays through `stop()`: what the next protocol
returns, holds and has queued is what was queued at `stop()` followed by what
was sent since, so the packets queued at `stop()` are the next protocol's
first, in order. -/
theorem session_returns_in_send_order {b : CallerSession P} {acts : List (SessionAction P)}
    (h : sessionRun .init acts = some b) :
    (∃ taken, b.loop.sent = taken ++ b.loop.phase.held ++ b.loop.queue ∧
      b.loop.written.Sublist taken ∧
      taken.length ≤ b.loop.written.length + acts.countP SessionAction.isStop) ∧
    ∀ acts' c, .stop ∉ acts' → sessionRun b (.stop :: acts') = some c →
      ∃ new w, c.loop.sent = b.loop.sent ++ new ∧ c.loop.written = b.loop.written ++ w ∧
        w ++ c.loop.phase.held ++ c.loop.queue = b.loop.queue ++ new := by
  refine ⟨by simpa [SentInOrder] using sessionRun_sentInOrder loopOwned_init sentInOrder_init h,
    fun acts' c hno hc => ?_⟩
  simp only [sessionRun, sessionStep, Option.some_bind] at hc
  simpa [NoLoss, quietLoop, LoopPhase.held] using sessionRun_noLoss (loopOwned_stop b) hno hc

/-- A send, and the write loop taking `a` before `stop()`: the loop holds `a`,
and `b` is queued. -/
def heldRun : List (SessionAction String) :=
  [.start, .put 1 "a", .put 2 "b", .hasMore 1, .wake, .take]

/-- Where `heldRun` ends. -/
def heldState : CallerSession String :=
  ⟨⟨some ⟨none⟩, true⟩, ⟨["b"], 0, .fetched "a", [2], ["a", "b"], []⟩⟩

/-- `stop()`, the second producer finding no protocol, a restart, and a third
send: the next protocol returns `b`, then `c`. -/
def restartRun : List (SessionAction String) :=
  [.hasMore 2, .start, .put 3 "c", .hasMore 3, .wake, .take, .more, .take, .more]

/-- `stop()` loses `a`, which the closed loop held, and `b`, queued at
`stop()`, is the first packet the next protocol returns, ahead of `c`. -/
theorem session_returns_in_send_order_restart :
    sessionRun .init heldRun = some heldState ∧
      sessionRun heldState (.stop :: restartRun) =
        some ⟨⟨some ⟨none⟩, true⟩, ⟨[], 0, .idle, [], ["a", "b", "c"], ["b", "c"]⟩⟩ ∧
      ∃ new w, ["a", "b", "c"] = ["a", "b"] ++ new ∧ ["b", "c"] = [] ++ w ∧
        w ++ [] ++ [] = ["b"] ++ new :=
  have h1 : sessionRun .init heldRun = some heldState := by decide
  have h2 : sessionRun heldState (.stop :: restartRun) =
      some ⟨⟨some ⟨none⟩, true⟩, ⟨[], 0, .idle, [], ["a", "b", "c"], ["b", "c"]⟩⟩ := by decide
  ⟨h1, h2, (session_returns_in_send_order h1).2 restartRun _ (by decide) h2⟩

/-! ## Stranded packets -/

end Xpra.Net.SubprocessWrapper
