import Xpra.Net.SubprocessWrapper.Bridge
import Xpra.Net.Protocol.WriteLoop

/-!
# The two send queues as the bridge's channel

`Xpra.Net.SubprocessWrapper.Bridge` takes the channel between the two
processes to be a lossless FIFO: the callee's `process_packet` sees the packets
of the caller's `send` calls in order, and the caller's `process_packet` those
of the callee's.  This module discharges both, starting with the commands.  The
caller's `send` puts its packet on `send_queue`, and the
write loop of `Xpra.Net.Protocol.WriteLoop` hands them to the wire through
`get_packet`; the packets written are a prefix of the packets sent
(`Inv.written_eq_take`), and all of them once the loop is quiet
(`Inv.written_eq_sent`).  With the wire and the callee's read path in between
taken to deliver what was written, in order:

* `calleeCalls_of_written`: on every interleaving of any number of producers
  with the loop, the calls the callee has scheduled are the direct calls of the
  sends written so far, a prefix of the sends;
* `calleeCalls_of_quiet_loop`: once the loop is quiet, they are the direct calls
  of all the sends.

The event direction runs through the callee's send queue and the same write
loop.  `emittedPackets` is what the callee's `send` puts on it for a list of
emissions, and `callerCalls_of_quiet_loop` says that once that loop is quiet
the caller has scheduled the forwarded calls of every emission.
-/

namespace Xpra.Net.SubprocessWrapper

open Xpra.Net.Protocol

variable {V : Type}

/-- The packets `SubprocessCaller.send` puts on the send queue for `sends`. -/
def sendPackets (sends : List (String × List (PyVal V))) : List (Packet V) :=
  sends.map fun s => callerPacket s.1 s.2

/-- The packets written so far are those of the first sends. -/
theorem written_eq_sendPackets_take {s : LoopState (Packet V)} (h : Reachable .sendQueue s)
    {sends : List (String × List (PyVal V))} (hsent : s.sent = sendPackets sends) :
    s.written = sendPackets (sends.take s.written.length) := by
  rw [sendPackets, List.map_take, ← sendPackets, ← hsent]
  exact (reachable_inv h).written_eq_take

section
variable (wl : Option (List String)) (wo : WrappedObject) {sends : List (String × List (PyVal V))}

/-- Through the write loop the callee calls, at every point of every
interleaving, what the sends written so far stand for. -/
theorem calleeCalls_of_written
    (hstop : ∀ s ∈ sends, s.1 ≠ "stop" ∧ s.1 ≠ "exit")
    (hcall : ∀ s ∈ sends,
      (wo.getattr (replaceHyphens s.1)).truthy → (wo.getattr (replaceHyphens s.1)).isCallable)
    {s : LoopState (Packet V)} (h : Reachable .sendQueue s)
    (hsent : s.sent = sendPackets sends) :
    methodCalls (deliverToCallee wl wo s.written) =
      if wo.truthy then directCalls wl wo (sends.take s.written.length) else [] := by
  rw [congrArg (deliverToCallee wl wo) (written_eq_sendPackets_take h hsent)]
  exact methodCalls_deliverToCallee_sends wl wo _
    (fun x hx => hstop x (List.mem_of_mem_take hx)) (fun x hx => hcall x (List.mem_of_mem_take hx))

/-- The three sends of `echoSends` put by three producers; the loop has
written the first packet and is about to take the second. -/
def echoMidRun : List (LoopAction (Packet Unit)) :=
  [1, 2, 3].zipWith .put (sendPackets echoSends) ++ [.hasMore 1, .hasMore 2, .hasMore 3, .wake, .take, .more]

theorem calleeCalls_of_written_echo :
    (∃ s, run .sendQueue .init echoMidRun = some s ∧ s.written.length = 1 ∧
      methodCalls (deliverToCallee (some ["echo"]) echoObject s.written) =
        if echoObject.truthy then directCalls (some ["echo"]) echoObject (echoSends.take s.written.length)
        else []) := by
  have hrun : run .sendQueue .init echoMidRun = some
      ⟨(sendPackets echoSends).drop 1, 2, .draining, [], sendPackets echoSends,
        (sendPackets echoSends).take 1⟩ := rfl
  exact ⟨_, hrun, rfl, calleeCalls_of_written (some ["echo"]) echoObject (by decide) (by decide)
    (reachable_run .init hrun) rfl⟩

/-- Once the loop is idle, no wake is pending and no producer is between its
put and its `source_has_more()`, the callee has called what every send stands
for, in order and once. -/
theorem calleeCalls_of_quiet_loop
    (hstop : ∀ s ∈ sends, s.1 ≠ "stop" ∧ s.1 ≠ "exit")
    (hcall : ∀ s ∈ sends,
      (wo.getattr (replaceHyphens s.1)).truthy → (wo.getattr (replaceHyphens s.1)).isCallable)
    {s : LoopState (Packet V)} (h : Reachable .sendQueue s)
    (hsent : s.sent = sendPackets sends) (hidle : s.phase = .idle) (hwakes : s.wakes = 0)
    (hput : s.putting = []) :
    methodCalls (deliverToCallee wl wo s.written) =
      if wo.truthy then directCalls wl wo sends else [] := by
  rw [(reachable_inv h).written_eq_sent hidle hwakes hput, hsent]
  exact methodCalls_deliverToCallee_sends wl wo sends hstop hcall

/-- `echoMidRun` run to the end: the loop drains the queue and takes the two
remaining wakes on an empty queue. -/
def echoQuietRun : List (LoopAction (Packet Unit)) :=
  echoMidRun ++ [.take, .more, .take, .more, .wake, .take, .wake, .take]

theorem calleeCalls_of_quiet_loop_echo :
    (∃ s, run .sendQueue .init echoQuietRun = some s ∧
      methodCalls (deliverToCallee (some ["echo"]) echoObject s.written) =
        if echoObject.truthy then directCalls (some ["echo"]) echoObject echoSends else []) := by
  have hrun : run .sendQueue .init echoQuietRun = some
      ⟨[], 0, .idle, [], sendPackets echoSends, sendPackets echoSends⟩ := rfl
  exact ⟨_, hrun, calleeCalls_of_quiet_loop (some ["echo"]) echoObject (by decide) (by decide)
    (reachable_run .init hrun) rfl rfl rfl rfl⟩

end

/-! ## Events: the callee's send queue -/

section
variable {C : Type}

/-- The packets the callee's `send` puts on its queue for `emissions`, in
order. -/
def emittedPackets (hexlifyPackets : Bool) (hexDump : PyVal V → PyVal V)
    (exportRegs : List (String × List (PyVal V))) (emitter : PyVal V)
    (emissions : List (String × List (PyVal V))) : List (Packet V) :=
  emissions.flatMap fun e => emit hexlifyPackets hexDump (exportHandlers exportRegs) emitter e.1 e.2

/-- Once the callee's write loop is idle, no wake is pending and no producer is
between its put and its `source_has_more()`, the caller has scheduled, without
`HEXLIFY_PACKETS`, the forwarded calls of every emission, in order and once. -/
theorem callerCalls_of_quiet_loop (hexDump : PyVal V → PyVal V)
    (exportRegs : List (String × List (PyVal V))) (subs : List (String × Callback C × List (PyVal V)))
    (emitter : PyVal V) (emissions : List (String × List (PyVal V)))
    {s : LoopState (Packet V)} (h : Reachable .sendQueue s)
    (hsent : s.sent = emittedPackets false hexDump exportRegs emitter emissions)
    (hidle : s.phase = .idle) (hwakes : s.wakes = 0) (hput : s.putting = []) :
    s.written.flatMap (callerProcessPacket (subscribe subs)) =
      forwardedCalls (subscribe subs) exportRegs emissions := by
  rw [(reachable_inv h).written_eq_sent hidle hwakes hput, hsent]
  exact bridgeEvents_eq_forwardedCalls hexDump exportRegs subs emitter emissions

/-- The end-to-end scenario of the spec: the echo object emits `replied` with
`"hi"`, which the callee exports and the caller subscribes to. -/
def repliedEmissions : List (String × List (PyVal Unit)) := [("replied", [.str "hi"])]

/-- The callee sends the one packet of the emission and its loop drains it. -/
def repliedRun : List (LoopAction (Packet Unit)) :=
  [.put 1 ⟨"replied", [.str "hi"]⟩, .hasMore 1, .wake, .take, .more]

/-- The caller's `replied` subscription fires once, with `("hi",)`. -/
theorem callerCalls_of_quiet_loop_replied :
    ∃ s, run .sendQueue .init repliedRun = some s ∧
      s.written.flatMap (callerProcessPacket (subscribe [("replied", .user (), [])])) =
        forwardedCalls (subscribe [("replied", .user (), [])]) [("replied", [])] repliedEmissions ∧
      forwardedCalls (subscribe [("replied", .user (), [])]) [("replied", [])] repliedEmissions =
        [(.user (), [.str "hi"])] := by
  have hrun : run .sendQueue .init repliedRun =
      some ⟨[], 0, .idle, [], [⟨"replied", [.str "hi"]⟩], [⟨"replied", [.str "hi"]⟩]⟩ := rfl
  exact ⟨_, hrun, callerCalls_of_quiet_loop id [("replied", [])] [("replied", .user (), [])]
    (.obj ()) repliedEmissions (reachable_run .init hrun) rfl rfl rfl rfl, rfl⟩

end

end Xpra.Net.SubprocessWrapper
