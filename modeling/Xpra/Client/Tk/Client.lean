import Xpra.Net.Protocol.WriteLoop
import Mathlib.Logic.Relation

/-!
# The write path of `XpraTkClient` (`xpra/client/tk/client.py`)

`XpraTkClient.send` appends the packet to `_ordinary_packets` and calls
`have_more()`, which `make_protocol` sets to the protocol's
`source_has_more`.  `next_packet` is the callback the protocol's write loop
calls: `_ordinary_packets.pop(0)`, then `bool(self._ordinary_packets)`.  This
is the write loop of `Xpra.Net.Protocol.WriteLoop` with the source
`ordinaryPackets`.

`nextPacket_in_send_order` is what holds on every interleaving: the packets
`next_packet` returned are the packets sent, in order and once.
`nextPacket_raises_on_stale_wake` is the interleaving where it fails: a wake
outlives the packet it announced, and the loop calls `next_packet` on an empty
list.

The focus of the client is the other piece of state modelled here.
`update_focus(wid)` records the new focus and asks Tk to run `recheck_focus`
10 ms later; the recheck sends `("focus", wid, ())` only if `wid` still has the
focus, so a burst of focus changes sends the last one only.  `FocusState` is
`self.focused`, the rechecks Tk has not run yet, and the window ids of the
focus packets sent.  Tk runs the rechecks in deadline order; `FocusStep` lets
them run in any order, so what holds for it holds for Tk.  `FocusInv` is the
invariant: the focus is still to be rechecked, or it is what the server was
last told, or it never left `0`.  `focus_reported_when_settled` is its run
lemma: once no recheck is pending, the last focus packet names the focused
window.
-/

namespace Xpra.Client.Tk

open Xpra.Net.Protocol

variable {P : Type}

/-- On every interleaving of sends with the write loop, the packets
`next_packet` returned are the packets sent, in order and once, up to the one
the loop holds and those still queued. -/
theorem nextPacket_in_send_order {s : LoopState P} (h : Reachable .ordinaryPackets s) :
    s.written ++ s.phase.held ++ s.queue = s.sent :=
  (reachable_inv h).accounted

/-- Two sends: the second packet is appended while the loop drains the first,
and its `have_more()` comes after the loop has taken it. -/
def staleWakeRun : List (LoopAction String) :=
  [.put 1 "hello", .hasMore 1, .wake, .put 2 "focus", .take, .more, .take, .more,
    .hasMore 2, .wake, .take]

/-- The wake of the second send outlives its packet: the loop wakes on an
empty `_ordinary_packets`, and `next_packet` raises `IndexError` from
`pop(0)`, after returning both packets. -/
theorem nextPacket_raises_on_stale_wake :
    run .ordinaryPackets .init staleWakeRun =
        some ⟨[], 0, .failed, [], ["hello", "focus"], ["hello", "focus"]⟩ ∧
      Reachable .ordinaryPackets
        (⟨[], 0, .failed, [], ["hello", "focus"], ["hello", "focus"]⟩ : LoopState String) := by
  have hrun : run .ordinaryPackets .init staleWakeRun =
      some ⟨[], 0, .failed, [], ["hello", "focus"], ["hello", "focus"]⟩ := rfl
  exact ⟨hrun, reachable_run .init hrun⟩

/-! ## Focus -/

/-- The focus state of `XpraTkClient`. -/
structure FocusState where
  /-- `self.focused`. -/
  focused : Int
  /-- The `recheck_focus` closures Tk has still to run, by the window id each
  captured. -/
  rechecks : List Int
  /-- The window ids of the `("focus", wid, ())` packets sent, in order. -/
  sent : List Int
  deriving DecidableEq, Repr

/-- `__init__`: `self.focused = 0`. -/
def FocusState.init : FocusState := ⟨0, [], []⟩

/-- `update_focus(wid)`: nothing if `wid` has the focus already, else record it
and schedule `recheck_focus` with `app.after(10, ...)`. -/
def updateFocus (s : FocusState) (wid : Int) : FocusState :=
  if s.focused = wid then s
  else { s with focused := wid, rechecks := s.rechecks ++ [wid] }

/-- Tk runs the `recheck_focus` closure of `update_focus(wid)`: if `wid` still
has the focus, `self.send("focus", wid, ())`. -/
def recheckFocus (s : FocusState) (wid : Int) : FocusState :=
  let s := { s with rechecks := s.rechecks.erase wid }
  if s.focused = wid then { s with sent := s.sent ++ [wid] } else s

/-- A call of `update_focus`, or Tk running one of the pending rechecks. -/
inductive FocusStep : FocusState → FocusState → Prop where
  | updateFocus (s) (wid : Int) : FocusStep s (updateFocus s wid)
  | recheckFocus (s) (wid : Int) : wid ∈ s.rechecks → FocusStep s (recheckFocus s wid)

/-- The focus is still to be rechecked, or the server was last told it, or it
never left `0` and nothing was sent. -/
def FocusInv (s : FocusState) : Prop :=
  s.focused ∈ s.rechecks ∨ s.sent.getLast? = some s.focused ∨ (s.focused = 0 ∧ s.sent = [])

theorem focusInv_updateFocus {s : FocusState} (h : FocusInv s) (wid : Int) :
    FocusInv (updateFocus s wid) := by
  unfold updateFocus
  split
  · exact h
  · exact .inl (List.mem_append_right _ (List.mem_singleton_self wid))

theorem focusInv_recheckFocus {s : FocusState} (h : FocusInv s) (wid : Int) :
    FocusInv (recheckFocus s wid) := by
  unfold recheckFocus
  dsimp only
  split
  · rename_i hw
    exact .inr (.inl (by simp [hw]))
  · rename_i hw
    rcases h with h | h | h
    · exact .inl ((List.mem_erase_of_ne hw).2 h)
    · exact .inr (.inl h)
    · exact .inr (.inr h)

theorem focusInv_reachable {s : FocusState} (h : Relation.ReflTransGen FocusStep .init s) :
    FocusInv s := by
  induction h with
  | refl => exact .inr (.inr ⟨rfl, rfl⟩)
  | tail _ hstep ih =>
    cases hstep with
    | updateFocus wid => exact focusInv_updateFocus ih wid
    | recheckFocus wid _ => exact focusInv_recheckFocus ih wid

/-- Once Tk has run every pending recheck, the server was last told the
window that has the focus, whatever the sequence of focus changes and the
order of the rechecks; or the focus never left `0` and no focus packet was
sent. -/
theorem focus_reported_when_settled {s : FocusState}
    (h : Relation.ReflTransGen FocusStep .init s) (hsettled : s.rechecks = []) :
    s.sent.getLast? = some s.focused ∨ (s.focused = 0 ∧ s.sent = []) := by
  rcases focusInv_reachable h with h | h
  · simp [hsettled] at h
  · exact h

/-- Focus moves to window 1 and then to window 2 before Tk runs the first
recheck: only window 2 is reported. -/
def focusBurst : FocusState :=
  recheckFocus (recheckFocus (updateFocus (updateFocus .init 1) 2) 1) 2

theorem focus_reported_when_settled_burst :
    focusBurst.sent = [2] ∧ (focusBurst.sent.getLast? = some focusBurst.focused ∨
      (focusBurst.focused = 0 ∧ focusBurst.sent = [])) :=
  ⟨rfl, focus_reported_when_settled
    (.tail (.tail (.tail (.single (.updateFocus _ 1)) (.updateFocus _ 2)) (.recheckFocus _ 1 (by decide)))
      (.recheckFocus _ 2 (by decide))) rfl⟩

end Xpra.Client.Tk
