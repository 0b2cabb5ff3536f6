import Xpra.Net.Protocol.WriteLoop
import Xpra.Net.SubprocessWrapper.Callee
import Mathlib.Logic.Relation
import Mathlib.Data.List.Nodup

/-!
# The packet handlers of `XpraTkClient` (`xpra/client/tk/client.py`)

The protocol's read thread calls `process_packet(proto, packet)`.  It maps
the packet type to the method `_process_<type>` (hyphens become underscores)
and, when there is one, hands a closure that calls it to `app.after(0, ...)`;
Tk's main loop runs these closures in the order they were queued.  The
handlers keep `self.windows`, the dict from window id to `ClientWindow`, and
answer every `draw` with a `damage-sequence` packet, which `send` appends to
`_ordinary_packets` for the write loop of `Xpra.Net.Protocol.WriteLoop`.

The module has four groups.

* Packet elements.  `Value` is what the handlers read out of a packet:
  `pyInt` is `int()`, `windowKey` is how `self.windows.get(v)` and the
  warning of `_process_draw` treat a raw window id.
* The handlers.  `processPacket` is `process_packet`; `newWindow`,
  `processLostWindow`, `processRaiseWindow`, `processDraw` and
  `processWindowMetadata` are the handlers that touch the windows or send, and
  `runHandler` runs any handler.  `TkSession` is the client with its three
  threads (the read thread, Tk's main loop and the write loop), and
  `TkSession.step` one atomic step of one of them.
* What the handlers are for.  `AckSpec` is the abstract client: the window ids
  that have a window, and one acknowledgement per draw saying whether the
  window was known, computed from the packets alone.  `tkInv_reachable` is the
  invariant of every run, and `tkSession_refines_ackSpec` reads the
  refinement off it: the registry and the acknowledgements queued are those of
  the abstract client run on the packets Tk has handled, in the order they
  were received.  `acks_written_when_quiet` is what the server sees once Tk
  and the write loop are idle: every draw received was answered, once, in
  order.
* The windows' lives.  `FollowsLife` is the order of the calls a window gets:
  `show`, then draws, raises and metadata updates, then at most one
  `destroy`.  `calls_follow_life` says every run keeps it, and
  `window_out_of_dict_gets_no_call` that a window out of the dict gets no call
  again: a destroyed window is never used, and a window that a second
  `new-window` for its id pushed out of the dict is never destroyed.

Packet elements are integers, booleans, strings, `None`, lists and dicts;
floats and bytes are left out.  `int()` of a string follows CPython: the
string is first made ASCII, a blank beyond ASCII becoming a space and a
decimal digit of any script its ASCII digit, and the ASCII text is then read
with only C's blanks stripped; so the separators `\x1c` to `\x1f`, which
`str.isspace()` accepts, are not stripped.  The
`ClientWindow` methods live outside the sources: the model records the calls
made on a window, and takes a window object as always truthy.  Logging is left
out, and so are the exceptions a log line can raise once the handler's work is
done.
-/

namespace Xpra.Client.Tk

open Xpra.Net.Protocol

/-! ## Packet elements -/

/-- A packet element, as the handlers read it. -/
inductive Value where
  | int (n : Int)
  | bool (b : Bool)
  | str (s : String)
  | none
  | list (items : List Value)
  | dict (entries : List (String × Value))
  deriving Repr

/-- A packet: its type, then its arguments. -/
abbrev Packet := List Value

/-- The exceptions a handler raises. -/
inductive PyError where
  | indexError
  | valueError
  | typeError
  deriving DecidableEq, Repr

/-- `Py_UNICODE_ISSPACE`, the characters `str.isspace()` accepts. -/
def isPySpace (c : Char) : Bool :=
  let n := c.toNat
  (9 ≤ n && n ≤ 13) || (0x1c ≤ n && n ≤ 0x20) || n == 0x85 || n == 0xa0 || n == 0x1680 ||
    (0x2000 ≤ n && n ≤ 0x200a) || n == 0x2028 || n == 0x2029 || n == 0x202f ||
    n == 0x205f || n == 0x3000

/-- `Py_ISSPACE`, the ASCII blanks of C's `isspace`. -/
def isCSpace (c : Char) : Bool :=
  let n := c.toNat
  (9 ≤ n && n ≤ 13) || n == 32

/-- The zero of every run of ten decimal digits (general category `Nd`) of
Unicode 14.0, the tables of Python 3.11. -/
def decimalZeros : List Nat :=
  [0x30, 0x660, 0x6f0, 0x7c0, 0x966, 0x9e6, 0xa66, 0xae6, 0xb66, 0xbe6, 0xc66, 0xce6, 0xd66,
    0xde6, 0xe50, 0xed0, 0xf20, 0x1040, 0x1090, 0x17e0, 0x1810, 0x1946, 0x19d0, 0x1a80,
    0x1a90, 0x1b50, 0x1bb0, 0x1c40, 0x1c50, 0xa620, 0xa8d0, 0xa900, 0xa9d0, 0xa9f0, 0xaa50,
    0xabf0, 0xff10, 0x104a0, 0x10d30, 0x11066, 0x110f0, 0x11136, 0x111d0, 0x112f0, 0x11450,
    0x114d0, 0x11650, 0x116c0, 0x11730, 0x118e0, 0x11950, 0x11c50, 0x11d50, 0x11da0, 0x16a60,
    0x16ac0, 0x16b50, 0x1d7ce, 0x1d7d8, 0x1d7e2, 0x1d7ec, 0x1d7f6, 0x1e140, 0x1e2f0, 0x1e950,
    0x1fbf0]

/-- `Py_UNICODE_TODECIMAL`: the value of a decimal digit of any script. -/
def toDecimal (c : Char) : Option Nat :=
  (decimalZeros.find? fun z => z ≤ c.toNat && c.toNat < z + 10).map (c.toNat - ·)

/-- `_PyUnicode_TransformDecimalAndSpaceToASCII`, one character: a character
below 127 stays as it is, a blank beyond becomes a space and a decimal digit
beyond its ASCII digit, and anything else `?`. -/
def transformDecimalAndSpace (c : Char) : Char :=
  if c.toNat < 127 then c
  else if isPySpace c then ' '
  else
    match toDecimal c with
    | some d => Char.ofNat ('0'.toNat + d)
    | Option.none => '?'

/-- ASCII digits with single underscores between them, and their value. -/
def decimalValue (cs : List Char) : Option Nat :=
  let groups := cs.splitOn '_'
  if groups.all fun g => !g.isEmpty && g.all Char.isDigit then
    some (groups.flatten.foldl (fun n c => 10 * n + (c.toNat - '0'.toNat)) 0)
  else none

/-- `PyLong_FromString` in base 10 on the transformed text: an optional sign
and digits, with ASCII blanks around them. -/
def parseIntLiteral (cs : List Char) : Option Int :=
  match ((cs.dropWhile isCSpace).reverse.dropWhile isCSpace).reverse with
  | '-' :: ds => (decimalValue ds).map fun n => -(n : Int)
  | '+' :: ds => (decimalValue ds).map fun n => (n : Int)
  | ds => (decimalValue ds).map fun n => (n : Int)

/-- `int(v)`. -/
def pyInt : Value → Except PyError Int
  | .int n => .ok n
  | .bool b => .ok (if b then 1 else 0)
  | .str s =>
    match parseIntLiteral (s.data.map transformDecimalAndSpace) with
    | some n => .ok n
    | Option.none => .error .valueError
  | .none | .list _ | .dict _ => .error .typeError

/-- A raw window id as `_process_draw` uses it: `self.windows.get(wid)`
compares it with the integer keys (an int or a bool can equal one, a string
or `None` never does, and a list or a dict is unhashable), and the warning
formats it with `str()`. -/
def windowKey : Value → Except PyError (Option Int × String)
  | .int n => .ok (some n, toString n)
  | .bool b => .ok (if b then (some 1, "True") else (some 0, "False"))
  | .str s => .ok (Option.none, s)
  | .none => .ok (Option.none, "None")
  | .list _ | .dict _ => .error .typeError

/-- `packet[i]`. -/
def item (packet : Packet) (i : Nat) : Except PyError Value :=
  match packet.get? i with
  | some v => .ok v
  | Option.none => .error .indexError

/-- `metadata["override-redirect"] = True`: only a dict takes the item. -/
def setOverrideRedirect : Value → Except PyError Value
  | .dict entries => .ok (.dict (dictStore entries "override-redirect" (.bool true)))
  | _ => .error .typeError
where
  /-- `d[k] = v` on the entries of a dict: a key already there keeps its place. -/
  dictStore (d : List (String × Value)) (k : String) (v : Value) : List (String × Value) :=
    if k ∈ d.map Prod.fst then d.map fun e => if e.1 = k then (k, v) else e else d ++ [(k, v)]

/-! ## The handlers -/

/-- The methods `_process_<type>` of `XpraTkClient`. -/
inductive Handler where
  | hello
  | settingChange
  | startupComplete
  | encodings
  | newWindow
  | newOverrideRedirect
  | lostWindow
  | raiseWindow
  | draw
  | windowMetadata
  deriving DecidableEq, Repr

/-- `getattr(self, f"_process_{name}", None)`. -/
def handlerNamed : String → Option Handler
  | "hello" => some .hello
  | "setting_change" => some .settingChange
  | "startup_complete" => some .startupComplete
  | "encodings" => some .encodings
  | "new_window" => some .newWindow
  | "new_override_redirect" => some .newOverrideRedirect
  | "lost_window" => some .lostWindow
  | "raise_window" => some .raiseWindow
  | "draw" => some .draw
  | "window_metadata" => some .windowMetadata
  | _ => Option.none

/-- The handler of a packet type: `str(packet[0]).replace("-", "_")`.  Only a
string can name a method: `str()` of any other element starts with a digit, a
sign, a capital or a bracket. -/
def lookupHandler : Value → Option Handler
  | .str s => handlerNamed (Net.SubprocessWrapper.replaceHyphens s)
  | _ => Option.none

/-- `process_packet(proto, packet)`: the handler it queues with
`app.after(0, ...)`, if any; `packet[0]` raises `IndexError` on an empty
packet. -/
def processPacket : Packet → Except PyError (Option Handler)
  | [] => .error .indexError
  | tag :: _ => .ok (lookupHandler tag)

/-- `ClientWindow(self, wid, x, y, w, h, metadata)`, with the number of windows
created before it, which tells apart two windows of one id. -/
structure ClientWindow where
  serial : Nat
  wid : Int
  x : Int
  y : Int
  w : Int
  h : Int
  metadata : Value
  deriving Repr

/-- A call the handlers make on a window, by its serial. -/
inductive WindowCall where
  | show (serial : Nat)
  | destroy (serial : Nat)
  | raise (serial : Nat)
  | draw (serial : Nat) (x y width height coding data rowstride : Value)
  | updateMetadata (serial : Nat) (metadata : List (Value × Value))
  deriving Repr

/-- The window a call is made on. -/
def WindowCall.serial : WindowCall → Nat
  | .show n | .destroy n | .raise n | .draw n .. | .updateMetadata n _ => n

/-- The state of `XpraTkClient` that the handlers read and write. -/
structure TkClient where
  /-- `self.hello`. -/
  hello : Value
  /-- `self.windows`, as its entries in insertion order. -/
  windows : List (Int × ClientWindow)
  /-- The windows created so far. -/
  created : Nat
  /-- The calls made on windows, in order. -/
  calls : List WindowCall
  deriving Repr

/-- `__init__`: no hello and no window. -/
def TkClient.init : TkClient := ⟨.dict [], [], 0, []⟩

/-- `self.windows[wid] = window`: an id already there keeps its place. -/
def storeWindow (windows : List (Int × ClientWindow)) (wid : Int) (window : ClientWindow) :
    List (Int × ClientWindow) :=
  if wid ∈ windows.map Prod.fst then
    windows.map fun e => if e.1 = wid then (wid, window) else e
  else windows ++ [(wid, window)]

/-- `del self.windows[wid]`. -/
def deleteWindow (windows : List (Int × ClientWindow)) (wid : Int) : List (Int × ClientWindow) :=
  windows.filter fun e => e.1 ≠ wid

/-- `new_window(packet, is_or)`: `int()` of the five elements after the type,
`packet[6]` as the metadata (with `override-redirect` set for an
override-redirect window), then a new window stored under its id and shown. -/
def newWindow (c : TkClient) (packet : Packet) (isOr : Bool) : Except PyError TkClient := do
  let geometry ← ((packet.drop 1).take 5).mapM pyInt
  match geometry with
  | [wid, x, y, w, h] =>
    let metadata ← item packet 6
    let metadata ← if isOr then setOverrideRedirect metadata else pure metadata
    pure { c with windows := storeWindow c.windows wid ⟨c.created, wid, x, y, w, h, metadata⟩,
                  created := c.created + 1, calls := c.calls ++ [.show c.created] }
  | _ => .error .valueError

/-- `_process_lost_window`: destroy the window of `int(packet[1])`, if there is
one, and forget it. -/
def processLostWindow (c : TkClient) (packet : Packet) : Except PyError TkClient := do
  let wid ← pyInt (← item packet 1)
  match c.windows.lookup wid with
  | some window => pure { c with windows := deleteWindow c.windows wid,
                                 calls := c.calls ++ [.destroy window.serial] }
  | Option.none => pure c

/-- `_process_raise_window`: raise the window of `int(packet[1])`, if there is
one. -/
def processRaiseWindow (c : TkClient) (packet : Packet) : Except PyError TkClient := do
  let wid ← pyInt (← item packet 1)
  match c.windows.lookup wid with
  | some window => pure { c with calls := c.calls ++ [.raise window.serial] }
  | Option.none => pure c

/-- The packet `_process_draw` sends: `("damage-sequence", packet_sequence, wid,
width, height, decode_time, message)`. -/
def damageSequence (sequence wid width height : Value) (decodeTime : Int) (message : String) :
    Packet :=
  [.str "damage-sequence", sequence, wid, width, height, .int decodeTime, .str message]

/-- `_process_draw`, with the milliseconds the window took to draw: the nine
elements after the type, then the window of the raw id draws and the answer
carries the time, or the answer carries `-1` and a warning. -/
def processDraw (c : TkClient) (packet : Packet) (decodeMs : Nat) :
    Except PyError (TkClient × Packet) :=
  match (packet.drop 1).take 9 with
  | [wid, x, y, width, height, coding, data, sequence, rowstride] => do
    let (key, text) ← windowKey wid
    match key.bind c.windows.lookup with
    | some window =>
      pure ({ c with calls := c.calls ++ [.draw window.serial x y width height coding data rowstride] },
        damageSequence sequence wid width height decodeMs "")
    | Option.none =>
      pure (c, damageSequence sequence wid width height (-1) s!"Warning: window {text} not found")
  | _ => .error .valueError

/-- One element of the argument of `dict()`, read as a key and a value: it
must be a sequence of length two (`TypeError` when it is not iterable,
`ValueError` for another length), whose key is hashable. -/
def dictPair : Value → Except PyError (Value × Value)
  | .str s =>
    match s.data with
    | [k, v] => .ok (.str (String.singleton k), .str (String.singleton v))
    | _ => .error .valueError
  | .list [k, v] =>
    match k with
    | .list _ | .dict _ => .error .typeError
    | _ => .ok (k, v)
  | .list _ => .error .valueError
  | .dict [(k, _), (v, _)] => .ok (.str k, .str v)
  | .dict _ => .error .valueError
  | .int _ | .bool _ | .none => .error .typeError

/-- `typedict(metadata)`, a `dict(metadata)`: the entries of a dict, or the
pairs of an iterable of pairs in order (a later pair for a key replaces the
value of the earlier one); a string is an iterable of one-character strings,
and what is not iterable raises `TypeError`. -/
def typedict : Value → Except PyError (List (Value × Value))
  | .dict entries => .ok (entries.map fun e => (.str e.1, e.2))
  | .list items => items.mapM dictPair
  | .str s => if s.isEmpty then .ok [] else .error .valueError
  | .int _ | .bool _ | .none => .error .typeError

/-- `_process_window_metadata`: the window of the raw id `packet[1]`, if there
is one, gets `typedict(packet[2])`. -/
def processWindowMetadata (c : TkClient) (packet : Packet) : Except PyError TkClient := do
  let wid ← item packet 1
  let metadata ← item packet 2
  let (key, _) ← windowKey wid
  match key.bind c.windows.lookup with
  | some window =>
    let entries ← typedict metadata
    pure { c with calls := c.calls ++ [.updateMetadata window.serial entries] }
  | Option.none => pure c

/-- Run a handler on its packet: the client after it and the packet it sent.
`_process_hello` stores `packet[1]`; `_process_setting_change` and
`_process_encodings` only read it; `_process_startup_complete` does nothing. -/
def runHandler (c : TkClient) (h : Handler) (packet : Packet) (decodeMs : Nat) :
    Except PyError (TkClient × Option Packet) :=
  match h with
  | .hello => (item packet 1).map fun v => ({ c with hello := v }, Option.none)
  | .settingChange | .encodings => (item packet 1).map fun _ => (c, Option.none)
  | .startupComplete => .ok (c, Option.none)
  | .newWindow => (newWindow c packet false).map (·, Option.none)
  | .newOverrideRedirect => (newWindow c packet true).map (·, Option.none)
  | .lostWindow => (processLostWindow c packet).map (·, Option.none)
  | .raiseWindow => (processRaiseWindow c packet).map (·, Option.none)
  | .draw => (processDraw c packet decodeMs).map fun r => (r.1, some r.2)
  | .windowMetadata => (processWindowMetadata c packet).map (·, Option.none)

/-! ## The client and its threads -/

/-- The handler `process_packet` queues for a packet, with the packet. -/
def scheduled (packet : Packet) : List (Handler × Packet) :=
  match processPacket packet with
  | .ok (some h) => [(h, packet)]
  | _ => []

/-- The client with its three threads: the read thread calls
`process_packet`, Tk's main loop runs the closures queued with
`app.after(0, ...)`, and the write loop drains `_ordinary_packets`. -/
structure TkSession where
  client : TkClient
  /-- The closures `app.after(0, ...)` queued, oldest first. -/
  pending : List (Handler × Packet)
  /-- Tk is inside `send`, between its append and its `have_more()`. -/
  sending : Bool
  loop : LoopState Packet
  /-- The packets `process_packet` was called with, in order. -/
  received : List Packet
  /-- The packets whose handler Tk has run, in order. -/
  handled : List Packet

/-- The client once `make_protocol` has set `have_more`. -/
def TkSession.init : TkSession := ⟨.init, [], false, .init, [], []⟩

/-- One atomic step of one thread. -/
inductive TkAction where
  /-- The read thread calls `process_packet`. -/
  | receive (packet : Packet)
  /-- Tk runs the oldest queued handler; a draw takes `decodeMs`. -/
  | handle (decodeMs : Nat)
  /-- Tk ends `send` with `have_more()`. -/
  | haveMore
  /-- The write loop takes a wake, or calls `next_packet`. -/
  | write (a : LoopAction Packet)

/-- One step; `none` when the action is not enabled.  A handler that raises
leaves the client as it was: Tk reports the exception and goes on. -/
def TkSession.step (s : TkSession) : TkAction → Option TkSession
  | .receive packet =>
    some { s with received := s.received ++ [packet], pending := s.pending ++ scheduled packet }
  | .handle decodeMs =>
    match s.sending, s.pending with
    | false, (h, packet) :: rest =>
      let s' := { s with pending := rest, handled := s.handled ++ [packet] }
      match runHandler s.client h packet decodeMs with
      | .error _ => some s'
      | .ok (c, Option.none) => some { s' with client := c }
      | .ok (c, some reply) =>
        (Net.Protocol.step .ordinaryPackets s.loop (.put 0 reply)).map fun l =>
          { s' with client := c, loop := l, sending := true }
    | _, _ => Option.none
  | .haveMore =>
    if s.sending then
      (Net.Protocol.step .ordinaryPackets s.loop (.hasMore 0)).map fun l => { s with loop := l, sending := false }
    else Option.none
  | .write a =>
    match a with
    | .put _ _ | .hasMore _ => Option.none
    | a => (Net.Protocol.step .ordinaryPackets s.loop a).map fun l => { s with loop := l }

/-- The states some interleaving of the three threads reaches. -/
inductive TkReachable : TkSession → Prop where
  | init : TkReachable .init
  | step {s t : TkSession} (a : TkAction) : TkReachable s → s.step a = some t → TkReachable t

/-! ## What the handlers are for -/

/-- An acknowledgement as the server reads it: the draw's sequence number,
window id and size, and whether the client had the window (the decode time is
not `-1`). -/
structure Ack where
  sequence : Value
  wid : Value
  width : Value
  height : Value
  known : Bool
  deriving Repr

/-- The acknowledgement a `damage-sequence` packet carries. -/
def ackOf : Packet → Option Ack
  | [.str "damage-sequence", sequence, wid, width, height, .int decodeTime, _] =>
    some ⟨sequence, wid, width, height, decodeTime ≠ -1⟩
  | _ => Option.none

/-- The abstract client: the ids that have a window, in the order the dict
keeps them, and the acknowledgements sent, in order. -/
structure AckSpec where
  wids : List Int
  acks : List Ack

/-- Before any packet. -/
def AckSpec.init : AckSpec := ⟨[], []⟩

/-- The id a `new-window` packet gives its window: five integers after the
type, then the metadata, which must take an item for an override-redirect
window. -/
def announcedWid (packet : Packet) (isOr : Bool) : Option Int :=
  match ((packet.drop 1).take 5).mapM pyInt, item packet 6 with
  | .ok [wid, _, _, _, _], .ok metadata =>
    if isOr then ((setOverrideRedirect metadata).toOption).map fun _ => wid else some wid
  | _, _ => Option.none

/-- The id a `lost-window` packet names: `int(packet[1])`. -/
def lostWid (packet : Packet) : Option Int :=
  ((item packet 1).bind pyInt).toOption

/-- The acknowledgement a draw packet gets, given the ids that have a window. -/
def drawAck (wids : List Int) (packet : Packet) : Option Ack :=
  match (packet.drop 1).take 9 with
  | [wid, _, _, width, height, _, _, sequence, _] =>
    ((windowKey wid).toOption).map fun k => ⟨sequence, wid, width, height, k.1.any (· ∈ wids)⟩
  | _ => Option.none

/-- An id gets a window: a new id goes last, a known one keeps its place. -/
def AckSpec.register (a : AckSpec) : Option Int → AckSpec
  | some wid => if wid ∈ a.wids then a else { a with wids := a.wids ++ [wid] }
  | Option.none => a

/-- What a handler does to the abstract client. -/
def AckSpec.handle (a : AckSpec) (packet : Packet) : Handler → AckSpec
  | .newWindow => a.register (announcedWid packet false)
  | .newOverrideRedirect => a.register (announcedWid packet true)
  | .lostWindow =>
    match lostWid packet with
    | some wid => { a with wids := a.wids.filter (· ≠ wid) }
    | Option.none => a
  | .draw =>
    match drawAck a.wids packet with
    | some ack => { a with acks := a.acks ++ [ack] }
    | Option.none => a
  | _ => a

/-- What a packet does to the abstract client. -/
def AckSpec.step (a : AckSpec) (packet : Packet) : AckSpec :=
  match packet.head?.bind lookupHandler with
  | some h => a.handle packet h
  | Option.none => a

/-- The abstract client after a list of packets. -/
def AckSpec.run (packets : List Packet) : AckSpec := packets.foldl AckSpec.step .init

/-! ## The handlers, case by case -/

@[simp] theorem ackOf_damageSequence (sequence wid width height : Value) (t : Int) (m : String) :
    ackOf (damageSequence sequence wid width height t m) = some ⟨sequence, wid, width, height, t ≠ -1⟩ := rfl

theorem lookup_isSome_iff_mem {ws : List (Int × ClientWindow)} {k : Int} :
    (ws.lookup k).isSome ↔ k ∈ ws.map Prod.fst := by
  simp only [List.lookup_isSome_iff, beq_iff_eq, List.mem_map]
  exact ⟨fun ⟨p, hp, h⟩ => ⟨p, hp, h.symm⟩, fun ⟨p, hp, h⟩ => ⟨p, hp, h.symm⟩⟩

theorem mem_of_lookup_eq_some {ws : List (Int × ClientWindow)} {k : Int} {w : ClientWindow}
    (h : ws.lookup k = some w) : (k, w) ∈ ws := by
  obtain ⟨l₁, l₂, rfl, -⟩ := List.lookup_eq_some_iff.1 h
  simp

@[simp] theorem keys_storeWindow (ws : List (Int × ClientWindow)) (wid : Int) (w : ClientWindow) :
    (storeWindow ws wid w).map Prod.fst =
      if wid ∈ ws.map Prod.fst then ws.map Prod.fst else ws.map Prod.fst ++ [wid] := by
  unfold storeWindow
  split
  · simp only [List.map_map]
    exact List.map_congr_left fun e _ => by by_cases h : e.1 = wid <;> simp [h]
  · simp

@[simp] theorem keys_deleteWindow (ws : List (Int × ClientWindow)) (wid : Int) :
    (deleteWindow ws wid).map Prod.fst = (ws.map Prod.fst).filter (· ≠ wid) := by
  simp [deleteWindow, List.filter_map, Function.comp_def]

theorem newWindow_ok {c c' : TkClient} {packet : Packet} {isOr : Bool}
    (h : newWindow c packet isOr = .ok c') :
    ∃ w : ClientWindow, w.serial = c.created ∧ announcedWid packet isOr = some w.wid ∧
      c' = { c with windows := storeWindow c.windows w.wid w, created := c.created + 1,
                    calls := c.calls ++ [.show c.created] } := by
  simp only [newWindow, bind, Except.bind, pure, Except.pure] at h
  split at h
  · cases h
  · rename_i hg
    split at h
    · rename_i wid x y w hh
      split at h
      · cases h
      · rename_i m hm
        rw [announcedWid, hg, hm]
        cases isOr
        · cases h
          exact ⟨⟨c.created, wid, x, y, w, hh, m⟩, rfl, rfl, rfl⟩
        · simp only [if_true] at h
          split at h
          · cases h
          · rename_i m' ho
            cases h
            exact ⟨⟨c.created, wid, x, y, w, hh, m'⟩, rfl, by simp [ho, Except.toOption], rfl⟩
    · cases h

theorem newWindow_error {c : TkClient} {packet : Packet} {isOr : Bool} {e : PyError}
    (h : newWindow c packet isOr = .error e) : announcedWid packet isOr = none := by
  simp only [newWindow, bind, Except.bind, pure, Except.pure] at h
  rw [announcedWid]
  split at h
  · rename_i hg; rw [hg]
  · rename_i hg
    rw [hg]
    split at h
    · split at h
      · rename_i hm; rw [hm]
      · rename_i m hm
        rw [hm]
        cases isOr
        · cases h
        · simp only [if_true] at h ⊢
          split at h
          · rename_i ho; simp [ho, Except.toOption]
          · cases h
    · split <;> simp_all

/-- A call between `show` and `destroy`: a draw, a raise or a metadata update. -/
def WindowCall.isMid : WindowCall → Bool
  | .draw .. | .raise _ | .updateMetadata .. => true
  | .show _ | .destroy _ => false

/-- A handler that keeps the dict and at most adds a draw, a raise or a
metadata update on a window of the dict. -/
def MidStep (c c' : TkClient) : Prop :=
  c'.windows = c.windows ∧ c'.created = c.created ∧
    (c'.calls = c.calls ∨
      ∃ e ∈ c.windows, ∃ x : WindowCall, x.isMid ∧ x.serial = e.2.serial ∧ c'.calls = c.calls ++ [x])

theorem processLostWindow_ok {c c' : TkClient} {packet : Packet}
    (h : processLostWindow c packet = .ok c') :
    ∃ wid, lostWid packet = some wid ∧
      ((∃ w, c.windows.lookup wid = some w ∧
          c' = { c with windows := deleteWindow c.windows wid, calls := c.calls ++ [.destroy w.serial] }) ∨
        (c.windows.lookup wid = none ∧ c' = c)) := by
  simp only [processLostWindow, bind, Except.bind, pure, Except.pure] at h
  split at h
  · cases h
  · rename_i v hv
    split at h
    · cases h
    · rename_i wid hwid
      refine ⟨wid, by simp [lostWid, hv, hwid, Except.bind, Except.toOption], ?_⟩
      split at h
      · rename_i w hw; cases h; exact .inl ⟨w, hw, rfl⟩
      · rename_i hw; cases h; exact .inr ⟨hw, rfl⟩

theorem processLostWindow_error {c : TkClient} {packet : Packet} {e : PyError}
    (h : processLostWindow c packet = .error e) : lostWid packet = none := by
  simp only [processLostWindow, bind, Except.bind, pure, Except.pure] at h
  split at h
  · rename_i hv; simp [lostWid, hv, Except.bind, Except.toOption]
  · rename_i v hv
    split at h
    · rename_i hwid; simp [lostWid, hv, hwid, Except.bind, Except.toOption]
    · split at h <;> cases h

theorem processRaiseWindow_ok {c c' : TkClient} {packet : Packet}
    (h : processRaiseWindow c packet = .ok c') : MidStep c c' := by
  simp only [processRaiseWindow, bind, Except.bind, pure, Except.pure] at h
  split at h
  · cases h
  · split at h
    · cases h
    · rename_i wid _
      split at h
      · rename_i w hw
        cases h
        exact ⟨rfl, rfl, .inr ⟨_, mem_of_lookup_eq_some hw, .raise w.serial, rfl, rfl, rfl⟩⟩
      · cases h; exact ⟨rfl, rfl, .inl rfl⟩

theorem processWindowMetadata_ok {c c' : TkClient} {packet : Packet}
    (h : processWindowMetadata c packet = .ok c') : MidStep c c' := by
  simp only [processWindowMetadata, bind, Except.bind, pure, Except.pure] at h
  split at h
  · cases h
  · split at h
    · cases h
    · split at h
      · cases h
      · rename_i key _ _
        split at h
        · rename_i w hw
          split at h
          · cases h
          · cases h
            obtain ⟨k, -, hk⟩ := Option.bind_eq_some.1 hw
            exact ⟨rfl, rfl,
              .inr ⟨_, mem_of_lookup_eq_some hk, .updateMetadata w.serial _, rfl, rfl, rfl⟩⟩
        · cases h; exact ⟨rfl, rfl, .inl rfl⟩

theorem processDraw_ok {c c' : TkClient} {packet : Packet} {decodeMs : Nat} {reply : Packet}
    (h : processDraw c packet decodeMs = .ok (c', reply)) :
    MidStep c c' ∧ drawAck (c.windows.map Prod.fst) packet = ackOf reply ∧ (ackOf reply).isSome := by
  unfold processDraw at h
  unfold drawAck
  split at h
  · rename_i wid x y width height coding data sequence rowstride _
    cases hkey : windowKey wid with
    | error e => simp only [hkey, bind, Except.bind] at h; cases h
    | ok kt =>
      obtain ⟨key, text⟩ := kt
      simp only [hkey, bind, Except.bind, pure, Except.pure, Except.toOption] at h ⊢
      split at h
      · rename_i w hw
        cases h
        obtain ⟨k, rfl, hkw⟩ := Option.bind_eq_some.1 hw
        refine ⟨⟨rfl, rfl, .inr ⟨_, mem_of_lookup_eq_some hkw,
          .draw w.serial x y width height coding data rowstride, rfl, rfl, rfl⟩⟩, ?_, by simp⟩
        have hmem : k ∈ c.windows.map Prod.fst := lookup_isSome_iff_mem.1 (by simp [hkw])
        simp [hmem]
      · rename_i hw
        cases h
        refine ⟨⟨rfl, rfl, .inl rfl⟩, ?_, by simp⟩
        cases key with
        | none => simp
        | some k =>
          have hw' : c.windows.lookup k = none := hw
          have : k ∉ c.windows.map Prod.fst := fun hk => by
            simpa [hw'] using lookup_isSome_iff_mem.2 hk
          simp [this]
  · cases h

theorem processDraw_error {c : TkClient} {packet : Packet} {decodeMs : Nat} {e : PyError}
    (h : processDraw c packet decodeMs = .error e) : drawAck (c.windows.map Prod.fst) packet = none := by
  unfold processDraw at h
  unfold drawAck
  split at h
  · rename_i wid _ _ _ _ _ _ _ _ _
    cases hkey : windowKey wid with
    | error e => simp [hkey, Except.toOption]
    | ok kt =>
      simp only [hkey, bind, Except.bind, pure, Except.pure] at h
      split at h <;> cases h
  · rfl

/-- What a handler that returns has run, handler by handler. -/
theorem runHandler_ok {c c' : TkClient} {h : Handler} {packet : Packet} {decodeMs : Nat}
    {sent : Option Packet} (hr : runHandler c h packet decodeMs = .ok (c', sent)) :
    ((h = .hello ∨ h = .settingChange ∨ h = .encodings ∨ h = .startupComplete) ∧
        c'.windows = c.windows ∧ c'.created = c.created ∧ c'.calls = c.calls ∧ sent = none) ∨
    (∃ isOr : Bool, h = (if isOr then .newOverrideRedirect else .newWindow) ∧
        newWindow c packet isOr = .ok c' ∧ sent = none) ∨
    (h = .lostWindow ∧ processLostWindow c packet = .ok c' ∧ sent = none) ∨
    ((h = .raiseWindow ∧ processRaiseWindow c packet = .ok c' ∨
        h = .windowMetadata ∧ processWindowMetadata c packet = .ok c') ∧ sent = none) ∨
    (h = .draw ∧ ∃ reply, processDraw c packet decodeMs = .ok (c', reply) ∧ sent = some reply) := by
  cases h with
  | hello | settingChange | encodings =>
    cases hi : item packet 1 <;> simp [runHandler, hi, Except.map] at hr
    obtain ⟨rfl, rfl⟩ := hr
    exact .inl ⟨by simp, rfl, rfl, rfl, rfl⟩
  | startupComplete =>
    simp only [runHandler, Except.ok.injEq, Prod.mk.injEq] at hr
    obtain ⟨rfl, rfl⟩ := hr
    exact .inl ⟨by simp, rfl, rfl, rfl, rfl⟩
  | newWindow =>
    cases hn : newWindow c packet false <;> simp [runHandler, hn, Except.map] at hr
    obtain ⟨rfl, rfl⟩ := hr
    exact .inr (.inl ⟨false, rfl, hn, rfl⟩)
  | newOverrideRedirect =>
    cases hn : newWindow c packet true <;> simp [runHandler, hn, Except.map] at hr
    obtain ⟨rfl, rfl⟩ := hr
    exact .inr (.inl ⟨true, rfl, hn, rfl⟩)
  | lostWindow =>
    cases hl : processLostWindow c packet <;> simp [runHandler, hl, Except.map] at hr
    obtain ⟨rfl, rfl⟩ := hr
    exact .inr (.inr (.inl ⟨rfl, rfl, rfl⟩))
  | raiseWindow =>
    cases hl : processRaiseWindow c packet <;> simp [runHandler, hl, Except.map] at hr
    obtain ⟨rfl, rfl⟩ := hr
    exact .inr (.inr (.inr (.inl ⟨.inl ⟨rfl, rfl⟩, rfl⟩)))
  | windowMetadata =>
    cases hl : processWindowMetadata c packet <;> simp [runHandler, hl, Except.map] at hr
    obtain ⟨rfl, rfl⟩ := hr
    exact .inr (.inr (.inr (.inl ⟨.inr ⟨rfl, rfl⟩, rfl⟩)))
  | draw =>
    cases hd : processDraw c packet decodeMs with
    | error e => simp [runHandler, hd, Except.map] at hr
    | ok r =>
      simp [runHandler, hd, Except.map] at hr
      obtain ⟨rfl, rfl⟩ := hr
      exact .inr (.inr (.inr (.inr ⟨rfl, r.2, rfl, rfl⟩)))

/-- A new window registers its id, as the abstract client does. -/
theorem register_announcedWid {c c' : TkClient} {packet : Packet} {isOr : Bool} (acks : List Ack)
    (hn : newWindow c packet isOr = .ok c') :
    (⟨c.windows.map Prod.fst, acks⟩ : AckSpec).register (announcedWid packet isOr) =
      ⟨c'.windows.map Prod.fst, acks⟩ := by
  obtain ⟨w, -, hw, rfl⟩ := newWindow_ok hn
  simp only [hw, AckSpec.register, keys_storeWindow]
  split <;> rfl

/-- The abstract client follows a handler that returns. -/
theorem runHandler_ok_spec {c c' : TkClient} (acks : List Ack) {h : Handler} {packet : Packet}
    {decodeMs : Nat} {sent : Option Packet} (hr : runHandler c h packet decodeMs = .ok (c', sent)) :
    (⟨c.windows.map Prod.fst, acks⟩ : AckSpec).handle packet h =
      ⟨c'.windows.map Prod.fst, acks ++ sent.toList.filterMap ackOf⟩ := by
  rcases runHandler_ok hr with ⟨hh, hw, -, -, rfl⟩ | ⟨isOr, rfl, hn, rfl⟩ | ⟨rfl, hl, rfl⟩ |
    ⟨⟨rfl, hl⟩ | ⟨rfl, hl⟩, rfl⟩ | ⟨rfl, reply, hd, rfl⟩
  · rw [hw]
    rcases hh with rfl | rfl | rfl | rfl <;> simp [AckSpec.handle]
  · cases isOr <;> simpa [AckSpec.handle] using register_announcedWid acks hn
  · obtain ⟨wid, hwid, ⟨w, -, rfl⟩ | ⟨hw, hc⟩⟩ := processLostWindow_ok hl
    · simp [AckSpec.handle, hwid]
    · rw [hc]
      have : wid ∉ c.windows.map Prod.fst := fun hk => by
        simpa [hw] using lookup_isSome_iff_mem.2 hk
      simp only [AckSpec.handle, hwid, Option.toList_none, List.filterMap_nil, List.append_nil,
        AckSpec.mk.injEq, and_true]
      exact List.filter_eq_self.2 fun k hk => by
        simp only [ne_eq, decide_eq_true_eq]
        rintro rfl
        exact this hk
  · simp [AckSpec.handle, (processRaiseWindow_ok hl).1]
  · simp [AckSpec.handle, (processWindowMetadata_ok hl).1]
  · obtain ⟨⟨hwin, -⟩, hack, hsome⟩ := processDraw_ok hd
    obtain ⟨ack, hack'⟩ := Option.isSome_iff_exists.1 hsome
    simp [AckSpec.handle, hack, hack', hwin]

/-- A handler that raises does nothing to the abstract client. -/
theorem runHandler_error_spec {c : TkClient} (acks : List Ack) {h : Handler} {packet : Packet}
    {decodeMs : Nat} {e : PyError} (hr : runHandler c h packet decodeMs = .error e) :
    (⟨c.windows.map Prod.fst, acks⟩ : AckSpec).handle packet h = ⟨c.windows.map Prod.fst, acks⟩ := by
  cases h with
  | newWindow =>
    cases hn : newWindow c packet false <;> simp [runHandler, hn, Except.map] at hr
    simp [AckSpec.handle, newWindow_error hn, AckSpec.register]
  | newOverrideRedirect =>
    cases hn : newWindow c packet true <;> simp [runHandler, hn, Except.map] at hr
    simp [AckSpec.handle, newWindow_error hn, AckSpec.register]
  | lostWindow =>
    cases hl : processLostWindow c packet <;> simp [runHandler, hl, Except.map] at hr
    simp [AckSpec.handle, processLostWindow_error hl]
  | draw =>
    cases hd : processDraw c packet decodeMs <;> simp [runHandler, hd, Except.map] at hr
    simp [AckSpec.handle, processDraw_error hd]
  | hello | settingChange | startupComplete | encodings | raiseWindow | windowMetadata => rfl

/-! ## The windows' lives -/

@[simp] theorem WindowCall.serial_show (n : Nat) : (WindowCall.show n).serial = n := rfl

@[simp] theorem WindowCall.serial_destroy (n : Nat) : (WindowCall.destroy n).serial = n := rfl

/-- The calls made on window `n`, in order. -/
def callsOn (n : Nat) (calls : List WindowCall) : List WindowCall :=
  calls.filter fun x => x.serial == n

/-- The calls a window gets follow its life: none, or `show`, then draws,
raises and metadata updates, then at most one `destroy`, which is the last. -/
def FollowsLife (n : Nat) (calls : List WindowCall) : Prop :=
  calls = [] ∨ ∃ mid, (∀ x ∈ mid, x.isMid) ∧
    (calls = .show n :: mid ∨ calls = .show n :: mid ++ [.destroy n])

theorem callsOn_append (n : Nat) (calls : List WindowCall) (x : WindowCall) :
    callsOn n (calls ++ [x]) = callsOn n calls ++ if x.serial = n then [x] else [] := by
  by_cases h : x.serial = n <;> simp [callsOn, h]

/-- The invariant of the windows: the calls each window got follow its life,
every call is on a window created, and the dict holds distinct ids and
distinct windows, each shown and not destroyed. -/
structure LifeInv (c : TkClient) : Prop where
  follows : ∀ n, FollowsLife n (callsOn n c.calls)
  fresh : ∀ x ∈ c.calls, x.serial < c.created
  registered : ∀ e ∈ c.windows, ∃ mid, (∀ x ∈ mid, x.isMid) ∧
    callsOn e.2.serial c.calls = .show e.2.serial :: mid
  keys : (c.windows.map Prod.fst).Nodup
  serials : (c.windows.map fun e => e.2.serial).Nodup

theorem lifeInv_init : LifeInv TkClient.init :=
  ⟨fun _ => .inl rfl, by simp [TkClient.init], by simp [TkClient.init], .nil, .nil⟩

/-- A window of the dict has a call, so it was created. -/
theorem LifeInv.serial_lt {c : TkClient} (hi : LifeInv c) {e : Int × ClientWindow}
    (he : e ∈ c.windows) : e.2.serial < c.created := by
  obtain ⟨mid, -, hopen⟩ := hi.registered e he
  have : WindowCall.show e.2.serial ∈ callsOn e.2.serial c.calls := by simp [hopen]
  exact hi.fresh _ (List.mem_filter.1 this).1

/-- A draw, a raise or a metadata update on a window of the dict. -/
theorem LifeInv.midStep {c c' : TkClient} (hi : LifeInv c) (h : MidStep c c') : LifeInv c' := by
  obtain ⟨hello, windows, created, calls⟩ := c'
  obtain ⟨hwin, hcreated, hcalls | ⟨e, he, x, hx, hxe, hcalls⟩⟩ := h <;>
    simp only at hwin hcreated hcalls <;> subst hwin hcreated hcalls
  · exact ⟨hi.follows, hi.fresh, hi.registered, hi.keys, hi.serials⟩
  · have hopen (e' : Int × ClientWindow) (he' : e' ∈ c.windows) (hs : x.serial = e'.2.serial) :
        ∃ mid, (∀ y ∈ mid, y.isMid) ∧
          callsOn e'.2.serial (c.calls ++ [x]) = .show e'.2.serial :: mid := by
      obtain ⟨mid, hmid, hon⟩ := hi.registered e' he'
      refine ⟨mid ++ [x], fun y hy => ?_, by simp [callsOn_append, hs, hon]⟩
      rcases List.mem_append.1 hy with hy | hy
      · exact hmid y hy
      · simp only [List.mem_singleton] at hy; exact hy ▸ hx
    refine ⟨fun n => ?_, fun y hy => ?_, fun e' he' => ?_, hi.keys, hi.serials⟩
    · by_cases hn : x.serial = n
      · obtain ⟨mid, hmid, hon⟩ := hopen e he hxe
        exact .inr ⟨mid, hmid, .inl (by rw [← hn, hxe, hon])⟩
      · simpa [callsOn_append, hn] using hi.follows n
    · rcases List.mem_append.1 hy with hy | hy
      · exact hi.fresh y hy
      · simp only [List.mem_singleton] at hy
        rw [hy, hxe]
        exact hi.serial_lt he
    · by_cases hs : x.serial = e'.2.serial
      · exact hopen e' he' hs
      · simpa [callsOn_append, hs] using hi.registered e' he'

theorem mem_storeWindow {ws : List (Int × ClientWindow)} {wid : Int} {w : ClientWindow}
    {e : Int × ClientWindow} (he : e ∈ storeWindow ws wid w) : e = (wid, w) ∨ e ∈ ws ∧ e.1 ≠ wid := by
  unfold storeWindow at he
  split at he
  · obtain ⟨e', he', rfl⟩ := List.mem_map.1 he
    by_cases h : e'.1 = wid <;> simp [h, he']
  · rename_i hno
    rcases List.mem_append.1 he with he | he
    · exact .inr ⟨he, fun h => hno (List.mem_map.2 ⟨e, he, h⟩)⟩
    · exact .inl (List.mem_singleton.1 he)

/-- The serials of the dict after a store: the stored window's replaces the
one of its id, or comes last. -/
theorem serials_storeWindow (ws : List (Int × ClientWindow)) (wid : Int) (w : ClientWindow) :
    (storeWindow ws wid w).map (fun e => e.2.serial) =
      if wid ∈ ws.map Prod.fst then ws.map (fun e => if e.1 = wid then w.serial else e.2.serial)
      else ws.map (fun e => e.2.serial) ++ [w.serial] := by
  unfold storeWindow
  split
  · simp only [List.map_map]
    exact List.map_congr_left fun e _ => by by_cases h : e.1 = wid <;> simp [h]
  · simp

/-- A new window, with a fresh serial, stored under its id and shown. -/
theorem LifeInv.store {c : TkClient} (hi : LifeInv c) (w : ClientWindow) (hw : w.serial = c.created) :
    LifeInv { c with windows := storeWindow c.windows w.wid w, created := c.created + 1,
                     calls := c.calls ++ [.show c.created] } := by
  have hnone : callsOn c.created c.calls = [] :=
    List.filter_eq_nil_iff.2 fun x hx => by simpa using (hi.fresh x hx).ne
  refine ⟨fun n => ?_, fun y hy => ?_, fun e he => ?_, ?_, ?_⟩
  · by_cases hn : c.created = n
    · subst hn
      exact .inr ⟨[], by simp, .inl (by simp [callsOn_append, hnone])⟩
    · simpa [callsOn_append, hn] using hi.follows n
  · rcases List.mem_append.1 hy with hy | hy
    · exact Nat.lt_succ_of_lt (hi.fresh y hy)
    · simp only [List.mem_singleton] at hy; simp [hy, WindowCall.serial]
  · rcases mem_storeWindow he with rfl | ⟨he, -⟩
    · exact ⟨[], by simp, by simp [hw, callsOn_append, hnone, WindowCall.serial]⟩
    · have hne : c.created ≠ e.2.serial := (hi.serial_lt he).ne'
      simpa [callsOn_append, hne] using hi.registered e he
  · rw [keys_storeWindow]
    split
    · exact hi.keys
    · exact List.nodup_append.2 ⟨hi.keys, List.nodup_singleton _, List.disjoint_singleton.2 ‹_›⟩
  · rw [serials_storeWindow]
    split
    · refine List.Nodup.map_on (fun x hx y hy hxy => ?_) (List.Nodup.of_map Prod.fst hi.keys)
      by_cases hx1 : x.1 = w.wid <;> by_cases hy1 : y.1 = w.wid <;> simp only [hx1, hy1, if_true, if_false] at hxy
      · exact List.inj_on_of_nodup_map hi.keys hx hy (hx1.trans hy1.symm)
      · exact absurd (hw ▸ hxy ▸ hi.serial_lt hy) (Nat.lt_irrefl _)
      · exact absurd (hw ▸ hxy.symm ▸ hi.serial_lt hx) (Nat.lt_irrefl _)
      · exact List.inj_on_of_nodup_map hi.serials hx hy hxy
    · refine List.nodup_append.2 ⟨hi.serials, by simp, ?_⟩
      simp only [List.disjoint_singleton, List.mem_map, not_exists, not_and]
      exact fun e he h => (hi.serial_lt he).ne (h.trans hw)

/-- The window of an id destroyed and dropped from the dict. -/
theorem LifeInv.delete {c : TkClient} (hi : LifeInv c) {wid : Int} {w : ClientWindow}
    (hw : c.windows.lookup wid = some w) :
    LifeInv { c with windows := deleteWindow c.windows wid, calls := c.calls ++ [.destroy w.serial] } := by
  have hmem := mem_of_lookup_eq_some hw
  obtain ⟨mid, hmid, hopen⟩ := hi.registered _ hmem
  refine ⟨fun n => ?_, fun y hy => ?_, fun e he => ?_, ?_, ?_⟩
  · by_cases hn : w.serial = n
    · subst hn
      exact .inr ⟨mid, hmid, .inr (by simp [callsOn_append, WindowCall.serial, hopen])⟩
    · simpa [callsOn_append, WindowCall.serial, hn] using hi.follows n
  · rcases List.mem_append.1 hy with hy | hy
    · exact hi.fresh y hy
    · simp only [List.mem_singleton] at hy
      rw [hy]
      exact hi.serial_lt hmem
  · obtain ⟨he, hne⟩ := List.mem_filter.1 he
    have hs : w.serial ≠ e.2.serial := fun h => by
      obtain rfl := List.inj_on_of_nodup_map hi.serials hmem he h
      simp at hne
    simpa [callsOn_append, WindowCall.serial, hs] using hi.registered e he
  · exact hi.keys.sublist ((List.filter_sublist _).map _)
  · exact hi.serials.sublist ((List.filter_sublist _).map _)

/-- What a handler that returns does to the windows: it creates one, destroys
one of the dict, or at most adds a draw, a raise or a metadata update. -/
theorem runHandler_ok_cases {c c' : TkClient} {h : Handler} {packet : Packet} {decodeMs : Nat}
    {sent : Option Packet} (hr : runHandler c h packet decodeMs = .ok (c', sent)) :
    (∃ w : ClientWindow, w.serial = c.created ∧
      c' = { c with windows := storeWindow c.windows w.wid w, created := c.created + 1,
                    calls := c.calls ++ [.show c.created] }) ∨
    (∃ wid w, c.windows.lookup wid = some w ∧
      c' = { c with windows := deleteWindow c.windows wid, calls := c.calls ++ [.destroy w.serial] }) ∨
    MidStep c c' := by
  rcases runHandler_ok hr with ⟨-, hw, hc, hcalls, -⟩ | ⟨isOr, -, hn, -⟩ | ⟨-, hl, -⟩ |
    ⟨⟨-, hl⟩ | ⟨-, hl⟩, -⟩ | ⟨-, reply, hd, -⟩
  · exact .inr (.inr ⟨hw, hc, .inl hcalls⟩)
  · obtain ⟨w, hw, -, rfl⟩ := newWindow_ok hn
    exact .inl ⟨w, hw, rfl⟩
  · obtain ⟨wid, -, ⟨w, hw, rfl⟩ | ⟨-, rfl⟩⟩ := processLostWindow_ok hl
    · exact .inr (.inl ⟨wid, w, hw, rfl⟩)
    · exact .inr (.inr ⟨rfl, rfl, .inl rfl⟩)
  · exact .inr (.inr (processRaiseWindow_ok hl))
  · exact .inr (.inr (processWindowMetadata_ok hl))
  · exact .inr (.inr (processDraw_ok hd).1)

/-- A handler keeps the invariant of the windows. -/
theorem LifeInv.runHandler {c c' : TkClient} (hi : LifeInv c) {h : Handler} {packet : Packet}
    {decodeMs : Nat} {sent : Option Packet} (hr : runHandler c h packet decodeMs = .ok (c', sent)) :
    LifeInv c' := by
  rcases runHandler_ok_cases hr with ⟨w, hw, rfl⟩ | ⟨wid, w, hw, rfl⟩ | hmid
  · exact hi.store w hw
  · exact hi.delete hw
  · exact hi.midStep hmid

/-! ## The client and its threads, step by step -/

theorem scheduled_eq (packet : Packet) :
    scheduled packet = (packet.head?.bind lookupHandler).toList.map (·, packet) := by
  cases packet with
  | nil => rfl
  | cons tag rest => cases h : lookupHandler tag <;> simp [scheduled, processPacket, h]

theorem AckSpec.run_append (packets : List Packet) (packet : Packet) :
    AckSpec.run (packets ++ [packet]) = (AckSpec.run packets).step packet := by
  simp [AckSpec.run]

/-- A packet without a handler does nothing to the abstract client, so it
runs the same on the packets received and on the packets that got a handler. -/
theorem AckSpec.foldl_scheduled (packets : List Packet) (a : AckSpec) :
    packets.foldl AckSpec.step a = ((packets.flatMap scheduled).map Prod.snd).foldl AckSpec.step a := by
  induction packets generalizing a with
  | nil => rfl
  | cons packet packets ih =>
    cases h : packet.head?.bind lookupHandler with
    | none => simp [scheduled_eq, h, AckSpec.step, ih]
    | some hd => simp [scheduled_eq, h, ih]

/-- What one step of the client can do, with its guard. -/
theorem TkSession.step_cases {s t : TkSession} {a : TkAction} (h : s.step a = some t) :
    (∃ packet, t = { s with received := s.received ++ [packet],
                            pending := s.pending ++ scheduled packet }) ∨
    (∃ hd packet rest decodeMs, s.sending = false ∧ s.pending = (hd, packet) :: rest ∧
      ((∃ e, runHandler s.client hd packet decodeMs = .error e ∧
          t = { s with pending := rest, handled := s.handled ++ [packet] }) ∨
       (∃ c, runHandler s.client hd packet decodeMs = .ok (c, none) ∧
          t = { s with client := c, pending := rest, handled := s.handled ++ [packet] }) ∨
       (∃ c reply l, runHandler s.client hd packet decodeMs = .ok (c, some reply) ∧
          Net.Protocol.step .ordinaryPackets s.loop (.put 0 reply) = some l ∧
          t = { s with client := c, pending := rest, handled := s.handled ++ [packet], loop := l,
                       sending := true }))) ∨
    (s.sending = true ∧ ∃ l, Net.Protocol.step .ordinaryPackets s.loop (.hasMore 0) = some l ∧
      t = { s with loop := l, sending := false }) ∨
    (∃ la l, (la = .wake ∨ la = .take ∨ la = .more) ∧
      Net.Protocol.step .ordinaryPackets s.loop la = some l ∧ t = { s with loop := l }) := by
  obtain ⟨client, pending, sending, loop, received, handled⟩ := s
  cases a with
  | receive packet => cases h; exact .inl ⟨packet, rfl⟩
  | handle decodeMs =>
    cases sending with
    | true => cases h
    | false =>
      cases pending with
      | nil => cases h
      | cons hp rest =>
        obtain ⟨hd, packet⟩ := hp
        refine .inr (.inl ⟨hd, packet, rest, decodeMs, rfl, rfl, ?_⟩)
        simp only [TkSession.step] at h
        split at h
        · cases h; exact .inl ⟨_, ‹_›, rfl⟩
        · cases h; exact .inr (.inl ⟨_, ‹_›, rfl⟩)
        · obtain ⟨l, hl, rfl⟩ := Option.map_eq_some'.1 h
          exact .inr (.inr ⟨_, _, l, ‹_›, hl, rfl⟩)
  | haveMore =>
    cases sending with
    | false => cases h
    | true =>
      obtain ⟨l, hl, rfl⟩ := Option.map_eq_some'.1 h
      exact .inr (.inr (.inl ⟨rfl, l, hl, rfl⟩))
  | write la =>
    cases la with
    | put _ _ | hasMore _ => cases h
    | wake | take | more =>
      obtain ⟨l, hl, rfl⟩ := Option.map_eq_some'.1 h
      exact .inr (.inr (.inr ⟨_, l, by simp, hl, rfl⟩))

/-! ## The invariant of every run -/

/-- The invariant of the client and its threads: the write loop's, Tk is the
one producer of the loop and is between its put and its `have_more()` exactly
while it sends, the handlers Tk ran and those still queued are those
`process_packet` queued, in order, the abstract client run on the packets
handled has the ids of the dict and the acknowledgements sent, and the
windows follow their lives. -/
structure TkInv (s : TkSession) : Prop where
  loop : Inv .ordinaryPackets s.loop
  putting : s.loop.putting = if s.sending then [0] else []
  queued : ∃ done, done ++ s.pending = s.received.flatMap scheduled ∧ done.map Prod.snd = s.handled
  spec : AckSpec.run s.handled = ⟨s.client.windows.map Prod.fst, s.loop.sent.filterMap ackOf⟩
  life : LifeInv s.client

theorem tkInv_init : TkInv .init :=
  ⟨inv_init _, rfl, ⟨[], rfl, rfl⟩, rfl, lifeInv_init⟩

/-- The packet Tk handles next was queued with its own handler. -/
theorem TkInv.handler_of_pending {s : TkSession} (hi : TkInv s) {hd : Handler} {packet : Packet}
    {rest : List (Handler × Packet)} (hp : s.pending = (hd, packet) :: rest) :
    packet.head?.bind lookupHandler = some hd := by
  obtain ⟨done, hdone, -⟩ := hi.queued
  have : (hd, packet) ∈ s.received.flatMap scheduled := hdone ▸ by simp [hp]
  obtain ⟨p, -, hm⟩ := List.mem_flatMap.1 this
  rw [scheduled_eq] at hm
  obtain ⟨h', hh', heq⟩ := List.mem_map.1 hm
  simp only [Prod.mk.injEq] at heq
  obtain ⟨rfl, rfl⟩ := heq
  simpa using hh'

/-- Tk runs the oldest handler: it moves from the queue to the packets handled. -/
theorem TkInv.queued_handle {s : TkSession} (hi : TkInv s) {hd : Handler} {packet : Packet}
    {rest : List (Handler × Packet)} (hp : s.pending = (hd, packet) :: rest) :
    ∃ done, done ++ rest = s.received.flatMap scheduled ∧ done.map Prod.snd = s.handled ++ [packet] := by
  obtain ⟨done, hdone, hmap⟩ := hi.queued
  exact ⟨done ++ [(hd, packet)], by simp [← hdone, hp], by simp [hmap]⟩

/-- One step keeps the invariant. -/
theorem TkInv.step {s t : TkSession} {a : TkAction} (hi : TkInv s) (h : s.step a = some t) :
    TkInv t := by
  rcases TkSession.step_cases h with ⟨packet, rfl⟩ |
    ⟨hd, packet, rest, decodeMs, hs, hp, ⟨e, hr, rfl⟩ | ⟨c, hr, rfl⟩ | ⟨c, reply, l, hr, hl, rfl⟩⟩ |
    ⟨hs, l, hl, rfl⟩ | ⟨la, l, hla, hl, rfl⟩
  · obtain ⟨done, hdone, hmap⟩ := hi.queued
    exact ⟨hi.loop, hi.putting, ⟨done, by simp [← hdone], hmap⟩, hi.spec, hi.life⟩
  · have hspec := hi.spec
    refine ⟨hi.loop, hi.putting, hi.queued_handle hp, ?_, hi.life⟩
    rw [AckSpec.run_append, hspec, AckSpec.step, hi.handler_of_pending hp]
    exact runHandler_error_spec _ hr
  · refine ⟨hi.loop, hi.putting, hi.queued_handle hp, ?_, hi.life.runHandler hr⟩
    simp only [AckSpec.run_append, hi.spec, AckSpec.step, hi.handler_of_pending hp,
      runHandler_ok_spec _ hr]
    simp
  · obtain ⟨hsent, hput⟩ := step_put hl
    refine ⟨step_inv hi.loop hl, ?_, hi.queued_handle hp, ?_, hi.life.runHandler hr⟩
    · simp [hput, hi.putting, hs]
    · simp only [AckSpec.run_append, hi.spec, AckSpec.step, hi.handler_of_pending hp,
        runHandler_ok_spec _ hr]
      simp [hsent]
  · obtain ⟨hsent, hput⟩ := step_hasMore hl
    refine ⟨step_inv hi.loop hl, ?_, hi.queued, by rw [hi.spec, hsent], hi.life⟩
    simp [hput, hi.putting, hs]
  · obtain ⟨hsent, hput⟩ := step_loop_frame hla hl
    exact ⟨step_inv hi.loop hl, by rw [hput, hi.putting], hi.queued, by rw [hi.spec, hsent], hi.life⟩

/-- Every state some interleaving reaches keeps the invariant. -/
theorem tkInv_reachable {s : TkSession} (h : TkReachable s) : TkInv s := by
  induction h with
  | init => exact tkInv_init
  | step a _ hstep ih => exact ih.step hstep

/-- Run a list of actions; `none` as soon as one is not enabled. -/
def TkSession.run : TkSession → List TkAction → Option TkSession
  | s, [] => some s
  | s, a :: acts => (s.step a).bind fun t => TkSession.run t acts

theorem tkReachable_run {s t : TkSession} {acts : List TkAction} (hs : TkReachable s)
    (h : s.run acts = some t) : TkReachable t := by
  induction acts generalizing s with
  | nil => cases h; exact hs
  | cons a acts ih =>
    simp only [TkSession.run, Option.bind_eq_some] at h
    obtain ⟨u, hu, ht⟩ := h
    exact ih (.step a hs hu) ht

/-! ## What every run guarantees -/

/-- Over every interleaving of the read thread, Tk's main loop and the write
loop, the client refines the abstract one.  The ids of the dict and the
acknowledgements queued for the server are those of the abstract client run
on the packets Tk has handled; the handlers Tk ran and those still queued are
the ones `process_packet` queued, in the order the packets came; and the write
loop has lost and duplicated nothing. -/
theorem tkSession_refines_ackSpec {s : TkSession} (h : TkReachable s) :
    AckSpec.run s.handled = ⟨s.client.windows.map Prod.fst, s.loop.sent.filterMap ackOf⟩ ∧
      (∃ done, done ++ s.pending = s.received.flatMap scheduled ∧ done.map Prod.snd = s.handled) ∧
      s.loop.written ++ s.loop.phase.held ++ s.loop.queue = s.loop.sent := by
  have hi := tkInv_reachable h
  exact ⟨hi.spec, hi.queued, hi.loop.accounted⟩

/-- Once Tk has run every queued handler and the write loop is idle with no
wake pending, the acknowledgements written to the server are those of the
abstract client run on every packet received: each well-formed draw is
answered once, in the order the draws came, and says whether the window was
known; and the dict has the abstract client's ids. -/
theorem acks_written_when_quiet {s : TkSession} (h : TkReachable s) (hp : s.pending = [])
    (hs : s.sending = false) (hidle : s.loop.phase = .idle) (hw : s.loop.wakes = 0) :
    s.loop.written.filterMap ackOf = (AckSpec.run s.received).acks ∧
      s.client.windows.map Prod.fst = (AckSpec.run s.received).wids := by
  have hi := tkInv_reachable h
  obtain ⟨done, hdone, hmap⟩ := hi.queued
  have hhandled : (s.received.flatMap scheduled).map Prod.snd = s.handled := by
    rw [← hdone, hp, List.append_nil, hmap]
  have hrun : AckSpec.run s.received = AckSpec.run s.handled := by
    rw [AckSpec.run, AckSpec.foldl_scheduled, hhandled, AckSpec.run]
  have hput : s.loop.putting = [] := by simpa [hs] using hi.putting
  rw [hrun, hi.spec, hi.loop.written_eq_sent hidle hw hput]
  exact ⟨rfl, rfl⟩


/-- A window announced with id 1. -/
def newWindow1 : Packet := [.str "new-window", .int 1, .int 0, .int 0, .int 640, .int 480, .dict []]

/-- A draw for window 1, with sequence number 7. -/
def draw1 : Packet :=
  [.str "draw", .int 1, .int 0, .int 0, .int 640, .int 480, .str "png", .str "", .int 7, .int 0]

/-- A draw for window 2, which was never announced, with sequence number 8. -/
def draw2 : Packet :=
  [.str "draw", .int 2, .int 0, .int 0, .int 640, .int 480, .str "png", .str "", .int 8, .int 0]

/-- The three packets arrive; Tk creates the window and answers the first
draw, the write loop sends the answer, then the same for the second draw. -/
def drawRun : List TkAction :=
  [.receive newWindow1, .receive draw1, .receive draw2, .handle 0, .handle 5, .haveMore,
    .write .wake, .write .take, .write .more, .handle 0, .haveMore, .write .wake, .write .take,
    .write .more]

/-- Where `drawRun` ends. -/
def drawState : TkSession := (TkSession.run .init drawRun).getD .init

theorem tkSession_refines_ackSpec_draws :
    TkSession.run .init drawRun = some drawState ∧
      AckSpec.run drawState.handled =
        ⟨drawState.client.windows.map Prod.fst, drawState.loop.sent.filterMap ackOf⟩ ∧
      (∃ done, done ++ drawState.pending = drawState.received.flatMap scheduled ∧
        done.map Prod.snd = drawState.handled) ∧
      drawState.loop.written ++ drawState.loop.phase.held ++ drawState.loop.queue =
        drawState.loop.sent :=
  have hrun : TkSession.run .init drawRun = some drawState := rfl
  ⟨hrun, tkSession_refines_ackSpec (tkReachable_run .init hrun)⟩

/-- Both draws are answered, in order: the first with the window known, the
second with `-1`. -/
theorem acks_written_when_quiet_draws :
    TkSession.run .init drawRun = some drawState ∧ drawState.pending = [] ∧
      drawState.sending = false ∧ drawState.loop.phase = .idle ∧ drawState.loop.wakes = 0 ∧
      (drawState.loop.written.filterMap ackOf = (AckSpec.run drawState.received).acks ∧
        drawState.client.windows.map Prod.fst = (AckSpec.run drawState.received).wids) :=
  have hrun : TkSession.run .init drawRun = some drawState := rfl
  ⟨hrun, rfl, rfl, rfl, rfl, acks_written_when_quiet (tkReachable_run .init hrun) rfl rfl rfl rfl⟩

/-- Over every run, the calls each window gets follow its life, and every
window in the dict has been shown and not destroyed. -/
theorem calls_follow_life {s : TkSession} (h : TkReachable s) :
    (∀ n, FollowsLife n (callsOn n s.client.calls)) ∧
      ∀ e ∈ s.client.windows, ∃ mid, (∀ x ∈ mid, x.isMid) ∧
        callsOn e.2.serial s.client.calls = .show e.2.serial :: mid :=
  have hi := (tkInv_reachable h).life
  ⟨hi.follows, hi.registered⟩

theorem calls_follow_life_draws :
    TkSession.run .init drawRun = some drawState ∧
      (∀ n, FollowsLife n (callsOn n drawState.client.calls)) ∧
      ∀ e ∈ drawState.client.windows, ∃ mid, (∀ x ∈ mid, x.isMid) ∧
        callsOn e.2.serial drawState.client.calls = .show e.2.serial :: mid :=
  have hrun : TkSession.run .init drawRun = some drawState := rfl
  ⟨hrun, calls_follow_life (tkReachable_run .init hrun)⟩

/-! ## Windows out of the dict -/

/-- One step of some thread. -/
def TkSession.Steps (s t : TkSession) : Prop := ∃ a, s.step a = some t

/-- A handler leaves alone a window created and out of the dict. -/
theorem runHandler_out_of_dict {c c' : TkClient} {h : Handler} {packet : Packet} {decodeMs : Nat}
    {sent : Option Packet} (hr : runHandler c h packet decodeMs = .ok (c', sent)) {n : Nat}
    (hn : n < c.created) (hout : n ∉ c.windows.map fun e => e.2.serial) :
    n < c'.created ∧ (n ∉ c'.windows.map fun e => e.2.serial) ∧
      callsOn n c'.calls = callsOn n c.calls := by
  rcases runHandler_ok_cases hr with ⟨w, hw, rfl⟩ | ⟨wid, w, hw, rfl⟩ | ⟨hwin, hcreated, hcalls | ⟨e, he, x, -, hxe, hcalls⟩⟩
  · refine ⟨Nat.lt_succ_of_lt hn, ?_, by simp [callsOn_append, hn.ne']⟩
    simp only [serials_storeWindow]
    split
    · simp only [List.mem_map, not_exists, not_and]
      intro e he
      split
      · omega
      · exact fun h => hout (List.mem_map.2 ⟨e, he, h⟩)
    · simp only [List.mem_append, List.mem_singleton, not_or]
      exact ⟨hout, by omega⟩
  · have hne : w.serial ≠ n := fun h =>
      hout (List.mem_map.2 ⟨_, mem_of_lookup_eq_some hw, h⟩)
    refine ⟨hn, fun hm => hout ?_, by simp [callsOn_append, hne]⟩
    obtain ⟨e, he, rfl⟩ := List.mem_map.1 hm
    exact List.mem_map.2 ⟨e, (List.mem_filter.1 he).1, rfl⟩
  · exact ⟨hcreated ▸ hn, hwin ▸ hout, by rw [hcalls]⟩
  · have hne : x.serial ≠ n := fun h => hout (List.mem_map.2 ⟨e, he, hxe ▸ h⟩)
    exact ⟨hcreated ▸ hn, hwin ▸ hout, by simp [hcalls, callsOn_append, hne]⟩

/-- A window that has left the dict, destroyed or pushed out by a second
`new-window` for its id, gets no call again, over every run of the threads:
a destroyed window is never drawn, raised or destroyed again, and a window
pushed out is never destroyed. -/
theorem window_out_of_dict_gets_no_call {s t : TkSession}
    (hst : Relation.ReflTransGen TkSession.Steps s t) {n : Nat} (hn : n < s.client.created)
    (hout : n ∉ s.client.windows.map fun e => e.2.serial) :
    callsOn n t.client.calls = callsOn n s.client.calls ∧
      n ∉ t.client.windows.map fun e => e.2.serial := by
  suffices n < t.client.created ∧ (n ∉ t.client.windows.map fun e => e.2.serial) ∧
      callsOn n t.client.calls = callsOn n s.client.calls from ⟨this.2.2, this.2.1⟩
  induction hst with
  | refl => exact ⟨hn, hout, rfl⟩
  | tail _ hstep ih =>
    obtain ⟨hn', hout', hcalls⟩ := ih
    obtain ⟨a, hstep⟩ := hstep
    rcases TkSession.step_cases hstep with ⟨_, rfl⟩ |
      ⟨_, _, _, _, -, -, ⟨_, -, rfl⟩ | ⟨c, hr, rfl⟩ | ⟨c, _, _, hr, -, rfl⟩⟩ |
      ⟨-, _, -, rfl⟩ | ⟨_, _, -, -, rfl⟩
    · exact ⟨hn', hout', hcalls⟩
    · exact ⟨hn', hout', hcalls⟩
    · obtain ⟨h1, h2, h3⟩ := runHandler_out_of_dict hr hn' hout'
      exact ⟨h1, h2, h3.trans hcalls⟩
    · obtain ⟨h1, h2, h3⟩ := runHandler_out_of_dict hr hn' hout'
      exact ⟨h1, h2, h3.trans hcalls⟩
    · exact ⟨hn', hout', hcalls⟩
    · exact ⟨hn', hout', hcalls⟩

theorem steps_of_run {s t : TkSession} {acts : List TkAction} (h : s.run acts = some t) :
    Relation.ReflTransGen TkSession.Steps s t := by
  induction acts generalizing s with
  | nil => cases h; exact .refl
  | cons a acts ih =>
    simp only [TkSession.run, Option.bind_eq_some] at h
    obtain ⟨u, hu, ht⟩ := h
    exact .head ⟨a, hu⟩ (ih ht)

/-- The server announces window 1 twice: the second window replaces the first
in the dict. -/
def displacedState : TkSession :=
  (TkSession.run .init [.receive newWindow1, .receive newWindow1, .handle 0, .handle 0]).getD .init

/-- The lost-window packet of window 1. -/
def lostWindow1 : Packet := [.str "lost-window", .int 1]

/-- `displacedState` once the server has lost window 1. -/
def afterLost : TkSession := (displacedState.run [.receive lostWindow1, .handle 0]).getD .init

/-- The second window is destroyed; the first, out of the dict since the
second `new-window`, was shown and is never destroyed. -/
theorem window_out_of_dict_gets_no_call_displaced :
    Relation.ReflTransGen TkSession.Steps displacedState afterLost ∧
      0 < displacedState.client.created ∧
      (0 ∉ displacedState.client.windows.map fun e => e.2.serial) ∧
      (callsOn 0 afterLost.client.calls = callsOn 0 displacedState.client.calls ∧
        0 ∉ afterLost.client.windows.map fun e => e.2.serial) ∧
      callsOn 0 displacedState.client.calls = [.show 0] ∧
      callsOn 1 afterLost.client.calls = [.show 1, .destroy 1] :=
  have hrun : displacedState.run [.receive lostWindow1, .handle 0] = some afterLost := rfl
  have hsteps := steps_of_run hrun
  ⟨hsteps, by decide, by decide, window_out_of_dict_gets_no_call hsteps (by decide) (by decide),
    rfl, rfl⟩

end Xpra.Client.Tk
