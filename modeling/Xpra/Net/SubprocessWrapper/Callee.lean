import Mathlib.Data.List.Basic

/-!
# `SubprocessCallee` of `xpra/net/subprocess_wrapper.py`

The callee runs in the child process and wraps an object.  Two of its paths
are modelled here.

* Commands.  `processPacket` is `process_packet`: the reserved tags, the
  translation of hyphens, the allow-list, the truth test on the wrapped object
  and on the attribute, and `GLib.idle_add` of the method with the packet's
  other elements.  The tasks it hands to `GLib.idle_add` are its result; it
  calls nothing itself.  `GLib.idle_add` rejects a value that is not callable
  with `TypeError`, which `processPacket` raises.
* Events.  `connectExport` is `connect_export`, `exportSignal` is `export` (a keyword of Lean),
  `calleePacket` is the packet `send` queues, and `emit` is one emission of a
  signal of the wrapped object, which calls every handler connected to it as
  `handler(emitter, *event_args, *user_data)`.

Packet elements are `PyVal V`: a string, or any other value, which the bridge
passes on untouched.  `hexstr(str(x)[:32])`, which `send` applies to every
element when `HEXLIFY_PACKETS` is set, is the parameter `hexDump`: both
functions live outside the sources.

The callee's send queue and `get_packet` are the write loop of
`Xpra.Net.Protocol.WriteLoop`.  Fault injection (`INJECT_FAULT`) is a no-op
unless `XPRA_WRAPPER_FAULT_INJECTION_RATE` is set, and is not modelled.
-/

namespace Xpra.Net.SubprocessWrapper

/-- A value on the bridge: a string, or any other value. -/
inductive PyVal (V : Type) where
  | str (s : String)
  | obj (v : V)
  deriving DecidableEq, Repr

/-- A packet: the tag that `get_str(0)` reads, and the elements after it. -/
structure Packet (V : Type) where
  tag : String
  args : List (PyVal V)
  deriving DecidableEq, Repr

/-- Modelled from the spec: `CONNECTION_LOST` of `xpra.net.protocol.constants`,
which is not among the sources.  Section 6 names the reserved tag. -/
def CONNECTION_LOST : String := "connection-lost"

/-- Modelled from the spec: `GIBBERISH` of `xpra.net.protocol.constants`,
which is not among the sources.  Section 6 names the reserved tag. -/
def GIBBERISH : String := "gibberish"

/-- A Python value as `process_packet` tests it: `not v` and `callable(v)`. -/
structure Attribute where
  truthy : Bool
  isCallable : Bool
  deriving DecidableEq, Repr

/-- The wrapped object as `process_packet` sees it: its truth value, and
`getattr(wo, name, None)` for every name (a missing attribute is `None`,
falsy and not callable). -/
structure WrappedObject where
  truthy : Bool
  getattr : String → Attribute

/-- What `process_packet` hands to `GLib.idle_add`. -/
inductive CalleeTask (V : Type) where
  /-- `net_stop()`: `GLib.idle_add(self.stop)`. -/
  | stop
  /-- `GLib.idle_add(method, *packet[1:])` for `method = getattr(wo, attr)`. -/
  | call (attr : String) (args : List (PyVal V))
  deriving DecidableEq, Repr

/-- The exceptions `process_packet` lets out. -/
inductive CalleeError where
  /-- `sys.exit(0)` on an `exit` packet. -/
  | systemExit (code : Nat)
  /-- `packet.get_str(1)` on a `gibberish` packet without a message. -/
  | indexError
  /-- `GLib.idle_add` of a value that is not callable. -/
  | typeError
  deriving DecidableEq, Repr

/-- `command.replace("-", "_")`: every hyphen becomes an underscore. -/
def replaceHyphens (command : String) : String :=
  ⟨command.data.map fun c => if c = '-' then '_' else c⟩

/-- `method_whitelist is not None and attr not in method_whitelist`. -/
def notWhitelisted (methodWhitelist : Option (List String)) (attr : String) : Bool :=
  match methodWhitelist with
  | some names => attr ∉ names
  | none => false

variable {V : Type}

/-- `SubprocessCallee.process_packet(proto, packet)`: the tasks it schedules. -/
def processPacket (methodWhitelist : Option (List String)) (wo : WrappedObject)
    (packet : Packet V) : Except CalleeError (List (CalleeTask V)) :=
  let command := packet.tag
  if command = CONNECTION_LOST then .ok [.stop]
  else if command = GIBBERISH then
    match packet.args with
    | [] => .error .indexError
    | _ :: _ => .ok [.stop]
  else if command = "stop" then .ok [.stop]
  else if command = "exit" then .error (.systemExit 0)
  else
    let attr := replaceHyphens command
    if notWhitelisted methodWhitelist attr then .ok []
    else if !wo.truthy then .ok []
    else
      let method := wo.getattr attr
      if !method.truthy then .ok []
      else if !method.isCallable then .error .typeError
      else .ok [.call attr packet.args]

/-! ## Exported signals -/

/-- The user data `connect_export(signal_name, *user_data)` registers with the
`export` handler: `list(user_data) + [signal_name]`. -/
def connectExport (signalName : String) (userData : List (PyVal V)) :
    String × List (PyVal V) :=
  (signalName, userData ++ [.str signalName])

/-- `export(*args)`: the signal name is the last argument and the data the
arguments between the emitter and the name.  `none` when the last argument is
not a string, which `connect_export` never lets happen. -/
def exportSignal (args : List (PyVal V)) : Option (String × List (PyVal V)) :=
  match args.getLast? with
  | some (.str signalName) => some (signalName, (args.drop 1).dropLast)
  | _ => none

/-- The packet `SubprocessCallee.send(packet_type, *args)` puts on the send
queue.  With `HEXLIFY_PACKETS`, `args` becomes
`[packet_type] + [hexstr(str(x)[:32]) for x in args]` and the packet is
`(packet_type, *args)`. -/
def calleePacket (hexlifyPackets : Bool) (hexDump : PyVal V → PyVal V)
    (packetType : String) (args : List (PyVal V)) : Packet V :=
  if hexlifyPackets then ⟨packetType, .str packetType :: args.map hexDump⟩
  else ⟨packetType, args⟩

/-- One emission of signal `name` with arguments `eventArgs` by the wrapped
object `emitter`: every handler that `connect_export` registered for the signal
runs, in registration order, as `export(emitter, *event_args, *user_data)`, and
each queues one packet. -/
def emit (hexlifyPackets : Bool) (hexDump : PyVal V → PyVal V)
    (exports : List (String × List (PyVal V))) (emitter : PyVal V) (name : String)
    (eventArgs : List (PyVal V)) : List (Packet V) :=
  exports.filterMap fun handler =>
    if handler.1 = name then
      (exportSignal (emitter :: eventArgs ++ handler.2)).map fun sent =>
        calleePacket hexlifyPackets hexDump sent.1 sent.2
    else none

end Xpra.Net.SubprocessWrapper
