import Xpra.Net.SubprocessWrapper.Caller

/-!
# The bridge between `SubprocessCaller` and `SubprocessCallee`

The protocol between the two processes is a lossless FIFO channel here: the
packets one side queues reach the other side's `process_packet` in order.
Over it the bridge runs in two directions.

* Commands.  `deliverToCallee` runs the callee's `processPacket` on the packets
  the caller's `send` queued; a packet whose processing raises schedules
  nothing.  `processPacket_command` says once what `process_packet` does with
  an ordinary tag, and `processPacket_of_reserved` what it does with the four
  reserved ones; `processPacket_reserved` that none of them schedules a call.  `directCalls` is the refinement target: the method calls the
  caller's sends stand for.  `callee_dispatch_refines_direct_calls` relates the
  two for a truthy wrapped object and says that a falsy one gets no call at all.
* Events.  `bridgeEvents` runs the callee's exported signals through the
  channel into the caller's subscriptions.  `forwardedCalls` is its target, and
  `bridgeEvents_forwards` says the two agree when `HEXLIFY_PACKETS` is off.
  When it is on, `send` puts the tag in front of the elements a second time,
  and `bridgeEvents_hexlify_repeats_tag` shows the callback receiving it.
* The caller's built-in subscriptions.  `runBuiltin` runs `connection_lost` or
  `gibberish`, and `callerProcessPacket_reserved_stops` says that a
  `connection-lost` or `gibberish` packet has the caller run its built-in
  handler first and stop, unless a `gibberish` packet carries no message.
-/

namespace Xpra.Net.SubprocessWrapper

variable {C V : Type}

/-! ## What `process_packet` does with one packet -/

/-- A tag that `process_packet` handles itself. -/
def isReserved (tag : String) : Prop :=
  tag = CONNECTION_LOST ∨ tag = GIBBERISH ∨ tag = "stop" ∨ tag = "exit"

instance (tag : String) : Decidable (isReserved tag) :=
  inferInstanceAs (Decidable (_ ∨ _ ∨ _ ∨ _))

/-- An ordinary tag: the allow-list, the wrapped object and its attribute
decide. -/
theorem processPacket_command (wl : Option (List String)) (wo : WrappedObject)
    (packet : Packet V) (h : ¬ isReserved packet.tag) :
    processPacket wl wo packet =
      if notWhitelisted wl (replaceHyphens packet.tag) ∨ wo.truthy = false ∨
          (wo.getattr (replaceHyphens packet.tag)).truthy = false then .ok []
      else if (wo.getattr (replaceHyphens packet.tag)).isCallable = false then .error .typeError
      else .ok [.call (replaceHyphens packet.tag) packet.args] := by
  simp only [isReserved, not_or] at h
  obtain ⟨h1, h2, h3, h4⟩ := h
  simp only [processPacket, h1, h2, h3, h4, if_false]
  by_cases hw : notWhitelisted wl (replaceHyphens packet.tag) <;>
    by_cases ho : wo.truthy <;>
    by_cases ha : (wo.getattr (replaceHyphens packet.tag)).truthy <;>
    simp [hw, ho, ha]

/-- A reserved tag: `exit` raises `SystemExit`, a `gibberish` packet without
a message raises `IndexError`, and the rest schedule `stop`. -/
theorem processPacket_of_reserved (wl : Option (List String)) (wo : WrappedObject)
    (packet : Packet V) (h : isReserved packet.tag) :
    processPacket wl wo packet =
      if packet.tag = "exit" then .error (.systemExit 0)
      else if packet.tag = GIBBERISH ∧ packet.args.isEmpty then .error .indexError
      else .ok [.stop] := by
  have hc : CONNECTION_LOST ≠ "exit" ∧ CONNECTION_LOST ≠ GIBBERISH := by decide
  have hg : GIBBERISH ≠ CONNECTION_LOST ∧ GIBBERISH ≠ "exit" := by decide
  have hs : "stop" ≠ CONNECTION_LOST ∧ "stop" ≠ GIBBERISH ∧ "stop" ≠ "exit" := by decide
  have he : "exit" ≠ CONNECTION_LOST ∧ "exit" ≠ GIBBERISH ∧ "exit" ≠ "stop" := by decide
  simp only [isReserved] at h
  unfold processPacket
  rcases h with h | h | h | h <;> simp only [h, hc, hg, hs, he, if_true, if_false, false_and]
  split <;> simp_all

/-- A reserved tag never leads to a method call: `process_packet` schedules
only `stop`, or raises. -/
theorem processPacket_reserved (wl : Option (List String)) (wo : WrappedObject)
    (packet : Packet V) (h : isReserved packet.tag) (tasks : List (CalleeTask V))
    (hp : processPacket wl wo packet = .ok tasks) : ∀ task ∈ tasks, task = .stop := by
  rw [processPacket_of_reserved wl wo packet h] at hp
  split at hp
  · cases hp
  · split at hp
    · cases hp
    · cases hp; simp

/-! ## Commands: caller to callee -/

/-- The method calls among the tasks `process_packet` schedules. -/
def methodCalls (tasks : List (CalleeTask V)) : List (String × List (PyVal V)) :=
  tasks.filterMap fun
    | .call attr args => some (attr, args)
    | .stop => none

/-- The tasks the callee schedules when the channel delivers `packets` in
order.  A packet whose processing raises schedules nothing. -/
def deliverToCallee (wl : Option (List String)) (wo : WrappedObject)
    (packets : List (Packet V)) : List (CalleeTask V) :=
  packets.flatMap fun packet =>
    match processPacket wl wo packet with
    | .ok tasks => tasks
    | .error _ => []

/-- The direct method calls that the sends `send(t, *v)` stand for: `t` with
hyphens translated, called with `v`, for every `t` that is not reserved, is
allowed, and names a truthy attribute of the wrapped object. -/
def directCalls (wl : Option (List String)) (wo : WrappedObject)
    (sends : List (String × List (PyVal V))) : List (String × List (PyVal V)) :=
  sends.filterMap fun send =>
    if send.1 ≠ CONNECTION_LOST ∧ send.1 ≠ GIBBERISH ∧
        notWhitelisted wl (replaceHyphens send.1) = false ∧
        (wo.getattr (replaceHyphens send.1)).truthy = true
    then some (replaceHyphens send.1, send.2) else none

theorem deliverToCallee_cons (wl : Option (List String)) (wo : WrappedObject) (p : Packet V)
    (ps : List (Packet V)) :
    deliverToCallee wl wo (p :: ps) = deliverToCallee wl wo [p] ++ deliverToCallee wl wo ps := by
  simp [deliverToCallee]

theorem methodCalls_append (ts ts' : List (CalleeTask V)) :
    methodCalls (ts ++ ts') = methodCalls ts ++ methodCalls ts' :=
  List.filterMap_append _ _ _

theorem directCalls_cons (wl : Option (List String)) (wo : WrappedObject)
    (s : String × List (PyVal V)) (sends : List (String × List (PyVal V))) :
    directCalls wl wo (s :: sends) = directCalls wl wo [s] ++ directCalls wl wo sends := by
  simp only [directCalls, List.filterMap_cons, List.filterMap_nil]
  split <;> rfl

/-- One send: the callee calls what the send stands for, if the wrapped object
is truthy. -/
theorem methodCalls_deliverToCallee_send (wl : Option (List String)) (wo : WrappedObject)
    (t : String) (v : List (PyVal V)) (hstop : t ≠ "stop" ∧ t ≠ "exit")
    (hcall : (wo.getattr (replaceHyphens t)).truthy → (wo.getattr (replaceHyphens t)).isCallable) :
    methodCalls (deliverToCallee wl wo [callerPacket t v]) =
      if wo.truthy then directCalls wl wo [(t, v)] else [] := by
  by_cases hr : isReserved t
  · have hcl : t = CONNECTION_LOST ∨ t = GIBBERISH := by
      simp only [isReserved] at hr; tauto
    have hnone : methodCalls (deliverToCallee wl wo [callerPacket t v]) = [] := by
      simp only [deliverToCallee, List.flatMap_cons, List.flatMap_nil, List.append_nil,
        processPacket_of_reserved wl wo (callerPacket t v) hr]
      split_ifs <;> rfl
    rw [hnone]
    rcases hcl with h | h <;> subst h <;> split <;> simp [directCalls, CONNECTION_LOST, GIBBERISH]
  · have hcl : t ≠ CONNECTION_LOST ∧ t ≠ GIBBERISH := by
      simp only [isReserved, not_or] at hr; exact ⟨hr.1, hr.2.1⟩
    have hp := processPacket_command wl wo (callerPacket t v) hr
    simp only [callerPacket] at hp
    simp only [deliverToCallee, List.flatMap_cons, List.flatMap_nil, List.append_nil,
      callerPacket, hp]
    cases hw : notWhitelisted wl (replaceHyphens t) <;>
      cases ho : wo.truthy <;>
      cases ha : (wo.getattr (replaceHyphens t)).truthy <;>
      simp_all [directCalls, methodCalls]

/-- The calls the callee schedules for a sequence of sends: those the sends
stand for when the wrapped object is truthy, none when it is falsy. -/
theorem methodCalls_deliverToCallee_sends (wl : Option (List String)) (wo : WrappedObject)
    (sends : List (String × List (PyVal V)))
    (hstop : ∀ s ∈ sends, s.1 ≠ "stop" ∧ s.1 ≠ "exit")
    (hcall : ∀ s ∈ sends,
      (wo.getattr (replaceHyphens s.1)).truthy → (wo.getattr (replaceHyphens s.1)).isCallable) :
    methodCalls (deliverToCallee wl wo (sends.map fun s => callerPacket s.1 s.2)) =
      if wo.truthy then directCalls wl wo sends else [] := by
  induction sends with
  | nil => split <;> rfl
  | cons s sends ih =>
    simp only [List.forall_mem_cons] at hstop hcall
    rw [List.map_cons, deliverToCallee_cons, methodCalls_append,
      methodCalls_deliverToCallee_send wl wo s.1 s.2 hstop.1 hcall.1, ih hstop.2 hcall.2,
      directCalls_cons wl wo s sends]
    split <;> rfl

/-- The callee's method calls refine direct calls.  For every allow-list and
every sequence of sends whose tags are neither `stop` nor `exit` and whose
truthy attributes are callable, the calls the callee schedules are, in order
and each once with its arguments unchanged, the direct calls the sends stand
for when the wrapped object is truthy, and none when it is falsy.  A packet
with a reserved tag never leads to a call. -/
theorem callee_dispatch_refines_direct_calls (wl : Option (List String)) (wo : WrappedObject)
    (sends : List (String × List (PyVal V)))
    (hstop : ∀ s ∈ sends, s.1 ≠ "stop" ∧ s.1 ≠ "exit")
    (hcall : ∀ s ∈ sends,
      (wo.getattr (replaceHyphens s.1)).truthy → (wo.getattr (replaceHyphens s.1)).isCallable) :
    methodCalls (deliverToCallee wl wo (sends.map fun s => callerPacket s.1 s.2)) =
        (if wo.truthy then directCalls wl wo sends else []) ∧
      ∀ packet : Packet V, isReserved packet.tag → ∀ tasks,
        processPacket wl wo packet = .ok tasks → methodCalls tasks = [] := by
  refine ⟨methodCalls_deliverToCallee_sends wl wo sends hstop hcall, fun packet hr tasks hp => ?_⟩
  simp only [methodCalls, List.filterMap_eq_nil_iff]
  intro task htask
  rw [processPacket_reserved wl wo packet hr tasks hp task htask]

/-- A wrapped object with one method, `echo`. -/
def echoObject : WrappedObject :=
  ⟨true, fun name => if name = "echo" then ⟨true, true⟩ else ⟨false, false⟩⟩

/-- An allowed call, a command outside the allow-list, and a reserved tag. -/
def echoSends : List (String × List (PyVal Unit)) :=
  [("echo", [.str "hi"]), ("ping", []), (GIBBERISH, [.str "junk"])]

theorem callee_dispatch_refines_direct_calls_echo :
    methodCalls (deliverToCallee (some ["echo"]) echoObject
        (echoSends.map fun s => callerPacket s.1 s.2)) =
        (if echoObject.truthy then directCalls (some ["echo"]) echoObject echoSends else []) ∧
      ∀ packet : Packet Unit, isReserved packet.tag → ∀ tasks,
        processPacket (some ["echo"]) echoObject packet = .ok tasks → methodCalls tasks = [] :=
  callee_dispatch_refines_direct_calls (some ["echo"]) echoObject echoSends (by decide) (by decide)

/-- A falsy wrapped object, here one whose every attribute is a method, gets no
call from an allowed command, although the send stands for one. -/
theorem callee_dispatch_falsy_object :
    methodCalls (deliverToCallee none ⟨false, fun _ => ⟨true, true⟩⟩
        [callerPacket "echo" ([] : List (PyVal Unit))]) = [] ∧
      directCalls none ⟨false, fun _ => ⟨true, true⟩⟩ [("echo", ([] : List (PyVal Unit)))] =
        [("echo", [])] := by
  decide

/-! ## When `process_packet` raises -/

/-- An object with a data field: a truthy attribute that is not callable. -/
def dataObject : WrappedObject :=
  ⟨true, fun name => if name = "data" then ⟨true, false⟩ else ⟨false, false⟩⟩

/-- A command naming the data field raises `TypeError` out of
`process_packet`: `GLib.idle_add` is handed a value it cannot call. -/
theorem processPacket_data_field_raises :
    processPacket none dataObject (⟨"data", []⟩ : Packet Unit) = .error .typeError :=
  rfl

/-! ## Events: callee to caller -/

/-- The handlers `connect_export` registers for `exportRegs`, in order. -/
def exportHandlers (exportRegs : List (String × List (PyVal V))) : List (String × List (PyVal V)) :=
  exportRegs.map fun r => connectExport r.1 r.2

/-- The subscriptions after `__init__` and the `connect` calls `subs`, in
order. -/
def subscribe (subs : List (String × Callback C × List (PyVal V))) : SignalCallbacks C V :=
  subs.foldl (fun cbs sub => connect cbs sub.1 sub.2.1 sub.2.2) initialCallbacks

/-- The bridge in the event direction: every emission queues the callee's
packets, the channel delivers them in order, and the caller's `process_packet`
schedules its callbacks. -/
def bridgeEvents (hexlifyPackets : Bool) (hexDump : PyVal V → PyVal V)
    (exportRegs : List (String × List (PyVal V))) (subs : List (String × Callback C × List (PyVal V)))
    (emitter : PyVal V) (emissions : List (String × List (PyVal V))) :
    List (Callback C × List (PyVal V)) :=
  (emissions.flatMap fun e =>
      emit hexlifyPackets hexDump (exportHandlers exportRegs) emitter e.1 e.2).flatMap
    (callerProcessPacket (subscribe subs))

/-- The callback calls the emissions stand for: for every emission of a signal
with arguments `s`, every export registration `(signal, u)` of it and every
subscription `(cb, a)` to it, `cb(caller, *a, *s, *u)`. -/
def forwardedCalls (callbacks : SignalCallbacks C V) (exportRegs : List (String × List (PyVal V)))
    (emissions : List (String × List (PyVal V))) : List (Callback C × List (PyVal V)) :=
  emissions.flatMap fun e =>
    (exportRegs.filter fun r => r.1 = e.1).flatMap fun r =>
      (callbacks e.1).map fun sub => (sub.1, sub.2 ++ e.2 ++ r.2)

/-- `export` gets back what `connect_export` registered: the emitter goes,
the name is read off the end, and the data is the event's arguments followed
by the user data. -/
@[simp] theorem exportSignal_handler_args (emitter : PyVal V) (s u : List (PyVal V)) (n : String) :
    exportSignal (emitter :: (s ++ (u ++ [.str n]))) = some (n, s ++ u) := by
  have hlist : emitter :: (s ++ (u ++ [.str n])) = (emitter :: (s ++ u)) ++ [.str n] := by simp
  rw [hlist, exportSignal, List.getLast?_append]
  simp [List.dropLast_concat]

/-- Without `HEXLIFY_PACKETS`, an emission queues one packet `(name, *s, *u)`
per export registration of its signal, in registration order. -/
theorem emit_exportHandlers (hexDump : PyVal V → PyVal V)
    (exportRegs : List (String × List (PyVal V))) (emitter : PyVal V) (n : String)
    (s : List (PyVal V)) :
    emit false hexDump (exportHandlers exportRegs) emitter n s =
      (exportRegs.filter fun r => r.1 = n).map fun r => ⟨n, s ++ r.2⟩ := by
  induction exportRegs with
  | nil => rfl
  | cons r exportRegs ih =>
    simp only [exportHandlers, List.map_cons, emit, List.filterMap_cons] at ih ⊢
    rw [ih]
    by_cases h : r.1 = n
    · subst h
      simp [calleePacket, connectExport]
    · simp [connectExport, h]

/-- Without `HEXLIFY_PACKETS`, the bridge schedules the forwarded calls. -/
theorem bridgeEvents_eq_forwardedCalls (hexDump : PyVal V → PyVal V)
    (exportRegs : List (String × List (PyVal V))) (subs : List (String × Callback C × List (PyVal V)))
    (emitter : PyVal V) (emissions : List (String × List (PyVal V))) :
    bridgeEvents false hexDump exportRegs subs emitter emissions =
      forwardedCalls (subscribe subs) exportRegs emissions := by
  simp only [bridgeEvents, forwardedCalls, List.flatMap_assoc, emit_exportHandlers,
    List.flatMap_map, callerProcessPacket, fireCallback]
  congr 1
  funext e
  congr 1
  funext r
  simp [List.append_assoc]

/-- The bridge forwards events faithfully when `HEXLIFY_PACKETS` is off: every
emission reaches every subscription to its signal once per export
registration, with the subscription's arguments, the event's arguments and the
export's user data, in emission order; the subscriptions of a signal run in
registration order, the two built-in handlers first. -/
theorem bridgeEvents_forwards (hexDump : PyVal V → PyVal V)
    (exportRegs : List (String × List (PyVal V))) (subs : List (String × Callback C × List (PyVal V)))
    (emitter : PyVal V) (emissions : List (String × List (PyVal V))) :
    bridgeEvents false hexDump exportRegs subs emitter emissions =
        forwardedCalls (subscribe subs) exportRegs emissions ∧
      ∀ n, subscribe subs n =
        initialCallbacks n ++ (subs.filter fun sub => sub.1 = n).map fun sub => sub.2 :=
  ⟨bridgeEvents_eq_forwardedCalls hexDump exportRegs subs emitter emissions,
    fun n => foldl_connect_apply _ subs n⟩

/-- With `HEXLIFY_PACKETS` on, `send` puts the tag in front of the hex dumps a
second time: a subscriber to `replied` gets the signal name before the event's
argument, where forwarding with hex dumps would give the hex dump alone. -/
theorem bridgeEvents_hexlify_repeats_tag (hexDump : PyVal V → PyVal V) (c : C)
    (emitter x : PyVal V) :
    bridgeEvents true hexDump [("replied", [])] [("replied", .user c, [])] emitter
        [("replied", [x])] = [(.user c, [.str "replied", hexDump x])] ∧
      forwardedCalls (subscribe [("replied", .user c, [])]) [("replied", [])]
        [("replied", [hexDump x])] = [(.user c, [hexDump x])] := by
  constructor <;> rfl

/-! ## The caller's two built-in subscriptions -/

/-- What `gibberish(*args)` raises when `args[1]` is missing. -/
inductive CallbackError where
  | indexError
  deriving DecidableEq, Repr

/-- Running a call that `_fire_callback` scheduled, for the two built-in
callbacks: `connection_lost(*args)` calls `stop()`, and `gibberish(*args)` logs
`args[1]`, the first element of the packet, then calls `stop()`.  `none` for a
callback of the owner, which is outside the caller. -/
def runBuiltin (s : CallerState) : Callback C × List (PyVal V) →
    Option (Except CallbackError CallerState)
  | (.connectionLost, _) => some (.ok (stop s))
  | (.gibberish, []) => some (.error .indexError)
  | (.gibberish, _ :: _) => some (.ok (stop s))
  | (.user _, _) => none

/-- `stop()` leaves no child and no protocol. -/
theorem stop_process_protocol (s : CallerState) :
    (stop s).process = none ∧ (stop s).protocol = false := by
  rcases s with ⟨_ | _, _⟩ <;> exact ⟨rfl, rfl⟩

/-- `process_packet` schedules the built-in subscriptions of the tag first, then
the owner's in registration order, each with the packet's elements appended. -/
theorem callerProcessPacket_subscribe (subs : List (String × Callback C × List (PyVal V)))
    (packet : Packet V) :
    callerProcessPacket (subscribe subs) packet =
      List.map (fun sub : Callback C × List (PyVal V) => (sub.1, sub.2 ++ packet.args))
        (initialCallbacks packet.tag ++
          (subs.filter fun sub => sub.1 = packet.tag).map fun sub => sub.2) := by
  simp only [callerProcessPacket, fireCallback, subscribe, foldl_connect_apply]

/-- A `connection-lost` or `gibberish` packet at the caller's `process_packet`
schedules the built-in handler first, ahead of every subscription of the
owner, and running it stops the caller, child and protocol gone; except for a
`gibberish` packet without a message, where `args[1]` raises `IndexError`
before `stop()`. -/
theorem callerProcessPacket_reserved_stops (subs : List (String × Callback C × List (PyVal V)))
    (s : CallerState) {tag : String} (htag : tag = CONNECTION_LOST ∨ tag = GIBBERISH)
    (args : List (PyVal V)) :
    ∃ call, (callerProcessPacket (subscribe subs) ⟨tag, args⟩).head? = some call ∧
      runBuiltin s call =
        some (if tag = GIBBERISH ∧ args.isEmpty then .error .indexError else .ok (stop s)) ∧
      (stop s).process = none ∧ (stop s).protocol = false := by
  have hlg : CONNECTION_LOST ≠ GIBBERISH := by decide
  rw [callerProcessPacket_subscribe]
  rcases htag with rfl | rfl
  · exact ⟨(.connectionLost, args), by simp [initialCallbacks, hlg], by simp [runBuiltin, hlg],
      stop_process_protocol s⟩
  · exact ⟨(.gibberish, args), by simp [initialCallbacks, hlg.symm], by cases args <;> rfl,
      stop_process_protocol s⟩

/-- The caller of a running child loses the connection. -/
theorem callerProcessPacket_reserved_stops_lost :
    ∃ call, (callerProcessPacket (subscribe ([] : List (String × Callback Unit × List (PyVal Unit))))
        ⟨CONNECTION_LOST, [.str "eof"]⟩).head? = some call ∧
      runBuiltin ⟨some ⟨none⟩, true⟩ call =
        some (if CONNECTION_LOST = GIBBERISH ∧ ([.str "eof"] : List (PyVal Unit)).isEmpty
          then .error .indexError else .ok (stop ⟨some ⟨none⟩, true⟩)) ∧
      (stop ⟨some ⟨none⟩, true⟩).process = none ∧ (stop ⟨some ⟨none⟩, true⟩).protocol = false :=
  callerProcessPacket_reserved_stops [] ⟨some ⟨none⟩, true⟩ (.inl rfl) [.str "eof"]

end Xpra.Net.SubprocessWrapper
