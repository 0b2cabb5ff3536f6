import Mathlib.Data.List.Basic

/-!
# The mDNS publisher (`xpra/net/mdns/avahi_publisher.py`)

An `AvahiPublisher` announces one service through the Avahi daemon over
D-Bus.  It holds a proxy of the daemon's server (`self.server`) and an entry
group (`self.group`), and reacts to four things:

* `start()` gets the server proxy, asks it for a new entry group
  (`EntryGroupNew`), connects `server_state_changed` to the server's
  `StateChanged` signal and calls it on the server's current state;
* `server_state_changed(state)` stops the publisher on a name collision, and
  adds the service on a running server (`add_service`: `AddService`, then
  `Commit`, and `stop()` when either raises);
* `update_txt(txt)` sends `UpdateServiceTxt` to the entry group, when there
  is a server and a group;
* `stop()` forgets the group, then calls `Reset` on it, and forgets the
  server.

The signal handler is never disconnected, so the daemon can call
`server_state_changed` at any time after the first start, also after a
`stop()`.  `Publisher.step` takes one of these events, with the outcome of
each D-Bus call chosen by the environment, and `Reachable` is every state
that some order of events reaches.  The state records every call made on an
entry group (`calls`).

There are three groups.

* The entry groups' lives.  `GroupInv` says that the calls on each entry
  group are `EntryGroupNew`, then uses (`AddService`, `Commit`,
  `UpdateServiceTxt`), then at most one `Reset` with nothing after it, and
  that the group held has not been reset.  `groupInv_reachable` proves it
  for every order of events, with every outcome of the D-Bus calls, and
  `group_calls_end_at_reset` reads it out.
* No group left behind.  A second `start()` before a `stop()` replaces the
  held group without a `Reset` (`start_leaves_held_group`, from the frame
  lemmas `Publisher.stop_frame`, `Publisher.addService_frame` and
  `Publisher.serverStateChanged_frame`).  `TidyReachable` is the runs where `start()`
  only comes on a publisher that holds no group, as `AvahiPublishers.start`
  starts each publisher once; `groups_reset_but_held` says that every group
  but the held one has then been reset.
* `stop()` is final for D-Bus: `stopped_publisher_stays_quiet` says that after
  it no signal, `update_txt()` or `stop()` makes a D-Bus call, until the next
  `start()`.

The proxies are reduced to what the code tests of them (`self.server` is set
or not; an entry group is its number), `GetState()` and
`connect_to_signal` are taken to succeed, and an exception of the
`get_object` call for the new group is taken as one of `EntryGroupNew`.
`Reset` is called whether or not it raises, and the asynchronous handlers of
`UpdateServiceTxt` only log, so neither has an outcome here.  The logging,
`AvahiPublishers.__init__` (interface indexes, host names and TXT records,
which come from the operating system) and `main()` are left out.
-/

namespace Xpra.Net.Mdns

/-! ## The publisher -/

/-- The states of the Avahi server, as `avahi.SERVER_*` numbers them. -/
inductive ServerState where
  | invalid
  | registering
  | running
  | collision
  | failure
deriving DecidableEq, Repr

/-- The D-Bus calls that create, use and reset an entry group. -/
inductive GroupCall where
  | entryGroupNew
  | addService
  | commit
  | updateServiceTxt
  | reset
deriving DecidableEq, Repr

/-- The calls that use an entry group, between its creation and its reset. -/
def GroupCall.isUse : GroupCall → Bool
  | .addService | .commit | .updateServiceTxt => true
  | .entryGroupNew | .reset => false

/-- An `AvahiPublisher`, with the calls it has made on entry groups. -/
structure Publisher where
  /-- `self.server` is set. -/
  server : Bool
  /-- `self.group`, by the number of the entry group. -/
  group : Option Nat
  /-- How many times `server_state_changed` was connected to `StateChanged`. -/
  subscriptions : Nat
  /-- How many entry groups `EntryGroupNew` has created. -/
  groups : Nat
  /-- The calls on entry groups, in order. -/
  calls : List (Nat × GroupCall)
deriving DecidableEq, Repr

/-- A publisher as `__init__` leaves it. -/
def Publisher.init : Publisher := ⟨false, none, 0, 0, []⟩

/-- A call on entry group `g`. -/
def Publisher.call (p : Publisher) (g : Nat) (c : GroupCall) : Publisher :=
  { p with calls := p.calls ++ [(g, c)] }

@[simp] theorem Publisher.call_group (p : Publisher) (g : Nat) (c : GroupCall) :
    (p.call g c).group = p.group := rfl

@[simp] theorem Publisher.call_groups (p : Publisher) (g : Nat) (c : GroupCall) :
    (p.call g c).groups = p.groups := rfl

@[simp] theorem Publisher.call_server (p : Publisher) (g : Nat) (c : GroupCall) :
    (p.call g c).server = p.server := rfl

/-- `stop()`: forget the group and call `Reset` on it, then forget the server. -/
def Publisher.stop (p : Publisher) : Publisher :=
  match p.group with
  | some g => { (p.call g .reset) with group := none, server := false }
  | none => { p with server := false }

/-- What the daemon answers to `AddService` and `Commit`: `true` when the call returns,
`false` when it raises a `DBusException`. -/
structure Replies where
  addService : Bool
  commit : Bool
deriving DecidableEq, Repr

/-- `add_service()`. -/
def Publisher.addService (p : Publisher) (r : Replies) : Publisher :=
  match p.group with
  | none => p
  | some g =>
    if r.addService then
      if r.commit then (p.call g .addService).call g .commit
      else ((p.call g .addService).call g .commit).stop
    else (p.call g .addService).stop

/-- `server_state_changed(state)`, with what it returns. -/
def Publisher.serverStateChanged (p : Publisher) (state : ServerState) (r : Replies) :
    Publisher × Bool :=
  if state = .collision then (p.stop, false)
  else if state = .running then (p.addService r, true)
  else (p, false)

/-- How the `try` block of `start()` ends: no server proxy, a server proxy but no
entry group, or both. -/
inductive Connect where
  | noServer
  | noGroup
  | connected
deriving DecidableEq, Repr

/-- The `try` block of `start()` when both calls return, and `connect_to_signal`: a server
proxy, a new entry group, and one more connected handler. -/
def Publisher.connect (p : Publisher) : Publisher :=
  { p.call p.groups .entryGroupNew with
    server := true
    group := some p.groups
    groups := p.groups + 1
    subscriptions := p.subscriptions + 1 }

@[simp] theorem Publisher.connect_group (p : Publisher) : p.connect.group = some p.groups := rfl

@[simp] theorem Publisher.connect_groups (p : Publisher) : p.connect.groups = p.groups + 1 := rfl

@[simp] theorem Publisher.connect_calls (p : Publisher) :
    p.connect.calls = (p.call p.groups .entryGroupNew).calls := rfl

/-- `start()`, with the server's state as `GetState()` returns it. -/
def Publisher.start (p : Publisher) (c : Connect) (state : ServerState) (r : Replies) :
    Publisher × Bool :=
  match c with
  | .noServer => (p, false)
  | .noGroup => ({ p with server := true }, false)
  | .connected => p.connect.serverStateChanged state r

/-- `update_txt(txt)`. -/
def Publisher.updateTxt (p : Publisher) : Publisher :=
  if p.server then
    match p.group with
    | some g => p.call g .updateServiceTxt
    | none => p
  else p

/-! ## Runs -/

/-- What can happen to a publisher. -/
inductive Event where
  /-- A caller runs `start()`. -/
  | start (c : Connect) (state : ServerState) (r : Replies)
  /-- The daemon's `StateChanged` signal reaches one connected handler. -/
  | stateChanged (state : ServerState) (r : Replies)
  /-- A caller runs `update_txt()`. -/
  | updateTxt
  /-- A caller runs `stop()`. -/
  | stop
deriving DecidableEq, Repr

/-- `true` for a `start()`. -/
def Event.isStart : Event → Bool
  | .start .. => true
  | _ => false

/-- One event; a signal needs a connected handler. -/
def Publisher.step (p : Publisher) : Event → Option Publisher
  | .start c state r => some (p.start c state r).1
  | .stateChanged state r =>
    if p.subscriptions = 0 then none else some (p.serverStateChanged state r).1
  | .updateTxt => some p.updateTxt
  | .stop => some p.stop

/-- A list of events, in order. -/
def Publisher.run (p : Publisher) : List Event → Option Publisher
  | [] => some p
  | e :: es => (p.step e).bind fun q => q.run es

/-- The states that some order of events reaches from `Publisher.init`. -/
inductive Reachable : Publisher → Prop where
  | init : Reachable .init
  | step {p q : Publisher} (e : Event) : Reachable p → p.step e = some q → Reachable q

/-- The states reached when `start()` only comes on a publisher that holds no entry group. -/
inductive TidyReachable : Publisher → Prop where
  | init : TidyReachable .init
  | step {p q : Publisher} (e : Event) : TidyReachable p → (e.isStart → p.group = none) →
      p.step e = some q → TidyReachable q

theorem TidyReachable.reachable {p : Publisher} (h : TidyReachable p) : Reachable p := by
  induction h with
  | init => exact .init
  | step e _ _ hs ih => exact .step e ih hs

theorem reachable_run {p q : Publisher} {es : List Event} (hp : Reachable p)
    (h : p.run es = some q) : Reachable q := by
  induction es generalizing p with
  | nil => cases h; exact hp
  | cons e es ih =>
    obtain ⟨p', hs, hr⟩ := Option.bind_eq_some.1 h
    exact ih (.step e hp hs) hr

/-- `true` when every `start()` of a run comes on a publisher that holds no entry group. -/
def Publisher.startsTidy (p : Publisher) : List Event → Bool
  | [] => true
  | e :: es =>
    (!e.isStart || p.group == none) &&
      match p.step e with
      | some q => q.startsTidy es
      | none => false

theorem tidyReachable_run {p q : Publisher} {es : List Event} (hp : TidyReachable p)
    (ht : p.startsTidy es) (h : p.run es = some q) : TidyReachable q := by
  induction es generalizing p with
  | nil => cases h; exact hp
  | cons e es ih =>
    obtain ⟨p', hs, hr⟩ := Option.bind_eq_some.1 h
    simp only [Publisher.startsTidy, hs, Bool.and_eq_true, Bool.or_eq_true, Bool.not_eq_true',
      beq_iff_eq] at ht
    exact ih (.step e hp (fun h => ht.1.resolve_left (by simp [h])) hs) ht.2 hr

/-! ## The calls on one entry group -/

/-- The calls on entry group `g`, in order. -/
def callsOn (g : Nat) (calls : List (Nat × GroupCall)) : List GroupCall :=
  (calls.filter (·.1 = g)).map Prod.snd

@[simp] theorem callsOn_nil (g : Nat) : callsOn g [] = [] := rfl

@[simp] theorem callsOn_call (p : Publisher) (g g' : Nat) (c : GroupCall) :
    callsOn g' (p.call g c).calls = callsOn g' p.calls ++ if g = g' then [c] else [] := by
  simp only [callsOn, Publisher.call, List.filter_append, List.map_append]
  split <;> simp_all

/-- An entry group that was created and then only used. -/
def InUse (cs : List GroupCall) : Prop :=
  ∃ uses, (∀ c ∈ uses, c.isUse) ∧ cs = .entryGroupNew :: uses

/-- An entry group that was created, used, and reset last. -/
def WasReset (cs : List GroupCall) : Prop :=
  ∃ uses, (∀ c ∈ uses, c.isUse) ∧ cs = .entryGroupNew :: uses ++ [.reset]

theorem InUse.use {cs : List GroupCall} (h : InUse cs) {c : GroupCall} (hc : c.isUse) :
    InUse (cs ++ [c]) := by
  obtain ⟨uses, hu, rfl⟩ := h
  exact ⟨uses ++ [c], by simpa [or_imp, forall_and] using ⟨hu, hc⟩, by simp⟩

theorem InUse.reset {cs : List GroupCall} (h : InUse cs) : WasReset (cs ++ [.reset]) := by
  obtain ⟨uses, hu, rfl⟩ := h
  exact ⟨uses, hu, rfl⟩

theorem reset_not_mem_of_inUse {cs : List GroupCall} (h : InUse cs) : GroupCall.reset ∉ cs := by
  obtain ⟨uses, hu, rfl⟩ := h
  simp only [List.mem_cons, reduceCtorEq, false_or]
  exact fun hr => by simpa [GroupCall.isUse] using hu _ hr

/-! ## The entry groups' lives -/

/-- Every entry group lives as `EntryGroupNew`, uses, then at most one `Reset`; the group
held is in use; no call names a group not yet created. -/
structure GroupInv (p : Publisher) : Prop where
  fresh : ∀ g, p.groups ≤ g → callsOn g p.calls = []
  life : ∀ g < p.groups, InUse (callsOn g p.calls) ∨ WasReset (callsOn g p.calls)
  held : ∀ g, p.group = some g → g < p.groups ∧ InUse (callsOn g p.calls)

theorem groupInv_init : GroupInv .init :=
  ⟨fun _ _ => rfl, fun _ h => absurd h (Nat.not_lt_zero _), fun _ h => by cases h⟩

/-- A use of the held group keeps the invariant. -/
theorem GroupInv.call_held {p : Publisher} (hi : GroupInv p) {g : Nat} (hg : p.group = some g)
    {c : GroupCall} (hc : c.isUse) : GroupInv (p.call g c) := by
  obtain ⟨hlt, hin⟩ := hi.held g hg
  refine ⟨fun g' h' => ?_, fun g' h' => ?_, fun g' h' => ?_⟩
  · rw [callsOn_call, hi.fresh g' h', if_neg (by simp at h'; omega)]; rfl
  · rw [callsOn_call]
    split
    · subst g'; exact .inl (hin.use hc)
    · simpa using hi.life g' h'
  · obtain rfl : g' = g := Option.some.inj (h'.symm.trans hg)
    simpa using ⟨hlt, hin.use hc⟩

theorem GroupInv.stop {p : Publisher} (hi : GroupInv p) : GroupInv p.stop := by
  unfold Publisher.stop
  split
  · next g hg =>
    obtain ⟨hlt, hin⟩ := hi.held g hg
    refine ⟨fun g' h' => ?_, fun g' h' => ?_, fun g' h' => nomatch h'⟩
    · rw [callsOn_call, hi.fresh g' h', if_neg (by simp at h'; omega)]; rfl
    · rw [callsOn_call]
      split
      · subst g'; exact .inr hin.reset
      · simpa using hi.life g' h'
  · exact ⟨hi.fresh, hi.life, hi.held⟩

theorem GroupInv.addService {p : Publisher} (hi : GroupInv p) (r : Replies) :
    GroupInv (p.addService r) := by
  unfold Publisher.addService
  split
  · exact hi
  · next g hg =>
    have h1 := hi.call_held hg (c := .addService) rfl
    have h2 := h1.call_held hg (c := .commit) rfl
    split
    · split
      · exact h2
      · exact h2.stop
    · exact h1.stop

theorem GroupInv.serverStateChanged {p : Publisher} (hi : GroupInv p) (state : ServerState)
    (r : Replies) : GroupInv (p.serverStateChanged state r).1 := by
  unfold Publisher.serverStateChanged
  split
  · exact hi.stop
  · split
    · exact hi.addService r
    · exact hi

theorem GroupInv.connect {p : Publisher} (hi : GroupInv p) : GroupInv p.connect := by
  refine ⟨fun g' h' => ?_, fun g' h' => ?_, fun g' h' => ?_⟩
  · rw [Publisher.connect_calls, callsOn_call, hi.fresh g' (by simp at h'; omega),
      if_neg (by simp at h'; omega)]; rfl
  · rw [Publisher.connect_calls, callsOn_call]
    split
    · subst g'; rw [hi.fresh _ le_rfl]; exact .inl ⟨[], by simp, rfl⟩
    · simpa using hi.life g' (by simp at h'; omega)
  · obtain rfl : p.groups = g' := Option.some.inj h'
    rw [Publisher.connect_calls, callsOn_call, hi.fresh _ le_rfl, if_pos rfl]
    exact ⟨by simp, [], by simp, rfl⟩

theorem GroupInv.start {p : Publisher} (hi : GroupInv p) (c : Connect) (state : ServerState)
    (r : Replies) : GroupInv (p.start c state r).1 := by
  cases c with
  | noServer => exact hi
  | noGroup => exact ⟨hi.fresh, hi.life, hi.held⟩
  | connected => exact hi.connect.serverStateChanged state r

theorem GroupInv.updateTxt {p : Publisher} (hi : GroupInv p) : GroupInv p.updateTxt := by
  unfold Publisher.updateTxt
  split
  · split
    · next g hg => exact hi.call_held hg rfl
    · exact hi
  · exact hi

theorem GroupInv.step {p q : Publisher} (hi : GroupInv p) {e : Event} (h : p.step e = some q) :
    GroupInv q := by
  cases e with
  | start c state r => cases h; exact hi.start c state r
  | stateChanged state r =>
    simp only [Publisher.step] at h
    split at h <;> cases h
    exact hi.serverStateChanged state r
  | updateTxt => cases h; exact hi.updateTxt
  | stop => cases h; exact hi.stop

theorem groupInv_reachable {p : Publisher} (h : Reachable p) : GroupInv p := by
  induction h with
  | init => exact groupInv_init
  | step e _ hs ih => exact ih.step hs

/-- In every reachable state, the calls on each entry group are its creation, then uses,
then at most one `Reset`, the last call on it; the group held has not been reset. -/
theorem group_calls_end_at_reset {p : Publisher} (h : Reachable p) (g : Nat) :
    (∃ uses, (∀ c ∈ uses, c.isUse) ∧
      (callsOn g p.calls = [] ∨ callsOn g p.calls = .entryGroupNew :: uses ∨
        callsOn g p.calls = .entryGroupNew :: uses ++ [.reset])) ∧
    (p.group = some g → GroupCall.reset ∉ callsOn g p.calls) := by
  have hi := groupInv_reachable h
  refine ⟨?_, fun hg => reset_not_mem_of_inUse (hi.held g hg).2⟩
  by_cases hlt : g < p.groups
  · rcases hi.life g hlt with ⟨uses, hu, he⟩ | ⟨uses, hu, he⟩
    · exact ⟨uses, hu, .inr (.inl he)⟩
    · exact ⟨uses, hu, .inr (.inr he)⟩
  · exact ⟨[], by simp, .inl (hi.fresh g (by omega))⟩

/-- A publisher that finds a running server, updates its TXT record, loses the server to
a name collision, hears the server run again, and is started again. -/
def restartEvents : List Event :=
  [.start .connected .running ⟨true, true⟩, .updateTxt, .stateChanged .collision ⟨true, true⟩,
    .stateChanged .running ⟨true, true⟩, .start .connected .running ⟨true, true⟩]

/-- The state `restartEvents` leads to. -/
def restartedState : Publisher := (Publisher.init.run restartEvents).getD .init

theorem group_calls_end_at_reset_restarted :
    Publisher.init.run restartEvents = some restartedState ∧
      callsOn 0 restartedState.calls =
        [.entryGroupNew, .addService, .commit, .updateServiceTxt, .reset] ∧
      (∃ uses, (∀ c ∈ uses, c.isUse) ∧
        (callsOn 0 restartedState.calls = [] ∨
          callsOn 0 restartedState.calls = .entryGroupNew :: uses ∨
          callsOn 0 restartedState.calls = .entryGroupNew :: uses ++ [.reset])) ∧
      (restartedState.group = some 0 → GroupCall.reset ∉ callsOn 0 restartedState.calls) :=
  have hrun : Publisher.init.run restartEvents = some restartedState := by decide
  ⟨hrun, by decide, group_calls_end_at_reset (reachable_run .init hrun) 0⟩

/-! ## No group left behind -/

/-- Every entry group but the held one has been reset. -/
def Tidy (p : Publisher) : Prop :=
  ∀ g < p.groups, p.group = some g ∨ WasReset (callsOn g p.calls)

theorem Tidy.call_held {p : Publisher} (ht : Tidy p) {g : Nat} (hg : p.group = some g)
    (c : GroupCall) : Tidy (p.call g c) := fun g' h' => by
  by_cases he : g = g'
  · exact .inl (he ▸ hg)
  · rcases ht g' h' with h | h
    · exact .inl h
    · right
      rw [callsOn_call, if_neg he]
      simpa using h

theorem Tidy.stop {p : Publisher} (hi : GroupInv p) (ht : Tidy p) : Tidy p.stop := by
  unfold Publisher.stop
  split
  · next g hg =>
    intro g' h'
    right
    rw [callsOn_call]
    split
    · subst g'; exact (hi.held _ hg).2.reset
    · simpa using (ht g' h').resolve_left (by rw [hg]; simp_all)
  · exact ht

theorem Tidy.addService {p : Publisher} (hi : GroupInv p) (ht : Tidy p) (r : Replies) :
    Tidy (p.addService r) := by
  unfold Publisher.addService
  split
  · exact ht
  · next g hg =>
    have h1 := hi.call_held hg (c := .addService) rfl
    have t1 := ht.call_held hg .addService
    split
    · split
      · exact t1.call_held hg .commit
      · exact (t1.call_held hg .commit).stop (h1.call_held hg rfl)
    · exact t1.stop h1

theorem Tidy.serverStateChanged {p : Publisher} (hi : GroupInv p) (ht : Tidy p)
    (state : ServerState) (r : Replies) : Tidy (p.serverStateChanged state r).1 := by
  unfold Publisher.serverStateChanged
  split
  · exact ht.stop hi
  · split
    · exact ht.addService hi r
    · exact ht

theorem Tidy.connect {p : Publisher} (ht : Tidy p) (hg : p.group = none) : Tidy p.connect :=
  fun g' h' => by
    by_cases he : g' = p.groups
    · exact .inl (by rw [he]; rfl)
    · right
      rw [Publisher.connect_calls, callsOn_call, if_neg (Ne.symm he)]
      simpa [hg] using ht g' (by simp at h'; omega)

theorem Tidy.updateTxt {p : Publisher} (ht : Tidy p) : Tidy p.updateTxt := by
  unfold Publisher.updateTxt
  split
  · split
    · next g hg => exact ht.call_held hg _
    · exact ht
  · exact ht

/-- A step keeps `Tidy` when a `start()` comes on a publisher that holds no group. -/
theorem Tidy.step {p q : Publisher} (hi : GroupInv p) (ht : Tidy p) {e : Event}
    (hstart : e.isStart → p.group = none) (h : p.step e = some q) : Tidy q := by
  cases e with
  | start c state r =>
    cases h
    cases c with
    | noServer | noGroup => exact ht
    | connected => exact (ht.connect (hstart rfl)).serverStateChanged hi.connect state r
  | stateChanged state r =>
    simp only [Publisher.step] at h
    split at h <;> cases h
    exact ht.serverStateChanged hi state r
  | updateTxt => cases h; exact ht.updateTxt
  | stop => cases h; exact ht.stop hi

/-- In a run where `start()` only comes on a publisher that holds no entry group, every
entry group but the held one has been reset. -/
theorem groups_reset_but_held {p : Publisher} (h : TidyReachable p) :
    ∀ g < p.groups, p.group = some g ∨ WasReset (callsOn g p.calls) := by
  induction h with
  | init => exact fun g h => absurd h (Nat.not_lt_zero _)
  | step e hr hstart hs ih => exact Tidy.step (groupInv_reachable hr.reachable) ih hstart hs

theorem groups_reset_but_held_restarted :
    Publisher.init.run restartEvents = some restartedState ∧
      Publisher.init.startsTidy restartEvents ∧
      ∀ g < restartedState.groups,
        restartedState.group = some g ∨ WasReset (callsOn g restartedState.calls) :=
  have hrun : Publisher.init.run restartEvents = some restartedState := by decide
  have htidy : Publisher.init.startsTidy restartEvents := by decide
  ⟨hrun, htidy, groups_reset_but_held (tidyReachable_run .init htidy hrun)⟩

/-- `stop()` touches no entry group but the held one. -/
theorem Publisher.stop_frame {p : Publisher} {g : Nat} (h : p.group ≠ some g) :
    p.stop.group ≠ some g ∧ callsOn g p.stop.calls = callsOn g p.calls := by
  unfold Publisher.stop
  split
  · next g' hg' =>
    have hne : g' ≠ g := fun he => h (he ▸ hg')
    simp [hne]
  · exact ⟨h, rfl⟩

/-- `add_service()` touches no entry group but the held one. -/
theorem Publisher.addService_frame {p : Publisher} {g : Nat} (h : p.group ≠ some g)
    (r : Replies) :
    (p.addService r).group ≠ some g ∧ callsOn g (p.addService r).calls = callsOn g p.calls := by
  unfold Publisher.addService
  split
  · exact ⟨h, rfl⟩
  · next g' hg' =>
    have hne : g' ≠ g := fun he => h (he ▸ hg')
    have h1 : (p.call g' .addService).group ≠ some g := by simpa using h
    have h2 : ((p.call g' .addService).call g' .commit).group ≠ some g := by simpa using h
    split
    · split
      · simp [hne, h]
      · simpa [hne] using Publisher.stop_frame h2
    · simpa [hne] using Publisher.stop_frame h1

/-- `server_state_changed()` touches no entry group but the held one. -/
theorem Publisher.serverStateChanged_frame {p : Publisher} {g : Nat} (h : p.group ≠ some g)
    (state : ServerState) (r : Replies) :
    (p.serverStateChanged state r).1.group ≠ some g ∧
      callsOn g (p.serverStateChanged state r).1.calls = callsOn g p.calls := by
  unfold Publisher.serverStateChanged
  split
  · exact Publisher.stop_frame h
  · split
    · exact Publisher.addService_frame h r
    · exact ⟨h, rfl⟩

/-- A second `start()` before a `stop()` leaves the held entry group behind:
the publisher no longer holds it, no call was made on it, and it is still in
use, never reset, whatever the server's state and the daemon's replies. -/
theorem start_leaves_held_group {p : Publisher} (h : Reachable p) {g : Nat}
    (hg : p.group = some g) (state : ServerState) (r : Replies) :
    (p.start .connected state r).1.group ≠ some g ∧
      callsOn g (p.start .connected state r).1.calls = callsOn g p.calls ∧
      InUse (callsOn g (p.start .connected state r).1.calls) := by
  obtain ⟨hlt, hin⟩ := (groupInv_reachable h).held g hg
  have hne : p.groups ≠ g := by omega
  have hconnect : callsOn g p.connect.calls = callsOn g p.calls := by simp [hne]
  obtain ⟨hgroup, hcalls⟩ :=
    Publisher.serverStateChanged_frame (p := p.connect) (by simpa using hne) state r
  exact ⟨hgroup, hcalls.trans hconnect, hcalls.trans hconnect ▸ hin⟩

/-- Two starts: entry group `0` is left in use, and the publisher holds `1`. -/
example : (Publisher.init.run [.start .connected .running ⟨true, true⟩,
      .start .connected .running ⟨true, true⟩]).map (fun q => (q.group, callsOn 0 q.calls)) =
    some (some 1, [.entryGroupNew, .addService, .commit]) := by
  decide

/-! ## After `stop()` -/

/-- With no entry group held, no event but `start()` makes a D-Bus call. -/
theorem step_quiet {p q : Publisher} (hg : p.group = none) {e : Event} (he : e.isStart = false)
    (h : p.step e = some q) : q.calls = p.calls ∧ q.group = none := by
  have hstop : p.stop.calls = p.calls ∧ p.stop.group = none := by simp [Publisher.stop, hg]
  cases e with
  | start => cases he
  | stateChanged state r =>
    simp only [Publisher.step] at h
    split at h <;> cases h
    unfold Publisher.serverStateChanged
    split
    · exact hstop
    · split
      · simp [Publisher.addService, hg]
      · exact ⟨rfl, hg⟩
  | updateTxt =>
    cases h
    simp [Publisher.updateTxt, hg]
  | stop => cases h; exact hstop

theorem run_quiet {p q : Publisher} (hg : p.group = none) {es : List Event}
    (hes : ∀ e ∈ es, e.isStart = false) (h : p.run es = some q) :
    q.calls = p.calls ∧ q.group = none := by
  induction es generalizing p with
  | nil => cases h; exact ⟨rfl, hg⟩
  | cons e es ih =>
    obtain ⟨p', hs, hr⟩ := Option.bind_eq_some.1 h
    obtain ⟨hc, hg'⟩ := step_quiet hg (hes e (.head _)) hs
    obtain ⟨hc', hg''⟩ := ih hg' (fun e' he' => hes e' (.tail _ he')) hr
    exact ⟨hc'.trans hc, hg''⟩

/-- After `stop()`, in whatever state it came, no `StateChanged` signal, `update_txt()` or
`stop()` makes a D-Bus call, and the publisher holds no entry group, until a `start()`. -/
theorem stopped_publisher_stays_quiet (p : Publisher) {es : List Event}
    (hes : ∀ e ∈ es, e.isStart = false) {q : Publisher} (h : p.stop.run es = some q) :
    q.calls = p.stop.calls ∧ q.group = none := by
  refine run_quiet ?_ hes h
  unfold Publisher.stop
  split <;> simp_all

/-- Signals that reach the two handlers connected by `restartEvents`, and calls of the
publisher's methods, after it is stopped. -/
def lateEvents : List Event :=
  [.stateChanged .running ⟨true, true⟩, .updateTxt, .stateChanged .collision ⟨true, true⟩,
    .stateChanged .running ⟨true, true⟩, .stop]

theorem stopped_publisher_stays_quiet_late_signals :
    (∀ e ∈ lateEvents, e.isStart = false) ∧
      restartedState.stop.run lateEvents = some restartedState.stop ∧
      restartedState.stop.calls = restartedState.stop.calls ∧ restartedState.stop.group = none :=
  have hes : ∀ e ∈ lateEvents, e.isStart = false := by decide
  have hrun : restartedState.stop.run lateEvents = some restartedState.stop := by decide
  ⟨hes, hrun, stopped_publisher_stays_quiet restartedState hes hrun⟩

end Xpra.Net.Mdns
