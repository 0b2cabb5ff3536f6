import Mathlib.Data.List.Basic
import Mathlib.Data.List.Nodup
import Xpra.Util.Digits

/-!
# The QR code client (`xpra/gtk/dialogs/qrcode_client.py`)

`QRCodeClient.do_command` turns the server's `network.sockets` info into the
URIs that the QR code window shows, one code for each URI.  It goes through
the `addresses` of the `ws` sockets and then of the `wss` sockets, and for
each entry:

1. skips it when it does not unpack into `(host, port)` (`eligible`);
2. skips a host that starts with `127.0.0.` or `::1`, and a host with a
   colon unless `XPRA_IPV6` is set, in which case it writes the host in
   brackets (`uriHost`);
3. records the socket type under the address with
   `addr_types.setdefault((host, port), []).append(socktype)`
   (`setdefaultAppend`, `addAddress`, `addrTypes`).

Each address of the dict then gives one URI (`formatUri`): `http` when a
`ws` socket listens there and `https` otherwise, with the port left out when
it is the scheme's default.

The module proves two things:

* `formatUri_injective`: two addresses the client keeps never share a URI;
  the URI determines the scheme, the host and the port.  The brackets of
  step 2 are what make this hold for a host with colons: without them
  `https://fe80::1:80/` would be both port `80` of `fe80::1` and port `443`
  of `fe80::1:80`.
* `doCommand_uris`: the client shows a URI for every address it keeps and
  for no other, none twice, with the scheme `http` exactly when a `ws` socket
  listens on the address; it shows nothing, and prints `no addresses found`,
  exactly when it keeps no address.  It rests on the invariants of the dict
  (`nodup_keys_addrTypes`, `mem_keys_addrTypes`, `wsTyped_addrTypes`) and on
  the injectivity of the formatting (`formatUri_inj_of_hostOk`).

The injectivity is proved with `parseUri`, a left inverse of the formatting
and not a URI parser: it takes the port after the last colon when that is a
numeral and the host before it has no colon outside brackets, and the
scheme's default port otherwise (`parseUri_formatUri_of_hostOk`).

`dpath` and the `typedict` lookups are not modelled, as `typedict` is not
part of this source: the input is the two address lists, or `none` when
`network.sockets` is missing or empty.  `bytestostr` is taken as the identity
on a host that is already text, and a port is an integer, as `%i` needs.  The
window (its size, the QR code images, its exit code on a signal) is left out.
-/

namespace Xpra.Gtk.Dialogs.QrcodeClient

/-! ## The addresses -/

/-- One entry of a socket's `addresses`: a `(host, port)` pair, or an entry that
does not unpack into two (`ValueError`, `IndexError`). -/
inductive Address where
  | pair (host : String) (port : Int)
  | malformed
deriving Repr, DecidableEq

/-- What `do_command` reads of `network.sockets`: the `addresses` of the `ws`
sockets and of the `wss` sockets. -/
structure Sockets where
  ws : List Address
  wss : List Address
deriving Repr

/-- The host written in the URI for `host`, or `none` when the address is
skipped: a loopback prefix, or a host with a colon without `XPRA_IPV6`. -/
def uriHost (ipv6 : Bool) (host : String) : Option String :=
  if "127.0.0.".data.isPrefixOf host.data || "::1".data.isPrefixOf host.data then none
  else if ':' ∈ host.data then (if ipv6 then some ("[" ++ host ++ "]") else none)
  else some host

/-- The key an entry of `addresses` is recorded under, if it is kept. -/
def eligible (ipv6 : Bool) : Address → Option (String × Int)
  | .pair host port => (uriHost ipv6 host).map fun h => (h, port)
  | .malformed => none

/-- The dict `addr_types`, as its entries in insertion order. -/
abbrev AddrTypes := List ((String × Int) × List String)

/-- `addr_types.setdefault(key, []).append(socktype)`. -/
def setdefaultAppend (d : AddrTypes) (key : String × Int) (socktype : String) : AddrTypes :=
  if key ∈ d.map Prod.fst then d.map fun e => if e.1 = key then (e.1, e.2 ++ [socktype]) else e
  else d ++ [(key, [socktype])]

/-- One pass of the loop over a socket type's addresses. -/
def addAddress (ipv6 : Bool) (socktype : String) (d : AddrTypes) (address : Address) :
    AddrTypes :=
  match eligible ipv6 address with
  | some key => setdefaultAppend d key socktype
  | none => d

/-- `addr_types` once both loops have run: the `ws` addresses, then the `wss` ones. -/
def addrTypes (ipv6 : Bool) (sockets : Sockets) : AddrTypes :=
  sockets.wss.foldl (addAddress ipv6 "wss") (sockets.ws.foldl (addAddress ipv6 "ws") [])

/-! ## The URIs -/

/-- `proto`: `http` when a `ws` socket listens on the address. -/
def protoOf (socktypes : List String) : String :=
  if "ws" ∈ socktypes then "http" else "https"

/-- The URI of one address; the port is left out when it is the scheme's default. -/
def formatUri (proto host : String) (port : Int) : String :=
  if (proto = "http" ∧ port = 80) ∨ (proto = "https" ∧ port = 443) then
    proto ++ "://" ++ host ++ "/"
  else proto ++ "://" ++ host ++ ":" ++ toString port ++ "/"

/-- How `do_command` ends. -/
inductive Outcome where
  /-- `network.sockets` is missing: `quit(ExitCode.PACKET_FAILURE)`. -/
  | packetFailure
  /-- No address is kept: `no addresses found`, then `quit(ExitCode.OK)`. -/
  | noAddresses
  /-- The QR code window shows one code for each URI. -/
  | showUris (uris : List String)
deriving Repr, DecidableEq

/-- `QRCodeClient.do_command`, with `XPRA_IPV6` as `ipv6` and `none` for a
missing or empty `network.sockets`. -/
def doCommand (ipv6 : Bool) : Option Sockets → Outcome
  | none => .packetFailure
  | some sockets =>
    match addrTypes ipv6 sockets with
    | [] => .noAddresses
    | d => .showUris (d.map fun e => formatUri (protoOf e.2) e.1.1 e.1.2)

/-- The URIs an outcome shows. -/
def Outcome.uris : Outcome → List String
  | .showUris uris => uris
  | _ => []

/-! ## Reading a URI back -/

/-- The value of a decimal numeral: one or more digits, most significant first. -/
def digitsValue (cs : List Char) : Option Nat :=
  if cs ≠ [] ∧ cs.all Char.isDigit then
    some (cs.foldl (fun n c => 10 * n + (c.toNat - '0'.toNat)) 0)
  else none

/-- The integer that `%i` writes as `cs`: a minus sign for a negative one, then
its digits. -/
def intValue (cs : List Char) : Option Int :=
  if cs.head? = some '-' then (digitsValue cs.tail).map fun n : Nat => -(n : Int)
  else (digitsValue cs).map Int.ofNat

/-- Splits at the first `://`: the scheme, and what follows it. -/
def splitScheme : List Char → Option (List Char × List Char)
  | [] => none
  | c :: cs =>
    if c = ':' ∧ cs.take 2 = ['/', '/'] then some ([], cs.drop 2)
    else (splitScheme cs).map fun r => (c :: r.1, r.2)

/-- Splits at the last colon: what stands before it, and what after. -/
def splitLastColon : List Char → Option (List Char × List Char)
  | [] => none
  | c :: cs =>
    match splitLastColon cs with
    | some r => some (c :: r.1, r.2)
    | none => if c = ':' then some ([], cs) else none

/-- A host that a port cannot run into: it has no colon, or it is in brackets. -/
def hostOk (host : List Char) : Prop :=
  ':' ∉ host ∨ (host.head? = some '[' ∧ host.getLast? = some ']')

instance (host : List Char) : Decidable (hostOk host) := inferInstanceAs (Decidable (_ ∨ _))

/-- The host of an authority, and its port when one is written. -/
def splitAuthority (authority : List Char) : Option (List Char × Option Int) :=
  match splitLastColon authority with
  | none => some (authority, none)
  | some (host, port) =>
    match intValue port with
    | some p => if hostOk host then some (host, some p) else none
    | none => if hostOk authority then some (authority, none) else none

/-- The default port of a scheme. -/
def defaultPort (scheme : String) : Option Int :=
  if scheme = "http" then some 80 else if scheme = "https" then some 443 else none

/-- The scheme, host and port of a URI `scheme://authority/`, read as
`formatUri` writes them; the port is the scheme's default when none is written. -/
def parseUri (uri : String) : Option (String × String × Int) :=
  (splitScheme uri.data).bind fun (scheme, rest) =>
    if rest.getLast? = some '/' then
      (splitAuthority rest.dropLast).bind fun (host, port) =>
        (port.orElse fun _ => defaultPort ⟨scheme⟩).map fun p => (⟨scheme⟩, ⟨host⟩, p)
    else none

/-! ## Numerals -/

theorem digitChar_digit (k : Nat) (hk : k < 10) :
    (Nat.digitChar k).isDigit ∧ (Nat.digitChar k).toNat - '0'.toNat = k := by
  have : ∀ k : Fin 10, (Nat.digitChar k).isDigit ∧ (Nat.digitChar k).toNat - '0'.toNat = k := by
    decide
  exact this ⟨k, hk⟩

theorem toDigits_ten (n : Nat) :
    (∀ c ∈ Nat.toDigits 10 n, c.isDigit) ∧ digitsValue (Nat.toDigits 10 n) = some n := by
  obtain ⟨ks, hne, hks, hval, -, he⟩ := Xpra.Util.toDigits_eq_map (by decide : 1 < 10) n
  have hall : (ks.map Nat.digitChar).all Char.isDigit := List.all_eq_true.2 fun c hc => by
    obtain ⟨k, hk, rfl⟩ := List.mem_map.1 hc
    exact (digitChar_digit k (hks k hk)).1
  rw [he, digitsValue, if_pos ⟨by simpa using hne, hall⟩,
    Xpra.Util.foldl_map_digitChar _ (fun k hk => (digitChar_digit k hk).2) ks hks]
  exact ⟨List.all_eq_true.1 hall, congrArg some hval⟩

theorem digitsValue_eq_none {cs : List Char} {c : Char} (hc : c ∈ cs) (hd : c.isDigit = false) :
    digitsValue cs = none := by
  rw [digitsValue, if_neg]
  rintro ⟨-, hall⟩
  simp [List.all_eq_true.1 hall c hc] at hd

theorem intValue_eq_none {cs : List Char} {c : Char} (hc : c ∈ cs) (hd : c.isDigit = false)
    (hm : c ≠ '-') : intValue cs = none := by
  unfold intValue
  split
  · next h =>
    obtain ⟨t, rfl⟩ := List.head?_eq_some_iff.1 h
    rw [List.tail_cons, digitsValue_eq_none ((List.mem_cons.1 hc).resolve_left hm) hd,
      Option.map_none']
  · rw [digitsValue_eq_none hc hd, Option.map_none']

/-- What `%i` writes reads back, and has no colon. -/
theorem intValue_toString (n : Int) :
    intValue (toString n).data = some n ∧ ':' ∉ (toString n).data := by
  cases n with
  | ofNat m =>
    obtain ⟨hdig, hv⟩ := toDigits_ten m
    refine ⟨?_, fun h => by simpa using hdig ':' h⟩
    show intValue (Nat.toDigits 10 m) = some (m : Int)
    rw [intValue, if_neg fun h => by simpa using hdig '-' (List.mem_of_mem_head? h), hv]
    rfl
  | negSucc m =>
    obtain ⟨hdig, hv⟩ := toDigits_ten (m + 1)
    refine ⟨?_, fun h => ?_⟩
    · show intValue ('-' :: Nat.toDigits 10 (m + 1)) = some (Int.negSucc m)
      simp only [intValue, List.head?_cons, ↓reduceIte, List.tail_cons, hv]
      rfl
    · rcases List.mem_cons.1 h with h | h
      · cases h
      · simpa using hdig ':' h

/-! ## Splitting a URI -/

theorem splitScheme_append {scheme : List Char} (hs : ':' ∉ scheme) (rest : List Char) :
    splitScheme (scheme ++ ':' :: '/' :: '/' :: rest) = some (scheme, rest) := by
  induction scheme with
  | nil => simp [splitScheme]
  | cons c scheme ih =>
    simp only [List.mem_cons, not_or] at hs
    simp [splitScheme, Ne.symm hs.1, ih hs.2]

theorem splitLastColon_eq_none {cs : List Char} (h : ':' ∉ cs) : splitLastColon cs = none := by
  induction cs with
  | nil => rfl
  | cons c cs ih =>
    simp only [List.mem_cons, not_or] at h
    simp [splitLastColon, ih h.2, Ne.symm h.1]

theorem splitLastColon_append (host : List Char) {port : List Char} (h : ':' ∉ port) :
    splitLastColon (host ++ ':' :: port) = some (host, port) := by
  induction host with
  | nil => simp [splitLastColon, splitLastColon_eq_none h]
  | cons c host ih => simp [splitLastColon, ih]

theorem eq_of_splitLastColon {cs host port : List Char}
    (h : splitLastColon cs = some (host, port)) : cs = host ++ ':' :: port := by
  induction cs generalizing host with
  | nil => cases h
  | cons c cs ih =>
    simp only [splitLastColon] at h
    split at h
    · next r hr =>
      cases h
      rw [ih hr]
      rfl
    · split at h <;> cases h
      subst c
      rfl

/-- A host in brackets, or with no colon, is the whole authority when no port
follows it. -/
theorem splitAuthority_self {a : List Char} (ha : hostOk a) : splitAuthority a = some (a, none) := by
  unfold splitAuthority
  split
  · rfl
  · next host port hs =>
    have hne : ':' ∈ a := by rw [eq_of_splitLastColon hs]; simp
    obtain ⟨-, hlast⟩ := ha.resolve_left (not_not.2 hne)
    rw [eq_of_splitLastColon hs] at hlast
    have hp : ']' ∈ port := by
      rcases List.eq_nil_or_concat port with rfl | ⟨p, x, rfl⟩
      · rw [List.getLast?_concat] at hlast
        cases hlast
      · rw [List.concat_eq_append, ← List.cons_append, ← List.append_assoc,
          List.getLast?_concat] at hlast
        cases hlast
        simp
    rw [intValue_eq_none hp (by decide) (by decide), if_pos ha]

/-- A written port is read back, with the host before it. -/
theorem splitAuthority_port {host : List Char} (hh : hostOk host) (port : Int) :
    splitAuthority (host ++ ':' :: (toString port).data) = some (host, some port) := by
  obtain ⟨hv, hc⟩ := intValue_toString port
  rw [splitAuthority, splitLastColon_append host hc]
  simp only [hv, if_pos hh]

/-! ## The round trip -/

theorem parseUri_eq {scheme : String} (hs : ':' ∉ scheme.data) (authority : List Char) :
    parseUri ⟨scheme.data ++ ':' :: '/' :: '/' :: (authority ++ ['/'])⟩ =
      (splitAuthority authority).bind fun (host, port) =>
        (port.orElse fun _ => defaultPort scheme).map fun p => (scheme, ⟨host⟩, p) := by
  simp only [parseUri, splitScheme_append hs, Option.some_bind, List.getLast?_concat, if_true,
    List.dropLast_concat]

/-- A URI reads back to the scheme, host and port it was written from, when the
host is one that a port cannot run into. -/
theorem parseUri_formatUri_of_hostOk {proto host : String} (port : Int)
    (hproto : proto = "http" ∨ proto = "https") (hh : hostOk host.data) :
    parseUri (formatUri proto host port) = some (proto, host, port) := by
  have hs : ':' ∉ proto.data := by rcases hproto with rfl | rfl <;> decide
  unfold formatUri
  split
  · next hd =>
    have : proto ++ "://" ++ host ++ "/" =
        ⟨proto.data ++ ':' :: '/' :: '/' :: (host.data ++ ['/'])⟩ := String.ext (by simp)
    rw [this, parseUri_eq hs, splitAuthority_self hh]
    rcases hd with ⟨rfl, rfl⟩ | ⟨rfl, rfl⟩ <;> rfl
  · have : proto ++ "://" ++ host ++ ":" ++ toString port ++ "/" =
        ⟨proto.data ++ ':' :: '/' :: '/' :: ((host.data ++ ':' :: (toString port).data) ++ ['/'])⟩ :=
      String.ext (by simp)
    rw [this, parseUri_eq hs, splitAuthority_port hh]
    rfl

/-- Without the brackets two addresses would share a URI. -/
example : formatUri "https" "fe80::1" 80 = formatUri "https" "fe80::1:80" 443 := by decide

/-- A URI determines the scheme, host and port it was written from, when the
host is one that a port cannot run into. -/
theorem formatUri_inj_of_hostOk {proto proto' host host' : String} {port port' : Int}
    (hp : proto = "http" ∨ proto = "https") (hp' : proto' = "http" ∨ proto' = "https")
    (hh : hostOk host.data) (hh' : hostOk host'.data)
    (heq : formatUri proto host port = formatUri proto' host' port') :
    proto = proto' ∧ host = host' ∧ port = port' := by
  have h := parseUri_formatUri_of_hostOk port hp hh
  rw [heq, parseUri_formatUri_of_hostOk port' hp' hh'] at h
  simp only [Option.some.injEq, Prod.mk.injEq] at h
  exact ⟨h.1.symm, h.2.1.symm, h.2.2.symm⟩

/-- A kept host is written as it is when it has no colon, and in brackets
otherwise. -/
theorem uriHost_eq_some {ipv6 : Bool} {raw host : String} (h : uriHost ipv6 raw = some host) :
    (':' ∉ raw.data ∧ host = raw) ∨ (':' ∈ raw.data ∧ host = "[" ++ raw ++ "]") := by
  unfold uriHost at h
  split at h
  · cases h
  · split at h
    · split at h <;> cases h
      exact .inr ⟨‹_›, rfl⟩
    · cases h
      exact .inl ⟨‹_›, rfl⟩

theorem hostOk_of_uriHost {ipv6 : Bool} {raw host : String} (h : uriHost ipv6 raw = some host) :
    hostOk host.data := by
  rcases uriHost_eq_some h with ⟨hc, rfl⟩ | ⟨-, rfl⟩
  · exact .inl hc
  · exact .inr ⟨rfl, List.getLast?_concat _⟩

/-- Two kept hosts written alike are the same host. -/
theorem uriHost_inj {ipv6 ipv6' : Bool} {raw raw' host : String}
    (h : uriHost ipv6 raw = some host) (h' : uriHost ipv6' raw' = some host) : raw = raw' := by
  rcases uriHost_eq_some h with ⟨hc, rfl⟩ | ⟨hc, rfl⟩ <;>
    rcases uriHost_eq_some h' with ⟨hc', he⟩ | ⟨hc', he⟩
  · exact he
  · exact absurd (by simp [he, hc']) hc
  · exact absurd (by simp [← he, hc]) hc'
  · exact String.ext (by simpa using congrArg String.data he)

theorem protoOf_eq (socktypes : List String) :
    protoOf socktypes = "http" ∨ protoOf socktypes = "https" := by
  unfold protoOf
  split <;> simp

/-- Two addresses the client keeps never share a URI, whatever their socket
types and whether `XPRA_IPV6` was set for each: the URI determines the scheme,
the host of the address and its port. -/
theorem formatUri_injective {ipv6 ipv6' : Bool} {raw raw' host host' : String}
    (h : uriHost ipv6 raw = some host) (h' : uriHost ipv6' raw' = some host')
    {socktypes socktypes' : List String} {port port' : Int}
    (heq : formatUri (protoOf socktypes) host port = formatUri (protoOf socktypes') host' port') :
    protoOf socktypes = protoOf socktypes' ∧ raw = raw' ∧ port = port' := by
  obtain ⟨hproto, rfl, hport⟩ := formatUri_inj_of_hostOk (protoOf_eq _) (protoOf_eq _)
    (hostOk_of_uriHost h) (hostOk_of_uriHost h') heq
  exact ⟨hproto, uriHost_inj h h', hport⟩

/-- An IPv6 address with a `ws` socket, and the same address with both socket
types. -/
theorem formatUri_injective_bracketed :
    uriHost true "fe80::1" = some "[fe80::1]" ∧
      formatUri (protoOf ["ws"]) "[fe80::1]" 8080 =
        formatUri (protoOf ["ws", "wss"]) "[fe80::1]" 8080 ∧
      (protoOf ["ws"] = protoOf ["ws", "wss"] ∧ "fe80::1" = "fe80::1" ∧ (8080 : Int) = 8080) :=
  have h : uriHost true "fe80::1" = some "[fe80::1]" := by decide
  have heq : formatUri (protoOf ["ws"]) "[fe80::1]" 8080 =
      formatUri (protoOf ["ws", "wss"]) "[fe80::1]" 8080 := by decide
  ⟨h, heq, formatUri_injective h h heq⟩

/-! ## The dict of address types -/

theorem addAddress_of_eligible {ipv6 : Bool} {socktype : String} {d : AddrTypes} {a : Address}
    {key : String × Int} (h : eligible ipv6 a = some key) :
    addAddress ipv6 socktype d a = setdefaultAppend d key socktype := by
  simp [addAddress, h]

theorem addAddress_of_ineligible {ipv6 : Bool} {socktype : String} {d : AddrTypes} {a : Address}
    (h : eligible ipv6 a = none) : addAddress ipv6 socktype d a = d := by
  simp [addAddress, h]

theorem keys_setdefaultAppend (d : AddrTypes) (key : String × Int) (socktype : String) :
    (setdefaultAppend d key socktype).map Prod.fst =
      if key ∈ d.map Prod.fst then d.map Prod.fst else d.map Prod.fst ++ [key] := by
  unfold setdefaultAppend
  split
  · rw [List.map_map]
    exact List.map_congr_left fun e _ => by dsimp only [Function.comp]; split <;> rfl
  · simp

theorem mem_keys_setdefaultAppend {d : AddrTypes} {key k : String × Int} {socktype : String} :
    k ∈ (setdefaultAppend d key socktype).map Prod.fst ↔ k ∈ d.map Prod.fst ∨ k = key := by
  rw [keys_setdefaultAppend]
  split
  · exact ⟨.inl, fun h => h.elim id fun h => h ▸ ‹_›⟩
  · simp

theorem nodup_keys_setdefaultAppend {d : AddrTypes} (key : String × Int) (socktype : String)
    (hd : (d.map Prod.fst).Nodup) : ((setdefaultAppend d key socktype).map Prod.fst).Nodup := by
  rw [keys_setdefaultAppend]
  split
  · exact hd
  · exact List.nodup_append.2 ⟨hd, List.nodup_singleton _, List.disjoint_singleton.2 ‹_›⟩

theorem mem_keys_foldl (ipv6 : Bool) (socktype : String) (addresses : List Address)
    (d : AddrTypes) (k : String × Int) :
    k ∈ (addresses.foldl (addAddress ipv6 socktype) d).map Prod.fst ↔
      k ∈ d.map Prod.fst ∨ k ∈ addresses.filterMap (eligible ipv6) := by
  induction addresses generalizing d with
  | nil => simp
  | cons a addresses ih =>
    rw [List.foldl_cons, ih]
    cases h : eligible ipv6 a with
    | none => simp [addAddress_of_ineligible h, List.filterMap_cons, h]
    | some key =>
      simp only [addAddress_of_eligible h, mem_keys_setdefaultAppend, List.filterMap_cons, h,
        List.mem_cons]
      tauto

theorem nodup_keys_foldl (ipv6 : Bool) (socktype : String) (addresses : List Address)
    {d : AddrTypes} (hd : (d.map Prod.fst).Nodup) :
    ((addresses.foldl (addAddress ipv6 socktype) d).map Prod.fst).Nodup := by
  induction addresses generalizing d with
  | nil => exact hd
  | cons a addresses ih =>
    rw [List.foldl_cons]
    cases h : eligible ipv6 a with
    | none => exact ih (by rwa [addAddress_of_ineligible h])
    | some key => exact ih (by rw [addAddress_of_eligible h]; exact nodup_keys_setdefaultAppend _ _ hd)

/-- A dict where an address has the type `ws` exactly when it is one of `ws`. -/
def WsTyped (d : AddrTypes) (ws : List (String × Int)) : Prop :=
  ∀ e ∈ d, "ws" ∈ e.2 ↔ e.1 ∈ ws

theorem wsTyped_setdefaultAppend {d : AddrTypes} {ws ws' : List (String × Int)}
    {key : String × Int} {socktype : String} (hi : WsTyped d ws)
    (hnew : key ∉ d.map Prod.fst → (key ∈ ws' ↔ socktype = "ws"))
    (hws : ∀ x, x ∈ ws' ↔ x ∈ ws ∨ (x = key ∧ socktype = "ws")) :
    WsTyped (setdefaultAppend d key socktype) ws' := by
  have old : ∀ e ∈ d, e.1 ≠ key → ("ws" ∈ e.2 ↔ e.1 ∈ ws') := fun e he hne => by
    rw [hi e he, hws]
    simp [hne]
  unfold setdefaultAppend
  split
  · intro e he
    obtain ⟨e0, he0, rfl⟩ := List.mem_map.1 he
    split
    · next h =>
      rw [List.mem_append, hi e0 he0, hws, List.mem_singleton, h]
      simp [eq_comm]
    · exact old e0 he0 ‹_›
  · next hk =>
    intro e he
    rcases List.mem_append.1 he with he | he
    · exact old e he fun h => hk (h ▸ List.mem_map_of_mem _ he)
    · rw [List.mem_singleton] at he
      subst he
      rw [hnew hk]
      simp [eq_comm]

theorem wsTyped_foldl_ws (ipv6 : Bool) (addresses : List Address) {d : AddrTypes}
    {ws : List (String × Int)} (hi : WsTyped d ws) :
    WsTyped (addresses.foldl (addAddress ipv6 "ws") d) (ws ++ addresses.filterMap (eligible ipv6)) := by
  induction addresses generalizing d ws with
  | nil => simpa using hi
  | cons a addresses ih =>
    rw [List.foldl_cons, List.filterMap_cons]
    cases h : eligible ipv6 a with
    | none => simpa [addAddress_of_ineligible h] using ih hi
    | some key =>
      simp only [h]
      rw [addAddress_of_eligible h, ← List.singleton_append, ← List.append_assoc]
      exact ih (wsTyped_setdefaultAppend hi (fun _ => by simp) fun x => by simp)

theorem wsTyped_foldl_wss (ipv6 : Bool) (addresses : List Address) {d : AddrTypes}
    {ws : List (String × Int)} (hi : WsTyped d ws) (hk : ∀ x ∈ ws, x ∈ d.map Prod.fst) :
    WsTyped (addresses.foldl (addAddress ipv6 "wss") d) ws := by
  induction addresses generalizing d with
  | nil => exact hi
  | cons a addresses ih =>
    rw [List.foldl_cons]
    cases h : eligible ipv6 a with
    | none => exact ih (by rwa [addAddress_of_ineligible h]) (by rwa [addAddress_of_ineligible h])
    | some key =>
      rw [addAddress_of_eligible h]
      refine ih (wsTyped_setdefaultAppend hi (fun hn => ?_) fun x => by simp)
        fun x hx => mem_keys_setdefaultAppend.2 (.inl (hk x hx))
      exact ⟨fun hw => absurd (hk _ hw) hn, by simp⟩

/-! ## What the client shows -/

/-- The addresses `do_command` keeps, those of the `ws` sockets first. -/
def keptAddresses (ipv6 : Bool) (sockets : Sockets) : List (String × Int) :=
  (sockets.ws ++ sockets.wss).filterMap (eligible ipv6)

theorem uris_doCommand (ipv6 : Bool) (sockets : Sockets) :
    (doCommand ipv6 (some sockets)).uris =
      (addrTypes ipv6 sockets).map fun e => formatUri (protoOf e.2) e.1.1 e.1.2 := by
  simp only [doCommand]
  split
  · next h => rw [h]; rfl
  · rfl

theorem doCommand_eq_noAddresses (ipv6 : Bool) (sockets : Sockets) :
    doCommand ipv6 (some sockets) = .noAddresses ↔ addrTypes ipv6 sockets = [] := by
  simp only [doCommand]
  split <;> simp_all

theorem mem_keys_addrTypes (ipv6 : Bool) (sockets : Sockets) (k : String × Int) :
    k ∈ (addrTypes ipv6 sockets).map Prod.fst ↔ k ∈ keptAddresses ipv6 sockets := by
  rw [addrTypes, mem_keys_foldl, mem_keys_foldl, keptAddresses, List.filterMap_append,
    List.mem_append]
  simp

theorem nodup_keys_addrTypes (ipv6 : Bool) (sockets : Sockets) :
    ((addrTypes ipv6 sockets).map Prod.fst).Nodup :=
  nodup_keys_foldl _ _ _ (nodup_keys_foldl _ _ _ List.nodup_nil)

theorem wsTyped_addrTypes (ipv6 : Bool) (sockets : Sockets) :
    WsTyped (addrTypes ipv6 sockets) (sockets.ws.filterMap (eligible ipv6)) := by
  have h := wsTyped_foldl_ws ipv6 sockets.ws (show WsTyped [] [] from fun e he => by cases he)
  rw [List.nil_append] at h
  exact wsTyped_foldl_wss ipv6 sockets.wss h fun x hx => (mem_keys_foldl ..).2 (.inr hx)

theorem hostOk_of_eligible {ipv6 : Bool} {a : Address} {key : String × Int}
    (h : eligible ipv6 a = some key) : hostOk key.1.data := by
  cases a with
  | pair host port =>
    obtain ⟨h', hh, rfl⟩ := Option.map_eq_some'.1 h
    exact hostOk_of_uriHost hh
  | malformed => cases h

/-- The client shows one URI for each address it keeps and for no other, with
`http` exactly for the addresses a `ws` socket listens on, and no URI twice;
it shows none exactly when it keeps no address. -/
theorem doCommand_uris (ipv6 : Bool) (sockets : Sockets) :
    (doCommand ipv6 (some sockets) = .noAddresses ↔ keptAddresses ipv6 sockets = []) ∧
    (doCommand ipv6 (some sockets)).uris.Nodup ∧
    ∀ uri, uri ∈ (doCommand ipv6 (some sockets)).uris ↔ ∃ key ∈ keptAddresses ipv6 sockets,
      uri = formatUri (if key ∈ sockets.ws.filterMap (eligible ipv6) then "http" else "https")
        key.1 key.2 := by
  have hkeys := mem_keys_addrTypes ipv6 sockets
  have hnodup := nodup_keys_addrTypes ipv6 sockets
  have hproto : ∀ e ∈ addrTypes ipv6 sockets,
      protoOf e.2 = if e.1 ∈ sockets.ws.filterMap (eligible ipv6) then "http" else "https" :=
    fun e he => by simp only [protoOf, wsTyped_addrTypes ipv6 sockets e he]
  have hhost : ∀ e ∈ addrTypes ipv6 sockets, hostOk e.1.1.data := fun e he => by
    obtain ⟨a, -, ha⟩ := List.mem_filterMap.1 ((hkeys e.1).1 (List.mem_map_of_mem _ he))
    exact hostOk_of_eligible ha
  rw [uris_doCommand, doCommand_eq_noAddresses]
  refine ⟨?_, ?_, fun uri => ?_⟩
  · simp only [List.eq_nil_iff_forall_not_mem, ← hkeys, List.mem_map, not_exists, not_and]
    exact ⟨fun h k e he _ => h e he, fun h e he => h e.1 e he rfl⟩
  · refine List.Nodup.map_on (fun e he e' he' heq => ?_) (hnodup.of_map _)
    obtain ⟨-, hhost, hport⟩ :=
      formatUri_inj_of_hostOk (protoOf_eq e.2) (protoOf_eq e'.2) (hhost e he) (hhost e' he') heq
    exact List.inj_on_of_nodup_map hnodup he he' (Prod.ext hhost hport)
  · simp only [List.mem_map]
    constructor
    · rintro ⟨e, he, rfl⟩
      exact ⟨e.1, (hkeys e.1).1 (List.mem_map_of_mem _ he), by rw [hproto e he]⟩
    · rintro ⟨key, hk, rfl⟩
      obtain ⟨e, he, rfl⟩ := List.mem_map.1 ((hkeys key).2 hk)
      exact ⟨e, he, by rw [hproto e he]⟩

/-- A `ws` and a `wss` socket on one address give one `http` URI; loopback is skipped. -/
example : doCommand false (some ⟨[.pair "10.0.0.1" 80], [.pair "10.0.0.1" 80, .pair "::1" 443]⟩) =
    .showUris ["http://10.0.0.1/"] := by decide

end Xpra.Gtk.Dialogs.QrcodeClient
