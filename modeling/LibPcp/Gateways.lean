import LibPcp.Api
import LibPcp.MsgParse
import LibPcp.Records
import Mathlib.Data.List.Induction

/-!
# LibPcp.Gateways

The gateways that the kernel tells of (`getgateways` in `net/gateway.c`, with netlink).

The routing table is asked for in one request. Its dump comes in datagrams of several messages each, with
an end message in a datagram of its own, and is collected in one buffer of `BUFSIZE` bytes. The messages
and the attributes in each of them are records that say their own size; the numbers are in host order.

* `readNlSock_dump`: a dump is collected if it fits into the buffer with its end message.
* `routeGateway_message`: what the loop over the attributes gets out of a route.
* `getgateways_dump`: so all gateways of the main table are found, in the order of the dump, or none.
-/

namespace LibPcp

open ByteBuffer

/-! ## Netlink -/

def bufSize : Nat := 8192

def sizeofNlmsghdr : Nat := 16
def sizeofRtmsg : Nat := 12
def sizeofRtattr : Nat := 4

def nlmsgError : UInt16 := 2
def nlmsgDone : UInt16 := 3
def rtmNewroute : UInt16 := 24
def rtmGetroute : UInt16 := 26
def nlmFRequest : UInt16 := 1
def nlmFMulti : UInt16 := 2
def nlmFDump : UInt16 := 0x300
def rtTableMain : UInt8 := 254
def rtaOif : UInt16 := 4
def rtaGateway : UInt16 := 5
def afInet : UInt8 := 2
def afInet6 : UInt8 := 10

variable (h : HostOrder)

/-- `NLMSG_OK` and `NLMSG_NEXT`, with what is left cast to `unsigned`. -/
def nlmsgFraming : Framing where
  header := sizeofNlmsghdr
  size b off := (h.get32 b off).toNat
  room len := (len % 2 ^ 32).toNat
  header_pos := by decide
  room_nat n hn := by omega

/-- `RTA_OK` and `RTA_NEXT`. -/
def rtaFraming : Framing where
  header := sizeofRtattr
  size b off := (h.get16 b off).toNat
  room len := len.toNat
  header_pos := by decide
  room_nat _ _ := rfl

/-- `struct nlmsghdr`. -/
structure NlHeader where
  type : UInt16
  flags : UInt16
  seq : UInt32
  pid : UInt32
  deriving DecidableEq, Repr

def nlHeaderAt (b : Buf) (off : Nat) : NlHeader :=
  ⟨h.get16 b (off + 4), h.get16 b (off + 6), h.get32 b (off + 8), h.get32 b (off + 12)⟩

/-- What `readNlSock` returns; it does not return while no datagram comes. -/
inductive NlRead where
  | failed
  | blocked
  | read (buf : Buf) (len : Nat)

/-- `readNlSock`: the outcomes of `recv`, of which `none` is an error. -/
def readNlSock (seqNum pId : UInt32) : Buf → Nat → List (Option (List UInt8)) → NlRead
  | _, _, [] => .blocked
  | _, _, none :: _ => .failed
  | buf, msgLen, some dg :: rest =>
    let data := dg.take (bufSize - msgLen)
    let buf := buf.blit msgLen data
    let nlHdr := nlHeaderAt h buf msgLen
    if ¬ (nlmsgFraming h).Fits buf msgLen data.length ∨ nlHdr.type = nlmsgError then .failed
    else if nlHdr.type = nlmsgDone then .read buf msgLen
    else if nlHdr.flags &&& nlmFMulti = 0 then .read buf (msgLen + data.length)
    else if nlHdr.seq ≠ seqNum ∨ nlHdr.pid ≠ pId then
      readNlSock seqNum pId buf (msgLen + data.length) rest
    else .read buf (msgLen + data.length)

/-! ## Routes -/

/-- `scope_id`, and `addr` if it was `found`. -/
structure RouteAcc where
  scopeId : UInt32
  addr : Option In6Addr
  deriving DecidableEq, Repr

/-- The address of a gateway; an IPv4 address is mapped. -/
def gatewayAddr (family : UInt8) (bytes : List UInt8) : In6Addr :=
  let addr := readIn6 (Buf.ofList bytes) 0
  if family = afInet then .v4mapped addr.w0 else addr

/-- The body of the loop over the attributes. -/
def rtaVisit (b : Buf) (family : UInt8) (acc : RouteAcc) (off : Nat) : RouteAcc :=
  let rtaLen := (h.get16 b off).toNat - sizeofRtattr
  if 16 < rtaLen then acc
  else if h.get16 b (off + 2) = rtaOif then { acc with scopeId := h.get32 b (off + 4) }
  else if h.get16 b (off + 2) = rtaGateway then
    { acc with addr := some (gatewayAddr family (b.slice (off + 4) rtaLen)) }
  else acc

/-- Every attribute takes four bytes at least, so there are not more rounds than bytes. -/
def rtaStarts (b : Buf) (off : Nat) (rtLen : Int) : List Nat :=
  ((rtaFraming h).starts b (rtLen.toNat + 1) off rtLen).getD []

/-- The gateway of the message at `off`, if it is a route with one in the main table. -/
def routeGateway (b : Buf) (off : Nat) : Option (In6Addr × UInt32) :=
  let rtMsg := off + sizeofNlmsghdr
  let family := b rtMsg
  if (family ≠ afInet ∧ family ≠ afInet6) ∨ b (rtMsg + 4) ≠ rtTableMain then none
  else
    let rtLen := ((h.get32 b off).toNat - (sizeofNlmsghdr + sizeofRtmsg : Nat) : Int).bmod (2 ^ 32)
    let acc := (rtaStarts h b (rtMsg + sizeofRtmsg) rtLen).foldl (rtaVisit h b family) ⟨0, none⟩
    acc.addr.map (·, acc.scopeId)

/-- The end of the body of the loop over the messages; `realloc` can fail. -/
def addGateway (realloc : Nat → Bool) (gws : List (In6Addr × UInt32)) :
    Option (In6Addr × UInt32) → Except Errno (List (In6Addr × UInt32))
  | none => .ok gws
  | some gw => if realloc gws.length then .ok (gws ++ [gw]) else .error .noMem

/-- The outcomes of `socket`, `send`, `recv` and `realloc`. -/
structure NlIo where
  socket : Bool
  send : Bool
  recv : List (Option (List UInt8))
  realloc : Nat → Bool

/-- The request for a dump of the routing table, with sequence number zero. -/
def nlRequest (pid : UInt32) : List UInt8 :=
  h.put32 28 ++ h.put16 rtmGetroute ++ h.put16 (nlmFDump ||| nlmFRequest) ++ h.put32 0 ++ h.put32 pid

/-- `getgateways`; `none` if it waits for ever or runs out of the buffer. The answer is read with the
sequence number after the one of the request. -/
def getgateways (pid : UInt32) (io : NlIo) : Option (Except Errno (List (In6Addr × UInt32))) :=
  if ¬ io.socket then some (.error .unknown)
  else if ¬ io.send then some (.error .sendFailed)
  else
    match readNlSock h 1 pid (Buf.ofList (nlRequest h pid)) 0 io.recv with
    | .blocked => none
    | .failed => some (.error .recvFailed)
    | .read b len =>
      ((nlmsgFraming h).starts b (bufSize + 1) 0 len).map fun offs =>
        (offs.map (routeGateway h b)).foldlM (addGateway io.realloc) []

/-! ## Dumps -/

/-- An attribute of a route. -/
inductive RtAttr where
  | oif (index : UInt32)
  | gateway (addr : List UInt8)
  | other (type : UInt16) (payload : List UInt8)
  deriving DecidableEq, Repr

def RtAttr.type : RtAttr → UInt16
  | .oif _ => rtaOif
  | .gateway _ => rtaGateway
  | .other type _ => type

def RtAttr.payload : RtAttr → List UInt8
  | .oif index => h.put32 index
  | .gateway addr => addr
  | .other _ payload => payload

def RtAttr.bytes (a : RtAttr) : List UInt8 :=
  h.put16 (UInt16.ofNat (sizeofRtattr + (a.payload h).length)) ++ (h.put16 a.type ++ a.payload h)

/-- The attribute is what it is called, and its size can be said. -/
structure RtAttr.Wf (a : RtAttr) : Prop where
  size : sizeofRtattr + (a.payload h).length < 2 ^ 16
  other : ∀ type payload, a = .other type payload → type ≠ rtaOif ∧ type ≠ rtaGateway

/-- `struct rtmsg` and the attributes. -/
structure Route where
  family : UInt8
  dstLen : UInt8
  srcLen : UInt8
  tos : UInt8
  table : UInt8
  protocol : UInt8
  scope : UInt8
  type : UInt8
  flags : UInt32
  attrs : List RtAttr
  deriving DecidableEq, Repr

def Route.bytes (r : Route) : List UInt8 :=
  [r.family, r.dstLen, r.srcLen, r.tos, r.table, r.protocol, r.scope, r.type] ++
    (h.put32 r.flags ++ paddedAll (r.attrs.map (RtAttr.bytes h)))

/-- The last output interface, zero if there is none. -/
def outputIf (attrs : List RtAttr) : UInt32 :=
  (attrs.filterMap fun
    | .oif index => some index
    | _ => none).getLast?.getD 0

/-- The last gateway that is not longer than an IPv6 address. -/
def gatewayBytes (attrs : List RtAttr) : Option (List UInt8) :=
  (attrs.filterMap fun
    | .gateway addr => if addr.length ≤ 16 then some addr else none
    | _ => none).getLast?

/-- The gateway that is looked for. -/
def Route.found (r : Route) : Option (In6Addr × UInt32) :=
  if (r.family = afInet ∨ r.family = afInet6) ∧ r.table = rtTableMain then
    (gatewayBytes r.attrs).map fun addr => (gatewayAddr r.family addr, outputIf r.attrs)
  else none

def nlHeaderBytes (type : UInt16) (pid : UInt32) (len : Nat) : List UInt8 :=
  h.put32 (UInt32.ofNat len) ++
    (h.put16 type ++ (h.put16 nlmFMulti ++ (h.put32 0 ++ h.put32 pid)))

/-- A message of the answer to the request. -/
def nlMessage (type : UInt16) (pid : UInt32) (payload : List UInt8) : List UInt8 :=
  nlHeaderBytes h type pid (sizeofNlmsghdr + payload.length) ++ payload

def Route.message (pid : UInt32) (r : Route) : List UInt8 := nlMessage h rtmNewroute pid (r.bytes h)

/-- The end of a dump. -/
def doneMessage (pid : UInt32) : List UInt8 := nlMessage h nlmsgDone pid [0, 0, 0, 0]

/-- The datagrams of a dump. -/
def nlDump (pid : UInt32) (groups : List (List Route)) : List (Option (List UInt8)) :=
  groups.map (fun g => some (paddedAll (g.map (Route.message h pid)))) ++ [some (doneMessage h pid)]

/-- A route that the kernel can tell of. -/
structure Route.Wf (r : Route) : Prop where
  attrs : ∀ a ∈ r.attrs, a.Wf h
  size : (r.bytes h).length < 2 ^ 31 - 16

section Records

variable {h : HostOrder} {b : Buf} {off : Nat}

theorem nlHeaderBytes_length (type : UInt16) (pid : UInt32) (len : Nat) :
    (nlHeaderBytes h type pid len).length = sizeofNlmsghdr := by
  simp [nlHeaderBytes, h.put16_length, h.put32_length, sizeofNlmsghdr]

theorem nlMessage_length (type : UInt16) (pid : UInt32) (payload : List UInt8) :
    (nlMessage h type pid payload).length = sizeofNlmsghdr + payload.length := by
  rw [nlMessage, List.length_append, nlHeaderBytes_length]

/-- A header in the buffer is read as it was written. -/
theorem nlHeader_of_slice {type : UInt16} {pid : UInt32} {len : Nat}
    (hb : b.slice off sizeofNlmsghdr = nlHeaderBytes h type pid len) (hlen : len < 2 ^ 32) :
    (h.get32 b off).toNat = len ∧ nlHeaderAt h b off = ⟨type, nlmFMulti, 0, pid⟩ := by
  obtain ⟨hsize, hb⟩ := Buf.slice_split (m := 4) (n := 12) hb (h.put32_length _).symm
  obtain ⟨htype, hb⟩ := Buf.slice_split (m := 2) (n := 10) hb (h.put16_length _).symm
  obtain ⟨hflags, hb⟩ := Buf.slice_split (m := 2) (n := 8) hb (h.put16_length _).symm
  obtain ⟨hseq, hpid⟩ := Buf.slice_split (m := 4) (n := 4) hb (h.put32_length _).symm
  refine ⟨?_, ?_⟩
  · rw [h.get32_of_slice hsize, UInt32.toNat_ofNat']
    exact Nat.mod_eq_of_lt hlen
  · rw [nlHeaderAt, h.get16_of_slice htype, h.get16_of_slice hflags, h.get32_of_slice hseq,
      h.get32_of_slice hpid]

theorem nlMessage_framed {type : UInt16} {pid : UInt32} {payload : List UInt8}
    (hlen : sizeofNlmsghdr + payload.length < 2 ^ 32) :
    (nlmsgFraming h).Framed (nlMessage h type pid payload) := by
  constructor
  · rw [nlMessage_length]
    exact Nat.le_add_right _ _
  · intro b off hb
    have hheader : (nlMessage h type pid payload).take sizeofNlmsghdr =
        nlHeaderBytes h type pid (sizeofNlmsghdr + payload.length) := by
      rw [nlMessage, List.take_left' (nlHeaderBytes_length _ _ _)]
    rw [nlMessage_length]
    exact (nlHeader_of_slice (hb.trans hheader) hlen).1

theorem rtAttr_length (a : RtAttr) : (a.bytes h).length = sizeofRtattr + (a.payload h).length := by
  simp only [RtAttr.bytes, List.length_append, h.put16_length, sizeofRtattr]
  omega

/-- The two fields before the payload. -/
theorem rtAttr_of_slice {a : RtAttr} (hb : b.slice off sizeofRtattr = (a.bytes h).take sizeofRtattr)
    (hwf : a.Wf h) :
    (h.get16 b off).toNat = sizeofRtattr + (a.payload h).length ∧ h.get16 b (off + 2) = a.type := by
  have hheader : (a.bytes h).take sizeofRtattr =
      h.put16 (UInt16.ofNat (sizeofRtattr + (a.payload h).length)) ++ h.put16 a.type := by
    rw [RtAttr.bytes, ← List.append_assoc]
    exact List.take_left' (by simp [h.put16_length, sizeofRtattr])
  obtain ⟨hsize, htype⟩ := Buf.slice_split (m := 2) (n := 2) (hb.trans hheader) (h.put16_length _).symm
  refine ⟨?_, h.get16_of_slice htype⟩
  rw [h.get16_of_slice hsize, UInt16.toNat_ofNat']
  exact Nat.mod_eq_of_lt hwf.size

theorem rtAttr_framed {a : RtAttr} (hwf : a.Wf h) : (rtaFraming h).Framed (a.bytes h) := by
  constructor
  · rw [rtAttr_length]
    exact Nat.le_add_right _ _
  · intro b off hb
    rw [rtAttr_length]
    exact (rtAttr_of_slice hb hwf).1

/-- What an attribute changes. -/
def attrStep (family : UInt8) (acc : RouteAcc) : RtAttr → RouteAcc
  | .oif index => { acc with scopeId := index }
  | .gateway addr => if addr.length ≤ 16 then { acc with addr := some (gatewayAddr family addr) } else acc
  | .other _ _ => acc

theorem rtaVisit_attr {a : RtAttr} (family : UInt8) (hwf : a.Wf h)
    (hb : b.slice off (a.bytes h).length = a.bytes h) (acc : RouteAcc) :
    rtaVisit h b family acc off = attrStep family acc a := by
  have hsplit : b.slice off (sizeofRtattr + (a.payload h).length) =
      (h.put16 (UInt16.ofNat (sizeofRtattr + (a.payload h).length)) ++ h.put16 a.type) ++ a.payload h := by
    rw [rtAttr_length] at hb
    rw [hb, RtAttr.bytes, List.append_assoc]
  obtain ⟨hheader, hpayload⟩ := Buf.slice_split hsplit (by simp [h.put16_length, sizeofRtattr])
  obtain ⟨hsize, htype⟩ := rtAttr_of_slice (a := a) (hheader.trans (by
    rw [RtAttr.bytes, ← List.append_assoc]
    exact (List.take_left' (by simp [h.put16_length, sizeofRtattr])).symm)) hwf
  have hlen : sizeofRtattr + (a.payload h).length - sizeofRtattr = (a.payload h).length :=
    Nat.add_sub_cancel_left _ _
  have hstart : off + 4 = off + sizeofRtattr := rfl
  simp only [rtaVisit, hsize, htype, hlen, hstart, hpayload]
  cases a with
  | oif index =>
    have hfour : ¬ 16 < (h.put32 index).length := by
      rw [h.put32_length]
      decide
    have hindex : h.get32 b (off + sizeofRtattr) = index := by
      apply h.get32_of_slice
      rw [← h.put32_length index]
      exact hpayload
    simp only [RtAttr.payload, RtAttr.type, if_neg hfour, if_true, hindex, attrStep]
  | gateway addr =>
    have hne : rtaGateway ≠ rtaOif := by decide
    simp only [RtAttr.payload, RtAttr.type, if_neg hne, if_true, attrStep]
    by_cases hlong : 16 < addr.length
    · rw [if_pos hlong, if_neg (Nat.not_le.mpr hlong)]
    · rw [if_neg hlong, if_pos (Nat.not_lt.mp hlong)]
  | other type payload =>
    obtain ⟨hoif, hgw⟩ := hwf.other type payload rfl
    rw [RtAttr.type, if_neg hoif, if_neg hgw, ite_self, attrStep]

/-- The loop over the attributes keeps the last output interface and the last gateway. -/
theorem foldl_attrStep (family : UInt8) (attrs : List RtAttr) :
    attrs.foldl (attrStep family) ⟨0, none⟩ =
      ⟨outputIf attrs, (gatewayBytes attrs).map (gatewayAddr family)⟩ := by
  induction attrs using List.reverseRecOn with
  | nil => rfl
  | append_singleton attrs a ih =>
    rw [List.foldl_append, ih]
    cases a with
    | oif index => simp [attrStep, outputIf, gatewayBytes]
    | gateway addr =>
      by_cases hlong : addr.length ≤ 16
      · simp [attrStep, outputIf, gatewayBytes, hlong]
      · simp [attrStep, outputIf, gatewayBytes, hlong]
    | other type payload => simp [attrStep, outputIf, gatewayBytes]

/-! ## Routes of a dump -/

theorem routeBytes_split {r : Route} (hb : b.slice off (r.bytes h).length = r.bytes h) :
    b off = r.family ∧ b (off + 4) = r.table ∧
      b.slice (off + sizeofRtmsg) (paddedAll (r.attrs.map (RtAttr.bytes h))).length =
        paddedAll (r.attrs.map (RtAttr.bytes h)) := by
  have hlen : (r.bytes h).length = 8 + (4 + (paddedAll (r.attrs.map (RtAttr.bytes h))).length) := by
    simp only [Route.bytes, List.length_append, h.put32_length, List.length_cons, List.length_nil]
  rw [hlen, Route.bytes] at hb
  obtain ⟨hfixed, hrest⟩ := Buf.slice_split hb rfl
  obtain ⟨-, hattrs⟩ := Buf.slice_split hrest (h.put32_length _).symm
  have hfamily := Buf.get_of_slice hfixed (i := 0) (Nat.zero_lt_succ 7)
  have htable := Buf.get_of_slice hfixed (i := 4) (by simp)
  exact ⟨hfamily, htable, hattrs⟩

/-- What the loop over the attributes gets out of a message. -/
theorem routeGateway_message {r : Route} {pid : UInt32} (hwf : r.Wf h)
    (hb : b.slice off (r.message h pid).length = r.message h pid) : routeGateway h b off = r.found := by
  have hsmall := hwf.size
  rw [Route.message, nlMessage_length] at hb
  obtain ⟨hheader, hbytes⟩ := Buf.slice_split hb (nlHeaderBytes_length _ _ _).symm
  obtain ⟨hsize, -⟩ := nlHeader_of_slice hheader (by simp only [sizeofNlmsghdr]; omega)
  obtain ⟨hfamily, htable, hattrs⟩ := routeBytes_split hbytes
  have hlen : (r.bytes h).length = 12 + (paddedAll (r.attrs.map (RtAttr.bytes h))).length := by
    simp only [Route.bytes, List.length_append, h.put32_length, List.length_cons, List.length_nil]
    omega
  have hpayload : (((sizeofNlmsghdr + (r.bytes h).length : Nat) : Int) -
      (sizeofNlmsghdr + sizeofRtmsg : Nat)).bmod (2 ^ 32) =
        (paddedAll (r.attrs.map (RtAttr.bytes h))).length := by
    rw [hlen, Int.bmod_eq_of_le] <;> simp only [sizeofNlmsghdr, sizeofRtmsg] <;> omega
  have hstarts : rtaStarts h b (off + sizeofNlmsghdr + sizeofRtmsg)
      (paddedAll (r.attrs.map (RtAttr.bytes h))).length =
        offsets (off + sizeofNlmsghdr + sizeofRtmsg) (r.attrs.map (RtAttr.bytes h)) := by
    have hpos : ∀ x ∈ r.attrs.map (RtAttr.bytes h), 0 < x.length := by
      intro x hx
      obtain ⟨a, -, rfl⟩ := List.mem_map.mp hx
      rw [rtAttr_length]
      exact Nat.lt_add_right _ (by decide)
    have hframed : ∀ x ∈ r.attrs.map (RtAttr.bytes h), (rtaFraming h).Framed x := by
      intro x hx
      obtain ⟨a, ha, rfl⟩ := List.mem_map.mp hx
      exact rtAttr_framed (hwf.attrs a ha)
    have hcount := length_le_paddedAll hpos
    rw [rtaStarts, Framing.starts_of_bytes hframed (by simp only [Int.toNat_natCast]; omega) (by omega) hattrs]
    rfl
  have hvisits : (offsets (off + sizeofNlmsghdr + sizeofRtmsg) (r.attrs.map (RtAttr.bytes h))).map
      (fun o acc => rtaVisit h b r.family acc o) = r.attrs.map fun a acc => attrStep r.family acc a :=
    map_offsets (fun a ha o ho => funext (rtaVisit_attr r.family (hwf.attrs a ha) ho)) hattrs
  have hfold : (offsets (off + sizeofNlmsghdr + sizeofRtmsg) (r.attrs.map (RtAttr.bytes h))).foldl
      (rtaVisit h b r.family) ⟨0, none⟩ = r.attrs.foldl (attrStep r.family) ⟨0, none⟩ := by
    have hboth := congrArg (List.foldl (fun acc f => f acc) (⟨0, none⟩ : RouteAcc)) hvisits
    rwa [List.foldl_map, List.foldl_map] at hboth
  simp only [routeGateway, hfamily, htable, hsize, hpayload, hstarts, hfold, foldl_attrStep, Route.found]
  by_cases hmain : (r.family = afInet ∨ r.family = afInet6) ∧ r.table = rtTableMain
  · rw [if_pos hmain, if_neg (by tauto), Option.map_map]
    rfl
  · rw [if_neg hmain, if_pos (by tauto)]

/-! ## Reading a dump -/

/-- The header of the first message of a datagram, as far as it has come. -/
theorem nlHeader_received (b : Buf) (off : Nat) {type : UInt16} {pid : UInt32}
    {payload data tail : List UInt8} {k : Nat} (hdata : data = (nlMessage h type pid payload ++ tail).take k)
    (hheader : sizeofNlmsghdr ≤ data.length) (hlen : sizeofNlmsghdr + payload.length < 2 ^ 32) :
    (h.get32 (b.blit off data) off).toNat = sizeofNlmsghdr + payload.length ∧
      nlHeaderAt h (b.blit off data) off = ⟨type, nlmFMulti, 0, pid⟩ := by
  have hk : sizeofNlmsghdr ≤ k := by
    rw [hdata, List.length_take] at hheader
    omega
  have htake : data.take sizeofNlmsghdr = nlHeaderBytes h type pid (sizeofNlmsghdr + payload.length) := by
    rw [hdata, List.take_take, Nat.min_eq_left hk, nlMessage, List.append_assoc,
      List.take_left' (nlHeaderBytes_length _ _ _)]
  have hall := Buf.slice_blit b off data
  have hsplit : (b.blit off data).slice off (sizeofNlmsghdr + (data.length - sizeofNlmsghdr)) =
      data.take sizeofNlmsghdr ++ data.drop sizeofNlmsghdr := by
    rw [List.take_append_drop, Nat.add_sub_cancel' hheader]
    exact hall
  obtain ⟨hfirst, -⟩ := Buf.slice_split hsplit (by simp [hheader])
  exact nlHeader_of_slice (hfirst.trans htake) hlen

/-- One round: the datagram is given up if its first message is cut off. -/
theorem readNlSock_step (b : Buf) (msgLen : Nat) (rest : List (Option (List UInt8))) {type : UInt16}
    {pid : UInt32} {payload tail data : List UInt8} (htype : type ≠ nlmsgError)
    (hlen : sizeofNlmsghdr + payload.length < 2 ^ 32)
    (hdata : data = (nlMessage h type pid payload ++ tail).take (bufSize - msgLen)) :
    readNlSock h 1 pid b msgLen (some (nlMessage h type pid payload ++ tail) :: rest) =
      if sizeofNlmsghdr + payload.length ≤ data.length then
        if type = nlmsgDone then .read (b.blit msgLen data) msgLen
        else readNlSock h 1 pid (b.blit msgLen data) (msgLen + data.length) rest
      else .failed := by
  have hshort : data.length ≤ bufSize := by
    rw [hdata, List.length_take]
    omega
  have hroom : (nlmsgFraming h).room data.length = data.length :=
    (nlmsgFraming h).room_nat _ (by simp only [bufSize] at hshort; omega)
  by_cases hfits : sizeofNlmsghdr + payload.length ≤ data.length
  · obtain ⟨hsize, hhdr⟩ := nlHeader_received b msgLen hdata (by omega) hlen
    have hok : (nlmsgFraming h).Fits (b.blit msgLen data) msgLen data.length := by
      rw [Framing.Fits, hroom]
      simp only [nlmsgFraming, hsize]
      omega
    have hmulti : ¬ nlmFMulti &&& nlmFMulti = 0 := by decide
    simp only [readNlSock, ← hdata, hhdr, hok, not_true, false_or, if_neg htype, if_neg hmulti, if_pos hfits]
    by_cases hdone : type = nlmsgDone
    · rw [if_pos hdone, if_pos hdone]
    · have hseq : (0 : UInt32) ≠ 1 ∨ pid ≠ pid := .inl (by decide)
      rw [if_neg hdone, if_neg hdone, if_pos hseq]
  · have hbad : ¬ (nlmsgFraming h).Fits (b.blit msgLen data) msgLen data.length := by
      intro hok
      rw [Framing.Fits, hroom] at hok
      have hsize := (nlHeader_received b msgLen hdata hok.1 hlen).1
      have hle : (h.get32 (b.blit msgLen data) msgLen).toNat ≤ data.length := hok.2.2
      omega
    simp only [readNlSock, ← hdata, hbad, not_false_eq_true, true_or, if_true, if_neg hfits]

/-- Nothing is received into a full buffer. -/
theorem readNlSock_full {pid : UInt32} (groups : List (List Route)) :
    readNlSock h 1 pid b bufSize (nlDump h pid groups) = .failed := by
  have hfull : ∀ dg rest, readNlSock h 1 pid b bufSize (some dg :: rest) = .failed := by
    intro dg rest
    have hroom : (nlmsgFraming h).room ((0 : Nat) : Int) = 0 := (nlmsgFraming h).room_nat 0 (by decide)
    have hbad : ¬ (nlmsgFraming h).Fits (b.blit bufSize []) bufSize (([] : List UInt8).length : Int) := by
      intro hok
      have hle := hok.1
      rw [List.length_nil, hroom] at hle
      exact absurd hle (Nat.not_succ_le_zero 15)
    simp only [readNlSock, Nat.sub_self, List.take_zero, hbad, not_false_eq_true, true_or, if_true]
  cases groups with
  | nil => exact hfull _ _
  | cons g gs => exact hfull _ _

/-- The messages of a dump without its end. -/
def dumpBytes (h : HostOrder) (pid : UInt32) (groups : List (List Route)) : List UInt8 :=
  paddedAll (groups.flatten.map (Route.message h pid))

/-- The datagrams have routes in them. -/
def Dump.Wf (h : HostOrder) (groups : List (List Route)) : Prop :=
  ∀ g ∈ groups, g ≠ [] ∧ ∀ r ∈ g, r.Wf h

theorem dumpBytes_cons (pid : UInt32) (g : List Route) (gs : List (List Route)) :
    dumpBytes h pid (g :: gs) = paddedAll (g.map (Route.message h pid)) ++ dumpBytes h pid gs := by
  rw [dumpBytes, List.flatten_cons, List.map_append, paddedAll_append, dumpBytes]

theorem Dump.Wf.tail {g : List Route} {gs : List (List Route)} (hwf : Dump.Wf h (g :: gs)) :
    Dump.Wf h gs := fun g' hg' => hwf g' (List.mem_cons_of_mem g hg')

/-- A datagram is cut off, or what it holds of the first route does not fit. -/
theorem readNlSock_group (b : Buf) (msgLen : Nat) (rest : List (Option (List UInt8))) {pid : UInt32}
    {g : List Route} {data : List UInt8} (hg : g ≠ [] ∧ ∀ r ∈ g, r.Wf h)
    (hdata : data = (paddedAll (g.map (Route.message h pid))).take (bufSize - msgLen)) :
    readNlSock h 1 pid b msgLen (some (paddedAll (g.map (Route.message h pid))) :: rest) =
        readNlSock h 1 pid (b.blit msgLen data) (msgLen + data.length) rest ∨
      data.length < (paddedAll (g.map (Route.message h pid))).length ∧
        readNlSock h 1 pid b msgLen (some (paddedAll (g.map (Route.message h pid))) :: rest) = .failed := by
  cases g with
  | nil => exact absurd rfl hg.1
  | cons r rs =>
    have hsmall := (hg.2 r List.mem_cons_self).size
    have hroute : rtmNewroute ≠ nlmsgError := by decide
    have hdone : rtmNewroute ≠ nlmsgDone := by decide
    rw [List.map_cons, paddedAll_cons, padded, List.append_assoc, Route.message] at hdata ⊢
    have hstep := readNlSock_step b msgLen rest hroute (by simp only [sizeofNlmsghdr]; omega) hdata
    rw [if_neg hdone] at hstep
    rw [hstep]
    by_cases hfits : sizeofNlmsghdr + (r.bytes h).length ≤ data.length
    · rw [if_pos hfits]
      exact .inl rfl
    · rw [if_neg hfits]
      refine .inr ⟨?_, rfl⟩
      rw [List.length_append, nlMessage_length]
      omega

/-- A dump that fits together with its end is collected. -/
theorem readNlSock_dump (b : Buf) (msgLen : Nat) {pid : UInt32} {groups : List (List Route)}
    (hwf : Dump.Wf h groups) (hfit : msgLen + (dumpBytes h pid groups).length + 20 ≤ bufSize) :
    ∃ b', readNlSock h 1 pid b msgLen (nlDump h pid groups) =
        .read b' (msgLen + (dumpBytes h pid groups).length) ∧
      b'.slice 0 msgLen = b.slice 0 msgLen ∧
      b'.slice msgLen (dumpBytes h pid groups).length = dumpBytes h pid groups := by
  induction groups generalizing b msgLen with
  | nil =>
    have hnone : (dumpBytes h pid []).length = 0 := rfl
    rw [hnone] at hfit
    have hall : doneMessage h pid = (doneMessage h pid ++ []).take (bufSize - msgLen) := by
      rw [List.append_nil, List.take_of_length_le]
      rw [doneMessage, nlMessage_length]
      simp only [sizeofNlmsghdr, List.length_cons, List.length_nil]
      omega
    have hstep := readNlSock_step b msgLen [] (show nlmsgDone ≠ nlmsgError by decide) (by decide) hall
    have hlen : sizeofNlmsghdr + [0, 0, 0, (0 : UInt8)].length ≤ (doneMessage h pid).length :=
      (nlMessage_length ..).ge
    rw [if_pos hlen, if_pos rfl] at hstep
    refine ⟨b.blit msgLen (doneMessage h pid), ?_, ?_, rfl⟩
    · rw [List.append_nil] at hstep
      exact hstep
    · exact Buf.slice_congr fun i hi => Buf.blit_below b _ (by omega)
  | cons g gs ih =>
    have hbytes := dumpBytes_cons (h := h) pid g gs
    rw [hbytes, List.length_append] at hfit
    have hall : paddedAll (g.map (Route.message h pid)) =
        (paddedAll (g.map (Route.message h pid))).take (bufSize - msgLen) :=
      (List.take_of_length_le (by omega)).symm
    have hround := readNlSock_group b msgLen (nlDump h pid gs) (hwf g List.mem_cons_self) hall
    obtain hround | ⟨hcut, -⟩ := hround
    · obtain ⟨b', hread, hbelow, hrest⟩ := ih (b.blit msgLen (paddedAll (g.map (Route.message h pid))))
        (msgLen + (paddedAll (g.map (Route.message h pid))).length) hwf.tail (by omega)
      rw [Buf.slice_append, Buf.slice_append, Nat.zero_add] at hbelow
      obtain ⟨hlow, hnew⟩ := List.append_inj hbelow (by simp)
      refine ⟨b', ?_, ?_, ?_⟩
      · rw [hbytes, List.length_append, ← Nat.add_assoc]
        exact hround.trans hread
      · exact hlow.trans (Buf.slice_congr fun i hi => Buf.blit_below b _ (by omega))
      · rw [hbytes, List.length_append, Buf.slice_append, hrest, hnew, Buf.slice_blit]
    · exact absurd hcut (Nat.lt_irrefl _)

/-- One that does not fit is given up as a whole. -/
theorem readNlSock_overrun (b : Buf) (msgLen : Nat) {pid : UInt32} {groups : List (List Route)}
    (hwf : Dump.Wf h groups) (hmsg : msgLen ≤ bufSize)
    (hover : bufSize < msgLen + (dumpBytes h pid groups).length + 20) :
    readNlSock h 1 pid b msgLen (nlDump h pid groups) = .failed := by
  induction groups generalizing b msgLen with
  | nil =>
    have hnone : (dumpBytes h pid []).length = 0 := rfl
    rw [hnone] at hover
    have hend : (nlMessage h nlmsgDone pid [0, 0, 0, 0] ++ []).take (bufSize - msgLen) = _ := rfl
    have hstep := readNlSock_step b msgLen [] (show nlmsgDone ≠ nlmsgError by decide) (by decide) hend
    have hcut : ¬ sizeofNlmsghdr + [0, 0, 0, (0 : UInt8)].length ≤
        ((nlMessage h nlmsgDone pid [0, 0, 0, 0] ++ []).take (bufSize - msgLen)).length := by
      rw [List.length_take]
      simp only [sizeofNlmsghdr, List.length_cons, List.length_nil]
      omega
    rw [if_neg hcut, List.append_nil] at hstep
    exact hstep
  | cons g gs ih =>
    rw [dumpBytes_cons, List.length_append] at hover
    have hround := readNlSock_group b msgLen (nlDump h pid gs) (hwf g List.mem_cons_self)
      (rfl : (paddedAll (g.map (Route.message h pid))).take (bufSize - msgLen) = _)
    obtain hround | ⟨-, hfailed⟩ := hround
    · refine hround.trans ?_
      by_cases hall : (paddedAll (g.map (Route.message h pid))).length ≤ bufSize - msgLen
      · rw [List.take_of_length_le hall]
        exact ih _ _ hwf.tail (by omega) (by omega)
      · have hlen : msgLen + ((paddedAll (g.map (Route.message h pid))).take (bufSize - msgLen)).length =
            bufSize := by
          rw [List.length_take]
          omega
        rw [hlen]
        exact readNlSock_full gs
    · exact hfailed

/-! ## All gateways or none -/

/-- The addresses are collected unless `realloc` fails for one of them. -/
theorem foldlM_addGateway (realloc : Nat → Bool) (gws : List (In6Addr × UInt32))
    (xs : List (Option (In6Addr × UInt32))) :
    xs.foldlM (addGateway realloc) gws =
      if ∀ k, gws.length ≤ k → k < gws.length + (xs.filterMap id).length → realloc k = true then
        .ok (gws ++ (xs.filterMap id))
      else .error .noMem := by
  induction xs generalizing gws with
  | nil =>
    have hall : ∀ k, gws.length ≤ k → k < gws.length + ([] : List (In6Addr × UInt32)).length →
        realloc k = true := by
      intro k hle hlt
      exact absurd hlt (Nat.not_lt.mpr hle)
    rw [List.filterMap_nil, if_pos hall, List.append_nil]
    rfl
  | cons x xs ih =>
    rw [List.foldlM_cons]
    cases x with
    | none => exact ih gws
    | some gw =>
      have hcons : (some gw :: xs).filterMap id = gw :: xs.filterMap id := rfl
      rw [hcons, addGateway]
      by_cases hfirst : realloc gws.length = true
      · rw [if_pos hfirst]
        refine (ih (gws ++ [gw])).trans ?_
        have hiff : (∀ k, (gws ++ [gw]).length ≤ k → k < (gws ++ [gw]).length + (xs.filterMap id).length →
            realloc k = true) ↔
            ∀ k, gws.length ≤ k → k < gws.length + (gw :: xs.filterMap id).length → realloc k = true := by
          simp only [List.length_append, List.length_cons, List.length_nil]
          constructor
          · intro hrest k hle hlt
            rcases Nat.eq_or_lt_of_le hle with rfl | hlater
            · exact hfirst
            · exact hrest k hlater (by omega)
          · intro hall k hle hlt
            exact hall k (by omega) (by omega)
        simp only [hiff, List.append_assoc, List.singleton_append]
      · rw [if_neg hfirst, if_neg]
        · rfl
        · intro hall
          exact hfirst (hall _ (Nat.le_refl _) (by simp))

/-- The messages of a collected dump, and the gateway in each. -/
theorem starts_dump {pid : UInt32} {groups : List (List Route)} (hwf : Dump.Wf h groups)
    (hfit : (dumpBytes h pid groups).length ≤ bufSize)
    (hb : b.slice 0 (dumpBytes h pid groups).length = dumpBytes h pid groups) :
    ((nlmsgFraming h).starts b (bufSize + 1) 0 (dumpBytes h pid groups).length).map
      (List.map (routeGateway h b)) = some (groups.flatten.map Route.found) := by
  have hroutes : ∀ r ∈ groups.flatten, r.Wf h := by
    intro r hr
    obtain ⟨g, hg, hr⟩ := List.mem_flatten.mp hr
    exact (hwf g hg).2 r hr
  have hframed : ∀ x ∈ groups.flatten.map (Route.message h pid),
      (nlmsgFraming h).Framed x ∧ 0 < x.length := by
    intro x hx
    obtain ⟨r, hr, rfl⟩ := List.mem_map.mp hx
    have hsmall := (hroutes r hr).size
    have hlen := nlMessage_length (h := h) rtmNewroute pid (r.bytes h)
    refine ⟨nlMessage_framed (by simp only [sizeofNlmsghdr]; omega), ?_⟩
    rw [Route.message, hlen]
    exact Nat.lt_add_right _ (by decide)
  have hcount := length_le_paddedAll fun x hx => (hframed x hx).2
  have hstarts : (nlmsgFraming h).starts b (bufSize + 1) 0 (dumpBytes h pid groups).length =
      some (offsets 0 (groups.flatten.map (Route.message h pid))) :=
    Framing.starts_of_bytes (fun x hx => (hframed x hx).1) (Nat.lt_succ_of_le (hcount.trans hfit))
      (Nat.lt_of_le_of_lt hfit (by decide)) hb
  have hfound := map_offsets (fun r hr off ho => routeGateway_message (hroutes r hr) ho) hb
  rw [hstarts, Option.map_some, hfound]

/-- A dump that does not fit into the buffer with its end gives no gateways. -/
theorem getgateways_overrun {pid : UInt32} {groups : List (List Route)} (hwf : Dump.Wf h groups)
    (realloc : Nat → Bool) (hover : bufSize < (dumpBytes h pid groups).length + 20) :
    getgateways h pid ⟨true, true, nlDump h pid groups, realloc⟩ = some (.error .recvFailed) := by
  have hfailed := readNlSock_overrun (Buf.ofList (nlRequest h pid)) 0 hwf (Nat.zero_le _)
    (by rwa [Nat.zero_add])
  simp only [getgateways, not_true, if_false, hfailed]

/-- One that fits gives the gateways of all its routes, in their order, and none after a failed `realloc`. -/
theorem getgateways_collects {pid : UInt32} {groups : List (List Route)} (hwf : Dump.Wf h groups)
    (realloc : Nat → Bool) (hfit : ¬ bufSize < (dumpBytes h pid groups).length + 20) :
    getgateways h pid ⟨true, true, nlDump h pid groups, realloc⟩ = some
      (if ∀ k < (groups.flatten.filterMap Route.found).length, realloc k = true then
        .ok (groups.flatten.filterMap Route.found)
      else .error .noMem) := by
  obtain ⟨b', hread, -, hbytes⟩ := readNlSock_dump (Buf.ofList (nlRequest h pid)) 0 hwf
    (show 0 + (dumpBytes h pid groups).length + 20 ≤ bufSize by omega)
  rw [Nat.zero_add] at hread
  have hstarts := starts_dump hwf (by omega) hbytes
  simp only [getgateways, not_true, if_false, hread]
  obtain ⟨offs, hoffs, hgws⟩ := Option.map_eq_some_iff.mp hstarts
  have hfold := foldlM_addGateway realloc [] (groups.flatten.map Route.found)
  rw [hoffs, Option.map_some, hgws, hfold]
  simp [List.filterMap_map]

/-- A dump that fits into the buffer with its end gives the gateways of all its routes, in their order; one
that does not gives none, and so does a failed `realloc`. -/
theorem getgateways_dump {pid : UInt32} {groups : List (List Route)} (hwf : Dump.Wf h groups)
    (realloc : Nat → Bool) :
    getgateways h pid ⟨true, true, nlDump h pid groups, realloc⟩ = some
      (if bufSize < (dumpBytes h pid groups).length + 20 then .error .recvFailed
      else if ∀ k < (groups.flatten.filterMap Route.found).length, realloc k = true then
        .ok (groups.flatten.filterMap Route.found)
      else .error .noMem) := by
  by_cases hover : bufSize < (dumpBytes h pid groups).length + 20
  · rw [if_pos hover]
    exact getgateways_overrun hwf realloc hover
  · rw [if_neg hover]
    exact getgateways_collects hwf realloc hover

/-- Two default routes and one to a network of its own interface, in two datagrams. -/
def defaultRoutes : List (List Route) :=
  [[⟨afInet, 0, 0, 0, rtTableMain, 3, 0, 1, 0, [.gateway [192, 0, 2, 1], .oif 2]⟩,
    ⟨afInet, 24, 0, 0, rtTableMain, 2, 253, 1, 0, [.other 1 [192, 0, 2, 0], .oif 2]⟩],
    [⟨afInet6, 0, 0, 0, rtTableMain, 9, 0, 1, 0,
      [.oif 3, .gateway [0xfe, 0x80, 0, 0, 0, 0, 0, 0, 0, 0, 0, 0, 0, 0, 0, 1]]⟩]]

theorem defaultRoutes_wf : Dump.Wf .little defaultRoutes := by
  intro g hg
  simp only [defaultRoutes, List.mem_cons, List.not_mem_nil, or_false] at hg
  rcases hg with rfl | rfl
  · refine ⟨by simp, fun r hr => ?_⟩
    simp only [List.mem_cons, List.not_mem_nil, or_false] at hr
    rcases hr with rfl | rfl <;> refine ⟨fun a ha => ?_, by decide⟩ <;>
      simp only [List.mem_cons, List.not_mem_nil, or_false] at ha <;>
      rcases ha with rfl | rfl <;> exact ⟨by decide, by simp [rtaOif, rtaGateway]⟩
  · refine ⟨by simp, fun r hr => ?_⟩
    obtain rfl := List.mem_singleton.mp hr
    refine ⟨fun a ha => ?_, by decide⟩
    simp only [List.mem_cons, List.not_mem_nil, or_false] at ha
    rcases ha with rfl | rfl <;> exact ⟨by decide, by simp⟩

theorem getgateways_dump_default :
    getgateways .little 7 ⟨true, true, nlDump .little 7 defaultRoutes, fun _ => true⟩ =
      some (.ok [(.v4mapped 0xC0000201, 2), (⟨0xFE800000, 0, 0, 1⟩, 3)]) := by
  have hfit : ¬ bufSize < (dumpBytes .little 7 defaultRoutes).length + 20 := by decide +kernel
  have hall : ∀ k < (defaultRoutes.flatten.filterMap Route.found).length, (fun _ => true) k = true :=
    fun _ _ => rfl
  rw [getgateways_dump defaultRoutes_wf, if_neg hfit, if_pos hall]
  decide

end Records

end LibPcp
