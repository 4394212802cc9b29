import LibPcp.AppParams
import LibPcp.ServerLoop
import LibPcp.Timeval

/-!
# LibPcp.ServerArgs

The test server from its command line on (`main` in `pcp_server.c`), as it is built with the `getopt_long`
of `win_utils`.

The options are numbers in one byte each, so `--ear 256` is no end and `-r 256` is success. A bad port is
not taken, but one that was good before it stays. The external address is what the stack has held if none
is given, or if none of those given can be read. What is printed on the standard output is left out.

* `serverMain_iff`: the server starts on just the command lines whose options it knows, with what they say.
* `serverRun_answers`: how many requests it answers, and what every answer has of the options.
-/

namespace LibPcp

open CText Getopt ByteBuffer

/-- The variables of `main` that options set, with `server_info_storage.ext_ip`. -/
@[ext]
structure ServerParams where
  port : Text := "5351".toList
  pcpVersion : UInt8 := 2
  endAfterRecv : UInt8 := 0
  defaultResultCode : UInt8 := 255
  timeoutUs : Int := 0
  serverIp : Text := "0.0.0.0".toList
  appBit : UInt8 := 0
  retDscp : UInt8 := 0
  logFile : Option Text := none
  extIp : In6Addr
  deriving DecidableEq, Repr

/-- `long_options`. -/
def serverLongOptions : List LongOpt :=
  [⟨"ear".toList, true⟩,
   ⟨"help".toList, false⟩,
   ⟨"ip".toList, true⟩,
   ⟨"ext-ip".toList, true⟩,
   ⟨"timeout".toList, true⟩,
   ⟨"app-bit".toList, false⟩,
   ⟨"ret-dscp".toList, true⟩,
   ⟨"log-file".toList, true⟩]

def serverTable : Table := ⟨"hr:v:p:".toList, serverLongOptions⟩

section Main

-- `inet_pton` for IPv6.
variable (inetPton6 : Text → Option In6Addr)

/-- The case of the long options. -/
def serverLong (name optarg : Text) (x : ServerParams) : Except Exit ServerParams :=
  if name = "ear".toList then .ok { x with endAfterRecv := UInt8.ofInt (atoi optarg) }
  else if name = "timeout".toList then
    if atoi optarg < 0 then .error ⟨1, []⟩ else .ok { x with timeoutUs := atoi optarg }
  else if name = "app-bit".toList then .ok { x with appBit := 1 }
  else if name = "ret-dscp".toList then .ok { x with retDscp := UInt8.ofInt (atoi optarg) }
  else if name = "log-file".toList then .ok { x with logFile := some optarg }
  else if name = "ip".toList then .ok { x with serverIp := optarg }
  else if name = "ext-ip".toList then .ok { x with extIp := (inetPton6 optarg).getD x.extIp }
  else if name = "help".toList then .error ⟨1, []⟩
  else .ok x

/-- The cases of the letters. -/
def serverLetter (c : Char) (optarg : Text) (x : ServerParams) : Except Exit ServerParams :=
  if c = 'p' then
    let testPort := atoi optarg
    .ok (if testPort < 1 ∨ testPort > 65535 then x else { x with port := optarg })
  else if c = 'r' then
    let code := UInt8.ofInt (atoi optarg)
    if code > 13 ∧ code ≠ 255 then .error ⟨1, []⟩ else .ok { x with defaultResultCode := code }
  else if c = 'v' then
    let version := UInt8.ofInt (atoi optarg)
    if version < 1 ∨ version > 2 then .error ⟨1, []⟩ else .ok { x with pcpVersion := version }
  else .error ⟨1, []⟩

/-- The case `?`. -/
def serverUnknown (s : Scan) : Exit :=
  if isprint s.optopt then ⟨1, "Unknown option `-".toList ++ s.optopt :: "'.\n".toList⟩
  else ⟨1, "Unknown option character `\\x".toList ++ Nat.toDigits 16 s.optopt.toNat ++ "'.\n".toList⟩

/-- The body of the loop. -/
def serverOption (x : ServerParams) (r : Result) (s : Scan) : Except Exit ServerParams :=
  match r with
  | .long i =>
    match serverLongOptions[i]? with
    | none => .ok x
    | some o => serverLong inetPton6 o.name (s.optarg.getD []) x
  | .short c => serverLetter c (s.optarg.getD []) x
  | .bad => .error (serverUnknown s)
  | _ => .error ⟨1, []⟩

/-- The arguments of `execPCPServer`. -/
structure ServerStart where
  port : Text
  serverIp : Text
  info : ServerSetup
  tv : Timeval
  logFile : Text
  deriving DecidableEq, Repr

def maxLogFile : Nat := 64

/-- `server_info_storage` after the loop. Of `log_file` it is what is written there. -/
def ServerParams.start (now : Int) (x : ServerParams) : ServerStart where
  port := x.port
  serverIp := x.serverIp
  info :=
    { serverVersion := x.pcpVersion, extIp := x.extIp, appBit := x.appBit, retDscp := x.retDscp
      epochTimeStart := now, endAfterRecv := x.endAfterRecv, defaultResultCode := x.defaultResultCode }
  tv := ⟨x.timeoutUs.tdiv 1000, x.timeoutUs.tmod 1000 * 1000⟩
  logFile := (x.logFile.getD [] ++ ['\x00']).take maxLogFile

/-- `main` up to `execPCPServer`; `stack` is what `server_info_storage.ext_ip` has held before. -/
def serverMain (stack : In6Addr) (now : Int) (argv : List Text) : Option (Except Exit ServerStart) :=
  (getoptLoop serverTable argv (serverOption inetPton6) (rounds argv) {} { extIp := stack }).map
    fun x => x.map (ServerParams.start now)

/-- Nothing is logged, and `recvfrom` waits for ever. -/
def ServerStart.Bare (st : ServerStart) : Prop := st.logFile = ['\x00'] ∧ st.tv = .zero

instance (st : ServerStart) : Decidable st.Bare := inferInstanceAs (Decidable (_ ∧ _))

/-- `main` while these requests arrive, each with its time: the responses. A server that opens a log file for
every request, or that may stop waiting for one, is left out. -/
def serverRun (stack : In6Addr) (now : Int) (argv : List Text) (reqs : List (Int × List UInt8)) :
    Option (Except Exit (List (List UInt8))) :=
  match serverMain inetPton6 stack now argv with
  | some (.ok st) => if st.Bare then some (.ok (execPCPServer st.info reqs)) else none
  | some (.error x) => some (.error x)
  | none => none

end Main

/-! ## What the options say -/

/-- The argument if it is the option `r`. -/
def argOn (r : Result) (o : Opt) : Option Text := if o.1 = r then some (o.2.getD []) else none

def numberOn (r : Result) (o : Opt) : Option Int := (argOn r o).map atoi

/-- The port, if it is one. -/
def portOn (o : Opt) : Option Text :=
  (argOn (.short 'p') o).filter fun arg => 1 ≤ atoi arg ∧ atoi arg ≤ 65535

/-- What the options say, the last of them first. -/
def serverSaid (inetPton6 : Text → Option In6Addr) (stack : In6Addr) (os : List Opt) : ServerParams where
  port := (os.findSome? portOn).getD "5351".toList
  pcpVersion := (os.findSome? (numberOn (.short 'v'))).elim 2 UInt8.ofInt
  endAfterRecv := (os.findSome? (numberOn (.long 0))).elim 0 UInt8.ofInt
  defaultResultCode := (os.findSome? (numberOn (.short 'r'))).elim 255 UInt8.ofInt
  timeoutUs := (os.findSome? (numberOn (.long 4))).getD 0
  serverIp := (os.findSome? (argOn (.long 2))).getD "0.0.0.0".toList
  appBit := if os.any (·.1 = .long 5) then 1 else 0
  retDscp := (os.findSome? (numberOn (.long 6))).elim 0 UInt8.ofInt
  logFile := os.findSome? (argOn (.long 7))
  extIp := (os.findSome? fun o => (argOn (.long 3) o).bind inetPton6).getD stack

/-- The options the server goes on after. -/
def ServerGoes (o : Opt) : Prop :=
  match o.1 with
  | .short 'p' => True
  | .short 'r' => UInt8.ofInt (atoi (o.2.getD [])) ≤ 13 ∨ UInt8.ofInt (atoi (o.2.getD [])) = 255
  | .short 'v' => 1 ≤ UInt8.ofInt (atoi (o.2.getD [])) ∧ UInt8.ofInt (atoi (o.2.getD [])) ≤ 2
  | .long 1 => False
  | .long 4 => 0 ≤ atoi (o.2.getD [])
  | .long _ => True
  | _ => False

section Accepted

variable {inetPton6 : Text → Option In6Addr} {stack : In6Addr} {now : Int} {argv : List Text}
  {x y y' : ServerParams}

def serverSee (inetPton6 : Text → Option In6Addr) (x : ServerParams) (o : Opt) : Option ServerParams :=
  (serverOption inetPton6 x o.1 { optarg := o.2 }).toOption

theorem took {P : Prop} (hP : P) (hx : y = x) : some x = some y' ↔ P ∧ y' = y := by
  subst hx
  exact ⟨fun h => ⟨hP, (Option.some.inj h).symm⟩, fun h => congrArg some h.2.symm⟩

theorem refused {P : Prop} (hP : ¬ P) : none = some y' ↔ P ∧ y' = y := by
  constructor
  · intro h
    cases h
  · exact fun h => absurd h.1 hP

theorem argOn_self (r : Result) (arg : Option Text) : argOn r (r, arg) = some (arg.getD []) := if_pos rfl

theorem extIp_said (arg : Option Text) (os : List Opt) :
    (serverSaid inetPton6 stack ((.long 3, arg) :: os)).extIp =
      (inetPton6 (arg.getD [])).getD (serverSaid inetPton6 stack os).extIp := by
  simp only [serverSaid, List.findSome?_cons, argOn_self, Option.bind_some]
  cases inetPton6 (arg.getD []) <;> rfl

theorem port_said (arg : Option Text) (os : List Opt) :
    (serverSaid inetPton6 stack ((.short 'p', arg) :: os)).port =
      if atoi (arg.getD []) < 1 ∨ atoi (arg.getD []) > 65535 then (serverSaid inetPton6 stack os).port
      else arg.getD [] := by
  simp only [serverSaid, List.findSome?_cons, portOn, argOn_self]
  by_cases hport : 1 ≤ atoi (arg.getD []) ∧ atoi (arg.getD []) ≤ 65535
  · rw [if_neg (by omega), Option.filter_some, if_pos (decide_eq_true hport)]
    rfl
  · rw [if_pos (by omega), Option.filter_some, if_neg (by simpa using hport)]

/-- A long option is one assignment more, or none. -/
theorem serverSee_long (i : Nat) (arg : Option Text) (os : List Opt) :
    serverSee inetPton6 (serverSaid inetPton6 stack os) (.long i, arg) = some y' ↔
      ServerGoes (.long i, arg) ∧ y' = serverSaid inetPton6 stack ((.long i, arg) :: os) := by
  match i with
  | 0 | 2 | 5 | 6 | 7 => exact took trivial rfl
  | 1 => exact refused id
  | 3 => exact took trivial (ServerParams.ext rfl rfl rfl rfl rfl rfl rfl rfl rfl (extIp_said arg os))
  | 4 =>
    change (if atoi (arg.getD []) < 0 then Except.error _ else .ok _).toOption = some y' ↔ _
    by_cases hneg : atoi (arg.getD []) < 0
    · rw [if_pos hneg]
      exact refused (Int.not_le.mpr hneg)
    · rw [if_neg hneg]
      exact took (Int.not_lt.mp hneg) rfl
  | i + 8 => exact took trivial rfl

theorem serverSee_port (arg : Option Text) (os : List Opt) :
    serverSee inetPton6 (serverSaid inetPton6 stack os) (.short 'p', arg) = some y' ↔
      True ∧ y' = serverSaid inetPton6 stack ((.short 'p', arg) :: os) := by
  have hport := @port_said inetPton6 stack arg os
  refine took trivial ?_
  by_cases hbad : atoi (arg.getD []) < 1 ∨ atoi (arg.getD []) > 65535
  · rw [if_pos hbad] at hport ⊢
    exact ServerParams.ext hport rfl rfl rfl rfl rfl rfl rfl rfl rfl
  · rw [if_neg hbad] at hport ⊢
    exact ServerParams.ext hport rfl rfl rfl rfl rfl rfl rfl rfl rfl

theorem serverSee_code (arg : Option Text) (os : List Opt) :
    serverSee inetPton6 (serverSaid inetPton6 stack os) (.short 'r', arg) = some y' ↔
      ServerGoes (.short 'r', arg) ∧ y' = serverSaid inetPton6 stack ((.short 'r', arg) :: os) := by
  change (if UInt8.ofInt (atoi (arg.getD [])) > 13 ∧ UInt8.ofInt (atoi (arg.getD [])) ≠ 255 then Except.error _
    else .ok _).toOption = some y' ↔ _
  by_cases hbad : UInt8.ofInt (atoi (arg.getD [])) > 13 ∧ UInt8.ofInt (atoi (arg.getD [])) ≠ 255
  · rw [if_pos hbad]
    exact refused fun h => h.elim (UInt8.not_le.mpr hbad.1) hbad.2
  · rw [if_neg hbad]
    refine took ?_ rfl
    by_cases hgt : UInt8.ofInt (atoi (arg.getD [])) > 13
    · exact .inr (not_not.mp fun hne => hbad ⟨hgt, hne⟩)
    · exact .inl (UInt8.not_lt.mp hgt)

theorem serverSee_version (arg : Option Text) (os : List Opt) :
    serverSee inetPton6 (serverSaid inetPton6 stack os) (.short 'v', arg) = some y' ↔
      ServerGoes (.short 'v', arg) ∧ y' = serverSaid inetPton6 stack ((.short 'v', arg) :: os) := by
  change (if UInt8.ofInt (atoi (arg.getD [])) < 1 ∨ UInt8.ofInt (atoi (arg.getD [])) > 2 then Except.error _
    else .ok _).toOption = some y' ↔ _
  by_cases hbad : UInt8.ofInt (atoi (arg.getD [])) < 1 ∨ UInt8.ofInt (atoi (arg.getD [])) > 2
  · rw [if_pos hbad]
    exact refused fun h => hbad.elim (UInt8.not_lt.mpr h.1) (UInt8.not_lt.mpr h.2)
  · rw [if_neg hbad]
    exact took ⟨UInt8.not_lt.mp fun h => hbad (.inl h), UInt8.not_lt.mp fun h => hbad (.inr h)⟩ rfl

theorem serverSee_letter (c : Char) (arg : Option Text) (os : List Opt) :
    serverSee inetPton6 (serverSaid inetPton6 stack os) (.short c, arg) = some y' ↔
      ServerGoes (.short c, arg) ∧ y' = serverSaid inetPton6 stack ((.short c, arg) :: os) := by
  by_cases hp : c = 'p'
  · subst hp
    exact serverSee_port arg os
  by_cases hr : c = 'r'
  · subst hr
    exact serverSee_code arg os
  by_cases hv : c = 'v'
  · subst hv
    exact serverSee_version arg os
  have hgoes : ¬ ServerGoes (.short c, arg) := by
    intro h
    unfold ServerGoes at h
    split at h <;> simp_all
  have hletter : ∀ x, serverLetter c (arg.getD []) x = .error ⟨1, []⟩ := fun x => by
    rw [serverLetter, if_neg hp, if_neg hr, if_neg hv]
  change (serverLetter c (arg.getD []) _).toOption = some y' ↔ _
  rw [hletter]
  exact refused hgoes

/-- One option more. -/
theorem serverSee_said (o : Opt) (os : List Opt) :
    serverSee inetPton6 (serverSaid inetPton6 stack os) o = some y' ↔
      ServerGoes o ∧ y' = serverSaid inetPton6 stack (o :: os) := by
  obtain ⟨r, arg⟩ := o
  cases r with
  | done | bad | badArg => exact refused id
  | short c => exact serverSee_letter c arg os
  | long i => exact serverSee_long i arg os

theorem serverOption_proper : Proper serverTable (serverOption inetPton6) (serverSee inetPton6) where
  bad _ _ := rfl
  badArg _ _ := rfl
  short _ _ _ := rfl
  long _ _ _ := rfl
  flag x i w arg h := by
    -- Only `--help` and `--app-bit` take no argument, and none is looked at.
    simp only [Table.longOpt, Option.bind_eq_some_iff, Option.map_eq_some_iff, Prod.mk.injEq] at h
    obtain ⟨j, -, o, ho, rfl, hflag⟩ := h
    have hall : ∀ k < 8, serverLongOptions[k]?.map (·.required) = some false → k = 1 ∨ k = 5 := by decide
    have hrow : serverLongOptions[j]? = some o := ho
    have hj := hall j (List.getElem?_eq_some_iff.mp hrow).1 (by rw [hrow, Option.map_some, hflag])
    rcases hj with rfl | rfl <;> rfl

/-- The options of a command line on which the server starts. -/
structure ServerReads (argv : List Text) (os : List Opt) : Prop where
  reads : Reads serverTable [] argv.tail os
  goes : ∀ o ∈ os, ServerGoes o

theorem serverLoop_ok :
    getoptLoop serverTable argv (serverOption inetPton6) (rounds argv) {} { extIp := stack } = some (.ok x) ↔
      ∃ os, ServerReads argv os ∧ x = serverSaid inetPton6 stack os.reverse := by
  rw [getopt_accepts_iff serverOption_proper]
  refine exists_congr fun os => ?_
  have hsaid : seeAll (serverSee inetPton6) os { extIp := stack } = some x ↔
      (∀ o ∈ os, ServerGoes o) ∧ x = serverSaid inetPton6 stack (os.reverse ++ []) :=
    seeAll_iff (fun o _ before y => serverSee_said o before) []
  rw [hsaid, List.append_nil, ← and_assoc]
  exact and_congr_left' ⟨fun h => ⟨h.1, h.2⟩, fun h => ⟨h.1, h.2⟩⟩

/-- The server starts on just the command lines whose options it knows and can use, with what they say, the
later ones first. -/
theorem serverMain_iff (inetPton6 : Text → Option In6Addr) (stack : In6Addr) (now : Int) (argv : List Text)
    (st : ServerStart) :
    serverMain inetPton6 stack now argv = some (.ok st) ↔
      ∃ os, ServerReads argv os ∧ st = (serverSaid inetPton6 stack os.reverse).start now := by
  rw [serverMain, Option.map_eq_some_iff]
  constructor
  · rintro ⟨r, hr, hst⟩
    cases r with
    | error x => cases hst
    | ok x =>
      cases hst
      obtain ⟨os, hos, rfl⟩ := serverLoop_ok.mp hr
      exact ⟨os, hos, rfl⟩
  · rintro ⟨os, hos, rfl⟩
    exact ⟨_, serverLoop_ok.mpr ⟨os, hos, rfl⟩, rfl⟩

end Accepted

/-! ## What it answers -/

/-- What the response `r` to the request `q` has of the settings. -/
structure AnsweredAs (info : ServerSetup) (q : Int × List UInt8) (r : List UInt8) : Prop where
  length : r.length = min q.2.length (pcpMaxLen - 1)
  opcode : 4 ≤ r.length → Buf.ofList r 1 = Buf.ofList q.2 1 ||| 0x80
  code : 4 ≤ r.length → info.defaultResultCode ≠ 255 → Buf.ofList r 3 = info.defaultResultCode
  judged : 4 ≤ r.length → info.defaultResultCode = 255 → ServerCode (UInt32.ofNat (Buf.ofList r 3).toNat)
  version : 4 ≤ r.length →
    Buf.ofList r 0 = if Buf.ofList r 3 = 1 then info.serverVersion else Buf.ofList q.2 0
  epoch : 12 ≤ r.length →
    (Buf.ofList r).u32 8 = UInt32.ofNat ((q.1 - info.epochTimeStart) % 2 ^ 32).toNat
  mapping : Buf.ofList r 3 ≠ 1 → (readMapping (Buf.ofList q.2)).Maps →
    requestOptionsAt (Buf.ofList q.2 0) (receivedOpcode (Buf.ofList q.2)) ≤ r.length →
    readMapping (Buf.ofList r) =
      if (readMapping (Buf.ofList q.2)).operation = opcodeMap then
        { readMapping (Buf.ofList q.2) with extIp := info.extIp }
      else readMapping (Buf.ofList q.2)
  sadscp : Buf.ofList r 3 ≠ 1 → receivedOpcode (Buf.ofList q.2) = opcodeSadscp → 36 < r.length →
    Buf.ofList r 36 = (info.appBit <<< 7) ||| info.retDscp

section Answered

variable {info : ServerSetup} {t : Exec} {now : Int} {req : List UInt8}

theorem agreeTo_take (l : List UInt8) (k : Nat) :
    Buf.AgreeTo (l.take k).length (Buf.ofList (l.take k)) (Buf.ofList l) := by
  intro i hi
  have hlt : i < l.length := Nat.lt_of_lt_of_le hi (List.length_take_le' k l)
  rw [Buf.ofList_get hi, Buf.ofList_get hlt, List.getElem_take]

theorem createResponse_sadscp {code : Int} {b : Buf} (hcode : code ≠ (resUnsuppVersion.toNat : Int))
    (hop : receivedOpcode b = opcodeSadscp) :
    createResponse info.toServerInfo code now b 36 = (info.appBit <<< 7) ||| info.retDscp := by
  have hheader := (responseHeader_same info.toServerInfo code now b).operation.trans hop
  have hmap : ¬ opcodeSadscp = opcodeMap := by decide
  have hext : responseExtIp info.toServerInfo (responseHeader info.toServerInfo code now b) =
      responseHeader info.toServerInfo code now b := by
    rw [responseExtIp, ← receivedOpcode, hheader, if_neg hmap]
  rw [createResponse_eq, responseBody, if_neg hcode, hext, ← receivedOpcode, hheader, if_pos rfl]
  exact @Buf.blit_inside _ 36 0 [_] Nat.zero_lt_one

theorem resultCode_range (info : ServerSetup) {rc : UInt32} (hrc : ServerCode rc) :
    0 ≤ info.resultCode rc ∧ info.resultCode rc < 2 ^ 8 := by
  have hlt := hrc.lt
  have hdefault := info.defaultResultCode.toNat_lt
  unfold ServerSetup.resultCode
  split <;> omega

/-- The byte of the result code is all of it. -/
theorem resultCode_byte (info : ServerSetup) {rc : UInt32} (hrc : ServerCode rc) :
    ((UInt8.ofNat (info.resultCode rc % 2 ^ 8).toNat).toNat : Int) = info.resultCode rc := by
  obtain ⟨hmin, hmax⟩ := resultCode_range info hrc
  rw [UInt8.toNat_ofNat']
  omega

theorem execRound_answers (hoccur : t.occur = resetOptionOccur) :
    AnsweredAs info (now, req) (execRound info now req t).2 := by
  have hlength : (execRound info now req t).2.length = (req.take (pcpMaxLen - 1)).length := by
    rw [execRound_length, List.length_take]
  have hresp := execRound_response info now req hoccur
  have hb := (agreeTo_take req (pcpMaxLen - 1)).symm.trans (Buf.agreeTo_received t.buf _).symm
  have hrc : ServerCode (t.judge info req) := printPCPreq_code _ _ _ _
  have hbyte := resultCode_byte info hrc
  rw [← hlength] at hresp hb
  generalize (execRound info now req t).2 = r at hlength hresp hb
  generalize t.buf.blit 0 (req.take (pcpMaxLen - 1)) = b at hresp hb
  have hheader : ∀ i, 0 < i → i < 32 → i < r.length →
      Buf.ofList r i = responseHeader info.toServerInfo (info.resultCode (t.judge info req)) now b i :=
    fun i hpos hi hlen => by rw [hresp i hlen, createResponse_start hi (.inl hpos)]
  have hcode : 4 ≤ r.length → ((Buf.ofList r 3).toNat : Int) = info.resultCode (t.judge info req) :=
    fun hlen => by rw [← hbyte, hheader 3 (by omega) (by omega) hlen]; rfl
  have hone : 4 ≤ r.length →
      (Buf.ofList r 3 = 1 ↔ info.resultCode (t.judge info req) = (resUnsuppVersion.toNat : Int)) := by
    intro hlen
    rw [← hcode hlen, Int.ofNat_inj, ← UInt8.toNat_inj]
    rfl
  have hversion : 0 < r.length → info.resultCode (t.judge info req) ≠ (resUnsuppVersion.toNat : Int) →
      Buf.ofList r 0 = Buf.ofList req 0 := by
    intro hlen hne
    rw [hresp 0 hlen, createResponse_start (by omega) (.inr hne), hb 0 hlen]
    rfl
  constructor
  case length => rw [hlength, List.length_take, Nat.min_comm]
  case opcode =>
    intro hlen
    rw [hheader 1 (by omega) (by omega) (by omega), hb 1 (by omega)]
    rfl
  case code =>
    intro hlen hset
    have hdefault := hcode hlen
    rw [ServerSetup.resultCode, if_neg hset, Int.ofNat_inj] at hdefault
    exact UInt8.toNat_inj.mp hdefault
  case judged =>
    intro hlen hset
    have hjudged := hcode hlen
    rw [ServerSetup.resultCode, if_pos hset, Int.ofNat_inj] at hjudged
    rw [hjudged, UInt32.ofNat_toNat]
    exact hrc
  case version =>
    intro hlen
    by_cases hunsupp : info.resultCode (t.judge info req) = (resUnsuppVersion.toNat : Int)
    · rw [if_pos ((hone hlen).mpr hunsupp), hresp 0 (by omega), createResponse_eq, responseBody,
        if_pos hunsupp]
      rfl
    · rw [if_neg (mt (hone hlen).mp hunsupp), hversion (by omega) hunsupp]
  case epoch =>
    intro hlen
    rw [Buf.u32_congr 8 fun i hi hi' => hheader i (by omega) (by omega) (by omega)]
    exact Buf.u32_of_slice (Buf.slice_blit _ 8 (be32 _))
  case mapping =>
    intro hok hmaps hoptions
    have hlen : 48 ≤ r.length := (requestOptionsAt_bounds _ _).1.trans hoptions
    have hne := mt (hone (by omega)).mpr hok
    have hsame : readMapping b = readMapping (Buf.ofList req) :=
      readMapping_congr (sameMapping_of_agree hb hoptions)
    have hopcode : receivedOpcode (Buf.ofList r) = receivedOpcode (Buf.ofList req) := by
      rw [receivedOpcode, hheader 1 (by omega) (by omega) (by omega)]
      exact (responseHeader_same _ _ _ b).operation.trans (receivedOpcode_congr (by omega) hb)
    have hmapping := @createResponse_mapping info.toServerInfo _ now b hne (hsame ▸ hmaps)
    rw [hsame] at hmapping
    rw [← hmapping]
    refine (readMapping_congr (sameMapping_of_agree hresp ?_)).symm
    rw [hversion (by omega) hne, hopcode]
    exact hoptions
  case sadscp =>
    intro hok hop hlen
    have hne := mt (hone (by omega)).mpr hok
    rw [hresp 36 hlen]
    exact createResponse_sadscp hne ((receivedOpcode_congr (by omega) hb).trans hop)

/-- The responses are those to the first requests, one after the other. -/
theorem execLoop_answers (reqs : List (Int × List UInt8)) (hoccur : t.occur = resetOptionOccur)
    (hrun : info.endAfterRecv = 0 → t.execute ≠ 0) :
    List.Forall₂ (AnsweredAs info) (roundsLeft info t reqs) (execLoop info t reqs) := by
  induction reqs generalizing t with
  | nil => simp [execLoop, roundsLeft]
  | cons q qs ih =>
    by_cases hstop : t.execute = 0
    · rw [execLoop, if_pos hstop, roundsLeft_done hstop hrun]
      exact .nil
    · rw [execLoop, if_neg hstop, roundsLeft_cons hstop]
      exact .cons (execRound_answers hoccur) (ih rfl (execRound_runs hrun q))

/-- The number that `--ear` says. It is kept in one byte. -/
def earSaid (os : List Opt) : Nat := ((os.reverse.findSome? (numberOn (.long 0))).getD 0 % 256).toNat

theorem endAfterRecv_said (inetPton6 : Text → Option In6Addr) (stack : In6Addr) (os : List Opt) :
    (serverSaid inetPton6 stack os.reverse).endAfterRecv.toNat = earSaid os := by
  simp only [serverSaid, earSaid]
  cases os.reverse.findSome? (numberOn (.long 0)) with
  | none => rfl
  | some n =>
    change (UInt8.ofNat (n % 2 ^ 8).toNat).toNat = (n % 256).toNat
    rw [UInt8.toNat_ofNat']
    omega

theorem serverSaid_bare (inetPton6 : Text → Option In6Addr) (stack : In6Addr) (now : Int) {os : List Opt}
    (hlog : ∀ o ∈ os, o.1 ≠ .long 7) (htimeout : ∀ o ∈ os, o.1 = .long 4 → atoi (o.2.getD []) = 0) :
    ((serverSaid inetPton6 stack os.reverse).start now).Bare := by
  have hfile : (serverSaid inetPton6 stack os.reverse).logFile = none := by
    refine List.findSome?_eq_none_iff.mpr fun o ho => ?_
    exact if_neg (hlog o (List.mem_reverse.mp ho))
  have hzero : (serverSaid inetPton6 stack os.reverse).timeoutUs = 0 := by
    change (os.reverse.findSome? (numberOn (.long 4))).getD 0 = 0
    cases hfound : os.reverse.findSome? (numberOn (.long 4)) with
    | none => rfl
    | some t =>
      obtain ⟨o, ho, hnum⟩ := List.exists_of_findSome?_eq_some hfound
      unfold numberOn argOn at hnum
      split at hnum
      · rename_i hopt
        cases hnum
        exact htimeout o (List.mem_reverse.mp ho) hopt
      · cases hnum
  refine ⟨?_, ?_⟩
  · rw [ServerParams.start, hfile]
    rfl
  · rw [ServerParams.start, hzero]
    rfl

/-- Two requests, and a refusal for both. -/
def twoRefusals : List Text := ["pcp_server".toList, "--ear".toList, "2".toList, "-r3".toList]

theorem twoRefusals_reads :
    ServerReads twoRefusals [(.long 0, some "2".toList), (.short 'r', some "3".toList)] where
  reads := .longSeparate (by decide) (by decide) (by decide)
    (.word (by decide) (.attached (by decide) (by decide) (.ends trivial)))
  goes := by
    simp only [List.forall_mem_cons, List.not_mem_nil, false_implies, implies_true, and_true]
    exact ⟨trivial, .inl (by decide)⟩

end Answered

end LibPcp
