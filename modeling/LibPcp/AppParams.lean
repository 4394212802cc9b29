import LibPcp.Getopt
import LibPcp.Types

/-!
# LibPcp.AppParams

The command line of the client program (`parse_params` in `pcp_app.c`) with all its optional parts, as it
is built with the `getopt_long` of `win_utils`. The device id is not set there.

An option is a row of the table `FOREACH_OPTION` and an assignment or two. What is said later counts, but the
servers are all kept, each with the version that was said before it. What is printed on the standard output
is left out.

* `parse_described`: one option. `described` is what the options say, without an order of assignments.
* `parseParams_iff`: the program goes on with just what the options of a well-formed command line say.
* `parseParams_range`: the parameters some command line gives, and `commandLine` one that does.
-/

namespace LibPcp

open CText Getopt

/-- `struct pcp_server_list`. -/
structure ServerArg where
  server : Text
  version : UInt8
  deriving DecidableEq, Repr

/-- `struct pcp_params` as `parse_params` fills it. -/
@[ext]
structure PcpParams where
  intAddr : Option Text := none
  extAddr : Option Text := none
  peerAddr : Option Text := none
  filterAddr : Option Text := none
  optThirdpartyAddr : Option Text := none
  optPfailure : Bool := false
  optFilter : Bool := false
  optDscpUp : UInt8 := 0
  optDscpDown : UInt8 := 0
  optFlowp : Bool := false
  disAutoDiscovery : Bool := false
  optProtocol : UInt8 := 6
  optLifetime : UInt32 := 900
  pcpVersion : UInt8 := pcpMaxSupportedVersion
  fastReturn : Bool := false
  timeout : UInt32 := 1000
  optMdid : UInt32 := 0
  optMdVal : Text := []
  isMd : Bool := false
  hasSadscpData : Bool := false
  delayTolerance : UInt8 := 3
  lossTolerance : UInt8 := 3
  jitterTolerance : UInt8 := 3
  appName : Option Text := none
  appUserid : Text := []
  appLocation : Text := []
  hasMappeerData : Bool := false
  pcpServers : List ServerArg := []
  deriving DecidableEq, Repr

/-- The end of the program: its status and the text on the standard error. -/
structure Exit where
  code : Nat
  stderr : Text
  deriving DecidableEq, Repr

/-! ## The options -/

/-- `e_options`. -/
inductive EOption where
  | help
  | server
  | version
  | disdisc
  | timeout
  | fastRet
  | int
  | peer
  | ext
  | tcp
  | udp
  | prot
  | lifetime
  | dscpUp
  | dscpDown
  | pfailure
  | filter
  | thirdparty
  | mdId
  | mdVal
  | devId
  | location
  | userId
  | sadscpJit
  | sadscpLos
  | sadscpDel
  | sadscpApp
  deriving DecidableEq, Repr

/-- An `OPTION` of the table. -/
structure OptionRow where
  short : Option Char
  opt : EOption
  long : Text
  reqArg : Bool

/-- `FOREACH_OPTION`. -/
def foreachOption : List OptionRow :=
  [⟨some 'h', .help, "help".toList, false⟩,
   ⟨some 's', .server, "server".toList, true⟩,
   ⟨some 'v', .version, "pcp-version".toList, true⟩,
   ⟨some 'd', .disdisc, "disable-autodiscovery".toList, false⟩,
   ⟨some 'T', .timeout, "timeout".toList, true⟩,
   ⟨some 'f', .fastRet, "fast-return".toList, false⟩,
   ⟨some 'i', .int, "internal".toList, true⟩,
   ⟨some 'p', .peer, "peer".toList, true⟩,
   ⟨some 'e', .ext, "external".toList, true⟩,
   ⟨some 't', .tcp, "tcp".toList, false⟩,
   ⟨some 'u', .udp, "udp".toList, false⟩,
   ⟨some 'n', .prot, "protocol".toList, true⟩,
   ⟨some 'l', .lifetime, "lifetime".toList, true⟩,
   ⟨some 'U', .dscpUp, "dscp-up".toList, true⟩,
   ⟨some 'D', .dscpDown, "dscp-down".toList, true⟩,
   ⟨some 'P', .pfailure, "prefer-failure".toList, false⟩,
   ⟨some 'F', .filter, "filter".toList, true⟩,
   ⟨some '3', .thirdparty, "third-party".toList, true⟩,
   ⟨some 'I', .mdId, "metadata-id".toList, true⟩,
   ⟨some 'V', .mdVal, "metadata-value".toList, true⟩,
   ⟨none, .devId, "device-id".toList, false⟩,
   ⟨none, .location, "location".toList, false⟩,
   ⟨none, .userId, "user-id".toList, true⟩,
   ⟨some 'J', .sadscpJit, "jitter-tolerance".toList, true⟩,
   ⟨some 'L', .sadscpLos, "loss-tolerance".toList, true⟩,
   ⟨some 'E', .sadscpDel, "delay-tolerance".toList, true⟩,
   ⟨some 'A', .sadscpApp, "app-name".toList, true⟩]

/-- `short_opts_string`: an option without a letter gives its colon all the same. -/
def shortOptsString : Text :=
  foreachOption.flatMap fun r => r.short.toList ++ if r.reqArg then [':'] else []

def longOptions : List LongOpt := foreachOption.map fun r => ⟨r.long, r.reqArg⟩

def optionTable : Table := ⟨shortOptsString, longOptions⟩

/-! ## What they do -/

def parseOptHelp (_ : PcpParams) : Except Exit PcpParams := .error ⟨0, []⟩

def parseOptFastRet (p : PcpParams) : PcpParams := { p with fastReturn := true }

def parseOptServer (optarg : Text) (p : PcpParams) : PcpParams :=
  { p with pcpServers := ⟨optarg, p.pcpVersion⟩ :: p.pcpServers }

def parseOptVersion (optarg : Text) (p : PcpParams) : Except Exit PcpParams :=
  let v := UInt8.ofInt (atoi optarg)
  if v > pcpMaxSupportedVersion then
    .error ⟨1, "Unsupported version ".toList ++ decimal v.toNat ++ " \n".toList⟩
  else .ok { p with pcpVersion := v }

def parseOptDisdisc (p : PcpParams) : PcpParams := { p with disAutoDiscovery := true }

def parseOptTimeout (optarg : Text) (p : PcpParams) : PcpParams :=
  { p with timeout := UInt32.ofInt (atoi optarg * 1000) }

def parseOptInt (optarg : Text) (p : PcpParams) : PcpParams :=
  { p with intAddr := some optarg, hasMappeerData := true }

def parseOptPeer (optarg : Text) (p : PcpParams) : PcpParams :=
  { p with peerAddr := some optarg, hasMappeerData := true }

def parseOptExt (optarg : Text) (p : PcpParams) : PcpParams :=
  { p with extAddr := some optarg, hasMappeerData := true }

def parseOptTcp (p : PcpParams) : PcpParams := { p with optProtocol := 6, hasMappeerData := true }

def parseOptUdp (p : PcpParams) : PcpParams := { p with optProtocol := 17, hasMappeerData := true }

def parseOptProt (optarg : Text) (p : PcpParams) : PcpParams :=
  { p with optProtocol := UInt8.ofInt (atoi optarg), hasMappeerData := true }

def parseOptLifetime (optarg : Text) (p : PcpParams) : PcpParams :=
  { p with optLifetime := UInt32.ofInt (atoi optarg) }

def parseOptDscpUp (optarg : Text) (p : PcpParams) : PcpParams :=
  { p with optDscpUp := UInt8.ofInt (atoi optarg), optFlowp := true, hasMappeerData := true }

def parseOptDscpDown (optarg : Text) (p : PcpParams) : PcpParams :=
  { p with optDscpDown := UInt8.ofInt (atoi optarg), optFlowp := true, hasMappeerData := true }

def parseOptMdId (optarg : Text) (p : PcpParams) : PcpParams :=
  { p with optMdid := UInt32.ofInt (atoi optarg), isMd := true, hasMappeerData := true }

/-- `sizeof(p->opt_md_val)`. -/
def sizeofMdVal : Nat := 256

def parseOptMdVal (optarg : Text) (p : PcpParams) : PcpParams :=
  { p with optMdVal := optarg.take sizeofMdVal, isMd := true, hasMappeerData := true }

/-- `parse_opt_dev_id`, which has no body on Windows. -/
def parseOptDevId (p : PcpParams) : PcpParams := p

def geoStr : Text := "37.4111, -121.9262".toList

def parseOptLocation (p : PcpParams) : PcpParams := { p with appLocation := geoStr.take maxGeoStr }

def parseOptUserId (optarg : Text) (p : PcpParams) : PcpParams :=
  { p with appUserid := optarg.take (maxUserId - 1) }

def parseOptFilter (optarg : Text) (p : PcpParams) : PcpParams :=
  { p with filterAddr := some optarg, optFilter := true, hasMappeerData := true }

def parseOptPfailure (p : PcpParams) : PcpParams := { p with optPfailure := true, hasMappeerData := true }

def parseOptThirdparty (optarg : Text) (p : PcpParams) : PcpParams :=
  { p with optThirdpartyAddr := some optarg, hasMappeerData := true }

def parseOptSadscpJit (optarg : Text) (p : PcpParams) : PcpParams :=
  { p with jitterTolerance := UInt8.ofInt (atoi optarg), hasSadscpData := true }

def parseOptSadscpLos (optarg : Text) (p : PcpParams) : PcpParams :=
  { p with lossTolerance := UInt8.ofInt (atoi optarg), hasSadscpData := true }

def parseOptSadscpDel (optarg : Text) (p : PcpParams) : PcpParams :=
  { p with delayTolerance := UInt8.ofInt (atoi optarg), hasSadscpData := true }

def parseOptSadscpApp (optarg : Text) (p : PcpParams) : PcpParams :=
  { p with appName := some optarg, hasSadscpData := true }

/-- `parse_opt_##B(p)`. -/
def EOption.parse (o : EOption) (optarg : Text) (p : PcpParams) : Except Exit PcpParams :=
  match o with
  | .help => parseOptHelp p
  | .server => .ok (parseOptServer optarg p)
  | .version => parseOptVersion optarg p
  | .disdisc => .ok (parseOptDisdisc p)
  | .timeout => .ok (parseOptTimeout optarg p)
  | .fastRet => .ok (parseOptFastRet p)
  | .int => .ok (parseOptInt optarg p)
  | .peer => .ok (parseOptPeer optarg p)
  | .ext => .ok (parseOptExt optarg p)
  | .tcp => .ok (parseOptTcp p)
  | .udp => .ok (parseOptUdp p)
  | .prot => .ok (parseOptProt optarg p)
  | .lifetime => .ok (parseOptLifetime optarg p)
  | .dscpUp => .ok (parseOptDscpUp optarg p)
  | .dscpDown => .ok (parseOptDscpDown optarg p)
  | .pfailure => .ok (parseOptPfailure p)
  | .filter => .ok (parseOptFilter optarg p)
  | .thirdparty => .ok (parseOptThirdparty optarg p)
  | .mdId => .ok (parseOptMdId optarg p)
  | .mdVal => .ok (parseOptMdVal optarg p)
  | .devId => .ok (parseOptDevId p)
  | .location => .ok (parseOptLocation p)
  | .userId => .ok (parseOptUserId optarg p)
  | .sadscpJit => .ok (parseOptSadscpJit optarg p)
  | .sadscpLos => .ok (parseOptSadscpLos optarg p)
  | .sadscpDel => .ok (parseOptSadscpDel optarg p)
  | .sadscpApp => .ok (parseOptSadscpApp optarg p)

/-! ## The loop -/

/-- The row `PARSE_OPTION` takes: that of the letter, or that of the index. -/
def optionRow : Result → Option OptionRow
  | .short c => foreachOption.find? fun r => r.short = some c
  | .long i => foreachOption[i]?
  | _ => none

/-- `isprint` in the C locale. -/
def isprint (c : Char) : Bool := 32 ≤ c.toNat && c.toNat < 127

/-- The default action. What it says of a long option is about the last letter, as long as there is one. -/
def defaultAction (argv : List Text) (r : Result) (s : Scan) : Exit :=
  if r ≠ .bad then ⟨1, []⟩
  else if s.optopt.toNat = 0 then
    ⟨1, "Unknown option `".toList ++ argv[s.optind - 1]?.getD [] ++ "'.\n".toList⟩
  else if isprint s.optopt then ⟨1, "Unknown option `-".toList ++ s.optopt :: "'.\n".toList⟩
  else ⟨1, "Unknown option character `\\x".toList ++ Nat.toDigits 16 s.optopt.toNat ++ "'.\n".toList⟩

/-- The body of the loop. -/
def parseOption (argv : List Text) (p : PcpParams) (r : Result) (s : Scan) : Except Exit PcpParams :=
  match optionRow r with
  | some row => row.opt.parse (s.optarg.getD []) p
  | none => .error (defaultAction argv r s)

/-- The tests after the loop. -/
def checkOperation (p : PcpParams) : Except Exit PcpParams :=
  if p.hasMappeerData ∧ p.hasSadscpData then
    .error ⟨1, "Cannot mix parameters for SADSCP operation and MAP/PEER op.\n".toList⟩
  else if ¬ p.hasMappeerData ∧ ¬ p.hasSadscpData then
    .error ⟨1, "give at least one parameter for MAP/PEER op. or for SADSCP op\n".toList⟩
  else .ok p

/-- `parse_params`. The loop gets as many rounds as it may need. -/
def parseParams (argv : List Text) : Option (Except Exit PcpParams) :=
  if argv.length = 1 then some (.error ⟨1, []⟩)
  else (getoptLoop optionTable argv (parseOption argv) (rounds argv) {} {}).map fun p => p.bind checkOperation

/-! ## What the options say -/

/-- An option with its argument. -/
abbrev Setting := EOption × Text

section Said

/-- The argument if it is the option `e`. -/
def argOf (e : EOption) (o : Setting) : Option Text := if o.1 = e then some o.2 else none

def numberOf (e : EOption) (o : Setting) : Option Int := (argOf e o).map atoi

def protocolOf : Setting → Option UInt8
  | (.tcp, _) => some 6
  | (.udp, _) => some 17
  | (.prot, arg) => some (UInt8.ofInt (atoi arg))
  | _ => none

def EOption.isMapPeer : EOption → Bool
  | .int | .peer | .ext | .tcp | .udp | .prot | .dscpUp | .dscpDown | .pfailure | .filter | .thirdparty | .mdId
  | .mdVal => true
  | _ => false

def EOption.isSadscp : EOption → Bool
  | .sadscpJit | .sadscpLos | .sadscpDel | .sadscpApp => true
  | _ => false

def versionSaid (os : List Setting) : UInt8 :=
  (os.findSome? (numberOf .version)).elim pcpMaxSupportedVersion UInt8.ofInt

/-- The servers, each with the version that was said before it. -/
def serversSaid : List Setting → List ServerArg
  | [] => []
  | (e, arg) :: os => if e = .server then ⟨arg, versionSaid os⟩ :: serversSaid os else serversSaid os

/-- What the options say, the last of them first. -/
def described (os : List Setting) : PcpParams where
  intAddr := os.findSome? (argOf .int)
  extAddr := os.findSome? (argOf .ext)
  peerAddr := os.findSome? (argOf .peer)
  filterAddr := os.findSome? (argOf .filter)
  optThirdpartyAddr := os.findSome? (argOf .thirdparty)
  optPfailure := os.any (·.1 = .pfailure)
  optFilter := os.any (·.1 = .filter)
  optDscpUp := (os.findSome? (numberOf .dscpUp)).elim 0 UInt8.ofInt
  optDscpDown := (os.findSome? (numberOf .dscpDown)).elim 0 UInt8.ofInt
  optFlowp := os.any fun o => o.1 = .dscpUp ∨ o.1 = .dscpDown
  disAutoDiscovery := os.any (·.1 = .disdisc)
  optProtocol := (os.findSome? protocolOf).getD 6
  optLifetime := (os.findSome? (numberOf .lifetime)).elim 900 UInt32.ofInt
  pcpVersion := versionSaid os
  fastReturn := os.any (·.1 = .fastRet)
  timeout := (os.findSome? (numberOf .timeout)).elim 1000 fun n => UInt32.ofInt (n * 1000)
  optMdid := (os.findSome? (numberOf .mdId)).elim 0 UInt32.ofInt
  optMdVal := (os.findSome? (argOf .mdVal)).elim [] fun arg => arg.take sizeofMdVal
  isMd := os.any fun o => o.1 = .mdId ∨ o.1 = .mdVal
  hasSadscpData := os.any (·.1.isSadscp)
  delayTolerance := (os.findSome? (numberOf .sadscpDel)).elim 3 UInt8.ofInt
  lossTolerance := (os.findSome? (numberOf .sadscpLos)).elim 3 UInt8.ofInt
  jitterTolerance := (os.findSome? (numberOf .sadscpJit)).elim 3 UInt8.ofInt
  appName := os.findSome? (argOf .sadscpApp)
  appUserid := (os.findSome? (argOf .userId)).elim [] fun arg => arg.take (maxUserId - 1)
  appLocation := if os.any (·.1 = .location) then geoStr.take maxGeoStr else []
  hasMappeerData := os.any (·.1.isMapPeer)
  pcpServers := serversSaid os

/-- The options the program goes on after. -/
def Goes : Setting → Prop
  | (.help, _) => False
  | (.version, arg) => UInt8.ofInt (atoi arg) ≤ pcpMaxSupportedVersion
  | _ => True

/-- One option more is one assignment more. -/
theorem parse_described (o : Setting) (os : List Setting) (p : PcpParams) :
    (o.1.parse o.2 (described os)).toOption = some p ↔ Goes o ∧ p = described (o :: os) := by
  obtain ⟨e, arg⟩ := o
  cases e
  case help => simp [EOption.parse, parseOptHelp, Goes, Except.toOption]
  case version =>
    simp only [EOption.parse, parseOptVersion, Goes]
    by_cases hv : UInt8.ofInt (atoi arg) > pcpMaxSupportedVersion
    · rw [if_pos hv]
      exact ⟨nofun, fun h => absurd h.1 (UInt8.not_le.mpr hv)⟩
    · rw [if_neg hv]
      exact ⟨fun h => ⟨UInt8.not_lt.mp hv, (Option.some.inj h).symm⟩, fun h => congrArg some h.2.symm⟩
  all_goals exact ⟨fun h => ⟨trivial, (Option.some.inj h).symm⟩, fun h => congrArg some h.2.symm⟩

end Said

/-! ## The command lines it accepts -/

/-- What an option of the command line says. -/
def settingOf (o : Opt) : Option Setting := (optionRow o.1).map fun r => (r.opt, o.2.getD [])

/-- What a command line says. -/
def said (os : List Opt) : List Setting := os.filterMap settingOf

def seeOption (p : PcpParams) (o : Opt) : Option PcpParams :=
  (settingOf o).bind fun x => (x.1.parse x.2 p).toOption

section Accepted

variable {argv : List Text} {p : PcpParams}

theorem parseOption_see (r : Result) (s : Scan) :
    (parseOption argv p r s).toOption = seeOption p (r, s.optarg) := by
  simp only [parseOption, seeOption, settingOf]
  cases optionRow r <;> rfl

/-- An option without an argument does not look at it. -/
theorem parse_noArg {row : OptionRow} (hrow : row ∈ foreachOption) (h : row.reqArg = false) (a b : Text)
    (p : PcpParams) : row.opt.parse a p = row.opt.parse b p := by
  have hopt : row.opt ∈ [EOption.help, .disdisc, .fastRet, .tcp, .udp, .pfailure, .devId, .location] := by
    have hall : ∀ r ∈ foreachOption, r.reqArg = false →
        r.opt ∈ [EOption.help, .disdisc, .fastRet, .tcp, .udp, .pfailure, .devId, .location] := by
      decide +kernel
    exact hall row hrow h
  simp only [List.mem_cons, List.not_mem_nil, or_false] at hopt
  rcases hopt with h | h | h | h | h | h | h | h
  all_goals
    rw [h]
    rfl

/-- The index of a long option is that of its row. -/
theorem longOpt_row {w : Text} {i : Nat} {required : Bool} (h : optionTable.longOpt w = some (i, required)) :
    ∃ row ∈ foreachOption, foreachOption[i]? = some row ∧ row.reqArg = required := by
  simp only [Table.longOpt, Option.bind_eq_some_iff, Option.map_eq_some_iff, Prod.mk.injEq] at h
  obtain ⟨j, -, o, ho, rfl, rfl⟩ := h
  obtain ⟨row, hrow, rfl⟩ := Option.map_eq_some_iff.mp ((List.getElem?_map ..).symm.trans ho)
  exact ⟨row, List.mem_of_getElem? hrow, hrow, rfl⟩

/-- A letter that takes an argument or takes none is that of a row. -/
theorem takesArg_row {c : Char} {takes : Bool} (h : optionTable.takesArg c = some takes) :
    ∃ row, foreachOption.find? (fun r => r.short = some c) = some row := by
  rw [← Option.isSome_iff_exists, List.find?_isSome]
  have hc : c ≠ ':' := by
    rintro rfl
    cases h
  have hmem : c ∈ shortOptsString := by
    by_contra hnot
    have hnil : skipTo c optionTable.short = [] := skipTo_eq_nil hnot
    rw [Table.takesArg, if_neg hc, hnil] at h
    cases h
  obtain ⟨row, hrow, hin⟩ := List.mem_flatMap.mp hmem
  refine ⟨row, hrow, ?_⟩
  rcases List.mem_append.mp hin with hshort | hcolon
  · simpa using hshort
  · split at hcolon
    · exact absurd (List.mem_singleton.mp hcolon) hc
    · cases hcolon

theorem parseOption_proper (argv : List Text) : Proper optionTable (parseOption argv) seeOption where
  bad _ _ := parseOption_see _ _
  badArg _ _ := parseOption_see _ _
  short _ _ _ := parseOption_see _ _
  long _ _ _ := parseOption_see _ _
  flag p i w arg h := by
    obtain ⟨row, hrow, hi, hflag⟩ := longOpt_row h
    simp only [seeOption, settingOf, optionRow, hi, Option.map_some, Option.bind_some]
    rw [parse_noArg hrow hflag]

/-- Every option of a command line says something. -/
theorem reads_said {place : Text} {ws : List Text} {os : List Opt} (h : Reads optionTable place ws os) :
    ∀ o ∈ os, ∃ x, settingOf o = some x := by
  have hshort : ∀ {c : Char} {takes : Bool} (arg : Option Text), optionTable.takesArg c = some takes →
      ∃ x, settingOf (.short c, arg) = some x := by
    intro c takes arg hc
    obtain ⟨row, hrow⟩ := takesArg_row hc
    exact ⟨_, Option.map_eq_some_iff.mpr ⟨row, hrow, rfl⟩⟩
  have hlong : ∀ {w : Text} {i : Nat} {required : Bool} (arg : Option Text),
      optionTable.longOpt w = some (i, required) → ∃ x, settingOf (.long i, arg) = some x := by
    intro w i required arg hi
    obtain ⟨row, -, hrow, -⟩ := longOpt_row hi
    exact ⟨_, Option.map_eq_some_iff.mpr ⟨row, hrow, rfl⟩⟩
  induction h with
  | ends | dash => exact fun o ho => by cases ho
  | word _ _ ih | dashWord _ _ ih => exact ih
  | flag hc _ ih | attached hc _ _ ih | separate hc _ ih =>
    intro o ho
    rcases List.mem_cons.mp ho with rfl | ho
    · exact hshort _ hc
    · exact ih o ho
  | longFlag _ hi _ ih | longEqual _ hi _ _ ih | longSeparate _ hi _ _ ih =>
    intro o ho
    rcases List.mem_cons.mp ho with rfl | ho
    · exact hlong _ hi
    · exact ih o ho

/-- The assignments one after the other come to what is said. -/
theorem seeAll_described {os : List Opt} (hos : ∀ o ∈ os, ∃ x, settingOf o = some x) :
    seeAll seeOption os {} = some p ↔ (∀ x ∈ said os, Goes x) ∧ p = described (said os).reverse := by
  have hsee : ∀ o ∈ os, ∀ before q, seeOption (described (said before)) o = some q ↔
      (∀ x, settingOf o = some x → Goes x) ∧ q = described (said (o :: before)) := by
    intro o ho before q
    obtain ⟨x, hx⟩ := hos o ho
    have hsaid : said (o :: before) = x :: said before := List.filterMap_cons_some hx
    rw [seeOption, hx, Option.bind_some, parse_described, hsaid]
    simp only [Option.some.injEq, forall_eq']
  have hgoes : (∀ x ∈ said os, Goes x) ↔ ∀ o ∈ os, ∀ x, settingOf o = some x → Goes x := by
    simp only [said, List.mem_filterMap]
    exact ⟨fun h o ho x hx => h x ⟨o, ho, hx⟩, fun h x ⟨o, ho, hx⟩ => h o ho x hx⟩
  have hall := seeAll_iff (y := p) hsee []
  rw [List.append_nil, said, said, List.filterMap_reverse] at hall
  rw [hgoes]
  exact hall

theorem checkOperation_ok {q : PcpParams} :
    checkOperation q = .ok p ↔ q = p ∧ p.hasMappeerData ≠ p.hasSadscpData := by
  have hwhich : q.hasMappeerData ≠ q.hasSadscpData ∧ checkOperation q = .ok q ∨
      q.hasMappeerData = q.hasSadscpData ∧ ∃ x, checkOperation q = .error x := by
    unfold checkOperation
    cases q.hasMappeerData <;> cases q.hasSadscpData <;> simp
  constructor
  · intro h
    obtain ⟨hne, hok⟩ | ⟨-, x, hx⟩ := hwhich
    · cases hok.symm.trans h
      exact ⟨rfl, hne⟩
    · cases hx.symm.trans h
  · rintro ⟨rfl, hne⟩
    obtain ⟨-, hok⟩ | ⟨heq, -⟩ := hwhich
    · exact hok
    · exact absurd heq hne

theorem parseParams_ok {argv : List Text} {p : PcpParams} :
    parseParams argv = some (.ok p) ↔
      ∃ os, Reads optionTable [] argv.tail os ∧ seeAll seeOption os {} = some p ∧
        p.hasMappeerData ≠ p.hasSadscpData := by
  have haccepts := getopt_accepts_iff (parseOption_proper argv) argv {} p
  unfold parseParams
  constructor
  · intro h
    split at h
    · cases h
    · obtain ⟨r, hr, hcheck⟩ := Option.map_eq_some_iff.mp h
      cases r with
      | error x => cases hcheck
      | ok q =>
        obtain ⟨rfl, hne⟩ := checkOperation_ok.mp hcheck
        obtain ⟨os, hreads, hsee⟩ := haccepts.mp hr
        exact ⟨os, hreads, hsee, hne⟩
  · rintro ⟨os, hreads, hsee, hne⟩
    have hlength : argv.length ≠ 1 := by
      -- The name of the program alone says nothing.
      intro hone
      obtain ⟨w, rfl⟩ := List.length_eq_one_iff.mp hone
      cases hreads
      cases hsee
      exact hne rfl
    rw [if_neg hlength, haccepts.mpr ⟨os, hreads, hsee⟩]
    exact congrArg some (checkOperation_ok.mpr ⟨rfl, hne⟩)

/-- The parameters the program goes on with are what the options of the command line say, the later ones
first, and there are none if it is no command line, or if the operation is not clear from it. -/
theorem parseParams_iff (argv : List Text) (p : PcpParams) :
    parseParams argv = some (.ok p) ↔
      ∃ os, Reads optionTable [] argv.tail os ∧ (∀ x ∈ said os, Goes x) ∧
        p = described (said os).reverse ∧ p.hasMappeerData ≠ p.hasSadscpData := by
  rw [parseParams_ok]
  constructor
  · rintro ⟨os, hreads, hsee, hne⟩
    obtain ⟨hgoes, hp⟩ := (seeAll_described (reads_said hreads)).mp hsee
    exact ⟨os, hreads, hgoes, hp, hne⟩
  · rintro ⟨os, hreads, hgoes, hp, hne⟩
    exact ⟨os, hreads, (seeAll_described (reads_said hreads)).mpr ⟨hgoes, hp⟩, hne⟩

end Accepted

/-! ## The parameters it can give -/

/-- Parameters that fit together as the assignments leave them. -/
structure PcpParams.Sayable (p : PcpParams) : Prop where
  operation : p.hasMappeerData ≠ p.hasSadscpData
  version : p.pcpVersion ≤ pcpMaxSupportedVersion
  servers : ∀ s ∈ p.pcpServers, s.version ≤ pcpMaxSupportedVersion
  mapPeer : p.hasMappeerData = false →
    p = { p with
      intAddr := none, extAddr := none, peerAddr := none, filterAddr := none, optThirdpartyAddr := none
      optPfailure := false, optFilter := false, optFlowp := false, isMd := false, optProtocol := 6 }
  sadscp : p.hasSadscpData = false →
    p = { p with delayTolerance := 3, lossTolerance := 3, jitterTolerance := 3, appName := none }
  filter : p.optFilter = p.filterAddr.isSome
  flowp : p.optFlowp = false → p.optDscpUp = 0 ∧ p.optDscpDown = 0
  md : p.isMd = false → p.optMdid = 0 ∧ p.optMdVal = []
  mdVal : p.optMdVal.length ≤ sizeofMdVal
  timeout : ∃ n : UInt32, p.timeout = n * 1000
  userid : p.appUserid.length < maxUserId
  location : p.appLocation = [] ∨ p.appLocation = geoStr.take maxGeoStr

section Sound

variable {e : EOption} {os : List Setting}

theorem argOf_some {x : Setting} {arg : Text} (h : argOf e x = some arg) : x = (e, arg) := by
  unfold argOf at h
  split at h
  · rename_i he
    cases h
    rw [← he]
  · cases h

theorem argOf_said {arg : Text} (h : os.findSome? (argOf e) = some arg) : (e, arg) ∈ os := by
  obtain ⟨x, hx, hsome⟩ := List.exists_of_findSome?_eq_some h
  exact argOf_some hsome ▸ hx

theorem numberOf_said {n : Int} (h : os.findSome? (numberOf e) = some n) :
    ∃ arg, (e, arg) ∈ os ∧ n = atoi arg := by
  obtain ⟨x, hx, hsome⟩ := List.exists_of_findSome?_eq_some h
  obtain ⟨arg, harg, rfl⟩ := Option.map_eq_some_iff.mp hsome
  exact ⟨arg, argOf_some harg ▸ hx, rfl⟩

/-- What is not said has its default. -/
theorem argOf_unsaid (h : ∀ x ∈ os, x.1 ≠ e) : os.findSome? (argOf e) = none := by
  rw [List.findSome?_eq_none_iff]
  exact fun x hx => if_neg (h x hx)

theorem numberOf_unsaid (h : ∀ x ∈ os, x.1 ≠ e) : os.findSome? (numberOf e) = none := by
  rw [List.findSome?_eq_none_iff]
  intro x hx
  rw [numberOf, argOf, if_neg (h x hx), Option.map_none]

theorem any_unsaid (h : ∀ x ∈ os, x.1 ≠ e) : os.any (·.1 = e) = false := by
  rw [List.any_eq_false]
  exact fun x hx => by simpa using h x hx

theorem any_isSome (os : List Setting) : os.any (·.1 = e) = (os.findSome? (argOf e)).isSome := by
  have hsome : (fun x : Setting => decide (x.1 = e)) = fun x => (argOf e x).isSome := by
    funext x
    by_cases hx : x.1 = e <;> simp [argOf, hx]
  rw [List.isSome_findSome?, hsome]

theorem versionSaid_le (h : ∀ x ∈ os, Goes x) : versionSaid os ≤ pcpMaxSupportedVersion := by
  unfold versionSaid
  cases hn : os.findSome? (numberOf .version) with
  | none => exact UInt8.le_refl _
  | some n =>
    obtain ⟨arg, hmem, rfl⟩ := numberOf_said hn
    exact h _ hmem

theorem serversSaid_le (h : ∀ x ∈ os, Goes x) : ∀ s ∈ serversSaid os, s.version ≤ pcpMaxSupportedVersion := by
  induction os with
  | nil => exact nofun
  | cons x os ih =>
    obtain ⟨e, arg⟩ := x
    have hos : ∀ x ∈ os, Goes x := fun x hx => h x (List.mem_cons_of_mem _ hx)
    intro s hs
    unfold serversSaid at hs
    split at hs
    · rcases List.mem_cons.mp hs with rfl | hs
      · exact versionSaid_le hos
      · exact ih hos s hs
    · exact ih hos s hs

/-- What is said about an operation that is not asked for. -/
theorem unsaid_of_any {kind : EOption → Bool} (h : os.any (fun x => kind x.1) = false) (he : kind e = true) :
    ∀ x ∈ os, x.1 ≠ e := by
  rintro x hx rfl
  have hnot := List.any_eq_false.mp h x hx
  exact hnot he

theorem protocolOf_unsaid (ht : ∀ x ∈ os, x.1 ≠ .tcp) (hu : ∀ x ∈ os, x.1 ≠ .udp) (hn : ∀ x ∈ os, x.1 ≠ .prot) :
    os.findSome? protocolOf = none := by
  rw [List.findSome?_eq_none_iff]
  intro x hx
  obtain ⟨e, arg⟩ := x
  have ht := ht _ hx
  have hu := hu _ hx
  have hn := hn _ hx
  cases e <;> simp_all [protocolOf]

theorem described_sayable (hgoes : ∀ x ∈ os, Goes x)
    (hop : (described os).hasMappeerData ≠ (described os).hasSadscpData) : (described os).Sayable where
  operation := hop
  version := versionSaid_le hgoes
  servers := serversSaid_le hgoes
  mapPeer h := by
    have hun : ∀ {e : EOption}, e.isMapPeer = true → ∀ x ∈ os, x.1 ≠ e := fun he => unsaid_of_any h he
    have hflowp : os.any (fun o => decide (o.1 = .dscpUp ∨ o.1 = .dscpDown)) = false := by
      rw [List.any_eq_false]
      intro x hx
      simp [hun (e := .dscpUp) rfl x hx, hun (e := .dscpDown) rfl x hx]
    have hmd : os.any (fun o => decide (o.1 = .mdId ∨ o.1 = .mdVal)) = false := by
      rw [List.any_eq_false]
      intro x hx
      simp [hun (e := .mdId) rfl x hx, hun (e := .mdVal) rfl x hx]
    simp only [described, argOf_unsaid (hun (e := .int) rfl), argOf_unsaid (hun (e := .ext) rfl),
      argOf_unsaid (hun (e := .peer) rfl), argOf_unsaid (hun (e := .filter) rfl),
      argOf_unsaid (hun (e := .thirdparty) rfl), any_unsaid (hun (e := .pfailure) rfl),
      any_unsaid (hun (e := .filter) rfl), hflowp, hmd,
      protocolOf_unsaid (hun (e := .tcp) rfl) (hun (e := .udp) rfl) (hun (e := .prot) rfl), Option.getD_none]
  sadscp h := by
    have hun : ∀ {e : EOption}, e.isSadscp = true → ∀ x ∈ os, x.1 ≠ e := fun he => unsaid_of_any h he
    simp only [described, numberOf_unsaid (hun (e := .sadscpDel) rfl),
      numberOf_unsaid (hun (e := .sadscpLos) rfl), numberOf_unsaid (hun (e := .sadscpJit) rfl),
      argOf_unsaid (hun (e := .sadscpApp) rfl), Option.elim_none]
  filter := any_isSome _
  flowp h := by
    have hup : ∀ x ∈ os, x.1 ≠ .dscpUp := fun x hx he => List.any_eq_false.mp h x hx (by simp [he])
    have hdown : ∀ x ∈ os, x.1 ≠ .dscpDown := fun x hx he => List.any_eq_false.mp h x hx (by simp [he])
    simp only [described, numberOf_unsaid hup, numberOf_unsaid hdown, Option.elim_none, and_self]
  md h := by
    have hid : ∀ x ∈ os, x.1 ≠ .mdId := fun x hx he => List.any_eq_false.mp h x hx (by simp [he])
    have hval : ∀ x ∈ os, x.1 ≠ .mdVal := fun x hx he => List.any_eq_false.mp h x hx (by simp [he])
    simp only [described, numberOf_unsaid hid, argOf_unsaid hval, Option.elim_none, and_self]
  mdVal := by
    simp only [described]
    cases os.findSome? (argOf .mdVal) with
    | none => exact Nat.zero_le _
    | some arg => exact List.length_take_le _ _
  timeout := by
    simp only [described]
    cases os.findSome? (numberOf .timeout) with
    | none => exact ⟨1, rfl⟩
    | some n => exact ⟨UInt32.ofInt n, UInt32.ofInt_mul n 1000⟩
  userid := by
    simp only [described]
    cases os.findSome? (argOf .userId) with
    | none => exact Nat.zero_lt_succ _
    | some arg => exact Nat.lt_succ_of_le (List.length_take_le _ _)
  location := by
    simp only [described]
    split
    · exact .inr rfl
    · exact .inl rfl

end Sound

/-! ## A command line for them -/

/-- Where the option is in the table. -/
def EOption.index (e : EOption) : Nat := foreachOption.findIdx fun r => r.opt = e

/-- The word for a long option with its argument after an equals sign. -/
def word (x : Setting) : Text :=
  match foreachOption[x.1.index]? with
  | some row => '-' :: '-' :: row.long ++ if row.reqArg then '=' :: x.2 else []
  | none => []

/-- The option, if there is an argument for it. -/
def one (e : EOption) (arg : Option Text) : List Setting := arg.toList.map fun a => (e, a)

def when (b : Bool) (arg : Text) : Option Text := if b then some arg else none

/-- A number of 32 bits as the `int` that is cast to it. -/
def signed32 (n : UInt32) : Text := signed ((n.toNat : Int).bmod (2 ^ 32))

def signed8 (n : UInt8) : Text := signed n.toNat

/-- The servers, each after its version, the last of them first. -/
def serverSettings : List ServerArg → List Setting
  | [] => []
  | s :: servers => (.server, s.server) :: (.version, signed8 s.version) :: serverSettings servers

/-- The arguments of the options for the parameters besides the servers, with the timeout in seconds. -/
def plainEntries (p : PcpParams) (seconds : UInt32) : List (EOption × Option Text) :=
  [(.int, p.intAddr), (.ext, p.extAddr), (.peer, p.peerAddr), (.filter, p.filterAddr),
   (.thirdparty, p.optThirdpartyAddr), (.pfailure, when p.optPfailure []),
   (.dscpUp, when p.optFlowp (signed8 p.optDscpUp)), (.dscpDown, when p.optFlowp (signed8 p.optDscpDown)),
   (.disdisc, when p.disAutoDiscovery []), (.prot, when p.hasMappeerData (signed8 p.optProtocol)),
   (.lifetime, some (signed32 p.optLifetime)), (.fastRet, when p.fastReturn []),
   (.timeout, some (signed32 seconds)), (.mdId, when p.isMd (signed32 p.optMdid)),
   (.mdVal, when p.isMd p.optMdVal), (.sadscpDel, when p.hasSadscpData (signed8 p.delayTolerance)),
   (.sadscpLos, when p.hasSadscpData (signed8 p.lossTolerance)),
   (.sadscpJit, when p.hasSadscpData (signed8 p.jitterTolerance)), (.sadscpApp, p.appName),
   (.userId, some p.appUserid), (.location, when (p.appLocation ≠ []) []),
   (.version, some (signed8 p.pcpVersion))]

def plainSettings (l : List (EOption × Option Text)) : List Setting := l.flatMap fun x => one x.1 x.2

def settings (p : PcpParams) (seconds : UInt32) : List Setting :=
  plainSettings (plainEntries p seconds) ++ serverSettings p.pcpServers

def commandLine (prog : Text) (p : PcpParams) (seconds : UInt32) : List Text :=
  prog :: (settings p seconds).reverse.map word

section Complete

variable {e : EOption} {p : PcpParams} {seconds : UInt32}

theorem ofInt_signed8 (n : UInt8) : UInt8.ofInt (atoi (signed8 n)) = n := by
  have hlt := n.toNat_lt
  rw [signed8, atoi_signed (by omega) (by omega)]
  rw [UInt8.ofInt, Int.emod_eq_of_lt (by omega) (by omega), Int.toNat_natCast, UInt8.ofNat_toNat]

theorem ofInt_signed32 (n : UInt32) : UInt32.ofInt (atoi (signed32 n)) = n := by
  have hlt := n.toNat_lt
  have hmod : (n.toNat : Int).bmod (2 ^ 32) % 2 ^ 32 = n.toNat := by
    rw [show (2 ^ 32 : Int) = (2 ^ 32 : Nat) by rfl, Int.bmod_emod, Int.emod_eq_of_lt] <;> omega
  rw [signed32, atoi_signed (Int.le_bmod (by decide)) (Int.bmod_lt (by decide)), UInt32.ofInt, hmod,
    Int.toNat_natCast, UInt32.ofNat_toNat]

theorem serverSettings_kinds (servers : List ServerArg) :
    ∀ x ∈ serverSettings servers, x.1 = .server ∨ x.1 = .version := by
  induction servers with
  | nil => exact nofun
  | cons s servers ih =>
    intro x hx
    simp only [serverSettings, List.mem_cons] at hx
    rcases hx with rfl | rfl | hx
    · exact .inl rfl
    · exact .inr rfl
    · exact ih x hx

theorem serversSaid_serverSettings (servers : List ServerArg) :
    serversSaid (serverSettings servers) = servers := by
  induction servers with
  | nil => rfl
  | cons s servers ih =>
    have hversion : versionSaid ((.version, signed8 s.version) :: serverSettings servers) = s.version :=
      ofInt_signed8 s.version
    simp only [serverSettings, serversSaid, hversion, ih, if_true]
    rfl

theorem serversSaid_append {os : List Setting} (h : ∀ x ∈ os, x.1 ≠ .server) (os' : List Setting) :
    serversSaid (os ++ os') = serversSaid os' := by
  induction os with
  | nil => rfl
  | cons x os ih =>
    obtain ⟨e, arg⟩ := x
    have he : e ≠ .server := h _ List.mem_cons_self
    rw [List.cons_append, serversSaid, if_neg he]
    exact ih fun x hx => h x (List.mem_cons_of_mem _ hx)

/-- What is not about servers does not look at them. -/
theorem findSome?_serverSettings {α : Type} {f : Setting → Option α}
    (h : ∀ arg, f (.server, arg) = none ∧ f (.version, arg) = none) (servers : List ServerArg) :
    (serverSettings servers).findSome? f = none := by
  rw [List.findSome?_eq_none_iff]
  rintro ⟨e, arg⟩ hx
  rcases serverSettings_kinds servers _ hx with rfl | rfl
  · exact (h arg).1
  · exact (h arg).2

/-- An option that is said at most once. -/
theorem findSome?_plainSettings {α : Type} {f : Setting → Option α} {l : List (EOption × Option Text)}
    {arg : Option Text} (hl : (l.map Prod.fst).Nodup) (h : (e, arg) ∈ l)
    (hf : ∀ e' ∈ l.map Prod.fst, e' ≠ e → ∀ a, f (e', a) = none) :
    (plainSettings l).findSome? f = arg.bind fun a => f (e, a) := by
  have hnone : ∀ x ∈ l, x.1 ≠ e → (one x.1 x.2).findSome? f = none := by
    intro x hx hne
    rw [List.findSome?_eq_none_iff]
    intro y hy
    obtain ⟨a, -, rfl⟩ := List.mem_map.mp hy
    exact hf _ (List.mem_map_of_mem hx) hne a
  have hone : ∀ arg, (one e arg).findSome? f = arg.bind fun a => f (e, a) := by
    intro arg
    cases arg with
    | none => rfl
    | some a => simp [one]
  induction l with
  | nil => cases h
  | cons x l ih =>
    rw [List.map_cons, List.nodup_cons] at hl
    rw [plainSettings, List.flatMap_cons, List.findSome?_append]
    rcases List.mem_cons.mp h with rfl | h
    · have hrest : (l.flatMap fun x => one x.1 x.2).findSome? f = none := by
        rw [List.findSome?_eq_none_iff]
        intro y hy
        obtain ⟨x, hx, hy⟩ := List.mem_flatMap.mp hy
        have hne : x.1 ≠ e := fun he => hl.1 (List.mem_map.mpr ⟨x, hx, he⟩)
        exact List.findSome?_eq_none_iff.mp (hnone x (List.mem_cons_of_mem _ hx) hne) y hy
      rw [hone, hrest, Option.or_none]
    · have hne : x.1 ≠ e := fun he => hl.1 (List.mem_map.mpr ⟨(e, arg), h, he.symm⟩)
      rw [hnone x List.mem_cons_self hne, Option.none_or]
      exact ih hl.2 h (fun e' he' => hf e' (List.mem_cons_of_mem _ he'))
        fun x hx => hnone x (List.mem_cons_of_mem _ hx)

theorem plainEntries_nodup (p : PcpParams) (seconds : UInt32) :
    ((plainEntries p seconds).map Prod.fst).Nodup := by
  simp only [plainEntries, List.map_cons, List.map_nil]
  decide

theorem said_arg {arg : Option Text} (h : (e, arg) ∈ plainEntries p seconds) (he : e ≠ .version)
    (hs : e ≠ .server) :
    (settings p seconds).findSome? (argOf e) = arg := by
  have hself : (arg.bind fun a => argOf e (e, a)) = arg := by
    cases arg with
    | none => rfl
    | some a => simp [argOf]
  have hother : ∀ e', e' ≠ e → ∀ a, argOf e (e', a) = none := fun e' hne a => if_neg hne
  rw [settings, List.findSome?_append,
    findSome?_plainSettings (plainEntries_nodup p seconds) h fun e' _ hne => hother e' hne, hself,
    findSome?_serverSettings fun a => ⟨hother _ hs.symm a, hother _ he.symm a⟩, Option.or_none]

theorem findSome?_numberOf (os : List Setting) :
    os.findSome? (numberOf e) = (os.findSome? (argOf e)).map atoi := by
  rw [List.map_findSome?]
  rfl

theorem any_or (e₁ e₂ : EOption) (os : List Setting) :
    (os.any fun o => o.1 = e₁ ∨ o.1 = e₂) = (os.any (·.1 = e₁) || os.any (·.1 = e₂)) := by
  rw [Bool.eq_iff_iff, Bool.or_eq_true, List.any_eq_true, List.any_eq_true, List.any_eq_true]
  simp only [decide_eq_true_eq, and_or_left, exists_or]

theorem isSome_when (b : Bool) (t : Text) : (when b t).isSome = b := by cases b <;> rfl

theorem plainSettings_key {l : List (EOption × Option Text)} : ∀ x ∈ plainSettings l, x.1 ∈ l.map Prod.fst := by
  intro x hx
  obtain ⟨y, hy, hxy⟩ := List.mem_flatMap.mp hx
  obtain ⟨a, -, rfl⟩ := List.mem_map.mp hxy
  exact List.mem_map_of_mem hy

theorem settings_key : ∀ x ∈ settings p seconds,
    x.1 ∈ (plainEntries p seconds).map Prod.fst ∨ x.1 = .server ∨ x.1 = .version := by
  intro x hx
  rcases List.mem_append.mp hx with hx | hx
  · exact .inl (plainSettings_key x hx)
  · exact .inr (serverSettings_kinds _ x hx)

/-- An option without an argument to say. -/
theorem settings_unsaid (h : (e, none) ∈ plainEntries p seconds) (he : e ≠ .version) (hs : e ≠ .server) :
    ∀ x ∈ settings p seconds, x.1 ≠ e := by
  intro x hx hxe
  have hany := any_isSome (e := e) (settings p seconds)
  rw [said_arg h he hs, Option.isSome_none, List.any_eq_false] at hany
  exact hany x hx (by simpa using hxe)

theorem said_flag {b : Bool} (t : Text) (h : (e, when b t) ∈ plainEntries p seconds) (he : e ≠ .version)
    (hs : e ≠ .server) : (settings p seconds).any (·.1 = e) = b := by
  rw [any_isSome, said_arg h he hs, isSome_when]

theorem said_number8 {b : Bool} {n default : UInt8} (h : (e, when b (signed8 n)) ∈ plainEntries p seconds)
    (he : e ≠ .version) (hs : e ≠ .server) (hd : b = false → n = default) :
    ((settings p seconds).findSome? (numberOf e)).elim default UInt8.ofInt = n := by
  rw [findSome?_numberOf, said_arg h he hs]
  cases b with
  | false => exact (hd rfl).symm
  | true => exact ofInt_signed8 n

theorem said_operation {kind : EOption → Bool} {b : Bool} (t : Text)
    (h : (e, when b t) ∈ plainEntries p seconds) (he : e ≠ .version) (hs : e ≠ .server) (hkind : kind e = true)
    (hno : b = false → ∀ x ∈ settings p seconds, kind x.1 = false) :
    (settings p seconds).any (fun x => kind x.1) = b := by
  cases b with
  | false =>
    rw [List.any_eq_false]
    exact fun x hx => by rw [hno rfl x hx]; exact Bool.false_ne_true
  | true =>
    have hsaid : (e, t) ∈ settings p seconds := argOf_said (said_arg h he hs)
    exact List.any_eq_true.mpr ⟨_, hsaid, hkind⟩

theorem settings_noSadscp (h : p.hasSadscpData = false) (happ : p.appName = none) :
    ∀ x ∈ settings p seconds, x.1.isSadscp = false := by
  have hun : ∀ {e : EOption}, (e, none) ∈ plainEntries p seconds → e.isSadscp = true →
      ∀ x ∈ settings p seconds, x.1 ≠ e :=
    fun hm he => settings_unsaid hm (by rintro rfl; cases he) (by rintro rfl; cases he)
  rintro ⟨e, arg⟩ hx
  cases e with
  | sadscpDel => exact absurd rfl (hun (by simp [plainEntries, h, when]) rfl _ hx)
  | sadscpLos => exact absurd rfl (hun (by simp [plainEntries, h, when]) rfl _ hx)
  | sadscpJit => exact absurd rfl (hun (by simp [plainEntries, h, when]) rfl _ hx)
  | sadscpApp => exact absurd rfl (hun (by simp [plainEntries, happ]) rfl _ hx)
  | _ => rfl

theorem settings_noMapPeer (hp : p.Sayable) (h : p.hasMappeerData = false) :
    ∀ x ∈ settings p seconds, x.1.isMapPeer = false := by
  have hun : ∀ {e : EOption}, (e, none) ∈ plainEntries p seconds → e.isMapPeer = true →
      ∀ x ∈ settings p seconds, x.1 ≠ e :=
    fun hm he => settings_unsaid hm (by rintro rfl; cases he) (by rintro rfl; cases he)
  have hnone := hp.mapPeer h
  rintro ⟨e, arg⟩ hx
  have hkey := settings_key _ hx
  cases e with
  | int | ext | peer | filter | thirdparty | pfailure | dscpUp | dscpDown | prot | mdId | mdVal =>
    exact absurd rfl (hun (by rw [hnone]; simp [plainEntries, when, h]) rfl _ hx)
  | tcp | udp => simp [plainEntries] at hkey
  | _ => rfl

theorem said_protocol (hp : p.Sayable) :
    ((settings p seconds).findSome? protocolOf).getD 6 = p.optProtocol := by
  have hmem : (EOption.prot, when p.hasMappeerData (signed8 p.optProtocol)) ∈ plainEntries p seconds := by
    simp [plainEntries]
  have hother : ∀ e ∈ (plainEntries p seconds).map Prod.fst, e ≠ .prot → ∀ a, protocolOf (e, a) = none := by
    intro e he hne a
    cases e with
    | prot => exact absurd rfl hne
    | tcp | udp => simp [plainEntries] at he
    | _ => rfl
  rw [settings, List.findSome?_append, findSome?_plainSettings (plainEntries_nodup p seconds) hmem hother,
    findSome?_serverSettings fun a => ⟨rfl, rfl⟩, Option.or_none]
  cases hm : p.hasMappeerData with
  | false => exact (congrArg (·.optProtocol) (hp.mapPeer hm)).symm
  | true => exact ofInt_signed8 _

theorem said_version : versionSaid (settings p seconds) = p.pcpVersion := by
  have hmem : (EOption.version, some (signed8 p.pcpVersion)) ∈ plainEntries p seconds := by
    simp [plainEntries]
  have hother : ∀ e ∈ (plainEntries p seconds).map Prod.fst, e ≠ .version →
      ∀ a, numberOf .version (e, a) = none := by
    intro e _ hne a
    rw [numberOf, argOf, if_neg hne, Option.map_none]
  rw [versionSaid, settings, List.findSome?_append,
    findSome?_plainSettings (plainEntries_nodup p seconds) hmem hother]
  exact ofInt_signed8 _

theorem said_servers : serversSaid (settings p seconds) = p.pcpServers := by
  have hplain : ∀ x ∈ plainSettings (plainEntries p seconds), x.1 ≠ .server := by
    intro x hx he
    have hkey := plainSettings_key x hx
    rw [he] at hkey
    simp [plainEntries] at hkey
  rw [settings, serversSaid_append hplain, serversSaid_serverSettings]

/-- What is said for parameters that fit together is these parameters. -/
theorem described_settings (hp : p.Sayable) (hs : p.timeout = seconds * 1000) :
    described (settings p seconds) = p := by
  apply PcpParams.ext
  case intAddr | extAddr | peerAddr | filterAddr | optThirdpartyAddr | appName =>
    exact said_arg (by simp [plainEntries]) nofun nofun
  case optPfailure | disAutoDiscovery | fastReturn => exact said_flag [] (by simp [plainEntries]) nofun nofun
  case optFilter =>
    have hfilter : (settings p seconds).findSome? (argOf .filter) = p.filterAddr :=
      said_arg (by simp [plainEntries]) nofun nofun
    rw [hp.filter, ← hfilter]
    exact any_isSome _
  case optDscpUp => exact said_number8 (by simp [plainEntries]) nofun nofun fun h => (hp.flowp h).1
  case optDscpDown => exact said_number8 (by simp [plainEntries]) nofun nofun fun h => (hp.flowp h).2
  case delayTolerance =>
    exact said_number8 (by simp [plainEntries]) nofun nofun fun h => congrArg (·.delayTolerance) (hp.sadscp h)
  case lossTolerance =>
    exact said_number8 (by simp [plainEntries]) nofun nofun fun h => congrArg (·.lossTolerance) (hp.sadscp h)
  case jitterTolerance =>
    exact said_number8 (by simp [plainEntries]) nofun nofun fun h => congrArg (·.jitterTolerance) (hp.sadscp h)
  case optProtocol => exact said_protocol hp
  case pcpVersion => exact said_version
  case pcpServers => exact said_servers
  case optFlowp =>
    have hup : (settings p seconds).any (·.1 = .dscpUp) = p.optFlowp :=
      said_flag (signed8 p.optDscpUp) (by simp [plainEntries]) nofun nofun
    have hdown : (settings p seconds).any (·.1 = .dscpDown) = p.optFlowp :=
      said_flag (signed8 p.optDscpDown) (by simp [plainEntries]) nofun nofun
    exact (any_or _ _ _).trans (by rw [hup, hdown, Bool.or_self])
  case isMd =>
    have hid : (settings p seconds).any (·.1 = .mdId) = p.isMd :=
      said_flag (signed32 p.optMdid) (by simp [plainEntries]) nofun nofun
    have hval : (settings p seconds).any (·.1 = .mdVal) = p.isMd :=
      said_flag p.optMdVal (by simp [plainEntries]) nofun nofun
    exact (any_or _ _ _).trans (by rw [hid, hval, Bool.or_self])
  case optLifetime =>
    have hlifetime : (settings p seconds).findSome? (argOf .lifetime) = some (signed32 p.optLifetime) :=
      said_arg (by simp [plainEntries]) nofun nofun
    simp only [described, findSome?_numberOf, hlifetime, Option.map_some, Option.elim_some, ofInt_signed32]
  case timeout =>
    have htimeout : (settings p seconds).findSome? (argOf .timeout) = some (signed32 seconds) :=
      said_arg (by simp [plainEntries]) nofun nofun
    simp only [described, findSome?_numberOf, htimeout, Option.map_some, Option.elim_some, UInt32.ofInt_mul,
      ofInt_signed32, hs]
    rfl
  case optMdid =>
    have hid : (settings p seconds).findSome? (argOf .mdId) = when p.isMd (signed32 p.optMdid) :=
      said_arg (by simp [plainEntries]) nofun nofun
    simp only [described, findSome?_numberOf, hid]
    cases hm : p.isMd with
    | false => exact (hp.md hm).1.symm
    | true => exact ofInt_signed32 _
  case optMdVal =>
    have hval : (settings p seconds).findSome? (argOf .mdVal) = when p.isMd p.optMdVal :=
      said_arg (by simp [plainEntries]) nofun nofun
    simp only [described, hval]
    cases hm : p.isMd with
    | false => exact (hp.md hm).2.symm
    | true => exact List.take_of_length_le hp.mdVal
  case appUserid =>
    have hid : (settings p seconds).findSome? (argOf .userId) = some p.appUserid :=
      said_arg (by simp [plainEntries]) nofun nofun
    simp only [described, hid, Option.elim_some]
    exact List.take_of_length_le (Nat.le_pred_of_lt hp.userid)
  case appLocation =>
    have hlocation : (settings p seconds).any (·.1 = .location) = decide (p.appLocation ≠ []) :=
      said_flag [] (by simp [plainEntries]) nofun nofun
    simp only [described, hlocation, decide_eq_true_eq]
    rcases hp.location with hloc | hloc
    · rw [hloc]
      rfl
    · rw [hloc]
      rfl
  case hasSadscpData =>
    refine said_operation (e := .sadscpDel) (signed8 p.delayTolerance) (by simp [plainEntries]) nofun nofun
      rfl ?_
    exact fun h => settings_noSadscp h (congrArg (·.appName) (hp.sadscp h))
  case hasMappeerData =>
    exact said_operation (e := .prot) (signed8 p.optProtocol) (by simp [plainEntries]) nofun nofun rfl
      (settings_noMapPeer hp)

/-! ### Its words -/

/-- The options that have an argument only where the table says so. -/
def ArgFits (x : Setting) : Prop := ∀ row, foreachOption[x.1.index]? = some row → row.reqArg = false → x.2 = []

theorem index_row (e : EOption) : ∃ row, foreachOption[e.index]? = some row ∧ row.opt = e ∧ row.long ≠ [] ∧
    '=' ∉ row.long ∧ findLong row.long 0 none optionTable.long = some e.index := by
  cases e <;> exact ⟨_, rfl, rfl, by decide, by decide, by decide +kernel⟩

/-- A word is read as the option it was made for. -/
theorem reads_word {x : Setting} (hx : ArgFits x) {ws : List Text} {os : List Opt}
    (h : Reads optionTable [] ws os) :
    ∃ o, settingOf o = some x ∧ Reads optionTable [] (word x :: ws) (o :: os) := by
  obtain ⟨row, hrow, hopt, hne, hequal, hfind⟩ := index_row x.1
  have hsetting : ∀ arg : Option Text, settingOf (.long x.1.index, arg) = some (x.1, arg.getD []) := by
    intro arg
    rw [settingOf, optionRow, hrow, Option.map_some, hopt]
  have hlong : optionTable.long[x.1.index]? = some ⟨row.long, row.reqArg⟩ := by
    simp only [optionTable, longOptions, List.getElem?_map, hrow, Option.map_some]
  have hopt : ∀ w, optName w = row.long → optionTable.longOpt w = some (x.1.index, row.reqArg) := by
    intro w hw
    rw [Table.longOpt, hw, hfind, Option.bind_some, hlong, Option.map_some]
  have hword : word x = '-' :: '-' :: (row.long ++ if row.reqArg then '=' :: x.2 else []) := by
    simp only [word, hrow]
    rfl
  rw [hword]
  cases hreq : row.reqArg with
  | true =>
    have hlongOpt : optionTable.longOpt (row.long ++ '=' :: x.2) = some (x.1.index, true) := by
      rw [hopt _ (optName_equal hequal), hreq]
    refine ⟨(.long x.1.index, some x.2), hsetting _, ?_⟩
    exact .longEqual (by simp) hlongOpt (hasEqual_equal hequal) h
  | false =>
    have hlongOpt : optionTable.longOpt (row.long ++ []) = some (x.1.index, false) := by
      rw [List.append_nil, hopt _ (optName_self hequal), hreq]
    refine ⟨(.long x.1.index, none), (hsetting _).trans ?_, ?_⟩
    · rw [Option.getD_none, ← hx row hrow hreq]
    · exact .longFlag (by simpa using hne) hlongOpt h

theorem reads_words {xs : List Setting} (hxs : ∀ x ∈ xs, ArgFits x) :
    ∃ os, Reads optionTable [] (xs.map word) os ∧ said os = xs := by
  induction xs with
  | nil => exact ⟨[], .ends trivial, rfl⟩
  | cons x xs ih =>
    obtain ⟨os, hreads, hsaid⟩ := ih fun x hx => hxs x (List.mem_cons_of_mem _ hx)
    obtain ⟨o, ho, hreads'⟩ := reads_word (hxs x List.mem_cons_self) hreads
    refine ⟨o :: os, hreads', ?_⟩
    rw [said, List.filterMap_cons_some ho]
    exact congrArg _ hsaid

theorem plainSettings_mem {l : List (EOption × Option Text)} {x : Setting} (h : x ∈ plainSettings l) :
    (x.1, some x.2) ∈ l := by
  obtain ⟨y, hy, hxy⟩ := List.mem_flatMap.mp h
  obtain ⟨a, ha, rfl⟩ := List.mem_map.mp hxy
  rw [← Option.mem_toList.mp ha]
  exact hy

theorem settings_plain : ∀ x ∈ settings p seconds, ArgFits x := by
  have hrequired : ∀ {x : Setting}, (∃ row, foreachOption[x.1.index]? = some row ∧ row.reqArg = true) →
      ArgFits x := by
    rintro x ⟨row, hrow, hreq⟩ row' hrow' hnot
    cases hrow.symm.trans hrow'
    exact absurd hreq (by rw [hnot]; exact Bool.false_ne_true)
  have hflag : ∀ {b : Bool} {arg : Text}, some arg = when b [] → arg = [] := by
    intro b arg h
    cases b <;> cases h
    rfl
  rintro ⟨e, arg⟩ hx
  rcases List.mem_append.mp hx with hx | hx
  · have hmem := plainSettings_mem hx
    simp only [plainEntries, List.mem_cons, List.not_mem_nil, or_false, Prod.mk.injEq] at hmem
    cases e with
    | help | devId | tcp | udp => simp at hmem
    | pfailure | disdisc | fastRet | location =>
      simp only [reduceCtorEq, false_and, true_and, false_or, or_false] at hmem
      exact fun _ _ _ => hflag hmem
    | _ => exact hrequired ⟨_, rfl, rfl⟩
  · obtain he | he := serverSettings_kinds _ _ hx
    · cases he
      exact hrequired ⟨_, rfl, rfl⟩
    · cases he
      exact hrequired ⟨_, rfl, rfl⟩

theorem serverSettings_goes {servers : List ServerArg} (h : ∀ s ∈ servers, s.version ≤ pcpMaxSupportedVersion) :
    ∀ x ∈ serverSettings servers, Goes x := by
  induction servers with
  | nil => exact nofun
  | cons s servers ih =>
    intro x hx
    simp only [serverSettings, List.mem_cons] at hx
    rcases hx with rfl | rfl | hx
    · trivial
    · show UInt8.ofInt (atoi (signed8 s.version)) ≤ pcpMaxSupportedVersion
      rw [ofInt_signed8]
      exact h s List.mem_cons_self
    · exact ih (fun s hs => h s (List.mem_cons_of_mem _ hs)) x hx

theorem settings_goes (hp : p.Sayable) : ∀ x ∈ settings p seconds, Goes x := by
  rintro ⟨e, arg⟩ hx
  rcases List.mem_append.mp hx with hx | hx
  · have hmem := plainSettings_mem hx
    cases e with
    | help => simp [plainEntries] at hmem
    | version =>
      simp only [plainEntries, List.mem_cons, List.not_mem_nil, or_false, Prod.mk.injEq, reduceCtorEq,
        false_and, true_and, false_or, Option.some.injEq] at hmem
      show UInt8.ofInt (atoi arg) ≤ pcpMaxSupportedVersion
      rw [hmem, ofInt_signed8]
      exact hp.version
    | _ => trivial
  · exact serverSettings_goes hp.servers _ hx

end Complete

/-- `commandLine` prints parameters that fit together, and `parse_params` reads them back. -/
theorem parseParams_commandLine {p : PcpParams} (hp : p.Sayable) (prog : Text) {seconds : UInt32}
    (hs : p.timeout = seconds * 1000) : parseParams (commandLine prog p seconds) = some (.ok p) := by
  have hplain : ∀ x ∈ (settings p seconds).reverse, ArgFits x :=
    fun x hx => settings_plain x (List.mem_reverse.mp hx)
  obtain ⟨os, hreads, hsaid⟩ := reads_words hplain
  have hsee : seeAll seeOption os {} = some p := by
    refine (seeAll_described (reads_said hreads)).mpr ⟨fun x hx => ?_, ?_⟩
    · rw [hsaid] at hx
      exact settings_goes hp x (List.mem_reverse.mp hx)
    · rw [hsaid, List.reverse_reverse, described_settings hp hs]
  exact parseParams_ok.mpr ⟨os, hreads, hsee, hp.operation⟩

/-- Some command line gives the parameters exactly if they fit together, and then the one that `commandLine`
prints for them does, with the time of the wait in seconds. -/
theorem parseParams_range (p : PcpParams) :
    ((∃ argv, parseParams argv = some (.ok p)) ↔ p.Sayable) ∧
      (p.Sayable → (∃ seconds, p.timeout = seconds * 1000) ∧
        ∀ prog seconds, p.timeout = seconds * 1000 → parseParams (commandLine prog p seconds) = some (.ok p)) := by
  refine ⟨⟨?_, fun hp => ?_⟩, fun hp => ⟨hp.timeout, fun prog seconds => parseParams_commandLine hp prog⟩⟩
  · rintro ⟨argv, h⟩
    obtain ⟨os, hreads, hsee, hop⟩ := parseParams_ok.mp h
    obtain ⟨hgoes, rfl⟩ := (seeAll_described (reads_said hreads)).mp hsee
    exact described_sayable (fun x hx => hgoes x (List.mem_reverse.mp hx)) hop
  · obtain ⟨seconds, hs⟩ := hp.timeout
    exact ⟨commandLine [] p seconds, parseParams_commandLine hp [] hs⟩

end LibPcp
