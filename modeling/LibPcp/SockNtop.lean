import LibPcp.CText
import LibPcp.Types

/-!
# LibPcp.SockNtop

Address text: the printing and parsing functions of `net/sock_ntop.c`.

The functions that look for the host and the port come before the ones that ask the resolver, as the
blocks of the source do. `strndup` and `strdup` do not fail here.
-/

namespace LibPcp

open CText

/-- The parts of the C library that the text functions call: the text of an IPv6 address and the
look-up of a host and a port. -/
structure Resolver where
  inetNtop6 : In6Addr → Option Text
  getaddrinfo : Option Text → Option Text → Option (List SockAddr)

/-! ## Printing -/

/-- `inet_ntop` of an IPv4 address. -/
def inetNtop4 (a : UInt32) : Text :=
  decimal (a.toNat / 2 ^ 24) ++ '.' :: decimal (a.toNat / 2 ^ 16 % 2 ^ 8) ++
    '.' :: decimal (a.toNat / 2 ^ 8 % 2 ^ 8) ++ '.' :: decimal (a.toNat % 2 ^ 8)

/-- `sock_ntop`. The family's number and the length only show in the text for an unknown family. -/
def sockNtop (r : Resolver) (sa : SockAddr) (saFamily salen : Nat) : Option Text :=
  match sa with
  | .inet addr port =>
    let str := inetNtop4 addr
    if port ≠ 0 then some (str ++ snprintf 7 (':' :: decimal port.toNat)) else some str
  | .inet6 addr port _ =>
    match r.inetNtop6 addr with
    | none => none
    | some str =>
      if port ≠ 0 then some ('[' :: str ++ snprintf 8 (']' :: ':' :: decimal port.toNat))
      else some str
  | .other .. =>
    some (snprintf 127 ("sock_ntop: unknown AF_xxx: ".toList ++ decimal saFamily ++
      ", len ".toList ++ decimal salen))

/-! ## Parsing -/

/-- The scan for the port, from `ip_end` on: where it stops, the port and the host name. A second colon
makes the whole text the host, unless there is one already. -/
def scanPort (cp : Text) : Text → Option Text → Option Text → Text × Option Text × Option Text
  | [], port, hostName => ([], port, hostName)
  | c :: ipEnd, port, hostName =>
    if c = ':' then
      match port, hostName with
      | none, _ => scanPort cp ipEnd (some ipEnd) hostName
      | some _, none => (c :: ipEnd, none, some cp)
      | some _, some _ => scanPort cp ipEnd port hostName
    else scanPort cp ipEnd port hostName

/-- The block that finds the start of the port part: the host and the port to look up. -/
def findPort (cp ipEnd : Text) (hostName : Option Text) : Option Text × Option Text :=
  match scanPort cp ipEnd none hostName with
  | (_, port, some host) => (some host, port)
  | ([], some port, none) =>
    -- only a port was entered if nothing comes before its colon
    (if ptrDiff port cp > 1 then some (strndup cp (ptrDiff port cp - 1)) else none, some port)
  | (ipEnd, port, none) => (some (strndup cp (ptrDiff ipEnd cp)), port)

/-- The host and the port in the text of an address; `none` when a bracket is not closed. -/
def hostAndPort (cp : Text) : Option (Option Text × Option Text) :=
  match skipSpace cp with
  | '[' :: cp =>
    match skipTo ']' ('[' :: cp) with
    | [] => none
    | c :: ipEnd => some (findPort cp ipEnd (some (strndup cp (ptrDiff (c :: ipEnd) cp))))
  | cp => some (findPort cp cp none)

def SockAddr.isInternet : SockAddr → Bool
  | .inet .. => true
  | .inet6 .. => true
  | .other .. => false

/-- The address cleared, for a text without a host. The `memset` of an IPv6 address runs on over the
scope. -/
def SockAddr.cleared : SockAddr → SockAddr
  | .inet _ port => .inet 0 port
  | .inet6 _ port _ => .inet6 .any port 0
  | sa => sa

/-- `sock_pton`: the result and what is stored. -/
def sockPton (r : Resolver) (cp : Option Text) (sa : Option SockAddr) : Int × Option SockAddr :=
  match cp, sa with
  | some cp, some sa =>
    match hostAndPort cp with
    | none => (-2, some sa)
    | some (hostName, port) =>
      match r.getaddrinfo hostName port with
      | none => (-2, some sa)
      | some servinfo =>
        match servinfo.find? SockAddr.isInternet with
        | none => (0, some sa)
        | some p => (0, some (if hostName.isNone then p.cleared else p))
  | _, _ => (-1, sa)

/-! ## Parsing with a prefix length -/

/-- The search for the closing bracket: where it stops, and what follows the last slash before it. -/
def scanPrefix : Text → Option Text → Text × Option Text
  | [], prefixBegin => ([], prefixBegin)
  | c :: ipEnd, prefixBegin =>
    if c = ']' then (c :: ipEnd, prefixBegin)
    else scanPrefix ipEnd (if c = '/' then some ipEnd else prefixBegin)

/-- The address, the prefix length and the port in a text; `none` when it has no bracket, or one that
is not closed. -/
def hostPrefixPort (cp : Text) : Option ((Option Text × Option Text) × Int) :=
  match skipSpace cp with
  | '[' :: cp =>
    match scanPrefix ('[' :: cp) none with
    | ([], _) => none
    | (c :: ipEnd, some prefixBegin) =>
      some (findPort cp ipEnd (some (strndup cp (ptrDiff prefixBegin cp - 1))),
        atoi (strndup prefixBegin (ptrDiff (c :: ipEnd) prefixBegin)))
    | (c :: ipEnd, none) => some (findPort cp ipEnd (some (strndup cp (ptrDiff (c :: ipEnd) cp))), 128)
  | _ => none

/-- The range check on the prefix length. -/
def prefixFits : SockAddr → Int → Bool
  | .inet .., intPrefix => intPrefix ≤ 32
  | .inet6 .., intPrefix => intPrefix ≤ 128
  | .other .., _ => true

/-- `sock_pton_with_prefix`: the result and what is stored in `sa` and `int_prefix`. -/
def sockPtonWithPrefix (r : Resolver) (cp : Option Text) (sa : Option SockAddr)
    (intPrefix : Option Int) : Int × Option SockAddr × Option Int :=
  match cp, sa, intPrefix with
  | some cp, some sa, some intPrefix =>
    match hostPrefixPort cp with
    | none => (-2, some sa, some intPrefix)
    | some ((hostName, port), intPrefix) =>
      match r.getaddrinfo hostName port with
      | none => (-2, some sa, some intPrefix)
      | some servinfo =>
        match servinfo.find? SockAddr.isInternet, hostName with
        | none, _ => (if prefixFits sa intPrefix then 0 else -2, some sa, some intPrefix)
        | some p, some _ => (if prefixFits p intPrefix then 0 else -2, some p, some intPrefix)
        | some (.inet6 addr port scopeId), none =>
          let sa := (SockAddr.inet6 addr port scopeId).cleared
          (if prefixFits sa intPrefix then 0 else -2, some sa, some intPrefix)
        | some p, none => (-2, some p, some intPrefix)
  | _, _, _ => (-1, sa, intPrefix)

end LibPcp
