import LibPcp.SockRoundtrip

/-!
# LibPcp.SockPrefix

The prefix length that `sock_pton_with_prefix` stores.

* `hostPrefixPort_slash`, `hostPrefixPort_plain`: how a bracketed text is split, with a slash in it and
  without.
* `sockPtonWithPrefix_eq`: the result in terms of the address found.
* `sockPtonWithPrefix_range_iff`: the length is in range and a missing one is filled in, except where
  `atoi` is negative and where an IPv4 address has no length.
-/

namespace LibPcp

open CText

/-! ## Prefix lengths -/

/-- A prefix length of the address. -/
def InRange : SockAddr → Int → Prop
  | .inet .., intPrefix => 0 ≤ intPrefix ∧ intPrefix ≤ 32
  | .inet6 .., intPrefix => 0 ≤ intPrefix ∧ intPrefix ≤ 128
  | .other .., _ => True

/-- The length of the whole address. -/
def SockAddr.fullPrefix : SockAddr → Int
  | .inet .. => 32
  | _ => 128

/-- Without a length the one of an IPv6 address is taken. -/
theorem prefixFits_default {a : SockAddr} (h : prefixFits a 128) : InRange a 128 := by
  cases a with
  | inet addr port => exact absurd h (by simp [prefixFits])
  | inet6 addr port scopeId => simp [InRange]
  | other addr port scopeId => trivial

/-- The check bounds the length on one side only. -/
theorem prefixFits_inRange {a : SockAddr} {n : Int} (h : prefixFits a n)
    (hn : a.isInternet → 0 ≤ n) : InRange a n := by
  cases a with
  | inet addr port => exact ⟨hn rfl, by simpa [prefixFits] using h⟩
  | inet6 addr port scopeId => exact ⟨hn rfl, by simpa [prefixFits] using h⟩
  | other addr port scopeId => trivial

theorem negative_not_inRange {a : SockAddr} {n : Int} (ha : a.isInternet) (hn : n < 0) :
    prefixFits a n ∧ ¬ InRange a n := by
  cases a with
  | inet addr port => simp only [prefixFits, InRange, decide_eq_true_eq]; omega
  | inet6 addr port scopeId => simp only [prefixFits, InRange, decide_eq_true_eq]; omega
  | other addr port scopeId => exact absurd ha (by simp [SockAddr.isInternet])

/-! ## Splitting the text -/

section Split

variable {text t u h w rest : Text} {prefixBegin : Option Text}

theorem scanPrefix_unclosed (ht : ']' ∉ t) : (scanPrefix t prefixBegin).1 = [] := by
  induction t generalizing prefixBegin with
  | nil => rfl
  | cons c t ih =>
    have hc : c ≠ ']' := fun hc => ht (hc ▸ List.mem_cons_self)
    rw [scanPrefix, if_neg hc]
    exact ih fun hmem => ht (List.mem_cons_of_mem c hmem)

theorem scanPrefix_plain (hclosed : ']' ∉ h) (hslash : '/' ∉ h) :
    scanPrefix (h ++ ']' :: rest) prefixBegin = (']' :: rest, prefixBegin) := by
  induction h with
  | nil => simp [scanPrefix]
  | cons c h ih =>
    simp only [List.mem_cons, not_or] at hclosed hslash
    rw [List.cons_append, scanPrefix, if_neg (Ne.symm hclosed.1), if_neg (Ne.symm hslash.1)]
    exact ih hclosed.2 hslash.2

/-- The last slash counts. -/
theorem scanPrefix_slash (hu : ']' ∉ u) (hclosed : ']' ∉ w) (hslash : '/' ∉ w) :
    scanPrefix (u ++ '/' :: (w ++ ']' :: rest)) prefixBegin =
      (']' :: rest, some (w ++ ']' :: rest)) := by
  induction u generalizing prefixBegin with
  | nil =>
    rw [List.nil_append, scanPrefix, if_neg (by decide), if_pos rfl]
    exact scanPrefix_plain hclosed hslash
  | cons c u ih =>
    simp only [List.mem_cons, not_or] at hu
    rw [List.cons_append, scanPrefix, if_neg (Ne.symm hu.1)]
    exact ih hu.2

theorem hostPrefixPort_plain (ht : skipSpace text = '[' :: (h ++ ']' :: rest)) (hclosed : ']' ∉ h)
    (hslash : '/' ∉ h) : hostPrefixPort text = some ((some h, afterColon rest), 128) := by
  have hend : scanPrefix ('[' :: (h ++ ']' :: rest)) none = (']' :: rest, none) :=
    scanPrefix_plain (h := '[' :: h) (by simp [hclosed]) (by simp [hslash])
  have hhost : strndup (h ++ ']' :: rest) (ptrDiff (']' :: rest) (h ++ ']' :: rest)) = h :=
    strndup_ptrDiff h (']' :: rest)
  simp only [hostPrefixPort, ht, hend, hhost, findPort_host]

theorem hostPrefixPort_slash (ht : skipSpace text = '[' :: (u ++ '/' :: (w ++ ']' :: rest)))
    (hu : ']' ∉ u) (hclosed : ']' ∉ w) (hslash : '/' ∉ w) :
    hostPrefixPort text = some ((some u, afterColon rest), atoi w) := by
  have hend : scanPrefix ('[' :: (u ++ '/' :: (w ++ ']' :: rest))) none =
      (']' :: rest, some (w ++ ']' :: rest)) :=
    scanPrefix_slash (u := '[' :: u) (by simp [hu]) hclosed hslash
  have hhost : strndup (u ++ '/' :: (w ++ ']' :: rest)) (u.length + 1 - 1) = u := by
    simp [strndup]
  have hprefix : strndup (w ++ ']' :: rest) (ptrDiff (']' :: rest) (w ++ ']' :: rest)) = w :=
    strndup_ptrDiff w (']' :: rest)
  simp only [hostPrefixPort, ht, hend, ptrDiff_append_cons, hhost, hprefix, findPort_host]

theorem hostPrefixPort_unclosed (ht : skipSpace text = '[' :: u) (hu : ']' ∉ u) :
    hostPrefixPort text = none := by
  have hend : (scanPrefix ('[' :: u) none).1 = [] := scanPrefix_unclosed (by simp [hu])
  simp only [hostPrefixPort, ht]
  generalize scanPrefix ('[' :: u) none = r at hend
  obtain ⟨ipEnd, prefixBegin⟩ := r
  cases hend
  rfl

theorem hostPrefixPort_open (h : (skipSpace text).head? ≠ some '[') : hostPrefixPort text = none := by
  unfold hostPrefixPort
  split
  · rename_i ht
    exact absurd (by rw [ht]; rfl) h
  · rfl

/-- How a text is split. -/
inductive Bracketing (text : Text) : Prop where
  | none (refused : hostPrefixPort text = none)
  | plain {h rest : Text} (text : skipSpace text = '[' :: (h ++ ']' :: rest)) (closed : ']' ∉ h)
      (noSlash : '/' ∉ h)
  | slash {u w rest : Text} (text : skipSpace text = '[' :: (u ++ '/' :: (w ++ ']' :: rest)))
      (host : ']' ∉ u) (closed : ']' ∉ w) (last : '/' ∉ w)

theorem bracketing (text : Text) : Bracketing text := by
  by_cases hhead : (skipSpace text).head? = some '['
  · obtain ⟨u, hu⟩ := List.head?_eq_some_iff.mp hhead
    by_cases hclosed : ']' ∈ u
    · obtain ⟨h, rest, rfl, hh⟩ := List.eq_append_cons_of_mem hclosed
      by_cases hslash : '/' ∈ h
      · obtain ⟨v, w, rfl, hw⟩ := last_split hslash
        simp only [List.mem_append, List.mem_cons, not_or] at hh
        rw [List.append_assoc, List.cons_append] at hu
        exact .slash hu hh.1 hh.2.2 hw
      · exact .plain hu hh hslash
    · exact .none (hostPrefixPort_unclosed hu hclosed)
  · exact .none (hostPrefixPort_open hhead)

end Split

/-! ## The result -/

section Result

variable {r : Resolver} {text h u w rest : Text} {sa a : SockAddr} {n₀ n : Int} {port : Option Text}

theorem sockPtonWithPrefix_refused (h : hostPrefixPort text = none) :
    (sockPtonWithPrefix r (some text) (some sa) (some n₀)).1 = -2 := by
  simp [sockPtonWithPrefix, h]

theorem sockPtonWithPrefix_unresolved (hs : hostPrefixPort text = some ((some h, port), n))
    (hr : r.getaddrinfo (some h) port = none) :
    (sockPtonWithPrefix r (some text) (some sa) (some n₀)).1 = -2 := by
  simp [sockPtonWithPrefix, hs, hr]

/-- The first address found is stored, or `sa` keeps the one it had, and the length is compared with
that one's family. -/
theorem sockPtonWithPrefix_eq {servinfo : List SockAddr}
    (hs : hostPrefixPort text = some ((some h, port), n))
    (hr : r.getaddrinfo (some h) port = some servinfo) :
    sockPtonWithPrefix r (some text) (some sa) (some n₀) =
      (if prefixFits ((servinfo.find? SockAddr.isInternet).getD sa) n then 0 else -2,
        some ((servinfo.find? SockAddr.isInternet).getD sa), some n) := by
  simp only [sockPtonWithPrefix, hs, hr]
  cases servinfo.find? SockAddr.isInternet <;> rfl

theorem sockPtonWithPrefix_accepted {n' : Int} (hs : hostPrefixPort text = some ((some h, port), n))
    (hout : sockPtonWithPrefix r (some text) (some sa) (some n₀) = (0, some a, some n')) :
    n' = n ∧ prefixFits a n ∧ ∃ servinfo, r.getaddrinfo (some h) port = some servinfo ∧
      (servinfo.find? SockAddr.isInternet).getD sa = a := by
  cases hr : r.getaddrinfo (some h) port with
  | none =>
    have hres : (sockPtonWithPrefix r (some text) (some sa) (some n₀)).1 = -2 :=
      sockPtonWithPrefix_unresolved hs hr
    rw [hout] at hres
    exact absurd hres (by simp)
  | some servinfo =>
    rw [sockPtonWithPrefix_eq hs hr] at hout
    generalize hfound : (servinfo.find? SockAddr.isInternet).getD sa = b at hout
    by_cases hfits : prefixFits b n
    · rw [if_pos hfits] at hout
      simp only [Prod.mk.injEq, Option.some.injEq, true_and] at hout
      obtain ⟨rfl, rfl⟩ := hout
      exact ⟨rfl, hfits, servinfo, rfl, hfound⟩
    · rw [if_neg hfits] at hout
      exact absurd (congrArg Prod.fst hout) (by simp)

end Result

/-! ## The range -/

/-- A bracketed address, with a port or without. -/
inductive Bracketed : Text → Text → Option Text → Prop where
  | alone {h : Text} (closed : ']' ∉ h) : Bracketed ('[' :: (h ++ [']'])) h none
  | port {h p : Text} (closed : ']' ∉ h) : Bracketed ('[' :: (h ++ ']' :: ':' :: p)) h (some p)

/-- An accepted prefix length is in range, and a resolved address without one gets its own. -/
structure PrefixInRange (r : Resolver) (text : Text) (sa : SockAddr) (n₀ : Int) : Prop where
  range : ∀ a n, sockPtonWithPrefix r (some text) (some sa) (some n₀) = (0, some a, some n) →
    InRange a n
  full : ∀ h port a, Bracketed (skipSpace text) h port → '/' ∉ h → r.Finds (some h) port a →
    sockPtonWithPrefix r (some text) (some sa) (some n₀) = (0, some a, some a.fullPrefix)

/-- A text with a negative number as its prefix length, for which an address is found. -/
structure NegativePrefix (r : Resolver) (t : Text) (sa : SockAddr) (u w rest : Text)
    (servinfo : List SockAddr) : Prop where
  text : t = '[' :: (u ++ '/' :: (w ++ ']' :: rest))
  host : ']' ∉ u
  closed : ']' ∉ w
  last : '/' ∉ w
  found : r.getaddrinfo (some u) (afterColon rest) = some servinfo
  internet : ((servinfo.find? SockAddr.isInternet).getD sa).isInternet
  negative : atoi w < 0

/-- A bracketed IPv4 address without a prefix length. -/
structure BareIpv4 (r : Resolver) (t h : Text) (port : Option Text) (addr : UInt32) (p : UInt16) :
    Prop where
  text : Bracketed t h port
  noSlash : '/' ∉ h
  found : r.Finds (some h) port (.inet addr p)

section Range

variable {r : Resolver} {text t h u w rest : Text} {sa a : SockAddr} {n₀ : Int} {port : Option Text}

theorem Bracketed.split (hb : Bracketed t h port) :
    ∃ rest, t = '[' :: (h ++ ']' :: rest) ∧ ']' ∉ h ∧ afterColon rest = port := by
  cases hb with
  | alone closed => exact ⟨[], rfl, closed, rfl⟩
  | port closed => exact ⟨_, rfl, closed, afterColon_append (u := []) (by simp)⟩

/-- A bracketed address without a prefix length is checked against 128, whatever its family. -/
theorem sockPtonWithPrefix_bracketed (hb : Bracketed (skipSpace text) h port) (hslash : '/' ∉ h)
    (hf : r.Finds (some h) port a) : sockPtonWithPrefix r (some text) (some sa) (some n₀) =
      (if prefixFits a 128 then 0 else -2, some a, some 128) := by
  obtain ⟨rest, ht, hclosed, rfl⟩ := hb.split
  obtain ⟨servinfo, hlookup, hfind⟩ := hf
  rw [sockPtonWithPrefix_eq (hostPrefixPort_plain ht hclosed hslash) hlookup, hfind]
  rfl

theorem sockPtonWithPrefix_range_iff (r : Resolver) (text : Text) (sa : SockAddr) (n₀ : Int) :
    PrefixInRange r text sa n₀ ↔
      (¬ ∃ u w rest servinfo, NegativePrefix r (skipSpace text) sa u w rest servinfo) ∧
      ¬ ∃ h port addr p, BareIpv4 r (skipSpace text) h port addr p := by
  constructor
  · intro hok
    constructor
    · rintro ⟨u, w, rest, servinfo, hneg⟩
      have hout : sockPtonWithPrefix r (some text) (some sa) (some n₀) = _ := sockPtonWithPrefix_eq
        (hostPrefixPort_slash hneg.text hneg.host hneg.closed hneg.last) hneg.found
      obtain ⟨hfits, hno⟩ := negative_not_inRange hneg.internet hneg.negative
      rw [if_pos hfits] at hout
      exact hno (hok.range _ _ hout)
    · rintro ⟨h, port, addr, p, hbare⟩
      have hfull := hok.full h port _ hbare.text hbare.noSlash hbare.found
      rw [sockPtonWithPrefix_bracketed hbare.text hbare.noSlash hbare.found] at hfull
      exact absurd (congrArg Prod.fst hfull) (by simp [prefixFits])
  · rintro ⟨hneg, hbare⟩
    constructor
    · intro a n hout
      cases bracketing text with
      | none refused =>
        have hres : (sockPtonWithPrefix r (some text) (some sa) (some n₀)).1 = -2 :=
          sockPtonWithPrefix_refused refused
        rw [hout] at hres
        exact absurd hres (by simp)
      | plain ht closed noSlash =>
        obtain ⟨rfl, hfits, -⟩ :=
          sockPtonWithPrefix_accepted (hostPrefixPort_plain ht closed noSlash) hout
        exact prefixFits_default hfits
      | slash ht host closed last =>
        obtain ⟨rfl, hfits, servinfo, hlookup, rfl⟩ :=
          sockPtonWithPrefix_accepted (hostPrefixPort_slash ht host closed last) hout
        refine prefixFits_inRange hfits fun hinternet => Int.not_lt.mp fun hlt => hneg ?_
        exact ⟨_, _, _, servinfo, ht, host, closed, last, hlookup, hinternet, hlt⟩
    · intro h port a hb hslash hf
      rw [sockPtonWithPrefix_bracketed hb hslash hf]
      cases a with
      | inet addr p => exact absurd ⟨h, port, addr, p, hb, hslash, hf⟩ hbare
      | inet6 addr p scopeId => rfl
      | other addr p scopeId =>
        obtain ⟨servinfo, -, hfind⟩ := hf
        exact absurd (List.find?_some hfind) (by simp [SockAddr.isInternet])

end Range

/-- A resolver for one IPv4 address. -/
def oneHost : Resolver :=
  { inetNtop6 := fun _ => none
    getaddrinfo := fun host port =>
      if host = some "10.0.0.1".toList ∧ port = none then some [.inet 0x0A000001 0] else none }

/-- A length of -1 is accepted, and the address without one is not. -/
theorem sockPtonWithPrefix_both_fail :
    ¬ PrefixInRange oneHost "[10.0.0.1/-1]".toList .unspec 0 ∧
      ¬ PrefixInRange oneHost "[10.0.0.1]".toList .unspec 0 := by
  constructor
  · intro hok
    have hrange := hok.range (.inet 0x0A000001 0) (-1) (by decide)
    exact absurd hrange.1 (by decide)
  · intro hok
    have hbracketed : Bracketed (skipSpace "[10.0.0.1]".toList) "10.0.0.1".toList none :=
      .alone (h := "10.0.0.1".toList) (by decide)
    have hfull := hok.full _ none (.inet 0x0A000001 0) hbracketed (by decide)
      ⟨[.inet 0x0A000001 0], by decide, by decide⟩
    revert hfull
    decide

end LibPcp
