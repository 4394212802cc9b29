import LibPcp.SockShapes

/-!
# LibPcp.SockRoundtrip

`sock_pton` reads what `sock_ntop` has written.

`Understood r a`: the C library writes the address `a` as it is documented to, and finds it again from
that text and from the decimal port.

* `sockNtop_shape`: the text of an address has the documented form with that host and port.
* `sockPton_sockNtop`: so it is looked up and found.
-/

namespace LibPcp

open CText

/-- The port as it is looked up: a port 0 is not written. -/
def portText (port : UInt16) : Option Text := if port = 0 then none else some (decimal port.toNat)

/-- The first address in the answer that is an IPv4 or an IPv6 one. -/
def Resolver.Finds (r : Resolver) (host port : Option Text) (sa : SockAddr) : Prop :=
  ∃ servinfo, r.getaddrinfo host port = some servinfo ∧
    servinfo.find? SockAddr.isInternet = some sa

/-- The C library writes and finds the address. -/
inductive Understood (r : Resolver) : SockAddr → Prop where
  | inet {addr : UInt32} {port : UInt16}
      (found : r.Finds (some (inetNtop4 addr)) (portText port) (.inet addr port)) :
      Understood r (.inet addr port)
  | inet6 {addr : In6Addr} {port : UInt16} {str : Text} (text : r.inetNtop6 addr = some str)
      (plain : ∀ c ∈ str, isspace c = false ∧ c ≠ '[' ∧ c ≠ ']') (colons : 2 ≤ str.count ':')
      (found : r.Finds (some str) (portText port) (.inet6 addr port 0)) :
      Understood r (.inet6 addr port 0)

section Texts

variable {c : Char} {t : Text}

theorem skipSpace_eq_self (h : ∀ c, t.head? = some c → isspace c = false) : skipSpace t = t := by
  cases t with
  | nil => rfl
  | cons c t => exact skipSpace_cons (h c rfl)

/-- A character of a dotted address. -/
def dotted (c : Char) : Bool := c.isDigit || c == '.'

theorem inetNtop4_dotted {a : UInt32} (h : c ∈ inetNtop4 a) : dotted c = true := by
  have hdot : dotted '.' = true := by decide
  have hdigits : ∀ {n : Nat}, c ∈ decimal n → dotted c = true := by
    intro n hn
    simp [dotted, decimal_isDigit hn]
  simp only [inetNtop4, List.mem_append, List.mem_cons] at h
  rcases h with ((h | rfl | h) | rfl | h) | rfl | h
  · exact hdigits h
  · exact hdot
  · exact hdigits h
  · exact hdot
  · exact hdigits h
  · exact hdot
  · exact hdigits h

theorem inetNtop4_ne_nil {a : UInt32} : inetNtop4 a ≠ [] := by
  simp [inetNtop4, decimal_ne_nil]

theorem dotted_isspace (h : dotted c = true) : isspace c = false := by
  by_contra hspace
  have hval : c = ' ' ∨ 9 ≤ c.toNat ∧ c.toNat ≤ 13 := by
    simpa [isspace, or_iff_not_imp_left] using hspace
  have hdot : c ≠ '.' := by
    rintro rfl
    revert hspace
    decide
  have hdigit : c.isDigit = true := by
    simpa [dotted, hdot] using h
  rcases hval with rfl | ⟨-, hle⟩
  · revert hdigit
    decide
  · have hge : 48 ≤ c.toNat := by
      simp only [Char.isDigit, Bool.and_eq_true, decide_eq_true_eq] at hdigit
      exact UInt32.le_iff_toNat_le.mp hdigit.1
    omega

theorem not_mem_inetNtop4 {a : UInt32} (h : dotted c = false) : c ∉ inetNtop4 a := fun hmem =>
  Bool.false_ne_true (h.symm.trans (inetNtop4_dotted hmem))

/-- A port has at most five digits, and the buffers keep them all. -/
theorem snprintf_port (port : UInt16) :
    snprintf 7 (':' :: decimal port.toNat) = ':' :: decimal port.toNat ∧
      snprintf 8 (']' :: ':' :: decimal port.toNat) = ']' :: ':' :: decimal port.toNat := by
  have hport : port.toNat < 10 ^ 5 := Nat.lt_trans port.toNat_lt (by decide)
  have hlen := decimal_length_le (by decide) hport
  constructor
  · exact List.take_of_length_le (by rw [List.length_cons]; omega)
  · exact List.take_of_length_le (by rw [List.length_cons, List.length_cons]; omega)

theorem not_mem_decimal {n : Nat} (h : c.isDigit = false) : c ∉ decimal n := fun hmem =>
  Bool.false_ne_true (h.symm.trans (decimal_isDigit hmem))

end Texts

/-! ## The round trip -/

section Roundtrip

variable {r : Resolver} {a : SockAddr}

/-- The host that is looked up for the address. -/
def hostText (r : Resolver) : SockAddr → Option Text
  | .inet addr _ => some (inetNtop4 addr)
  | .inet6 addr _ _ => r.inetNtop6 addr
  | .other .. => none

def SockAddr.port : SockAddr → UInt16
  | .inet _ port => port
  | .inet6 _ port _ => port
  | .other _ port _ => port

/-- The text has no leading white space and the form of its family, with a port or without. -/
theorem sockNtop_shape (h : Understood r a) (saFamily salen : Nat) :
    ∃ text, sockNtop r a saFamily salen = some text ∧ skipSpace text = text ∧
      Shape text (hostText r a) (portText a.port) := by
  cases h with
  | @inet addr port found =>
    have hhead : ∀ u : Text, (inetNtop4 addr ++ u).head? = (inetNtop4 addr).head? := fun u =>
      List.head?_append_of_ne_nil _ inetNtop4_ne_nil
    have hspace : ∀ u : Text, skipSpace (inetNtop4 addr ++ u) = inetNtop4 addr ++ u := fun u =>
      skipSpace_eq_self fun c hc => dotted_isspace (inetNtop4_dotted (List.mem_of_head? (hhead u ▸ hc)))
    have hbare : (inetNtop4 addr).head? ≠ some '[' := fun hc =>
      not_mem_inetNtop4 (by decide) (List.mem_of_head? hc)
    have hcolon : ':' ∉ inetNtop4 addr := not_mem_inetNtop4 (by decide)
    by_cases hport : port = 0
    · have htext : sockNtop r (.inet addr port) saFamily salen = some (inetNtop4 addr) := by
        simp [sockNtop, hport]
      refine ⟨_, htext, ?_, ?_⟩
      · simpa using hspace []
      · have hnone : portText port = none := if_pos hport
        rw [SockAddr.port, hnone]
        exact .noColon hbare hcolon
    · have htext : sockNtop r (.inet addr port) saFamily salen =
          some (inetNtop4 addr ++ ':' :: decimal port.toNat) := by
        simp [sockNtop, hport, (snprintf_port port).1]
      refine ⟨_, htext, hspace _, ?_⟩
      have hsome : portText port = some (decimal port.toNat) := if_neg hport
      rw [SockAddr.port, hsome]
      exact .hostPort inetNtop4_ne_nil hbare hcolon (not_mem_decimal (by decide))
  | @inet6 addr port str text plain colons found =>
    by_cases hport : port = 0
    · have htext : sockNtop r (.inet6 addr port 0) saFamily salen = some str := by
        simp [sockNtop, hport, text]
      refine ⟨_, htext, ?_, ?_⟩
      · exact skipSpace_eq_self fun c hc => (plain c (List.mem_of_head? hc)).1
      · have hnone : portText port = none := if_pos hport
        rw [SockAddr.port, hnone, hostText, text]
        exact .manyColons (fun hc => (plain _ (List.mem_of_head? hc)).2.1 rfl) colons
    · have htext : sockNtop r (.inet6 addr port 0) saFamily salen =
          some ('[' :: (str ++ ']' :: ':' :: decimal port.toNat)) := by
        simp [sockNtop, hport, text, (snprintf_port port).2]
      refine ⟨_, htext, skipSpace_cons (by decide), ?_⟩
      have hsome : portText port = some (decimal port.toNat) := if_neg hport
      rw [SockAddr.port, hsome, hostText, text]
      exact .bracketPort fun hmem => (plain _ hmem).2.2 rfl

theorem Understood.found (h : Understood r a) : ∃ host, hostText r a = some host ∧
    r.Finds (some host) (portText a.port) a := by
  cases h with
  | inet found => exact ⟨_, rfl, found⟩
  | inet6 text plain colons found => exact ⟨_, text, found⟩

/-- What `sock_ntop` writes, `sock_pton` reads back. -/
theorem sockPton_sockNtop (h : Understood r a) (saFamily salen : Nat) (sa : SockAddr) :
    ∃ text, sockNtop r a saFamily salen = some text ∧
      sockPton r (some text) (some sa) = (0, some a) := by
  obtain ⟨text, htext, hspace, hshape⟩ := sockNtop_shape h saFamily salen
  obtain ⟨host, hhost, servinfo, hlookup, hfind⟩ := h.found
  have hsplit : hostAndPort text = some (some host, portText a.port) := by
    rw [← hhost]
    exact hostAndPort_of_shape (hspace.symm ▸ hshape)
  refine ⟨text, htext, ?_⟩
  simp [sockPton, hsplit, hlookup, hfind]

end Roundtrip

/-- A resolver for two addresses. -/
def twoHosts : Resolver :=
  { inetNtop6 := fun a => if a = ⟨0, 0, 0, 1⟩ then some "::1".toList else none
    getaddrinfo := fun host port =>
      if host = some "::1".toList ∧ port = some "1234".toList then
        some [.inet6 ⟨0, 0, 0, 1⟩ 1234 0]
      else if host = some "10.250.22.11".toList ∧ port = none then some [.inet 0x0AFA160B 0]
      else none }

theorem sockPton_sockNtop_both :
    (∃ text, sockNtop twoHosts (.inet6 ⟨0, 0, 0, 1⟩ 1234 0) 10 28 = some text ∧
      sockPton twoHosts (some text) (some .unspec) = (0, some (.inet6 ⟨0, 0, 0, 1⟩ 1234 0))) ∧
    ∃ text, sockNtop twoHosts (.inet 0x0AFA160B 0) 2 16 = some text ∧
      sockPton twoHosts (some text) (some .unspec) = (0, some (.inet 0x0AFA160B 0)) := by
  have htext : "::1".toList = [':', ':', '1'] := rfl
  have hntop : twoHosts.inetNtop6 ⟨0, 0, 0, 1⟩ = some "::1".toList := rfl
  have hloopback : Understood twoHosts (.inet6 ⟨0, 0, 0, 1⟩ 1234 0) :=
    .inet6 hntop (by rw [htext]; simp [isspace]) (by rw [htext]; simp)
      ⟨[.inet6 ⟨0, 0, 0, 1⟩ 1234 0], by decide, by decide⟩
  have hhost : Understood twoHosts (.inet 0x0AFA160B 0) :=
    .inet ⟨[.inet 0x0AFA160B 0], by decide, by decide⟩
  exact ⟨sockPton_sockNtop hloopback 10 28 .unspec, sockPton_sockNtop hhost 2 16 .unspec⟩

end LibPcp
