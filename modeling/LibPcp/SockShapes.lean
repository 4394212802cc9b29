import LibPcp.SockNtop

/-!
# LibPcp.SockShapes

Which texts `sock_pton` takes for an address.

`Shape t host port`: the text `t`, without leading white space, is in one of the documented forms, with
that host and that port.

* `hostAndPort_of_shape`: a text of a documented form is split accordingly.
* `shape_cases`: every other text has a bracket that is not closed, or more than a port after it.
* `sockPton_shapes_iff`: a text of a documented form is looked up as the form says; of the others the
  first kind is rejected, the second only by the resolver.
-/

namespace LibPcp

open CText

/-! ## The scan for the port -/

/-- What follows the first colon. -/
def afterColon (t : Text) : Option Text := (skipTo ':' t).tail?

section Scan

variable {cp t u v host : Text} {port hostName : Option Text}

theorem afterColon_append (h : ':' ∉ u) : afterColon (u ++ ':' :: v) = some v := by
  rw [afterColon, skipTo_append h]
  rfl

theorem afterColon_colon (v : Text) : afterColon (':' :: v) = some v := rfl

theorem scanPort_cons {c : Char} (hc : c ≠ ':') :
    scanPort cp (c :: t) port hostName = scanPort cp t port hostName := by
  simp [scanPort, hc]

theorem scanPort_colon : scanPort cp (':' :: t) none hostName = scanPort cp t (some t) hostName := by
  simp [scanPort]

theorem scanPort_skip (h : ':' ∉ u) :
    scanPort cp (u ++ v) port hostName = scanPort cp v port hostName := by
  induction u with
  | nil => rfl
  | cons c u ih =>
    have hc : c ≠ ':' := fun hc => h (hc ▸ List.mem_cons_self)
    rw [List.cons_append, scanPort_cons hc]
    exact ih fun hmem => h (List.mem_cons_of_mem c hmem)

theorem scanPort_end (h : ':' ∉ t) : scanPort cp t port hostName = ([], port, hostName) := by
  have hskip : scanPort cp (t ++ []) port hostName = scanPort cp [] port hostName := scanPort_skip h
  rwa [List.append_nil] at hskip

/-- With a host from the brackets the first colon starts the port, whatever follows. -/
theorem scanPort_host (cp t host : Text) (port : Option Text) :
    scanPort cp t port (some host) = ([], port.or (afterColon t), some host) := by
  induction t generalizing port with
  | nil => cases port <;> rfl
  | cons c t ih =>
    by_cases hc : c = ':'
    · subst hc
      cases port with
      | none =>
        rw [scanPort_colon, ih, afterColon_colon]
        rfl
      | some p =>
        rw [scanPort, if_pos rfl, ih]
        rfl
    · have hafter : afterColon (c :: t) = afterColon t := by
        simp [afterColon, skipTo, hc]
      rw [scanPort_cons hc, ih, hafter]

theorem findPort_host (cp t host : Text) :
    findPort cp t (some host) = (some host, afterColon t) := by
  simp [findPort, scanPort_host]

theorem findPort_bare (h : ':' ∉ t) : findPort t t none = (some t, none) := by
  simp [findPort, scanPort_end h, ptrDiff, strndup]

/-- Exactly one colon. -/
theorem findPort_one (hu : ':' ∉ u) (hv : ':' ∉ v) : findPort (u ++ ':' :: v) (u ++ ':' :: v) none =
    (if u = [] then none else some u, some v) := by
  have hscan : scanPort (u ++ ':' :: v) (u ++ ':' :: v) none none = ([], some v, none) := by
    rw [scanPort_skip hu, scanPort_colon]
    exact scanPort_end hv
  rw [findPort, hscan]
  simp only [ptrDiff_append_cons]
  cases u with
  | nil => rfl
  | cons c u => simp [strndup]

/-- A second colon makes the whole text the host. -/
theorem findPort_many (hu : ':' ∉ u) (hv : ':' ∈ v) :
    findPort (u ++ ':' :: v) (u ++ ':' :: v) none = (some (u ++ ':' :: v), none) := by
  obtain ⟨w, z, rfl, hw⟩ := List.eq_append_cons_of_mem hv
  have hscan : ∀ cp : Text, scanPort cp (u ++ ':' :: (w ++ ':' :: z)) none none =
      (':' :: z, none, some cp) := by
    intro cp
    rw [scanPort_skip hu, scanPort_colon, scanPort_skip hw, scanPort, if_pos rfl]
  rw [findPort, hscan]

end Scan

/-! ## Brackets -/

section Brackets

variable {t text u h rest : Text}

/-- The first closing bracket. -/
theorem skipTo_bracket (hh : ']' ∉ h) : skipTo ']' ('[' :: (h ++ ']' :: rest)) = ']' :: rest :=
  skipTo_append (u := '[' :: h) (by simp [hh])

theorem hostAndPort_bracket (ht : skipSpace text = '[' :: (h ++ ']' :: rest)) (hh : ']' ∉ h) :
    hostAndPort text = some (some h, afterColon rest) := by
  have hhost : strndup (h ++ ']' :: rest) (ptrDiff (']' :: rest) (h ++ ']' :: rest)) = h :=
    strndup_ptrDiff h (']' :: rest)
  simp only [hostAndPort, ht, skipTo_bracket hh, hhost, findPort_host]

theorem hostAndPort_unclosed (ht : skipSpace text = '[' :: u) (hu : ']' ∉ u) :
    hostAndPort text = none := by
  have hend : skipTo ']' ('[' :: u) = [] := skipTo_eq_nil (by simp [hu])
  simp [hostAndPort, ht, hend]

theorem hostAndPort_open (ht : skipSpace text = t) (hhead : t.head? ≠ some '[') :
    hostAndPort text = some (findPort t t none) := by
  cases t with
  | nil => simp [hostAndPort, ht]
  | cons c t =>
    have hc : c ≠ '[' := fun hc => hhead (congrArg some hc)
    simp [hostAndPort, ht, hc]

end Brackets

/-! ## Documented forms -/

/-- The documented forms of an address, with the host and the port they name. -/
inductive Shape : Text → Option Text → Option Text → Prop where
  | bracketPort {h p : Text} (closed : ']' ∉ h) :
      Shape ('[' :: (h ++ ']' :: ':' :: p)) (some h) (some p)
  | bracket {h : Text} (closed : ']' ∉ h) : Shape ('[' :: (h ++ [']'])) (some h) none
  | hostPort {h p : Text} (nonempty : h ≠ []) (bare : h.head? ≠ some '[') (host : ':' ∉ h)
      (port : ':' ∉ p) : Shape (h ++ ':' :: p) (some h) (some p)
  | port {p : Text} (port : ':' ∉ p) : Shape (':' :: p) none (some p)
  | noColon {t : Text} (bare : t.head? ≠ some '[') (host : ':' ∉ t) : Shape t (some t) none
  | manyColons {t : Text} (bare : t.head? ≠ some '[') (many : 2 ≤ t.count ':') : Shape t (some t) none

/-- A closed bracket with something else than a port after it. -/
structure JunkAfterBracket (t h rest : Text) : Prop where
  text : t = '[' :: (h ++ ']' :: rest)
  closed : ']' ∉ h
  nonempty : rest ≠ []
  noPort : rest.head? ≠ some ':'

section Shapes

variable {t text h rest : Text} {host port : Option Text}

/-- A text with a colon, taken apart at the first one. -/
theorem many_split (hmany : 2 ≤ t.count ':') : ∃ u v, t = u ++ ':' :: v ∧ ':' ∉ u ∧ ':' ∈ v := by
  have hmem : ':' ∈ t := List.count_pos_iff.mp (by omega)
  obtain ⟨u, v, rfl, hu⟩ := List.eq_append_cons_of_mem hmem
  have hzero : u.count ':' = 0 := List.count_eq_zero.mpr hu
  refine ⟨u, v, rfl, hu, List.count_pos_iff.mp ?_⟩
  simp only [List.count_append, List.count_cons_self, hzero] at hmany
  omega

theorem hostAndPort_of_shape (hs : Shape (skipSpace text) host port) :
    hostAndPort text = some (host, port) := by
  generalize ht : skipSpace text = t at hs
  cases hs with
  | bracketPort closed =>
    rw [hostAndPort_bracket ht closed]
    rw [afterColon_colon]
  | bracket closed =>
    rw [hostAndPort_bracket ht closed]
    rfl
  | @hostPort h p nonempty bare hh hp =>
    have hhead : (h ++ ':' :: p).head? ≠ some '[' := by
      cases h with
      | nil => exact absurd rfl nonempty
      | cons c h => exact bare
    rw [hostAndPort_open ht hhead, findPort_one hh hp, if_neg nonempty]
  | @port p hp =>
    rw [hostAndPort_open ht (by simp)]
    exact congrArg some (findPort_one (u := []) (by simp) hp)
  | noColon bare hnone => rw [hostAndPort_open ht bare, findPort_bare hnone]
  | manyColons bare many =>
    obtain ⟨u, v, rfl, hu, hv⟩ := many_split many
    rw [hostAndPort_open ht bare, findPort_many hu hv]

/-- Every text has a documented form, or a bracket that is not closed or has something else after it. -/
theorem shape_cases (t : Text) : (∃ host port, Shape t host port) ∨
    (∃ u, t = '[' :: u ∧ ']' ∉ u) ∨ ∃ h rest, JunkAfterBracket t h rest := by
  by_cases hhead : t.head? = some '['
  · obtain ⟨u, rfl⟩ := List.head?_eq_some_iff.mp hhead
    by_cases hclosed : ']' ∈ u
    · obtain ⟨h, rest, rfl, hh⟩ := List.eq_append_cons_of_mem hclosed
      cases rest with
      | nil => exact .inl ⟨_, _, .bracket hh⟩
      | cons c p =>
        by_cases hc : c = ':'
        · subst hc
          exact .inl ⟨_, _, .bracketPort hh⟩
        · exact .inr (.inr ⟨h, c :: p, rfl, hh, List.cons_ne_nil c p, fun hp => hc (Option.some.inj hp)⟩)
    · exact .inr (.inl ⟨u, rfl, hclosed⟩)
  · left
    by_cases hcolon : ':' ∈ t
    · obtain ⟨u, v, rfl, hu⟩ := List.eq_append_cons_of_mem hcolon
      by_cases hv : ':' ∈ v
      · have hmany : 2 ≤ (u ++ ':' :: v).count ':' := by
          have hpos := List.count_pos_iff.mpr hv
          simp only [List.count_append, List.count_cons_self]
          omega
        exact ⟨_, _, .manyColons hhead hmany⟩
      · cases u with
        | nil => exact ⟨_, _, .port hv⟩
        | cons c u => exact ⟨_, _, .hostPort (List.cons_ne_nil c u) hhead hu hv⟩
    · exact ⟨_, _, .noColon hhead hcolon⟩

/-- The first closing bracket of a text is where a documented form has it. -/
theorem JunkAfterBracket.no_shape (hj : JunkAfterBracket t h rest) : ¬ Shape t host port := by
  intro hs
  have hend : skipTo ']' t = ']' :: rest := by
    rw [hj.text]
    exact skipTo_bracket hj.closed
  have hhead : t.head? = some '[' := by rw [hj.text]; rfl
  cases hs with
  | @bracketPort h' p closed =>
    rw [skipTo_bracket closed] at hend
    exact hj.noPort (by rw [← (List.cons.inj hend).2]; rfl)
  | @bracket h' closed =>
    rw [skipTo_bracket closed] at hend
    exact hj.nonempty (List.cons.inj hend).2.symm
  | @hostPort h' p nonempty bare =>
    cases h' with
    | nil => exact nonempty rfl
    | cons c h' => exact bare hhead
  | port => cases hhead
  | noColon bare => exact bare hhead
  | manyColons bare => exact bare hhead

end Shapes

/-! ## What is accepted -/

/-- The outcome when `getaddrinfo` is asked for `host` and `port`: `-2` if it fails, and else the first
address of a known family, without its address bytes if no host was given. -/
def lookedUp (r : Resolver) (host port : Option Text) (sa : SockAddr) : Int × Option SockAddr :=
  match r.getaddrinfo host port with
  | none => (-2, some sa)
  | some servinfo =>
    match servinfo.find? SockAddr.isInternet with
    | none => (0, some sa)
    | some p => (0, some (if host.isNone then p.cleared else p))

/-- For a text of a documented form `sock_pton` returns what the resolver has for the host and the port
of that form, every other text is rejected. -/
structure AcceptsShapes (r : Resolver) (text : Text) (sa : SockAddr) : Prop where
  asks : ∀ host port, Shape (skipSpace text) host port →
    sockPton r (some text) (some sa) = lookedUp r host port sa
  refuses : (∀ host port, ¬ Shape (skipSpace text) host port) →
    (sockPton r (some text) (some sa)).1 < 0

section Accepted

variable {r : Resolver} {text : Text} {sa : SockAddr} {host port : Option Text}

theorem sockPton_lookedUp (r : Resolver) (sa : SockAddr) (h : hostAndPort text = some (host, port)) :
    sockPton r (some text) (some sa) = lookedUp r host port sa := by
  simp only [sockPton, h]
  rfl

theorem sockPton_unresolved (h : hostAndPort text = some (host, port))
    (hr : r.getaddrinfo host port = none) : (sockPton r (some text) (some sa)).1 < 0 := by
  rw [sockPton_lookedUp r sa h]
  simp [lookedUp, hr]

theorem sockPton_resolved (h : hostAndPort text = some (host, port))
    (hr : (r.getaddrinfo host port).isSome) : (sockPton r (some text) (some sa)).1 = 0 := by
  obtain ⟨servinfo, hl⟩ := Option.isSome_iff_exists.mp hr
  rw [sockPton_lookedUp r sa h]
  simp only [lookedUp, hl]
  cases servinfo.find? SockAddr.isInternet <;> rfl

/-- What follows a closed bracket and is no port goes unnoticed: only the resolver can reject the
text. -/
theorem sockPton_shapes_iff (r : Resolver) (text : Text) (sa : SockAddr) : AcceptsShapes r text sa ↔
    ¬ ∃ h rest, JunkAfterBracket (skipSpace text) h rest ∧
      (r.getaddrinfo (some h) (afterColon rest)).isSome := by
  constructor
  · rintro hok ⟨h, rest, hj, hr⟩
    have hneg := hok.refuses fun _ _ => hj.no_shape
    rw [sockPton_resolved (hostAndPort_bracket hj.text hj.closed) hr] at hneg
    exact absurd hneg (by decide)
  · intro hgood
    refine ⟨fun _ _ hs => sockPton_lookedUp r sa (hostAndPort_of_shape hs), fun hno => ?_⟩
    rcases shape_cases (skipSpace text) with ⟨host, port, hs⟩ | ⟨u, ht, hu⟩ | ⟨h, rest, hj⟩
    · exact absurd hs (hno host port)
    · simp [sockPton, hostAndPort_unclosed ht hu]
    · have hnone : r.getaddrinfo (some h) (afterColon rest) = none :=
        Option.not_isSome_iff_eq_none.mp fun hr => hgood ⟨h, rest, hj, hr⟩
      exact sockPton_unresolved (hostAndPort_bracket hj.text hj.closed) hnone

end Accepted

/-- A resolver that knows the IPv6 loopback address and no service names. -/
def loopbackResolver : Resolver :=
  { inetNtop6 := fun a => if a = ⟨0, 0, 0, 1⟩ then some "::1".toList else none
    getaddrinfo := fun host port =>
      if host = some "::1".toList ∧ port = none then some [.inet6 ⟨0, 0, 0, 1⟩ 0 0] else none }

/-- The junk after the bracket is not even looked at. -/
theorem sockPton_junk_accepted :
    ¬ ∀ (r : Resolver) (text : Text) (sa : SockAddr), AcceptsShapes r text sa := by
  intro hall
  have hok := hall loopbackResolver "[::1]junk".toList .unspec
  have hj : JunkAfterBracket (skipSpace "[::1]junk".toList) "::1".toList "junk".toList :=
    ⟨by decide, by decide, by decide, by decide⟩
  have hneg := hok.refuses fun _ _ => hj.no_shape
  revert hneg
  decide

end LibPcp
