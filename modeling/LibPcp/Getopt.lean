import LibPcp.CText

/-!
# LibPcp.Getopt

Command lines as `getopt_long` reads them (`win_utils/getopt_long.c`).

Each call gives one option. Between two calls the place in a word of short options is kept, and the index
of the word. An option with an argument takes the rest of its word or, if there is none, the next word.
A long option may be cut short; the first one with the name as a prefix is taken if none has just the name.

* `Reads`: the grammar of command lines, and the options each stands for.
* `getopt_accepts_iff`: the loop over the calls accepts the command lines of the grammar and no others, and
  sees their options.
-/

namespace Getopt

open CText

structure LongOpt where
  name : Text
  required : Bool
  deriving DecidableEq, Repr

/-- The option string and the long options. Those with an optional argument, a flag or a value other than
zero are left out. -/
structure Table where
  short : Text
  long : List LongOpt

/-- What is kept between two calls. -/
structure Scan where
  place : Text := []
  optind : Nat := 1
  optopt : Char := '\x00'
  optarg : Option Text := none
  deriving DecidableEq, Repr

/-- What a call returns: -1, `?`, `:`, the letter, or 0 and the index. -/
inductive Result where
  | done
  | bad
  | badArg
  | short (c : Char)
  | long (i : Nat)
  deriving DecidableEq, Repr

/-- Whether the letter is an option, and whether it takes an argument. -/
def Table.takesArg (t : Table) (c : Char) : Option Bool :=
  if c = ':' then none
  else
    match skipTo c t.short with
    | [] => none
    | _ :: oli => some (oli.head? == some ':')

/-- `++optind` at the end of the word. -/
def Scan.nextWord (s : Scan) : Scan := if s.place = [] then { s with optind := s.optind + 1 } else s

/-- `getopt_internal` with `place` at the letter `c`. -/
def optionLetter (t : Table) (argv : List Text) (s : Scan) (c : Char) (place : Text) : Result × Scan :=
  let s := { s with place := place, optopt := c }
  match t.takesArg c with
  | none => if c = '-' then (.done, s) else (.bad, s.nextWord)
  | some false => (.short c, { s.nextWord with optarg := none })
  | some true =>
    if place ≠ [] then (.short c, { s with place := [], optind := s.optind + 1, optarg := some place })
    else
      match argv[s.optind + 1]? with
      | none => (.badArg, { s with optind := s.optind + 1 })
      | some w => (.short c, { s with optind := s.optind + 2, optarg := some w })

/-- `getopt_internal`; `none` is -2. -/
def getoptInternal (t : Table) (argv : List Text) (s : Scan) : Option Result × Scan :=
  let letter c place := (optionLetter t argv s c place).map some id
  match s.place with
  | c :: place => letter c place
  | [] =>
    match argv[s.optind]? with
    | some ('-' :: '-' :: _) => (none, s)
    | some ('-' :: c :: place) => letter c place
    | some ['-'] => letter '-' []
    | _ => (some .done, s)

/-- The long option that is meant by a name: `i` is the index of the first of `opts`, `m` is `match`. -/
def findLong (name : Text) : Nat → Option Nat → List LongOpt → Option Nat
  | _, m, [] => m
  | i, m, o :: opts =>
    if ¬ name.isPrefixOf o.name then findLong name (i + 1) m opts
    else if o.name.length = name.length then some i
    else findLong name (i + 1) (m.or (some i)) opts

/-- What is after the first `=`. -/
def hasEqual (w : Text) : Option Text := (skipTo '=' w).tail?

def optName (w : Text) : Text := w.takeWhile (· != '=')

/-- The long option in a word without its two dashes, and whether it takes an argument. -/
def Table.longOpt (t : Table) (w : Text) : Option (Nat × Bool) :=
  (findLong (optName w) 0 none t.long).bind fun i => t.long[i]?.map fun o => (i, o.required)

section Words

variable {name arg : Text}

theorem optName_self (h : '=' ∉ name) : optName name = name :=
  List.takeWhile_eq_self_iff.mpr fun _ hd => bne_iff_ne.mpr fun hde => h (hde ▸ hd)

theorem optName_equal (h : '=' ∉ name) : optName (name ++ '=' :: arg) = name := by
  have hname : ∀ d ∈ name, (d != '=') = true := fun _ hd => bne_iff_ne.mpr fun hde => h (hde ▸ hd)
  rw [optName, List.takeWhile_append_of_pos hname]
  simp

theorem hasEqual_equal (h : '=' ∉ name) : hasEqual (name ++ '=' :: arg) = some arg := by
  rw [hasEqual, skipTo_append h]
  rfl

end Words

def getoptLong (t : Table) (argv : List Text) (s : Scan) : Result × Scan :=
  match getoptInternal t argv s with
  | (some r, s) => (r, s)
  | (none, s) =>
    let w := (argv[s.optind]?.getD []).drop 2
    let s := { s with optind := s.optind + 1 }
    if w = [] then (.done, s)
    else
      match t.longOpt w with
      | none => (.bad, s)
      | some (i, false) => (.long i, s)
      | some (i, true) =>
        match hasEqual w with
        | some arg => (.long i, { s with optarg := some arg })
        | none =>
          let s := { s with optarg := argv[s.optind]?, optind := s.optind + 1 }
          (if s.optarg = none then .badArg else .long i, s)

/-- The loop over the options of a program. What it does with an option can end the program. -/
def getoptLoop {σ ε : Type} (t : Table) (argv : List Text) (visit : σ → Result → Scan → Except ε σ) :
    Nat → Scan → σ → Option (Except ε σ)
  | 0, _, _ => none
  | n + 1, s, x =>
    match getoptLong t argv s with
    | (.done, _) => some (.ok x)
    | (r, s) =>
      match visit x r s with
      | .error code => some (.error code)
      | .ok x => getoptLoop t argv visit n s x

/-! ## The grammar -/

/-- An option and its argument. -/
abbrev Opt := Result × Option Text

/-- The words that end the options: there is none, or it is no option, or it is `-` or `--`. -/
def Table.Ends (t : Table) : List Text → Prop
  | [] => True
  | ['-'] :: _ => t.takesArg '-' = none
  | ['-', '-'] :: _ => True
  | ('-' :: _ :: _) :: _ => False
  | _ :: _ => True

/-- `Reads t place words opts`: what is left of a word and the words after it stand for `opts`. -/
inductive Reads (t : Table) : Text → List Text → List Opt → Prop where
  | ends {ws : List Text} (h : t.Ends ws) : Reads t [] ws []
  | word {c : Char} {place : Text} {ws : List Text} {os : List Opt} (hc : c ≠ '-')
      (h : Reads t (c :: place) ws os) : Reads t [] (('-' :: c :: place) :: ws) os
  | dash {place : Text} {ws : List Text} (hc : t.takesArg '-' = none) : Reads t ('-' :: place) ws []
  | dashWord {ws : List Text} {os : List Opt} (hc : t.takesArg '-' ≠ none) (h : Reads t ['-'] ws os) :
      Reads t [] (['-'] :: ws) os
  | flag {c : Char} {place : Text} {ws : List Text} {os : List Opt} (hc : t.takesArg c = some false)
      (h : Reads t place ws os) : Reads t (c :: place) ws ((.short c, none) :: os)
  | attached {c : Char} {arg : Text} {ws : List Text} {os : List Opt} (hc : t.takesArg c = some true)
      (harg : arg ≠ []) (h : Reads t [] ws os) : Reads t (c :: arg) ws ((.short c, some arg) :: os)
  | separate {c : Char} {arg : Text} {ws : List Text} {os : List Opt} (hc : t.takesArg c = some true)
      (h : Reads t [] ws os) : Reads t [c] (arg :: ws) ((.short c, some arg) :: os)
  | longFlag {w : Text} {i : Nat} {ws : List Text} {os : List Opt} (hw : w ≠ [])
      (hi : t.longOpt w = some (i, false)) (h : Reads t [] ws os) :
      Reads t [] (('-' :: '-' :: w) :: ws) ((.long i, none) :: os)
  | longEqual {w arg : Text} {i : Nat} {ws : List Text} {os : List Opt} (hw : w ≠ [])
      (hi : t.longOpt w = some (i, true)) (harg : hasEqual w = some arg) (h : Reads t [] ws os) :
      Reads t [] (('-' :: '-' :: w) :: ws) ((.long i, some arg) :: os)
  | longSeparate {w arg : Text} {i : Nat} {ws : List Text} {os : List Opt} (hw : w ≠ [])
      (hi : t.longOpt w = some (i, true)) (harg : hasEqual w = none) (h : Reads t [] ws os) :
      Reads t [] (('-' :: '-' :: w) :: arg :: ws) ((.long i, some arg) :: os)

/-! ## Calls without an index -/

/-- What a call returns, and what it leaves of the word and of the words after it. -/
structure Call where
  result : Result
  arg : Option Text
  place : Text
  words : List Text

def callLetter (t : Table) (c : Char) (place : Text) (ws : List Text) : Call :=
  match t.takesArg c with
  | none => ⟨if c = '-' then .done else .bad, none, place, ws⟩
  | some false => ⟨.short c, none, place, ws⟩
  | some true =>
    if place ≠ [] then ⟨.short c, some place, [], ws⟩
    else
      match ws with
      | [] => ⟨.badArg, none, [], []⟩
      | arg :: ws => ⟨.short c, some arg, [], ws⟩

def callLong (t : Table) (w : Text) (ws : List Text) : Call :=
  if w = [] then ⟨.done, none, [], ws⟩
  else
    match t.longOpt w with
    | none => ⟨.bad, none, [], ws⟩
    | some (i, false) => ⟨.long i, none, [], ws⟩
    | some (i, true) =>
      match hasEqual w, ws with
      | some arg, ws => ⟨.long i, some arg, [], ws⟩
      | none, [] => ⟨.badArg, none, [], []⟩
      | none, arg :: ws => ⟨.long i, some arg, [], ws⟩

def call (t : Table) : Text → List Text → Call
  | c :: place, ws => callLetter t c place ws
  | [], ('-' :: '-' :: w) :: ws => callLong t w ws
  | [], ('-' :: c :: place) :: ws => callLetter t c place ws
  | [], ['-'] :: ws => callLetter t '-' [] ws
  | [], ws => ⟨.done, none, [], ws⟩

theorem call_word {t : Table} {c : Char} {w : Text} {ws : List Text} (hc : c ≠ '-') :
    call t [] (('-' :: c :: w) :: ws) = callLetter t c w ws := by
  unfold call
  split <;> simp_all

theorem call_plain {t : Table} {d : Char} {w : Text} {ws : List Text} (hd : d ≠ '-') :
    call t [] ((d :: w) :: ws) = ⟨.done, none, [], (d :: w) :: ws⟩ := by
  unfold call
  split <;> simp_all

theorem ends_plain {t : Table} {d : Char} {w : Text} {ws : List Text} (hd : d ≠ '-') :
    t.Ends ((d :: w) :: ws) := by
  unfold Table.Ends
  split <;> simp_all

theorem not_ends {t : Table} {c : Char} {w : Text} {ws : List Text} (hc : c ≠ '-') :
    ¬ t.Ends (('-' :: c :: w) :: ws) := by
  unfold Table.Ends
  split
  all_goals simp_all
  rename_i hother heq
  exact hother c w heq.1.symm

/-- The scan has `place` left of a word and the words `ws` after it. -/
structure At (argv : List Text) (s : Scan) (place : Text) (ws : List Text) : Prop where
  left : s.place = place
  words : argv.drop (if place = [] then s.optind else s.optind + 1) = ws

section Refinement

variable {t : Table} {argv : List Text} {s : Scan} {place : Text} {ws : List Text}

theorem drop_eq_cons {w : Text} {k : Nat} (h : argv.drop k = w :: ws) :
    argv[k]? = some w ∧ argv.drop (k + 1) = ws := by
  constructor
  · rw [← List.head?_drop, h, List.head?_cons]
  · rw [← List.tail_drop, h, List.tail_cons]

theorem drop_eq_nil {k : Nat} (h : argv.drop k = []) : argv[k]? = none := by
  rw [← List.head?_drop, h, List.head?_nil]

/-- The machine and the call agree. -/
structure Agrees (argv : List Text) (r : Result × Scan) (k : Call) : Prop where
  result : r.1 = k.result
  rest : k.result ≠ .done → At argv r.2 k.place k.words
  arg : (∀ i, k.result = .long i → k.arg.isSome = true) → k.result ≠ .done → k.result ≠ .bad →
    k.result ≠ .badArg → r.2.optarg = k.arg

theorem optionLetter_agrees (hws : argv.drop (s.optind + 1) = ws) (c : Char) (place : Text) :
    Agrees argv (optionLetter t argv s c place) (callLetter t c place ws) := by
  have hnext : At argv ({ s with place := place, optopt := c } : Scan).nextWord place ws := by
    unfold Scan.nextWord
    by_cases hplace : place = []
    · rw [if_pos hplace]
      exact ⟨rfl, by rw [if_pos hplace]; exact hws⟩
    · rw [if_neg hplace]
      exact ⟨rfl, by rw [if_neg hplace]; exact hws⟩
  unfold optionLetter callLetter
  cases htakes : t.takesArg c with
  | none =>
    by_cases hdash : c = '-'
    · simp only [if_pos hdash]
      exact ⟨rfl, fun hne => absurd rfl hne, fun _ hne => absurd rfl hne⟩
    · simp only [if_neg hdash]
      exact ⟨rfl, fun _ => hnext, fun _ _ hne => absurd rfl hne⟩
  | some takes =>
    cases takes with
    | false => exact ⟨rfl, fun _ => ⟨hnext.left, hnext.words⟩, fun _ _ _ _ => rfl⟩
    | true =>
      by_cases hplace : place = []
      · subst hplace
        cases ws with
        | nil =>
          simp only [ne_eq, not_true, if_false, drop_eq_nil hws]
          exact ⟨rfl, fun _ => ⟨rfl, hws⟩, fun _ _ _ hne => absurd rfl hne⟩
        | cons arg ws =>
          obtain ⟨harg, hrest⟩ := drop_eq_cons hws
          simp only [ne_eq, not_true, if_false, harg]
          exact ⟨rfl, fun _ => ⟨rfl, hrest⟩, fun _ _ _ _ => rfl⟩
      · simp only [ne_eq, hplace, not_false_eq_true, if_true]
        exact ⟨rfl, fun _ => ⟨rfl, hws⟩, fun _ _ _ _ => rfl⟩

/-- A word of short options is read like what is left of one. -/
theorem getoptLong_letter {c : Char} (h : s.place = c :: place ∨ s.place = [] ∧
    argv[s.optind]? = some ('-' :: c :: place) ∧ c ≠ '-' ∨
    s.place = [] ∧ argv[s.optind]? = some ['-'] ∧ c = '-' ∧ place = []) :
    getoptLong t argv s = optionLetter t argv s c place := by
  have hletter : getoptInternal t argv s = (optionLetter t argv s c place).map some id := by
    obtain hplace | ⟨hplace, hword, hc⟩ | ⟨hplace, hword, rfl, rfl⟩ := h
    · simp only [getoptInternal, hplace]
    · simp only [getoptInternal, hplace, hword]
    · simp only [getoptInternal, hplace, hword]
  rw [getoptLong, hletter]
  rfl

/-- A word with two dashes is a long option, or the end. -/
theorem longWord_agrees {w : Text} (hplace : s.place = []) (hword : argv[s.optind]? = some ('-' :: '-' :: w))
    (hrest : argv.drop (s.optind + 1) = ws) : Agrees argv (getoptLong t argv s) (callLong t w ws) := by
  have hinternal : getoptInternal t argv s = (none, s) := by
    simp only [getoptInternal, hplace, hword]
  rw [getoptLong, hinternal, callLong]
  simp only [hword, Option.getD_some, List.drop_succ_cons, List.drop_zero]
  by_cases hw : w = []
  · rw [if_pos hw, if_pos hw]
    exact ⟨rfl, fun hne => absurd rfl hne, fun _ hne => absurd rfl hne⟩
  · rw [if_neg hw, if_neg hw]
    cases hlong : t.longOpt w with
    | none => exact ⟨rfl, fun _ => ⟨hplace, hrest⟩, fun _ _ hne => absurd rfl hne⟩
    | some o =>
      obtain ⟨i, required⟩ := o
      cases required with
      | false =>
        refine ⟨rfl, fun _ => ⟨hplace, hrest⟩, fun harg => ?_⟩
        exact absurd (harg i rfl) (by simp)
      | true =>
        cases heq : hasEqual w with
        | some arg => exact ⟨rfl, fun _ => ⟨hplace, hrest⟩, fun _ _ _ _ => rfl⟩
        | none =>
          cases ws with
          | nil =>
            simp only [drop_eq_nil hrest]
            refine ⟨rfl, fun _ => ⟨hplace, ?_⟩, fun _ _ _ hne => absurd rfl hne⟩
            rw [if_pos rfl, ← List.drop_drop, hrest, List.drop_nil]
          | cons arg ws =>
            obtain ⟨harg, hrest'⟩ := drop_eq_cons hrest
            simp only [harg]
            exact ⟨rfl, fun _ => ⟨hplace, hrest'⟩, fun _ _ _ _ => rfl⟩

theorem getoptLong_agrees (h : At argv s place ws) : Agrees argv (getoptLong t argv s) (call t place ws) := by
  obtain ⟨hplace, hws⟩ := h
  cases place with
  | cons c place =>
    rw [getoptLong_letter (.inl hplace)]
    exact optionLetter_agrees hws c place
  | nil =>
    rw [if_pos rfl] at hws
    have hdone : ∀ w, argv[s.optind]? = w → (∀ p, w ≠ some ('-' :: p)) →
        getoptLong t argv s = (.done, s) := by
      intro w hw hne
      have hinternal : getoptInternal t argv s = (some .done, s) := by
        simp only [getoptInternal, hplace, hw]
        split
        · exact absurd rfl (hne _)
        · exact absurd rfl (hne _)
        · exact absurd rfl (hne _)
        · rfl
      rw [getoptLong, hinternal]
    have hends : ∀ k : Call, k.result = .done → getoptLong t argv s = (.done, s) →
        Agrees argv (getoptLong t argv s) k := by
      intro k hk heq
      rw [heq]
      exact ⟨hk.symm, fun hne => absurd hk hne, fun _ hne => absurd hk hne⟩
    cases ws with
    | nil => exact hends _ rfl (hdone none (drop_eq_nil hws) (by simp))
    | cons w ws =>
      obtain ⟨hword, hrest⟩ := drop_eq_cons hws
      cases w with
      | nil => exact hends _ rfl (hdone _ hword (by simp))
      | cons d w =>
        by_cases hd : d = '-'
        · subst hd
          cases w with
          | nil =>
            rw [getoptLong_letter (.inr (.inr ⟨hplace, hword, rfl, rfl⟩))]
            exact optionLetter_agrees hrest '-' []
          | cons c w =>
            by_cases hc : c = '-'
            · subst hc
              exact longWord_agrees hplace hword hrest
            · rw [getoptLong_letter (.inr (.inl ⟨hplace, hword, hc⟩)), call_word hc]
              exact optionLetter_agrees hrest c w
        · rw [call_plain hd]
          refine hends _ rfl (hdone _ hword fun p hp => hd ?_)
          exact (List.cons.inj (Option.some.inj hp)).1

end Refinement

/-! ## Sizes -/

/-- What is left to read. -/
def size (place : Text) (ws : List Text) : Nat := place.length + (ws.map fun w => w.length + 1).sum

section Grammar

variable {t : Table} {place : Text} {ws : List Text} {os : List Opt} {c : Char}

theorem callLetter_size (t : Table) (c : Char) (place : Text) (ws : List Text) :
    size (callLetter t c place ws).place (callLetter t c place ws).words ≤ size place ws := by
  unfold callLetter
  cases t.takesArg c with
  | none => exact Nat.le_refl _
  | some takes =>
    cases takes with
    | false => exact Nat.le_refl _
    | true =>
      by_cases hplace : place = []
      · subst hplace
        cases ws with
        | nil => exact Nat.le_refl _
        | cons arg ws => simp [size]
      · simp [size, hplace]

theorem callLong_size (t : Table) (w : Text) (ws : List Text) :
    size (callLong t w ws).place (callLong t w ws).words ≤ size [] ws := by
  unfold callLong
  split
  · exact Nat.le_refl _
  · split
    · exact Nat.le_refl _
    · exact Nat.le_refl _
    · split
      · exact Nat.le_refl _
      · exact Nat.le_refl _
      · simp [size]

/-- Every call but the last reads something. -/
theorem call_size (h : (call t place ws).result ≠ .done) :
    size (call t place ws).place (call t place ws).words < size place ws := by
  revert h
  unfold call
  split <;> intro h
  · refine Nat.lt_of_le_of_lt (callLetter_size ..) ?_
    simp [size]
  · refine Nat.lt_of_le_of_lt (callLong_size ..) ?_
    simp [size]
  · refine Nat.lt_of_le_of_lt (callLetter_size ..) ?_
    simp only [size, List.map_cons, List.sum_cons, List.length_cons, List.length_nil]
    omega
  · refine Nat.lt_of_le_of_lt (callLetter_size ..) ?_
    simp [size]
  · exact absurd rfl h

/-! ## The grammar, call by call -/

/-- The call gives an option. -/
def Call.IsOption (k : Call) : Prop := k.result ≠ .done ∧ k.result ≠ .bad ∧ k.result ≠ .badArg

/-- The options of a command line are that of the first call and those of the rest. -/
def Continues (t : Table) (k : Call) (os : List Opt) : Prop :=
  (k.result = .done ∧ os = []) ∨
    (k.IsOption ∧ ∃ os', os = (k.result, k.arg) :: os' ∧ Reads t k.place k.words os')

theorem Continues.option {k : Call} (hk : k.IsOption) (h : Reads t k.place k.words os) :
    Continues t k ((k.result, k.arg) :: os) := .inr ⟨hk, os, rfl, h⟩

theorem reads_letter_iff : Reads t (c :: place) ws os ↔ Continues t (callLetter t c place ws) os := by
  constructor
  · intro h
    cases h with
    | dash hc =>
      simp only [callLetter, hc]
      exact .inl ⟨rfl, rfl⟩
    | flag hc h =>
      simp only [callLetter, hc]
      exact .option ⟨nofun, nofun, nofun⟩ h
    | attached hc harg h =>
      simp only [callLetter, hc, ne_eq, harg, not_false_eq_true, if_true]
      exact .option ⟨nofun, nofun, nofun⟩ h
    | separate hc h =>
      simp only [callLetter, hc, ne_eq, not_true, if_false]
      exact .option ⟨nofun, nofun, nofun⟩ h
  · intro h
    unfold callLetter at h
    cases hc : t.takesArg c with
    | none =>
      rw [hc] at h
      obtain ⟨hdone, rfl⟩ | ⟨hopt, -⟩ := h
      · by_cases hdash : c = '-'
        · subst hdash
          exact .dash hc
        · simp only [if_neg hdash] at hdone
          cases hdone
      · by_cases hdash : c = '-'
        · exact absurd (if_pos hdash) hopt.1
        · exact absurd (if_neg hdash) hopt.2.1
    | some takes =>
      rw [hc] at h
      cases takes with
      | false =>
        obtain ⟨hdone, -⟩ | ⟨-, os', rfl, h⟩ := h
        · cases hdone
        · exact .flag hc h
      | true =>
        by_cases hplace : place = []
        · subst hplace
          cases ws with
          | nil =>
            obtain ⟨hdone, -⟩ | ⟨hopt, -⟩ := h
            · cases hdone
            · exact absurd rfl hopt.2.2
          | cons arg ws =>
            obtain ⟨hdone, -⟩ | ⟨-, os', rfl, h⟩ := h
            · cases hdone
            · exact .separate hc h
        · simp only [ne_eq, hplace, not_false_eq_true, if_true] at h
          obtain ⟨hdone, -⟩ | ⟨-, os', rfl, h⟩ := h
          · cases hdone
          · exact .attached hc hplace h

theorem reads_long_iff {w : Text} :
    Reads t [] (('-' :: '-' :: w) :: ws) os ↔ Continues t (callLong t w ws) os := by
  constructor
  · intro h
    cases h with
    | ends h =>
      cases w with
      | nil => exact .inl ⟨rfl, rfl⟩
      | cons d w => exact h.elim
    | word hc h => exact absurd rfl hc
    | longFlag hw hi h =>
      simp only [callLong, if_neg hw, hi]
      exact .option ⟨nofun, nofun, nofun⟩ h
    | longEqual hw hi harg h =>
      simp only [callLong, if_neg hw, hi, harg]
      exact .option ⟨nofun, nofun, nofun⟩ h
    | longSeparate hw hi harg h =>
      simp only [callLong, if_neg hw, hi, harg]
      exact .option ⟨nofun, nofun, nofun⟩ h
  · intro h
    unfold callLong at h
    by_cases hw : w = []
    · subst hw
      obtain ⟨-, rfl⟩ | ⟨hopt, -⟩ := h
      · exact .ends trivial
      · exact absurd rfl hopt.1
    · rw [if_neg hw] at h
      cases hi : t.longOpt w with
      | none =>
        rw [hi] at h
        obtain ⟨hdone, -⟩ | ⟨hopt, -⟩ := h
        · cases hdone
        · exact absurd rfl hopt.2.1
      | some o =>
        obtain ⟨i, required⟩ := o
        rw [hi] at h
        cases required with
        | false =>
          obtain ⟨hdone, -⟩ | ⟨-, os', rfl, h⟩ := h
          · cases hdone
          · exact .longFlag hw hi h
        | true =>
          cases harg : hasEqual w with
          | some arg =>
            simp only [harg] at h
            obtain ⟨hdone, -⟩ | ⟨-, os', rfl, h⟩ := h
            · cases hdone
            · exact .longEqual hw hi harg h
          | none =>
            simp only [harg] at h
            cases ws with
            | nil =>
              obtain ⟨hdone, -⟩ | ⟨hopt, -⟩ := h
              · cases hdone
              · exact absurd rfl hopt.2.2
            | cons arg ws =>
              obtain ⟨hdone, -⟩ | ⟨-, os', rfl, h⟩ := h
              · cases hdone
              · exact .longSeparate hw hi harg h

theorem reads_ends_iff {k : Call} (hk : k.result = .done) (hends : t.Ends ws)
    (h : Reads t [] ws os → os = []) : Reads t [] ws os ↔ Continues t k os := by
  constructor
  · intro hr
    exact .inl ⟨hk, h hr⟩
  · rintro (⟨-, rfl⟩ | ⟨hopt, -⟩)
    · exact .ends hends
    · exact absurd hk hopt.1

/-- The grammar follows the calls. -/
theorem reads_iff : Reads t place ws os ↔ Continues t (call t place ws) os := by
  cases place with
  | cons c place => exact reads_letter_iff
  | nil =>
    cases ws with
    | nil =>
      refine reads_ends_iff rfl trivial fun h => ?_
      cases h
      rfl
    | cons w ws =>
      cases w with
      | nil =>
        refine reads_ends_iff rfl trivial fun h => ?_
        cases h
        rfl
      | cons d w =>
        by_cases hd : d = '-'
        · subst hd
          cases w with
          | nil =>
            by_cases hdash : t.takesArg '-' = none
            · refine reads_ends_iff (by simp [call, callLetter, hdash]) hdash fun h => ?_
              cases h with
              | ends => rfl
              | dashWord hc => exact absurd hdash hc
            · have hword : Reads t [] (['-'] :: ws) os ↔ Reads t ['-'] ws os := by
                constructor
                · intro h
                  cases h with
                  | ends h => exact absurd h hdash
                  | dashWord _ h => exact h
                · exact .dashWord hdash
              exact hword.trans reads_letter_iff
          | cons c w =>
            by_cases hc : c = '-'
            · subst hc
              exact reads_long_iff
            · have hword : Reads t [] (('-' :: c :: w) :: ws) os ↔ Reads t (c :: w) ws os := by
                constructor
                · intro h
                  cases h with
                  | ends h => exact absurd h (not_ends hc)
                  | word _ h => exact h
                  | longFlag | longEqual | longSeparate => exact absurd rfl hc
                · exact .word hc
              rw [call_word hc]
              exact hword.trans reads_letter_iff
        · rw [call_plain hd]
          refine reads_ends_iff rfl (ends_plain hd) fun h => ?_
          cases h with
          | ends => rfl
          | word | dashWord | longFlag | longEqual | longSeparate => exact absurd rfl hd

end Grammar

/-! ## The loop -/

section Loop

variable {σ ε : Type} {t : Table} {argv : List Text} {visit : σ → Result → Scan → Except ε σ}
  {see : σ → Opt → Option σ} {s : Scan} {place : Text} {ws : List Text} {n : Nat} {x y : σ}

/-- The program ends on what is no option, and goes on after the others as `see` says: from the argument
alone, and without it after a long option that has none. -/
structure Proper (t : Table) (visit : σ → Result → Scan → Except ε σ) (see : σ → Opt → Option σ) : Prop where
  bad : ∀ x s, (visit x .bad s).toOption = none
  badArg : ∀ x s, (visit x .badArg s).toOption = none
  short : ∀ x c s, (visit x (.short c) s).toOption = see x (.short c, s.optarg)
  long : ∀ x i s, (visit x (.long i) s).toOption = see x (.long i, s.optarg)
  flag : ∀ x i w arg, t.longOpt w = some (i, false) → see x (.long i, arg) = see x (.long i, none)

theorem getoptLoop_option (hne : (getoptLong t argv s).1 ≠ .done) :
    getoptLoop t argv visit (n + 1) s x =
      match visit x (getoptLong t argv s).1 (getoptLong t argv s).2 with
      | .error code => some (.error code)
      | .ok x => getoptLoop t argv visit n (getoptLong t argv s).2 x := by
  rw [getoptLoop]
  generalize getoptLong t argv s = r at hne ⊢
  obtain ⟨result, s'⟩ := r
  cases result with
  | done => exact absurd rfl hne
  | _ => rfl

theorem getoptLoop_done (h : (getoptLong t argv s).1 = .done) :
    getoptLoop t argv visit (n + 1) s x = some (.ok x) := by
  rw [getoptLoop]
  generalize getoptLong t argv s = r at h ⊢
  obtain ⟨result, s'⟩ := r
  simp only at h
  subst h
  rfl

/-- A long option without an argument is one of the table. -/
theorem call_flag {i : Nat} (hr : (call t place ws).result = .long i) (ha : (call t place ws).arg = none) :
    ∃ w, t.longOpt w = some (i, false) := by
  have hletter : ∀ c place ws, (callLetter t c place ws).result ≠ .long i := by
    intro c place ws hl
    unfold callLetter at hl
    repeat' split at hl
    all_goals cases hl
  revert hr ha
  unfold call
  split
  · exact fun hr => absurd hr (hletter _ _ _)
  · rename_i w ws
    unfold callLong
    split
    · exact fun hr => by cases hr
    · split
      · exact fun hr => by cases hr
      · rename_i hlong
        intro hr _
        cases hr
        exact ⟨w, hlong⟩
      · split
        · exact fun _ ha => by cases ha
        · exact fun hr => by cases hr
        · exact fun _ ha => by cases ha
  · exact fun hr => absurd hr (hletter _ _ _)
  · exact fun hr => absurd hr (hletter _ _ _)
  · exact fun hr => by cases hr

/-- What the program makes of a call. -/
theorem visit_call (hv : Proper t visit see) (h : At argv s place ws) (hk : (call t place ws).IsOption)
    (x : σ) :
    (visit x (getoptLong t argv s).1 (getoptLong t argv s).2).toOption =
      see x ((call t place ws).result, (call t place ws).arg) := by
  have hagrees := getoptLong_agrees (t := t) h
  have hsee : (visit x (getoptLong t argv s).1 (getoptLong t argv s).2).toOption =
      see x ((call t place ws).result, (getoptLong t argv s).2.optarg) := by
    rw [hagrees.result]
    cases hr : (call t place ws).result with
    | done => exact absurd hr hk.1
    | bad => exact absurd hr hk.2.1
    | badArg => exact absurd hr hk.2.2
    | short c => exact hv.short x c _
    | long i => exact hv.long x i _
  rw [hsee]
  by_cases hflag : ∃ i, (call t place ws).result = .long i ∧ (call t place ws).arg = none
  · obtain ⟨i, hr, ha⟩ := hflag
    obtain ⟨w, hw⟩ := call_flag hr ha
    rw [hr, ha]
    exact hv.flag x i w _ hw
  · rw [hagrees.arg (fun i hr => ?_) hk.1 hk.2.1 hk.2.2]
    rw [Option.isSome_iff_ne_none]
    exact fun ha => hflag ⟨i, hr, ha⟩

/-- On what is no option the program ends. -/
theorem visit_bad (hv : Proper t visit see) (h : At argv s place ws) (hdone : (call t place ws).result ≠ .done)
    (hk : ¬ (call t place ws).IsOption) (x : σ) :
    (visit x (getoptLong t argv s).1 (getoptLong t argv s).2).toOption = none := by
  rw [(getoptLong_agrees h).result]
  by_cases hbad : (call t place ws).result = .bad
  · rw [hbad]
    exact hv.bad x _
  · have hbadArg : (call t place ws).result = .badArg := by
      by_contra hne
      exact hk ⟨hdone, hbad, hne⟩
    rw [hbadArg]
    exact hv.badArg x _

/-- What the options of a command line do one after the other. -/
def seeAll (see : σ → Opt → Option σ) (os : List Opt) (x : σ) : Option σ := os.foldlM see x

/-- If every option makes of what the earlier ones have said what it says as well, then so do all of them:
`said` is what options say, the last of them first. -/
theorem seeAll_iff {said : List Opt → σ} {goes : Opt → Prop} {os : List Opt}
    (hsee : ∀ o ∈ os, ∀ before y, see (said before) o = some y ↔ goes o ∧ y = said (o :: before))
    (before : List Opt) :
    seeAll see os (said before) = some y ↔ (∀ o ∈ os, goes o) ∧ y = said (os.reverse ++ before) := by
  induction os generalizing before with
  | nil =>
    constructor
    · intro h
      exact ⟨nofun, (Option.some.inj h).symm⟩
    · rintro ⟨-, rfl⟩
      rfl
  | cons o os ih =>
    have hrest := ih fun o' ho' => hsee o' (List.mem_cons_of_mem o ho')
    rw [seeAll, List.foldlM_cons]
    simp only [List.forall_mem_cons, List.reverse_cons, List.append_assoc, List.singleton_append]
    constructor
    · intro h
      obtain ⟨x, hx, hall⟩ := Option.bind_eq_some_iff.mp h
      obtain ⟨hgoes, rfl⟩ := (hsee o List.mem_cons_self before x).mp hx
      obtain ⟨hgo, hy⟩ := (hrest (o :: before)).mp hall
      exact ⟨⟨hgoes, hgo⟩, hy⟩
    · rintro ⟨⟨hgoes, hgo⟩, hy⟩
      have hx := (hsee o List.mem_cons_self before (said (o :: before))).mpr ⟨hgoes, rfl⟩
      exact Option.bind_eq_some_iff.mpr ⟨_, hx, (hrest (o :: before)).mpr ⟨hgo, hy⟩⟩

/-- The loop gets to its end on the command lines of the grammar, and has then seen their options. -/
theorem getoptLoop_iff (hv : Proper t visit see) (h : At argv s place ws) (hn : size place ws < n) :
    getoptLoop t argv visit n s x = some (.ok y) ↔ ∃ os, Reads t place ws os ∧ seeAll see os x = some y := by
  induction n generalizing s place ws x with
  | zero => exact absurd hn (Nat.not_lt_zero _)
  | succ n ih =>
    have hagrees := getoptLong_agrees (t := t) h
    have hreads : ∀ os, Reads t place ws os ↔ Continues t (call t place ws) os := fun os => reads_iff
    simp only [hreads]
    by_cases hdone : (call t place ws).result = .done
    · rw [getoptLoop_done (hagrees.result.trans hdone)]
      constructor
      · intro hx
        cases hx
        exact ⟨[], .inl ⟨hdone, rfl⟩, rfl⟩
      · rintro ⟨os, ⟨-, rfl⟩ | ⟨hopt, -⟩, hall⟩
        · cases hall
          rfl
        · exact absurd hdone hopt.1
    · rw [getoptLoop_option (hagrees.result.symm ▸ hdone)]
      have hrest := hagrees.rest hdone
      have hsize := call_size hdone
      by_cases hopt : (call t place ws).IsOption
      · have hsee := visit_call hv h hopt x
        cases hvisit : visit x (getoptLong t argv s).1 (getoptLong t argv s).2 with
        | error code =>
          rw [hvisit] at hsee
          constructor
          · intro hx
            cases hx
          · rintro ⟨os, ⟨hd, -⟩ | ⟨-, os', rfl, -⟩, hall⟩
            · exact absurd hd hdone
            · simp only [seeAll, List.foldlM_cons, ← hsee] at hall
              cases hall
        | ok x' =>
          rw [hvisit] at hsee
          refine (ih hrest (by omega)).trans ?_
          constructor
          · rintro ⟨os, hr, hall⟩
            refine ⟨_, .option hopt hr, ?_⟩
            simp only [seeAll, List.foldlM_cons, ← hsee]
            exact hall
          · rintro ⟨os, ⟨hd, -⟩ | ⟨-, os', rfl, hr⟩, hall⟩
            · exact absurd hd hdone
            · simp only [seeAll, List.foldlM_cons, ← hsee] at hall
              exact ⟨os', hr, hall⟩
      · have hnone := visit_bad hv h hdone hopt x
        cases hvisit : visit x (getoptLong t argv s).1 (getoptLong t argv s).2 with
        | error code =>
          constructor
          · intro hx
            cases hx
          · rintro ⟨os, ⟨hd, -⟩ | ⟨ho, -⟩, -⟩
            · exact absurd hd hdone
            · exact absurd ho hopt
        | ok x' =>
          rw [hvisit] at hnone
          cases hnone

/-- Enough rounds for the whole command line. -/
def rounds (argv : List Text) : Nat := size [] argv.tail + 1

theorem at_start (argv : List Text) : At argv {} [] argv.tail :=
  ⟨rfl, by rw [if_pos rfl, List.drop_one]⟩

/-- The loop of a program accepts just the command lines of the grammar whose options it accepts. -/
theorem getopt_accepts_iff (hv : Proper t visit see) (argv : List Text) (x y : σ) :
    getoptLoop t argv visit (rounds argv) {} x = some (.ok y) ↔
      ∃ os, Reads t [] argv.tail os ∧ seeAll see os x = some y :=
  getoptLoop_iff hv (at_start argv) (Nat.lt_succ_self _)

end Loop

end Getopt
