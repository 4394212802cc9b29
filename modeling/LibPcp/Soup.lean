import Mathlib.Logic.Function.Basic
import LibPcp.Steps

/-!
# LibPcp.Soup

A client and servers over a network that promises nothing.

A message that has been sent stays in the network for ever: it is delivered any number of times, in any
order, or never. So a reply that the client takes in has been sent by some server some time, and a
request that is served has been sent by the client some time, and no more is known.

* `Client`: the steps of the client, what they take in, and what it has sent.
* `NetStep`: the client and the servers taking turns.
* `NetStep.keeps`, `NetRuns.contract`: the two parties keep what each promises of its messages to the other.
-/

namespace MessageSoup

open LabelledSteps

variable {σ τ L ι Q R : Type}

/-- Steps, the reply that a step takes in, and the requests that have been sent. -/
structure Client (σ L Q R : Type) where
  step : L → σ → σ → Prop
  takes : L → Option R
  sent : σ → List Q

/-- What server `i` makes of a request: its next state and the reply. -/
abbrev Serve (ι τ Q R : Type) := ι → Q → τ → τ → R → Prop

structure Net (σ τ ι R : Type) where
  client : σ
  server : ι → τ
  replies : List R

inductive NetLabel (L ι Q : Type) where
  | client (l : L)
  | serve (i : ι) (q : Q)

section Steps

variable [DecidableEq ι] {P : Client σ L Q R} {S : Serve ι τ Q R}

inductive NetStep (P : Client σ L Q R) (S : Serve ι τ Q R) :
    NetLabel L ι Q → Net σ τ ι R → Net σ τ ι R → Prop where
  | client {n : Net σ τ ι R} {l : L} {c : σ} (h : P.step l n.client c)
      (ht : ∀ r ∈ P.takes l, r ∈ n.replies) : NetStep P S (.client l) n { n with client := c }
  | serve {n : Net σ τ ι R} {i : ι} {q : Q} {t : τ} {r : R} (hq : q ∈ P.sent n.client)
      (h : S i q (n.server i) t r) :
      NetStep P S (.serve i q) n
        { n with server := Function.update n.server i t, replies := r :: n.replies }

/-- What the parties promise each other: the client keeps `inv` while it takes in nothing but replies
sent before, a server keeps `state` and its reply has `reply`, which later requests do not undo. -/
structure Contract (P : Client σ L Q R) (S : Serve ι τ Q R) where
  inv : List R → σ → Prop
  state : ι → τ → Prop
  reply : σ → R → Prop
  inv_cons : ∀ {rs c} r, inv rs c → inv (r :: rs) c
  step : ∀ {rs l c c'}, inv rs c → P.step l c c' → (∀ r ∈ P.takes l, r ∈ rs) → inv rs c'
  serve : ∀ {i q t t' r c}, state i t → q ∈ P.sent c → S i q t t' r → state i t' ∧ reply c r
  later : ∀ {rs l c c' r}, inv rs c → P.step l c c' → reply c r → reply c' r

/-- Both parties have kept the contract so far. -/
structure Contract.Kept (K : Contract P S) (n : Net σ τ ι R) : Prop where
  client : K.inv n.replies n.client
  server : ∀ i, K.state i (n.server i)
  replies : ∀ r ∈ n.replies, K.reply n.client r

theorem NetStep.keeps {l : NetLabel L ι Q} {n n' : Net σ τ ι R} (h : NetStep P S l n n')
    (K : Contract P S) (hk : K.Kept n) : K.Kept n' := by
  cases h with
  | client h ht =>
    exact ⟨K.step hk.client h ht, hk.server, fun r hr => K.later hk.client h (hk.replies r hr)⟩
  | @serve _ i q t r hq h =>
    obtain ⟨ht, hr⟩ := K.serve (hk.server i) hq h
    refine ⟨K.inv_cons r hk.client, fun j => ?_, fun r' hr' => ?_⟩
    · by_cases hj : j = i
      · subst hj
        simpa using ht
      · simpa [hj] using hk.server j
    · rcases List.mem_cons.mp hr' with rfl | hr'
      · exact hr
      · exact hk.replies r' hr'

/-- Runs of the whole, with any interleaving. -/
abbrev NetRuns (P : Client σ L Q R) (S : Serve ι τ Q R) : Net σ τ ι R → Net σ τ ι R → Prop :=
  LabelledSteps.Steps (NetStep P S) fun _ _ => True

/-- Steps of the client while the servers do nothing. -/
theorem NetRuns.client {c c' : σ} {t : ι → τ} {rs : List R}
    (h : LabelledSteps.Steps P.step (fun _ l => ∀ r ∈ P.takes l, r ∈ rs) c c') :
    NetRuns P S ⟨c, t, rs⟩ ⟨c', t, rs⟩ := by
  induction h with
  | refl => exact .refl
  | tail _ hlast ih =>
    obtain ⟨l, ht, hstep⟩ := hlast
    exact Steps.trans ih (.single (.client hstep ht) trivial)

theorem NetRuns.contract {n n' : Net σ τ ι R} (h : NetRuns P S n n') (K : Contract P S)
    (hk : K.Kept n) : K.Kept n' :=
  Steps.invariant (fun _ _ _ hk _ hs => hs.keeps K hk) h hk

end Steps

end MessageSoup
