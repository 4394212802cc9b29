import Mathlib.Logic.Relation

/-!
# LibPcp.Steps

Sequences of labelled steps, and the rules to reason about them.

A system is a relation `R l a b`: from `a` to `b` by a step with label `l`. `Steps R P` is a sequence
of steps each of which has a label that `P` allows in the state it starts from.

* `Steps.invariant`: what every allowed step keeps holds at the end.
* `Steps.relate`: a preorder that contains every allowed step contains the sequence.
* `Steps.of_follow`: a sequence of labels that a partial function follows.
* `foldl_pass`: a pass over a list establishes for every element what one visit establishes.
-/

namespace LabelledSteps

variable {σ L : Type} {R : L → σ → σ → Prop} {P Q : σ → L → Prop} {a b c : σ}

def Steps (R : L → σ → σ → Prop) (P : σ → L → Prop) : σ → σ → Prop :=
  Relation.ReflTransGen fun a b => ∃ l, P a l ∧ R l a b

namespace Steps

theorem refl : Steps R P a a := Relation.ReflTransGen.refl

theorem single {l : L} (h : R l a b) (hl : P a l) : Steps R P a b :=
  Relation.ReflTransGen.single ⟨l, hl, h⟩

theorem trans (h₁ : Steps R P a b) (h₂ : Steps R P b c) : Steps R P a c :=
  Relation.ReflTransGen.trans h₁ h₂

theorem mono (h : Steps R P a b) (hPQ : ∀ a l, P a l → Q a l) : Steps R Q a b :=
  Relation.ReflTransGen.mono (fun _ _ ⟨l, hl, hr⟩ => ⟨l, hPQ _ l hl, hr⟩) _ _ h

theorem invariant {I : σ → Prop} (hstep : ∀ l a b, I a → P a l → R l a b → I b)
    (h : Steps R P a b) (ha : I a) : I b := by
  induction h with
  | refl => exact ha
  | tail _ hlast ih =>
    obtain ⟨l, hl, hr⟩ := hlast
    exact hstep l _ _ ih hl hr

theorem relate {T : σ → σ → Prop} (hrefl : ∀ a, T a a) (htrans : ∀ a b c, T a b → T b c → T a c)
    (hstep : ∀ l a b, P a l → R l a b → T a b) (h : Steps R P a b) : T a b :=
  h.invariant (fun l x y hx hl hr => htrans a x y hx (hstep l x y hl hr)) (hrefl a)

end Steps

/-- Where the labels lead to, if every step is defined. -/
def follow (f : σ → L → Option σ) : σ → List L → Option σ
  | a, [] => some a
  | a, l :: ls =>
    match f a l with
    | none => none
    | some b => follow f b ls

theorem Steps.of_follow {f : σ → L → Option σ} (hf : ∀ a l b, f a l = some b → P a l ∧ R l a b)
    {ls : List L} (h : follow f a ls = some b) : Steps R P a b := by
  induction ls generalizing a with
  | nil =>
    cases h
    exact .refl
  | cons l ls ih =>
    simp only [follow] at h
    cases hl : f a l with
    | none =>
      rw [hl] at h
      cases h
    | some a' =>
      rw [hl] at h
      obtain ⟨hp, hr⟩ := hf a l a' hl
      exact Steps.trans (.single hr hp) (ih h)

/-- A visit of `x` needs `pre` and leaves `post`, and neither is lost while others are visited. -/
theorem foldl_pass {α : Type} (T : σ → σ → Prop) (pre post : σ → α → Prop) {g : σ → α → σ}
    (hrefl : ∀ a, T a a) (htrans : ∀ a b c, T a b → T b c → T a c)
    (hpre : ∀ a b x, T a b → pre a x → pre b x) (hpost : ∀ a b x, T a b → post a x → post b x)
    {l : List α} (hvisit : ∀ b, T a b → ∀ x ∈ l, pre b x → T b (g b x) ∧ post (g b x) x)
    (hl : ∀ x ∈ l, pre a x) :
    T a (l.foldl g a) ∧ ∀ x ∈ l, post (l.foldl g a) x := by
  induction l generalizing a with
  | nil => exact ⟨hrefl a, by simp⟩
  | cons x l ih =>
    obtain ⟨hstep, hx⟩ := hvisit a (hrefl a) x List.mem_cons_self (hl x List.mem_cons_self)
    obtain ⟨htail, hall⟩ := ih (a := g a x)
      (fun b hb y hy => hvisit b (htrans _ _ _ hstep hb) y (List.mem_cons_of_mem x hy))
      fun y hy => hpre a _ y hstep (hl y (List.mem_cons_of_mem x hy))
    refine ⟨htrans _ _ _ hstep htail, fun y hy => ?_⟩
    rcases List.mem_cons.mp hy with rfl | hy
    · exact hpost _ _ y htail hx
    · exact hall y hy

end LabelledSteps
