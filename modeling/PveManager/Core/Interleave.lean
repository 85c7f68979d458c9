import PveManager.Core.Proc

/-!
# Procedures that share a store

Any number of procedures run at once over one store of cells: a scheduler picks
one, and its next call acts on the store with an outcome the environment
chooses. `wp` is the weakest precondition of a procedure that runs alone. Where
the procedures touch different cells, what holds of each alone holds in every
interleaving.
-/

namespace PveManager.Core

/-- How the calls of an interface act on a store of cells. -/
structure SharedStore (I : Interface) where
  Cell : Type
  Value : Type
  /-- What the environment decides about one call. -/
  Outcome : Type
  /-- The cells a call reads or writes. -/
  touches : I.Call → Cell → Prop
  effect : I.Call → Outcome → (Cell → Value) → Cell → Value
  answer : (c : I.Call) → Outcome → I.Answer c
  effect_frame : ∀ c o s x, ¬touches c x → effect c o s x = s x
  effect_local : ∀ c o s s', (∀ x, touches c x → s x = s' x) →
    ∀ x, touches c x → effect c o s x = effect c o s' x

namespace SharedStore

variable {I : Interface} (S : SharedStore I) {ε α β : Type}

/-- The states of the store. -/
abbrev Store := S.Cell → S.Value

/-- Run alone from a store, every call meets `Q` and the outcome meets `R`. -/
def wp (Q : I.Call → S.Store → Prop) :
    Proc I ε α → (Except ε α → S.Store → Prop) → S.Store → Prop
  | .pure a, R, s => R (.ok a) s
  | .throw e, R, s => R (.error e) s
  | .call c next, R, s =>
    Q c s ∧ ∀ o, wp Q (next (S.answer c o)) R (S.effect c o s)

section Rules

variable {S} {Q : I.Call → S.Store → Prop}

theorem wp_mono {p : Proc I ε α} {R R' : Except ε α → S.Store → Prop} {s : S.Store}
    (hR : ∀ r s, R r s → R' r s) (h : S.wp Q p R s) : S.wp Q p R' s := by
  induction p generalizing s with
  | pure a => exact hR _ _ h
  | throw e => exact hR _ _ h
  | call c next ih => exact ⟨h.1, fun o => ih _ (h.2 o)⟩

theorem wp_ask {c : I.Call} {R : Except ε (I.Answer c) → S.Store → Prop} {s : S.Store}
    (hQ : Q c s) (hR : ∀ o, R (.ok (S.answer c o)) (S.effect c o s)) :
    S.wp Q (Proc.ask c) R s :=
  ⟨hQ, hR⟩

/-- The first part of a sequence establishes what the second one needs. -/
theorem wp_bind {p : Proc I ε α} {f : α → Proc I ε β} {R : Except ε β → S.Store → Prop}
    {s : S.Store}
    (h : S.wp Q p (fun r s => match r with
      | .ok a => S.wp Q (f a) R s
      | .error e => R (.error e) s) s) :
    S.wp Q (p >>= f) R s := by
  change S.wp Q (p.bind f) R s
  induction p generalizing s with
  | pure a => exact h
  | throw e => exact h
  | call c next ih => exact ⟨h.1, fun o => ih _ (h.2 o)⟩

/-- The handler starts in the store the exception left. -/
theorem wp_tryCatch {p : Proc I ε α} {f : ε → Proc I ε α} {R : Except ε α → S.Store → Prop}
    {s : S.Store}
    (h : S.wp Q p (fun r s => match r with
      | .ok a => R (.ok a) s
      | .error e => S.wp Q (f e) R s) s) :
    S.wp Q (tryCatch p f) R s := by
  change S.wp Q (p.handle f) R s
  induction p generalizing s with
  | pure a => exact h
  | throw e => exact h
  | call c next ih => exact ⟨h.1, fun o => ih _ (h.2 o)⟩

/-- A precondition reads only the cells the procedure touches. -/
theorem wp_congr {F : S.Cell → Prop}
    (hQ : ∀ c s s', (∀ x, S.touches c x → F x) → (∀ x, F x → s x = s' x) → Q c s → Q c s')
    {p : Proc I ε α} (hp : p.Only fun c => ∀ x, S.touches c x → F x) {s s' : S.Store}
    (hs : ∀ x, F x → s x = s' x) (h : S.wp Q p (fun _ _ => True) s) :
    S.wp Q p (fun _ _ => True) s' := by
  induction p generalizing s s' with
  | pure a => trivial
  | throw e => trivial
  | call c next ih =>
    refine ⟨hQ c s s' hp.1 hs h.1, fun o => ih _ (hp.2 _) ?_ (h.2 o)⟩
    intro x hx
    by_cases ht : S.touches c x
    · exact S.effect_local c o s s' (fun y hy => hs y (hp.1 y hy)) x ht
    · rw [S.effect_frame c o s x ht, S.effect_frame c o s' x ht]
      exact hs x hx

end Rules

/-! ## Interleavings -/

/-- The store and what is left of every procedure. -/
structure Pool (ι ε α : Type) where
  store : S.Store
  rest : ι → Proc I ε α

variable {S} {ι : Type} [DecidableEq ι]

/-- The next call of the picked procedure takes effect; a finished one stays finished. -/
def Pool.step (st : S.Pool ι ε α) (e : ι × S.Outcome) : S.Pool ι ε α :=
  match st.rest e.1 with
  | .call c next =>
    { store := S.effect c e.2 st.store
      rest := Function.update st.rest e.1 (next (S.answer c e.2)) }
  | _ => st

theorem Pool.step_of_call {st : S.Pool ι ε α} {i : ι} {c : I.Call}
    {next : I.Answer c → Proc I ε α} (hr : st.rest i = .call c next) (o : S.Outcome) :
    st.step (i, o) =
      { store := S.effect c o st.store
        rest := Function.update st.rest i (next (S.answer c o)) } := by
  simp only [Pool.step, hr]

/-- Every procedure keeps to its own cells and is safe from the store as it is. -/
structure Pool.Separate (Q : ι → I.Call → S.Store → Prop) (F : ι → S.Cell → Prop)
    (st : S.Pool ι ε α) : Prop where
  own : ∀ i, (st.rest i).Only fun c => ∀ x, S.touches c x → F i x
  safe : ∀ i, S.wp (Q i) (st.rest i) (fun _ _ => True) st.store

/-- One step of any procedure keeps all of them separate. -/
theorem Pool.Separate.step {Q : ι → I.Call → S.Store → Prop} {F : ι → S.Cell → Prop}
    (hQ : ∀ i c s s', (∀ x, S.touches c x → F i x) → (∀ x, F i x → s x = s' x) →
      Q i c s → Q i c s')
    (hF : ∀ i j, i ≠ j → ∀ x, F i x → ¬F j x) (st : S.Pool ι ε α) (e : ι × S.Outcome)
    (h : st.Separate Q F) : (st.step e).Separate Q F := by
  obtain ⟨i, o⟩ := e
  cases hr : st.rest i with
  | pure a => simpa only [Pool.step, hr] using h
  | throw e => simpa only [Pool.step, hr] using h
  | call c next =>
    rw [Pool.step_of_call hr]
    have hown := h.own i
    have hsafe := h.safe i
    rw [hr] at hown hsafe
    constructor
    · intro j
      by_cases hij : j = i
      · subst hij
        simp only [Function.update_self]
        exact hown.2 _
      · dsimp only
        rw [Function.update_of_ne hij]
        exact h.own j
    · intro j
      by_cases hij : j = i
      · subst hij
        simp only [Function.update_self]
        exact hsafe.2 o
      · dsimp only
        rw [Function.update_of_ne hij]
        refine wp_congr (hQ j) (h.own j) ?_ (h.safe j)
        intro x hx
        exact (S.effect_frame c o st.store x fun ht => hF j i hij x hx (hown.1 x ht)).symm

omit [DecidableEq ι] in
/-- The call a procedure is about to make meets its condition. -/
theorem Pool.Separate.next {Q : ι → I.Call → S.Store → Prop} {F : ι → S.Cell → Prop}
    {st : S.Pool ι ε α} (h : st.Separate Q F) {i : ι} {c : I.Call}
    {next : I.Answer c → Proc I ε α} (hr : st.rest i = .call c next) :
    Q i c st.store ∧ ∀ x, S.touches c x → F i x := by
  have hown := h.own i
  have hsafe := h.safe i
  rw [hr] at hown hsafe
  exact ⟨hsafe.1, hown.1⟩

end SharedStore

end PveManager.Core
