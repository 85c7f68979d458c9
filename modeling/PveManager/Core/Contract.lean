import PveManager.Core.Proc

/-!
# Contracts of procedures

A host answers the calls of a procedure from a state that the calls change. A
procedure meets a contract from a state when every call it makes is allowed where
it is made and the postcondition holds at the end. The rules follow the way a
procedure is put together, and each of them is an equivalence.
-/

namespace PveManager.Core

/-- What answers the calls: the answers come from a state, which the calls change. -/
structure Host (I : Interface) (σ : Type) where
  answer : σ → (c : I.Call) → I.Answer c
  next : σ → I.Call → σ

namespace Host

variable {I : Interface} {σ ε α β : Type} (H : Host I σ)

/-- The state at the end and the outcome. -/
def exec : σ → Proc I ε α → σ × Except ε α
  | s, .pure a => (s, .ok a)
  | s, .throw e => (s, .error e)
  | s, .call c k => exec (H.next s c) (k (H.answer s c))

/-- Every call is allowed in its state, and the end meets the postcondition. -/
def Meets (allowed : σ → I.Call → Prop) (post : σ → Except ε α → Prop) : σ → Proc I ε α → Prop
  | s, .pure a => post s (.ok a)
  | s, .throw e => post s (.error e)
  | s, .call c k => allowed s c ∧ Meets allowed post (H.next s c) (k (H.answer s c))

section Rules

variable {H} {allowed : σ → I.Call → Prop} {s : σ}

theorem meets_pure {post : σ → Except ε α → Prop} {a : α} :
    H.Meets allowed post s (Pure.pure a : Proc I ε α) ↔ post s (.ok a) := Iff.rfl

/-- A call comes before everything that follows it. -/
theorem meets_ask_bind {post : σ → Except ε β → Prop} {c : I.Call}
    {k : I.Answer c → Proc I ε β} :
    H.Meets allowed post s (Proc.ask c >>= k) ↔
      allowed s c ∧ H.Meets allowed post (H.next s c) (k (H.answer s c)) := Iff.rfl

/-- The first part of a sequence establishes what the second part needs. -/
theorem meets_bind {post : σ → Except ε β → Prop} {p : Proc I ε α} {f : α → Proc I ε β} :
    H.Meets allowed post s (p >>= f) ↔
      H.Meets allowed (fun s' r => match r with
        | .ok a => H.Meets allowed post s' (f a)
        | .error e => post s' (.error e)) s p := by
  change H.Meets allowed post s (p.bind f) ↔ _
  induction p generalizing s with
  | pure a => exact Iff.rfl
  | throw e => exact Iff.rfl
  | call c k ih => exact and_congr_right fun _ => ih _

/-- What is raised goes on with the handler. -/
theorem meets_tryCatch {post : σ → Except ε α → Prop} {p : Proc I ε α} {f : ε → Proc I ε α} :
    H.Meets allowed post s (tryCatch p f) ↔
      H.Meets allowed (fun s' r => match r with
        | .ok a => post s' (.ok a)
        | .error e => H.Meets allowed post s' (f e)) s p := by
  change H.Meets allowed post s (p.handle f) ↔ _
  induction p generalizing s with
  | pure a => exact Iff.rfl
  | throw e => exact Iff.rfl
  | call c k ih => exact and_congr_right fun _ => ih _

/-- A condition that fails ends the procedure. -/
theorem meets_ensure_bind {post : σ → Except ε β → Prop} {b : Bool} {e : ε}
    {k : Unit → Proc I ε β} :
    H.Meets allowed post s (Proc.ensure b e >>= k) ↔
      (b = true → H.Meets allowed post s (k ())) ∧ (b = false → post s (.error e)) := by
  cases b with
  | false => exact ⟨fun h => ⟨fun hb => absurd hb (by simp), fun _ => h⟩, fun h => h.2 rfl⟩
  | true => exact ⟨fun h => ⟨fun _ => h, fun hb => absurd hb (by simp)⟩, fun h => h.1 rfl⟩

/-- Both ways a condition can turn out decide the contract. -/
theorem meets_ensure_bind_iff {post : σ → Except ε β → Prop} {b : Bool} {e : ε}
    {k : Unit → Proc I ε β} {C : Prop} (hok : b = true → (H.Meets allowed post s (k ()) ↔ C))
    (hno : b = false → (post s (.error e) ↔ C)) :
    H.Meets allowed post s (Proc.ensure b e >>= k) ↔ C := by
  cases b with
  | false => exact hno rfl
  | true => exact hok rfl

/-- A weaker postcondition is met as well. -/
theorem meets_mono {post post' : σ → Except ε α → Prop} (h : ∀ s r, post s r → post' s r)
    {p : Proc I ε α} (hp : H.Meets allowed post s p) : H.Meets allowed post' s p := by
  induction p generalizing s with
  | pure a => exact h _ _ hp
  | throw e => exact h _ _ hp
  | call c k ih => exact ⟨hp.1, ih _ hp.2⟩

theorem meets_congr {post post' : σ → Except ε α → Prop} (h : ∀ s r, post s r ↔ post' s r)
    {p : Proc I ε α} : H.Meets allowed post s p ↔ H.Meets allowed post' s p :=
  ⟨meets_mono fun s r => (h s r).mp, meets_mono fun s r => (h s r).mpr⟩

/-- A weaker restriction on the calls is met as well. -/
theorem meets_mono_allowed {allowed' : σ → I.Call → Prop} {post : σ → Except ε α → Prop}
    (h : ∀ s c, allowed s c → allowed' s c) {p : Proc I ε α} (hp : H.Meets allowed post s p) :
    H.Meets allowed' post s p := by
  induction p generalizing s with
  | pure a => exact hp
  | throw e => exact hp
  | call c k ih => exact ⟨h _ _ hp.1, ih _ hp.2⟩

/-- Once something is known about the end, the postcondition is judged with it. -/
theorem meets_iff_of_meets {known post : σ → Except ε α → Prop} {C : Prop}
    (h : ∀ s r, known s r → (post s r ↔ C)) {p : Proc I ε α} (hp : H.Meets allowed known s p) :
    H.Meets allowed post s p ↔ C := by
  induction p generalizing s with
  | pure a => exact h _ _ hp
  | throw e => exact h _ _ hp
  | call c k ih => exact (and_iff_right hp.1).trans (ih _ hp.2)

/-- A sequence whose first part is known to end well. -/
theorem meets_bind_of {known : σ → α → Prop} {post : σ → Except ε β → Prop} {p : Proc I ε α}
    {f : α → Proc I ε β}
    (hp : H.Meets allowed (fun s' r => ∃ a, r = .ok a ∧ known s' a) s p)
    (hf : ∀ s' a, known s' a → H.Meets allowed post s' (f a)) :
    H.Meets allowed post s (p >>= f) := by
  refine meets_bind.mpr (meets_mono (fun s' r h => ?_) hp)
  obtain ⟨a, rfl, ha⟩ := h
  exact hf s' a ha

/-- Calls that keep an invariant leave it to what follows. -/
theorem meets_bind_of_only {P : I.Call → Prop} {J : σ → Prop}
    (hkeeps : ∀ s c, P c → J s → J (H.next s c)) {post : σ → Except ε β → Prop}
    {p : Proc I ε α} {f : α → Proc I ε β} (hp : p.Only P) (hs : J s)
    (hf : ∀ s' a, J s' → H.Meets (fun _ _ => True) post s' (f a))
    (he : ∀ s' e, J s' → post s' (.error e)) :
    H.Meets (fun _ _ => True) post s (p >>= f) := by
  change H.Meets _ post s (p.bind f)
  induction p generalizing s with
  | pure a => exact hf s a hs
  | throw e => exact he s e hs
  | call c k ih => exact ⟨trivial, ih _ (hp.2 _) (hkeeps s c hp.1 hs)⟩

/-- Calls that keep an invariant leave it at the end. -/
theorem meets_of_only {P : I.Call → Prop} {J : σ → Prop}
    (hkeeps : ∀ s c, P c → J s → J (H.next s c)) {post : σ → Except ε α → Prop}
    (hpost : ∀ s r, J s → post s r) {p : Proc I ε α} (hp : p.Only P) (hs : J s) :
    H.Meets (fun _ _ => True) post s p := by
  induction p generalizing s with
  | pure a => exact hpost s _ hs
  | throw e => exact hpost s _ hs
  | call c k ih => exact ⟨trivial, ih _ (hp.2 _) (hkeeps s c hp.1 hs)⟩

/-- A postcondition that always holds is met. -/
theorem meets_of_forall {post : σ → Except ε α → Prop} (h : ∀ s r, post s r) (p : Proc I ε α) :
    H.Meets (fun _ _ => True) post s p := by
  induction p generalizing s with
  | pure a => exact h s _
  | throw e => exact h s _
  | call c k ih => exact ⟨trivial, ih _⟩

/-- The postcondition holds of what the execution ends in. -/
theorem post_exec {post : σ → Except ε α → Prop} {p : Proc I ε α}
    (hp : H.Meets allowed post s p) : post (H.exec s p).1 (H.exec s p).2 := by
  induction p generalizing s with
  | pure a => exact hp
  | throw e => exact hp
  | call c k ih => exact ih _ hp.2

end Rules

section Exec

variable {s : σ}

theorem exec_ask_bind {c : I.Call} {k : I.Answer c → Proc I ε β} :
    H.exec s (Proc.ask c >>= k) = H.exec (H.next s c) (k (H.answer s c)) := rfl

/-- What is raised is handled from where it was raised. -/
theorem exec_tryCatch (p : Proc I ε α) (f : ε → Proc I ε α) :
    H.exec s (tryCatch p f) =
      match H.exec s p with
      | (s', .ok a) => (s', .ok a)
      | (s', .error e) => H.exec s' (f e) := by
  change H.exec s (p.handle f) = _
  induction p generalizing s with
  | pure a => rfl
  | throw e => rfl
  | call c k ih => exact ih (H.answer s c)

theorem exec_ensure_bind_of {b : Bool} {e : ε} (hb : b = true) (k : Unit → Proc I ε β) :
    H.exec s (Proc.ensure b e >>= k) = H.exec s (k ()) := by
  rw [hb]
  rfl

theorem exec_ensure_bind_of_not {b : Bool} {e : ε} (hb : b = false) (k : Unit → Proc I ε β) :
    H.exec s (Proc.ensure b e >>= k) = (s, .error e) := by
  rw [hb]
  rfl

/-- Hosts that answer the calls of a procedure alike give it the same outcome. -/
theorem outcome_congr {H H' : Host I σ} {P : I.Call → Prop} {p : Proc I ε α} (hp : p.Only P)
    (ha : ∀ s s' c, P c → H.answer s c = H'.answer s' c) (s s' : σ) :
    (H.exec s p).2 = (H'.exec s' p).2 := by
  induction p generalizing s s' with
  | pure a => rfl
  | throw e => rfl
  | call c k ih =>
    change (H.exec (H.next s c) (k (H.answer s c))).2 =
      (H'.exec (H'.next s' c) (k (H'.answer s' c))).2
    rw [ha s s' c hp.1]
    exact ih _ (hp.2 _) _ _

end Exec

end Host

end PveManager.Core
