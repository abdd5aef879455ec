import Mathlib.Tactic.Lemma

namespace DocQuery

variable {ε σ τ α β γ : Type}

namespace Except

lemma map_eq_ok {f : α → β} {x : Except ε α} {b : β} (h : x.map f = .ok b) :
    ∃ a, x = .ok a ∧ f a = b := by
  cases x with
  | error _ => cases h
  | ok a => exact ⟨a, rfl, Except.ok.inj h⟩

lemma map_eq_error {f : α → β} {x : Except ε α} {e : ε} (h : x.map f = .error e) : x = .error e := by
  cases x with
  | error _ => exact congrArg Except.error (Except.error.inj h)
  | ok _ => cases h

lemma bind_eq_error {x : Except ε α} {f : α → Except ε β} {e : ε} (h : x >>= f = .error e) :
    x = .error e ∨ ∃ a, x = .ok a ∧ f a = .error e := by
  cases x with
  | error _ => exact .inl (congrArg Except.error (Except.error.inj h))
  | ok a => exact .inr ⟨a, rfl, h⟩

lemma bind_eq_ok {x : Except ε α} {f : α → Except ε β} {b : β} (h : x >>= f = .ok b) :
    ∃ a, x = .ok a ∧ f a = .ok b := by
  cases x with
  | error _ => cases h
  | ok a => exact ⟨a, rfl, h⟩

def error? : Except ε α → Option ε
  | .ok _ => none
  | .error e => some e

lemma error?_map (f : α → β) (x : Except ε α) : error? (x.map f) = error? x := by
  cases x <;> rfl

lemma error?_bind {f : α → Except ε β} {e : Option ε} (x : Except ε α) (h : ∀ a, error? (f a) = e) :
    error? (x >>= f) = (error? x).or e := by
  cases x with
  | ok a => exact h a
  | error e => rfl

lemma error?_bind_ok (f : α → β) (x : Except ε α) : error? (x >>= fun a => .ok (f a)) = error? x := by
  cases x <;> rfl

end Except

lemma run_bind (m : ExceptT ε (StateM σ) α) (f : α → ExceptT ε (StateM σ) β) (s : σ) :
    (m >>= f).run s = ExceptT.bindCont f (m.run s).1 (m.run s).2 := rfl

lemma run_bind_of_ok {m : ExceptT ε (StateM σ) α} {s s' : σ} {a : α} (h : m.run s = (.ok a, s'))
    (f : α → ExceptT ε (StateM σ) β) : (m >>= f).run s = (f a).run s' := by
  rw [run_bind, h]
  rfl

lemma run_bind_of_error {m : ExceptT ε (StateM σ) α} {s s' : σ} {e : ε} (h : m.run s = (.error e, s'))
    (f : α → ExceptT ε (StateM σ) β) : (m >>= f).run s = (.error e, s') := by
  rw [run_bind, h]
  rfl

lemma run_bind_eq_ok {m : ExceptT ε (StateM σ) α} {f : α → ExceptT ε (StateM σ) β} {s s' : σ} {b : β}
    (h : (m >>= f).run s = (.ok b, s')) :
    ∃ a t, m.run s = (.ok a, t) ∧ (f a).run t = (.ok b, s') := by
  rcases hm : m.run s with ⟨e | a, t⟩
  · rw [run_bind_of_error hm] at h
    cases h
  · rw [run_bind_of_ok hm] at h
    exact ⟨a, t, rfl, h⟩

lemma run_lift_eq_ok {x : Except ε α} {s s' : σ} {a : α}
    (h : (liftM x : ExceptT ε (StateM σ) α).run s = (.ok a, s')) : x = .ok a ∧ s = s' := by
  cases x <;> cases h
  exact ⟨rfl, rfl⟩

lemma run_forM_cons {f : γ → ExceptT ε (StateM σ) PUnit} {c : γ} {s s' : σ}
    (h : (f c).run s = (.ok ⟨⟩, s')) (cs : List γ) : ((c :: cs).forM f).run s = (cs.forM f).run s' :=
  run_bind_of_ok h _

lemma run_forM_append {f : γ → ExceptT ε (StateM σ) PUnit} {cs : List γ} {s s' : σ}
    (h : (cs.forM f).run s = (.ok ⟨⟩, s')) (ds : List γ) :
    ((cs ++ ds).forM f).run s = (ds.forM f).run s' := by
  rw [List.forM_eq_forM, List.forM_append]
  exact run_bind_of_ok h _

def Keeps (g : σ → τ) (m : ExceptT ε (StateM σ) α) : Prop := ∀ s, g (m.run s).2 = g s

namespace Keeps

variable {g : σ → τ}

lemma pure (a : α) : Keeps g (Pure.pure a : ExceptT ε (StateM σ) α) := fun _ => rfl

lemma throw (e : ε) : Keeps g (MonadExcept.throw e : ExceptT ε (StateM σ) α) := fun _ => rfl

lemma lift (x : Except ε α) : Keeps g (liftM x : ExceptT ε (StateM σ) α) := fun _ => rfl

lemma get_bind {f : σ → ExceptT ε (StateM σ) α} (h : ∀ s, g ((f s).run s).2 = g s) :
    Keeps g (MonadState.get >>= f : ExceptT ε (StateM σ) α) := h

lemma get : Keeps g (MonadState.get : ExceptT ε (StateM σ) σ) := fun _ => rfl

lemma update {f : σ → σ} (h : ∀ s, g (f s) = g s) :
    Keeps g (modify f : ExceptT ε (StateM σ) PUnit) := h

lemma map {m : ExceptT ε (StateM σ) α} {ρ : Type} (f : τ → ρ) (h : Keeps g m) : Keeps (fun s => f (g s)) m :=
  fun s => congrArg f (h s)

lemma run_bind {f : α → ExceptT ε (StateM σ) β} (hf : ∀ a, Keeps g (f a)) (m : ExceptT ε (StateM σ) α) (s : σ) :
    g ((m >>= f).run s).2 = g (m.run s).2 := by
  rcases h : m.run s with ⟨e | a, t⟩
  · rw [run_bind_of_error h]
  · rw [run_bind_of_ok h, hf a]

lemma bind {m : ExceptT ε (StateM σ) α} {f : α → ExceptT ε (StateM σ) β} (hm : Keeps g m)
    (hf : ∀ a, Keeps g (f a)) : Keeps g (m >>= f) :=
  fun s => (run_bind hf m s).trans (hm s)

lemma mapM {f : γ → ExceptT ε (StateM σ) β} (h : ∀ c, Keeps g (f c)) (cs : List γ) :
    Keeps g (cs.mapM f) := by
  induction cs with
  | nil => exact pure _
  | cons c cs ih =>
    rw [List.mapM_cons]
    exact bind (h c) fun _ => bind ih fun _ => pure _

lemma forM {f : γ → ExceptT ε (StateM σ) PUnit} {cs : List γ} (h : ∀ c ∈ cs, Keeps g (f c)) :
    Keeps g (cs.forM f) := by
  induction cs with
  | nil => exact pure _
  | cons c cs ih =>
    exact bind (h c (by simp)) fun _ => ih fun c hm => h c (List.mem_cons_of_mem _ hm)

end Keeps

end DocQuery
