import DocQuery.Proofs.Outcomes
import Mathlib.Data.List.Forall2

/-! Two computations that run alike: from states that correspond they fail with the same error, or both
succeed, and the states they leave correspond. -/

namespace DocQuery

variable {ε σ τ α β γ δ κ ι : Type} {R : σ → τ → Prop} {A : α → β → Prop} {B : γ → δ → Prop}

inductive Answers (A : α → β → Prop) : Except ε α → Except ε β → Prop
  | error (e : ε) : Answers A (.error e) (.error e)
  | ok {a : α} {b : β} : A a b → Answers A (.ok a) (.ok b)

lemma Answers.eq {x y : Except ε α} (h : Answers Eq x y) : x = y := by
  cases h with
  | error e => rfl
  | ok h => rw [h]

namespace Answers

lemma refl {A : α → α → Prop} (h : ∀ a, A a a) (x : Except ε α) : Answers A x x := by
  cases x with
  | error e => exact .error e
  | ok a => exact .ok (h a)

variable {x : Except ε α} {y : Except ε β} (h : Answers A x y)

include h

lemma map {f : α → γ} {g : β → δ} (hf : ∀ a b, A a b → B (f a) (g b)) : Answers B (x.map f) (y.map g) := by
  cases h with
  | error e => exact .error e
  | ok h => exact .ok (hf _ _ h)

lemma bind {f : α → Except ε γ} {g : β → Except ε δ} (hf : ∀ a b, A a b → Answers B (f a) (g b)) :
    Answers B (x >>= f) (y >>= g) := by
  cases h with
  | error e => exact .error e
  | ok h => exact hf _ _ h

lemma lift_bind {f : α → ExceptT ε (StateM σ) γ} {g : β → ExceptT ε (StateM σ) γ} (hf : ∀ a b, A a b → g b = f a) :
    (liftM y : ExceptT ε (StateM σ) β) >>= g = (liftM x : ExceptT ε (StateM σ) α) >>= f := by
  cases h with
  | error e => rfl
  | ok h => exact hf _ _ h

omit h in
lemma mapM {P : κ → ι → Prop} {f : κ → Except ε α} {g : ι → Except ε β} (h : ∀ c d, P c d → Answers A (f c) (g d))
    {cs : List κ} {ds : List ι} (hs : List.Forall₂ P cs ds) : Answers (List.Forall₂ A) (cs.mapM f) (ds.mapM g) := by
  induction hs with
  | nil => exact .ok .nil
  | cons hc _ ih =>
    rw [List.mapM_cons, List.mapM_cons]
    exact (h _ _ hc).bind fun a b hab => ih.bind fun as bs hs => .ok (.cons hab hs)

end Answers

def Alike (R : σ → τ → Prop) (A : α → β → Prop) (m : ExceptT ε (StateM σ) α) (n : ExceptT ε (StateM τ) β) :
    Prop :=
  ∀ s t, R s t → Answers A (m.run s).1 (n.run t).1 ∧ R (m.run s).2 (n.run t).2

namespace Alike

lemma pure {a : α} {b : β} (h : A a b) :
    Alike R A (Pure.pure a : ExceptT ε (StateM σ) α) (Pure.pure b) :=
  fun _ _ hst => ⟨.ok h, hst⟩

lemma throw (e : ε) :
    Alike R A (MonadExcept.throw e : ExceptT ε (StateM σ) α) (MonadExcept.throw e) :=
  fun _ _ hst => ⟨.error e, hst⟩

lemma update {f : σ → σ} {g : τ → τ} (h : ∀ s t, R s t → R (f s) (g t)) :
    Alike (ε := ε) R Eq (modify f) (modify g) :=
  fun s t hst => ⟨.ok rfl, h s t hst⟩

lemma get : Alike (ε := ε) R R MonadState.get MonadState.get :=
  fun _ _ hst => ⟨.ok hst, hst⟩

lemma set {s : σ} {t : τ} (h : R s t) : Alike (ε := ε) R Eq (MonadStateOf.set s) (MonadStateOf.set t) :=
  fun _ _ _ => ⟨.ok rfl, h⟩

lemma lift_of_answers {x : Except ε α} {y : Except ε β} (h : Answers A x y) :
    Alike R A (liftM x : ExceptT ε (StateM σ) α) (liftM y) := by
  intro s t hst
  cases h with
  | error e => exact ⟨.error e, hst⟩
  | ok h => exact ⟨.ok h, hst⟩

lemma lift (x : Except ε α) : Alike R Eq (liftM x : ExceptT ε (StateM σ) α) (liftM x) :=
  lift_of_answers (.refl (fun _ => rfl) x)

lemma bind {m : ExceptT ε (StateM σ) α} {n : ExceptT ε (StateM τ) β} {f : α → ExceptT ε (StateM σ) γ}
    {g : β → ExceptT ε (StateM τ) δ} (hm : Alike R A m n) (hf : ∀ a b, A a b → Alike R B (f a) (g b)) :
    Alike R B (m >>= f) (n >>= g) := by
  intro s t hst
  obtain ⟨ha, hst⟩ := hm s t hst
  rcases hms : m.run s with ⟨x, s'⟩
  rcases hnt : n.run t with ⟨y, t'⟩
  rw [hms, hnt] at ha hst
  cases ha with
  | error e =>
    rw [run_bind_of_error hms, run_bind_of_error hnt]
    exact ⟨.error e, hst⟩
  | ok h =>
    rw [run_bind_of_ok hms, run_bind_of_ok hnt]
    exact hf _ _ h s' t' hst

lemma bind_eq {m : ExceptT ε (StateM σ) α} {n : ExceptT ε (StateM τ) α} {f : α → ExceptT ε (StateM σ) γ}
    {g : α → ExceptT ε (StateM τ) δ} (hm : Alike R Eq m n) (hf : ∀ a, Alike R B (f a) (g a)) :
    Alike R B (m >>= f) (n >>= g) :=
  bind hm fun a _ h => h ▸ hf a

lemma mapM {f : κ → ExceptT ε (StateM σ) α} {g : κ → ExceptT ε (StateM τ) α}
    (h : ∀ c, Alike R Eq (f c) (g c)) (cs : List κ) : Alike R Eq (cs.mapM f) (cs.mapM g) := by
  induction cs with
  | nil => exact pure rfl
  | cons c cs ih =>
    rw [List.mapM_cons, List.mapM_cons]
    exact bind_eq (h c) fun a => bind_eq ih fun as => pure rfl

lemma forM {P : κ → ι → Prop} {f : κ → ExceptT ε (StateM σ) PUnit} {g : ι → ExceptT ε (StateM τ) PUnit}
    (h : ∀ c d, P c d → Alike R Eq (f c) (g d)) {cs : List κ} {ds : List ι} (hs : List.Forall₂ P cs ds) :
    Alike R Eq (cs.forM f) (ds.forM g) := by
  induction hs with
  | nil => exact pure rfl
  | cons hc _ ih => exact bind_eq (h _ _ hc) fun _ => ih

end Alike

end DocQuery
