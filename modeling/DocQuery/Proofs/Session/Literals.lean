import DocQuery.Proofs.Plan.Likeness
import DocQuery.Proofs.Session.Batches

/-! References of memberships spelled out. A batch does the same whether `IN` refers to an earlier output or has, in
the place of the reference, an array of all scalars of that output. -/

namespace DocQuery

/-- The same argument, but for the arrays of scalars in the places of references, at any depth of scopes. -/
inductive Arg.Spelled (outputs : List Value) : Arg → Arg → Prop
  | refl (a : Arg) : Spelled outputs a a
  | literal {query : Nat} {v : Value} : outputs[query]? = some v →
    Spelled outputs (.reference query) (.value (.array v.scalars))
  | scope {connective : Connective} {items items' : List Arg} : List.Forall₂ (Spelled outputs) items items' →
    Spelled outputs (.scope connective items) (.scope connective items')

inductive Operation.Spelled (outputs : List Value) : Operation → Operation → Prop
  | refl (o : Operation) : Spelled outputs o o
  | member {args args' : List Arg} : List.Forall₂ (Arg.Spelled outputs) args args' →
    Spelled outputs ⟨.isIn, args⟩ ⟨.isIn, args'⟩

def Scheme.Spelled (outputs : List Value) (s s' : Scheme) : Prop := List.Forall₂ (Operation.Spelled outputs) s s'

namespace Batch

variable {outputs : List Value} (index : Nat)

def ReadLike (a a' : Arg) : Prop := ∀ depth, Answers Operand.Like (Operand.ofArg depth a) (Operand.ofArg depth a')

lemma ReadLike.refl (a : Arg) : ReadLike a a := fun _ => .refl .refl _

lemma ofArgs_like {as as' : List Arg} (h : List.Forall₂ ReadLike as as') (depth : Nat) :
    Answers (List.Forall₂ Operand.Like) (Operand.ofArgs depth as) (Operand.ofArgs depth as') := by
  induction h with
  | nil => exact .ok .nil
  | cons ha _ ih =>
    rw [Operand.ofArgs, Operand.ofArgs]
    exact (ha depth).bind fun _ _ ho => ih.bind fun _ _ hos => .ok (.cons ho hos)

lemma ReadLike.scope (connective : Connective) {as as' : List Arg} (h : List.Forall₂ ReadLike as as') :
    ReadLike (.scope connective as) (.scope connective as') := by
  intro depth
  rw [Operand.ofArg, Operand.ofArg]
  split
  · exact .error _
  · exact (ofArgs_like h _).map fun _ _ => Operand.Like.scope connective

lemma ReadLike.scalars (v : Value) : ReadLike (.output (.known v)) (.value (.array v.scalars)) := by
  intro depth
  rw [Operand.ofArg, Operand.ofArg]
  split
  · exact .error _
  · exact .ok (.scalars v)

mutual

lemma resolveArg_spelled {a a' : Arg} (h : a.Spelled outputs a') :
    Answers ReadLike (resolveArg index outputs a) (resolveArg index outputs a') := by
  cases a with
  | reference query =>
    cases h with
    | refl => exact .refl .refl _
    | literal hv =>
      rw [resolveArg, hv]
      exact .ok (.scalars _)
  | scope connective items =>
    cases h with
    | refl => exact .refl .refl _
    | scope hs =>
      rw [resolveArg, resolveArg]
      exact (resolveArgs_spelled hs).map fun _ _ => ReadLike.scope connective
  | _ =>
    cases h
    exact .refl .refl _

lemma resolveArgs_spelled {as as' : List Arg} (h : List.Forall₂ (Arg.Spelled outputs) as as') :
    Answers (List.Forall₂ ReadLike) (resolveArgs index outputs as) (resolveArgs index outputs as') := by
  cases as with
  | nil =>
    cases h
    exact .ok .nil
  | cons a as =>
    cases h with
    | cons ha has =>
      rw [resolveArgs, resolveArgs]
      exact (resolveArg_spelled ha).bind fun _ _ hb => (resolveArgs_spelled has).bind fun _ _ hbs => .ok (.cons hb hbs)

end

lemma resolve_spelled {s s' : Scheme} (h : s.Spelled outputs s') :
    Answers (List.Forall₂ Operation.Like) (resolve index outputs s) (resolve index outputs s') := by
  refine .mapM (fun o o' ho => ?_) h
  cases ho with
  | refl => exact .refl .refl _
  | member hargs =>
    refine (resolveArgs_spelled index hargs).map fun as as' has => .member ?_ (ofArgs_like has 0)
    cases has <;> rfl

lemma runScheme_spelled [Source] {s s' : Scheme} (h : s.Spelled outputs s') :
    runScheme outputs s' = runScheme outputs s :=
  (resolve_spelled outputs.length h).lift_bind fun _ _ hs =>
    (Plan.ofScheme_like [] hs).lift_bind fun _ _ hp => hp.run []

end Batch

namespace Session

variable {s : Session} {pre : List Scheme} {scheme scheme' : Scheme}

theorem execute_spelled [Source]
    (h : ∀ outputs, (s.execute pre).1 = .ok outputs → Scheme.Spelled outputs scheme scheme') (rest : List Scheme) :
    s.execute (pre ++ scheme' :: rest) = s.execute (pre ++ scheme :: rest) := by
  obtain ⟨store, connected⟩ := s
  cases connected with
  | false => rfl
  | true =>
    rcases hp : (Batch.run pre).run store with ⟨e | outputs, t⟩
    · rw [execute_eq, execute_eq, Batch.run_of_error hp, Batch.run_of_error hp]
    · have hspelled := h outputs (by rw [execute_of_run hp])
      rw [execute_eq, execute_eq, Batch.run_of_ok hp, Batch.run_of_ok hp, Batch.runFrom, Batch.runFrom,
        Batch.runScheme_spelled hspelled]

def departureByName : Scheme :=
  [⟨.delete, []⟩, ⟨.fromTables, [.value (.string "users")]⟩, ⟨.whereKeys, [.value (.string "_key")]⟩,
    ⟨.isIn, [.scope .or [.value (keysOf ["~gen-0001"])]]⟩]

theorem execute_spelled_departure :
    (∀ outputs, (oneUser.execute [arrival]).1 = .ok outputs → Scheme.Spelled outputs departure departureByName) ∧
    (oneUser.execute [arrival, departureByName, arrival]).1 =
      .ok [keysOf ["~gen-0001"], .bool true, keysOf ["~gen-0002"]] ∧
    oneUser.execute [arrival, departureByName, arrival] = oneUser.execute [arrival, departure, arrival] := by
  have hspelled (outputs : List Value) (ho : (oneUser.execute [arrival]).1 = .ok outputs) :
      Scheme.Spelled outputs departure departureByName := by
    have hmade : (oneUser.execute [arrival]).1 = .ok [keysOf ["~gen-0001"]] := rfl
    obtain rfl := Except.ok.inj (hmade.symm.trans ho)
    exact .cons (.refl _) (.cons (.refl _) (.cons (.refl _) (.cons (.member (.cons (.scope (.cons
      (.literal (v := keysOf ["~gen-0001"]) rfl) .nil)) .nil)) .nil)))
  have hsame := execute_spelled hspelled [arrival]
  exact ⟨hspelled, (congrArg Prod.fst hsame).trans rfl, hsame⟩

end Session

end DocQuery
