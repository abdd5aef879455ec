import DocQuery.Proofs.Plan.Building
import DocQuery.Proofs.Plan.Keychains
import Mathlib.Data.List.Induction

/-! Clauses that go on with the keys before them. Whatever has failed in between, the keys of a clause that is written
again after a connective come into the scope that the connective has opened. -/

namespace DocQuery

namespace Keyword

variable {k : Keyword}

lemma exists_clause (h : k.isClause = true) : ∃ clause : Clause, clause.keyword = k := by
  cases k with
  | whereKeys => exact ⟨.whereKeys, rfl⟩
  | havingKeys => exact ⟨.havingKeys, rfl⟩
  | _ => cases h

lemma exists_connective (h : k.isConnective = true) : ∃ connective : Connective, connective.keyword = k := by
  cases k with
  | and => exact ⟨.and, rfl⟩
  | or => exact ⟨.or, rfl⟩
  | _ => cases h

lemma isClause_keyword (clause : Clause) : clause.keyword.isClause = true := by cases clause <;> rfl

lemma isConnective_keyword (connective : Connective) : connective.keyword.isConnective = true := by
  cases connective <;> rfl

end Keyword

namespace Key

mutual

lemma ofArg_ne_malformed {table : Option Table} {depth : Nat} {a : Arg} {fault : PlanFault} :
    ofArg table depth a ≠ .error (.malformed fault) := by
  intro h
  cases a with
  | scope connective items =>
    rw [ofArg] at h
    split at h
    · cases h
    · exact ofArgs_ne_malformed (Except.map_eq_error h)
  | value v =>
    rw [ofArg] at h
    · split at h
      · cases h
      · have hcolumn := Except.map_eq_error h
        cases v <;> cases hcolumn
    · nofun
  | _ =>
    simp only [ofArg] at h
    split at h <;> cases h

lemma ofArgs_ne_malformed {table : Option Table} {depth : Nat} {args : List Arg} {fault : PlanFault} :
    ofArgs table depth args ≠ .error (.malformed fault) := by
  intro h
  cases args with
  | nil => cases h
  | cons a args =>
    rw [ofArgs] at h
    rcases Except.bind_eq_error h with ha | ⟨k, -, h⟩
    · exact ofArg_ne_malformed ha
    · rcases Except.bind_eq_error h with hargs | ⟨ks, -, h⟩
      · exact ofArgs_ne_malformed hargs
      · cases h

end

end Key

namespace Clause

def keysOf (clause : Clause) (table : Option Table) (args : List Arg) : Except Error (List Key) := do
  Plan.check clause.keyword args
  Key.ofArgs table 0 args

lemma keysOf_of_check {clause : Clause} {args : List Arg} (hc : Plan.check clause.keyword args = .ok ())
    (table : Option Table) : clause.keysOf table args = Key.ofArgs table 0 args := by
  rw [keysOf, hc]
  rfl

lemma keysOf_of_unchecked {clause : Clause} {args : List Arg} {e : Error}
    (hc : Plan.check clause.keyword args = .error e) (table : Option Table) : clause.keysOf table args = .error e := by
  rw [keysOf, hc]
  rfl

lemma keysOf_ne_malformed {clause : Clause} {table : Option Table} {args : List Arg} {fault : PlanFault} :
    clause.keysOf table args ≠ .error (.malformed fault) := by
  intro h
  rcases Except.bind_eq_error h with hcheck | ⟨_, -, hkeys⟩
  · have hchecks : Plan.check clause.keyword args = Plan.checkKeys clause.keyword args := by cases clause <;> rfl
    rw [hchecks, Plan.checkKeys.eq_def] at hcheck
    split at hcheck <;> cases hcheck
  · exact Key.ofArgs_ne_malformed hkeys

end Clause

namespace Builder

def trail (b : Builder) : List Key × List Keyword := (b.keychain, b.history)

lemma trail_setTarget (b : Builder) (c : Conditions) : (b.setTarget c).trail = b.trail := by
  rw [setTarget]
  split <;> rfl

section Steps

variable (rs : Results)

lemma keeps_trail {keyword : Keyword} (hc : keyword.isClause = false) (hn : keyword.isConnective = false)
    (args : List Arg) : Keeps trail (perform rs keyword args) := by
  cases h : keyword.isCondition with
  | true => exact keeps_operands trail_setTarget rs h hc hn args
  | false => exact (keeps_core rs h args).map fun a => (a.keychain, a.history)

lemma apply_clause (clause : Clause) (args : List Arg) (b : Builder) :
    (apply rs ⟨clause.keyword, args⟩).run b =
      match clause.keysOf b.plan.primary? args with
      | .error e => (.error e, b)
      | .ok keys =>
        match if continues clause b.history then extendLast keys b.keychain else some keys with
        | some keychain => (.ok (), { b with
            keychain := keychain, clause := clause, history := clause.keyword :: b.history })
        | none => (.error (.malformed .keyNotScope), b) := by
  have hperform : perform rs clause.keyword args = openKeys clause args := by cases clause <;> rfl
  have hcommand : clause.keyword.isCommand = false := by cases clause <;> rfl
  cases hcheck : Plan.check clause.keyword args with
  | error e =>
    rw [Clause.keysOf_of_unchecked hcheck]
    exact run_apply_of_unchecked hcheck
  | ok =>
    have hopen := openKeys_eq clause args b
    rw [← hperform] at hopen
    rw [Clause.keysOf_of_check hcheck]
    cases hkeys : Key.ofArgs b.plan.primary? 0 args with
    | error e =>
      rw [hkeys] at hopen
      exact run_apply_of_error hcheck hopen
    | ok keys =>
      rw [hkeys] at hopen
      dsimp only at hopen ⊢
      cases hkeychain : if continues clause b.history then extendLast keys b.keychain else some keys with
      | none =>
        rw [hkeychain] at hopen
        exact run_apply_of_error hcheck hopen
      | some keychain =>
        rw [hkeychain] at hopen
        exact run_apply hcheck hopen hcommand

lemma apply_cases (o : Operation) (b : Builder) :
    (∃ e b', (apply rs o).run b = (.error e, b') ∧ b'.trail = b.trail) ∨
      ∃ b', (apply rs o).run b = (.ok (), b') ∧ b'.history = o.keyword :: b.history := by
  obtain ⟨keyword, args⟩ := o
  by_cases hc : keyword.isClause = true
  · obtain ⟨clause, rfl⟩ := Keyword.exists_clause hc
    rw [apply_clause]
    split
    · exact .inl ⟨_, _, rfl, rfl⟩
    · split
      · exact .inr ⟨_, rfl, rfl⟩
      · exact .inl ⟨_, _, rfl, rfl⟩
  by_cases hn : keyword.isConnective = true
  · obtain ⟨connective, rfl⟩ := Keyword.exists_connective hn
    have hpushed : (b.setTarget (b.target.pushToken (.ofConnective connective))).history = b.history :=
      congrArg Prod.snd (trail_setTarget b _)
    rw [apply_connective]
    exact .inr ⟨_, rfl, by split <;> simp [hpushed]⟩
  · -- any other word may have done a part of its work before it fails, but not to these
    have hkept := keeps_trail rs (Bool.eq_false_iff.mpr hc) (Bool.eq_false_iff.mpr hn) args b
    cases hcheck : Plan.check keyword args with
    | error e => exact .inl ⟨e, b, run_apply_of_unchecked hcheck, rfl⟩
    | ok =>
      rcases hp : (perform rs keyword args).run b with ⟨e | _, u⟩
      · rw [hp] at hkept
        exact .inl ⟨e, u, run_apply_of_error hcheck hp, hkept⟩
      · rw [hp] at hkept
        rw [run_apply_of_check hcheck, run_bind_of_ok hp]
        exact .inr ⟨_, rfl, congrArg (keyword :: ·) (congrArg Prod.snd hkept)⟩

end Steps

structure Attempt where
  results : Results
  operation : Operation

def accepts (b : Builder) (a : Attempt) : Bool := ((apply a.results a.operation).run b).1.isOk

def attempt (b : Builder) (a : Attempt) : Builder := ((apply a.results a.operation).run b).2

def attempts (b : Builder) (as : List Attempt) : Builder := as.foldl attempt b

def accepted (b : Builder) : List Attempt → Scheme
  | [] => []
  | a :: as => (if b.accepts a then [a.operation] else []) ++ accepted (b.attempt a) as

variable {b : Builder} {a : Attempt} {as : List Attempt}

lemma trail_attempt (h : b.accepts a = false) : (b.attempt a).trail = b.trail := by
  rw [accepts] at h
  rw [attempt]
  rcases apply_cases a.results a.operation b with ⟨e, b', hrun, htrail⟩ | ⟨b', hrun, -⟩
  · rwa [hrun]
  · rw [hrun] at h
    cases h

lemma history_attempt (h : b.accepts a = true) : (b.attempt a).history = a.operation.keyword :: b.history := by
  rw [accepts] at h
  rw [attempt]
  rcases apply_cases a.results a.operation b with ⟨e, b', hrun, -⟩ | ⟨b', hrun, hhistory⟩
  · rw [hrun] at h
    cases h
  · rwa [hrun]

lemma accepted_append (b : Builder) (as bs : List Attempt) :
    accepted b (as ++ bs) = accepted b as ++ accepted (attempts b as) bs := by
  induction as generalizing b with
  | nil => rfl
  | cons a as ih =>
    rw [List.cons_append, accepted, ih, accepted, List.append_assoc]
    rfl

lemma accepted_singleton (b : Builder) (a : Attempt) :
    accepted b [a] = if b.accepts a then [a.operation] else [] := by
  rw [accepted, accepted, List.append_nil]

lemma attempts_concat (b : Builder) (as : List Attempt) (a : Attempt) :
    attempts b (as ++ [a]) = (attempts b as).attempt a := by
  rw [attempts, List.foldl_append]
  rfl

lemma history_attempts (b : Builder) (as : List Attempt) :
    (attempts b as).history = ((accepted b as).map Operation.keyword).reverse ++ b.history := by
  induction as generalizing b with
  | nil => rfl
  | cons a as ih =>
    show (attempts (b.attempt a) as).history = _
    rw [ih, accepted]
    cases h : b.accepts a with
    | false =>
      have hhistory : (b.attempt a).history = b.history := congrArg Prod.snd (trail_attempt h)
      rw [hhistory]
      rfl
    | true =>
      rw [history_attempt h]
      simp

lemma exists_last_accepted {ops : Scheme} {o : Operation} (h : accepted b as = ops ++ [o]) :
    ∃ before a after, as = before ++ a :: after ∧ accepted b before = ops ∧ a.operation = o ∧
      (attempts b as).trail = ((attempts b before).attempt a).trail := by
  -- from the end, past the operations that are refused
  induction as using List.reverseRecOn with
  | nil => simp [accepted] at h
  | append_singleton as a ih =>
    rw [accepted_append, accepted_singleton] at h
    cases ha : (attempts b as).accepts a with
    | true =>
      rw [if_pos ha] at h
      obtain ⟨hops, ho⟩ := List.append_inj' h rfl
      exact ⟨as, a, [], rfl, hops, (List.cons.inj ho).1, by rw [attempts_concat]⟩
    | false =>
      rw [if_neg (by simp [ha]), List.append_nil] at h
      obtain ⟨before, c, after, rfl, hbefore, hc, htrail⟩ := ih h
      refine ⟨before, c, after ++ [a], by simp, hbefore, hc, ?_⟩
      rw [attempts_concat, trail_attempt ha, htrail]

lemma exists_last_words {last previous : Keyword} {history : List Keyword}
    (h : (attempts empty as).history = last :: previous :: history) :
    ∃ ops o o', accepted empty as = ops ++ [o, o'] ∧ o.keyword = previous ∧ o'.keyword = last := by
  rw [history_attempts, show empty.history = [] from rfl, List.append_nil] at h
  have hwords : (accepted empty as).map Operation.keyword = history.reverse ++ [previous, last] := by
    simpa using congrArg List.reverse h
  obtain ⟨ops, ends, hsplit, -, hends⟩ := List.map_eq_append_iff.mp hwords
  obtain ⟨o, rest, rfl, hprevious, hrest⟩ := List.map_eq_cons_iff.mp hends
  obtain ⟨o', rest, rfl, hlast, hnil⟩ := List.map_eq_cons_iff.mp hrest
  cases List.map_eq_nil_iff.mp hnil
  exact ⟨ops, o, o', hsplit, hprevious, hlast⟩

section Joined

variable {clause : Clause} {connective : Connective}

lemma exists_opened {ops : Scheme} {args items : List Arg}
    (h : accepted b as = ops ++ [⟨clause.keyword, args⟩, ⟨connective.keyword, items⟩]) :
    ∃ before joint after, as = before ++ joint :: after ∧
      accepted b before = ops ++ [⟨clause.keyword, args⟩] ∧ joint.operation = ⟨connective.keyword, items⟩ ∧
      ((attempts b before).attempt joint).keychain = (attempts b before).keychain ++ [.scope connective []] ∧
      (attempts b as).keychain = (attempts b before).keychain ++ [.scope connective []] := by
  rw [List.append_cons] at h
  obtain ⟨before, joint, after, hsplit, hbefore, hjoint, htrail⟩ := exists_last_accepted h
  have hclause : (attempts b before).history.head?.any Keyword.isClause = true := by
    rw [history_attempts, hbefore]
    simp [Keyword.isClause_keyword]
  have hopened : ((attempts b before).attempt joint).keychain =
      (attempts b before).keychain ++ [.scope connective []] := by
    rw [attempt, hjoint, apply_connective, if_pos hclause]
  exact ⟨before, joint, after, hsplit, hbefore, hjoint, hopened, (congrArg Prod.fst htrail).trans hopened⟩

lemma apply_joined (rs : Results) (args : List Arg) {opened : List Key} {history : List Keyword}
    (hh : b.history = connective.keyword :: clause.keyword :: history)
    (hk : b.keychain = opened ++ [.scope connective []]) :
    (apply rs ⟨clause.keyword, args⟩).run b =
      match clause.keysOf b.plan.primary? args with
      | .error e => (.error e, b)
      | .ok keys => (.ok (), { b with
          keychain := opened ++ [.scope connective keys], clause := clause
          history := clause.keyword :: b.history }) := by
  have hc : continues clause b.history = true := by
    rw [hh, continues, Keyword.isConnective_keyword, beq_self_eq_true]
    rfl
  rw [apply_clause, hc, hk]
  simp only [if_true, extendLast_concat, List.nil_append]

end Joined

lemma exists_keychain (as : List Attempt) (clause : Clause) (keys : List Key) :
    ∃ keychain, (if continues clause (attempts empty as).history then extendLast keys (attempts empty as).keychain
      else some keys) = some keychain := by
  by_cases hc : continues clause (attempts empty as).history = true
  · rw [if_pos hc]
    rcases hh : (attempts empty as).history with _ | ⟨last, _ | ⟨previous, history⟩⟩
    · rw [hh] at hc
      cases hc
    · rw [hh] at hc
      cases hc
    · rw [hh, continues, Bool.and_eq_true, beq_iff_eq] at hc
      obtain ⟨hlast, rfl⟩ := hc
      obtain ⟨connective, rfl⟩ := Keyword.exists_connective hlast
      obtain ⟨ops, ⟨_, args⟩, ⟨_, items⟩, haccepted, rfl, rfl⟩ := exists_last_words hh
      obtain ⟨before, _, _, -, -, -, -, hkeychain⟩ := exists_opened haccepted
      exact ⟨_, by rw [hkeychain, extendLast_concat]⟩
  · exact ⟨keys, if_neg hc⟩

lemma answer_clause (as : List Attempt) (clause : Clause) (rs : Results) (args : List Arg) :
    ((apply rs ⟨clause.keyword, args⟩).run (attempts empty as)).1 =
      (clause.keysOf (attempts empty as).plan.primary? args).map fun _ => () := by
  rw [apply_clause]
  split
  · next e hkeys => rw [hkeys, Except.map]
  · next keys hkeys =>
    obtain ⟨keychain, hkeychain⟩ := exists_keychain as clause keys
    rw [hkeys, hkeychain, Except.map]

theorem clause_goes_on (as : List Attempt) :
    (∀ {clause : Clause} {connective : Connective} {ops args items},
      accepted empty as = ops ++ [⟨clause.keyword, args⟩, ⟨connective.keyword, items⟩] →
      ∃ before joint after, as = before ++ joint :: after ∧
        accepted empty before = ops ++ [⟨clause.keyword, args⟩] ∧ joint.operation = ⟨connective.keyword, items⟩ ∧
        ((attempts empty before).attempt joint).keychain =
          (attempts empty before).keychain ++ [.scope connective []] ∧
        (attempts empty as).keychain = (attempts empty before).keychain ++ [.scope connective []] ∧
        ∀ rs more, (apply rs ⟨clause.keyword, more⟩).run (attempts empty as) =
          match clause.keysOf (attempts empty as).plan.primary? more with
          | .error e => (.error e, attempts empty as)
          | .ok keys => (.ok (), { attempts empty as with
              keychain := (attempts empty before).keychain ++ [.scope connective keys], clause := clause
              history := clause.keyword :: (attempts empty as).history })) ∧
    ∀ (clause : Clause) rs args,
      ((apply rs ⟨clause.keyword, args⟩).run (attempts empty as)).1 =
        (clause.keysOf (attempts empty as).plan.primary? args).map (fun _ => ()) ∧
      ((apply rs ⟨clause.keyword, args⟩).run (attempts empty as)).1 ≠ .error (.malformed .keyNotScope) := by
  refine ⟨fun {clause connective ops args items} h => ?_, fun clause rs args => ?_⟩
  · obtain ⟨before, joint, after, hsplit, hbefore, hjoint, hopened, hkeychain⟩ := exists_opened h
    have hhistory : (attempts empty as).history =
        connective.keyword :: clause.keyword :: (ops.map Operation.keyword).reverse := by
      rw [history_attempts, h]
      simp [empty]
    exact ⟨before, joint, after, hsplit, hbefore, hjoint, hopened, hkeychain,
      fun rs more => apply_joined rs more hhistory hkeychain⟩
  · have hanswer := answer_clause as clause rs args
    refine ⟨hanswer, fun hfault => ?_⟩
    exact Clause.keysOf_ne_malformed (Except.map_eq_error (hanswer.symm.trans hfault))

def usersColumn (name : String) : Column := .ofTable (.named "users") name

def interrupted : List Attempt :=
  [⟨.fromTables, [.table (.named "users")]⟩, ⟨.whereKeys, [.column (.named "a")]⟩, ⟨.eq, []⟩, ⟨.or, []⟩,
    ⟨.insert, [.value (.int 1), .table (.named "orders")]⟩, ⟨.havingKeys, []⟩,
    ⟨.whereKeys, [.column (.named "b"), .value (.int 1)]⟩].map (⟨[], ·⟩)

theorem clause_goes_on_interrupted :
    accepted empty interrupted = [⟨.fromTables, [.table (.named "users")]⟩, ⟨.whereKeys, [.column (.named "a")]⟩,
      ⟨.or, []⟩] ∧
    ∃ b, (apply [] ⟨.whereKeys, [.column (.named "b"), .scope .and [.column (.named "c")]]⟩).run
        (attempts empty interrupted) = (.ok (), b) ∧
      b.keychain = [.column (usersColumn "a"),
        .scope .or [.column (usersColumn "b"), .scope .and [.column (usersColumn "c")]]] := by
  have haccepted : accepted empty interrupted = [⟨.fromTables, [.table (.named "users")]⟩] ++
      [⟨Clause.whereKeys.keyword, [.column (.named "a")]⟩, ⟨Connective.or.keyword, []⟩] := rfl
  obtain ⟨before, _, _, -, -, -, -, hkeychain, hrun⟩ := (clause_goes_on interrupted).1 haccepted
  have hopened : (attempts empty before).keychain = [.column (usersColumn "a")] :=
    List.append_cancel_right (hkeychain.symm.trans rfl)
  refine ⟨haccepted, _, hrun [] _, ?_⟩
  rw [hopened]
  rfl

end Builder

end DocQuery
