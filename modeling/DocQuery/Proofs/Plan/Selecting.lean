import DocQuery.Proofs.Plan.Building

namespace DocQuery

namespace Arg

def call? : Arg → Option Call
  | function c => some c
  | _ => none

def requested? (a : Arg) : Option Column := (a.column? .select).toOption

end Arg

namespace Select

def called (args : List Arg) : List Call := args.filterMap Arg.call?

def requested (args : List Arg) : List Column := args.filterMap Arg.requested?

end Select

section InTable

variable (c : Column) (table : Option Table)

@[simp] lemma Column.inTable_label : (c.inTable table).label = c.label := by
  rw [inTable]
  split <;> rfl

@[simp] lemma Column.inTable_temporary : (c.inTable table).temporary = c.temporary := by
  rw [inTable]
  split <;> rfl

@[simp] lemma Column.inTable_isAll : (c.inTable table).isAll = c.isAll := by
  rw [inTable]
  split <;> rfl

end InTable

def Param.inTable (table : Option Table) : Param → Param
  | .column c => .column (c.inTable table)
  | .value v => .value v

def Call.inTable (table : Option Table) (c : Call) : Call := { c with params := c.params.map (·.inTable table) }

namespace Builder

def picks (b : Builder) : List Column × List Call := (b.plan.columns, b.plan.calls)

lemma picks_setTarget (b : Builder) (c : Conditions) : picks (b.setTarget c) = picks b := by
  rw [setTarget]
  split <;> rfl

lemma keeps_picks (rs : Results) {o : Operation} (hs : o.keyword ≠ .select) (hd : o.keyword ≠ .delete) :
    Keeps picks (apply rs o) := by
  refine .bind (.lift _) fun _ => .bind ?_ fun _ =>
    .bind (keeps_modifyPlan fun _ => rfl) fun _ => .update fun _ => rfl
  cases hc : o.keyword.isCondition with
  | true => exact keeps_comparison picks_setTarget (fun _ _ _ => rfl) rs hc o.args
  | false => exact (keeps_neutral rs ⟨hc, hs, hd⟩ o.args).map fun c => c.2

lemma run_selectColumns {columns inputs : List Column} {args : List Arg} {b b' : Builder}
    (h : (selectColumns columns inputs args).run b = (.ok (), b')) :
    picks b' = (withInputs (columns ++ Select.requested args)
      (inputs ++ (Select.called args).flatMap Call.columns), b.plan.calls ++ Select.called args) := by
  induction args generalizing columns inputs b with
  | nil =>
    cases h
    simp [picks, Select.requested, Select.called]
  | cons a args ih =>
    have hcolumn (ha : a.call? = none) (h : (columnOf .select a >>= fun c =>
        selectColumns (columns ++ [c]) inputs args).run b = (.ok (), b')) :
        picks b' = (withInputs (columns ++ Select.requested (a :: args))
          (inputs ++ (Select.called (a :: args)).flatMap Call.columns), b.plan.calls ++ Select.called (a :: args)) := by
      obtain ⟨c, u, hc, h⟩ := run_bind_eq_ok h
      obtain ⟨hcol, rfl⟩ := run_lift_eq_ok hc
      have hr : Select.requested (a :: args) = c :: Select.requested args :=
        List.filterMap_cons_some (by rw [Arg.requested?, hcol]; rfl)
      rw [ih h, hr, Select.called, Select.called, List.filterMap_cons_none ha, List.append_assoc]
      rfl
    cases a with
    | function c =>
      have hr : Select.requested (.function c :: args) = Select.requested args := List.filterMap_cons_none rfl
      have hc : Select.called (.function c :: args) = c :: Select.called args := List.filterMap_cons_some rfl
      rw [ih h, hr, hc]
      simp
    | _ => exact hcolumn rfl h

lemma requested_or_called_of_run {columns inputs : List Column} {args : List Arg} {b b' : Builder}
    (h : (selectColumns columns inputs args).run b = (.ok (), b')) {a : Arg} (ha : a ∈ args) :
    a.requested?.isSome = true ∨ a.call?.isSome = true := by
  induction args generalizing columns inputs b with
  | nil => cases ha
  | cons d args ih =>
    have hcolumn
        (h : (columnOf .select d >>= fun c => selectColumns (columns ++ [c]) inputs args).run b = (.ok (), b')) :
        a.requested?.isSome = true ∨ a.call?.isSome = true := by
      obtain ⟨c, u, hc, h⟩ := run_bind_eq_ok h
      rcases List.mem_cons.mp ha with rfl | ha
      · obtain ⟨hcol, -⟩ := run_lift_eq_ok hc
        rw [Arg.requested?, hcol]
        exact .inl rfl
      · exact ih h ha
    cases d with
    | function c =>
      rcases List.mem_cons.mp ha with rfl | ha
      · exact .inr rfl
      · exact ih h ha
    | _ => exact hcolumn h

end Builder

namespace Plan

lemma withInputs_induction {motive : List Column → Prop} {columns : List Column} (h : motive columns)
    (step : ∀ cs (c : Column), c.isAll = false → motive cs → motive (cs ++ [{ c with temporary := true }]))
    (inputs : List Column) : motive (Builder.withInputs columns inputs) := by
  have hfold : ∀ cs, motive cs → motive (inputs.foldl (fun cs c =>
      if c.isAll || cs.any (Builder.isSameColumn · c) then cs else cs ++ [{ c with temporary := true }]) cs) := by
    induction inputs with
    | nil => exact fun _ hcs => hcs
    | cons c inputs ih =>
      intro cs hcs
      rw [List.foldl_cons]
      apply ih
      split
      · exact hcs
      · next hc => exact step cs c (by simp_all) hcs
  rw [Builder.withInputs]
  split
  · exact h
  · exact hfold columns h

lemma withInputs_shown {columns : List Column} (h : ∀ c ∈ columns, c.temporary = false) (inputs : List Column) :
    (Builder.withInputs columns inputs).filter (!·.temporary) = columns := by
  have hself : columns.filter (!·.temporary) = columns :=
    List.filter_eq_self.mpr fun c hc => by simp [h c hc]
  refine withInputs_induction (motive := fun cs => cs.filter (!·.temporary) = columns) hself ?_ inputs
  intro cs c _ hcs
  simp [List.filter_append, hcs]

lemma withInputs_explicit {columns : List Column} (h : ∀ c ∈ columns, c.isAll = false) (inputs : List Column) :
    ∀ c ∈ Builder.withInputs columns inputs, c.isAll = false := by
  refine withInputs_induction (motive := fun cs => ∀ c ∈ cs, c.isAll = false) h ?_ inputs
  intro cs c hc hcs d hd
  rcases List.mem_append.mp hd with hd | hd
  · exact hcs d hd
  · rw [List.mem_singleton.mp hd]
    exact hc

lemma mem_withInputs (columns inputs : List Column) :
    ∀ c ∈ Builder.withInputs columns inputs, c ∈ columns ∨ c.temporary = true := by
  refine withInputs_induction (motive := fun cs => ∀ c ∈ cs, c ∈ columns ∨ c.temporary = true)
    (fun _ => .inl) ?_ inputs
  intro cs c _ hcs d hd
  rcases List.mem_append.mp hd with hd | hd
  · exact hcs d hd
  · rw [List.mem_singleton.mp hd]
    exact .inr rfl

lemma subset_withInputs (columns inputs : List Column) : columns ⊆ Builder.withInputs columns inputs :=
  withInputs_induction (motive := (columns ⊆ ·)) (List.Subset.refl _)
    (fun cs _ _ hcs => List.Subset.trans hcs (List.subset_append_left cs _)) inputs

lemma resolve_calls (p : Plan) : p.resolve.calls = p.calls.map (·.inTable p.primary?) := by
  apply List.map_congr_left
  intro c _
  rw [Call.inTable]
  congr 2

variable {made : Results} {before after : Scheme} {args : List Arg} {p : Plan}

lemma ofScheme_run_selectColumns (hp : ofScheme made (before ++ ⟨.select, args⟩ :: after) = .ok p)
    (hone : ∀ o ∈ before ++ after, o.keyword ≠ .select ∧ o.keyword ≠ .delete) :
    ∃ b b₁ u : Builder, p = b.plan.resolve ∧ b₁.picks = ([], []) ∧
      (Builder.selectColumns [] [] args).run b₁ = (.ok (), u) ∧ b.picks = u.picks := by
  obtain ⟨b, hr, -, rfl⟩ := ofScheme_eq_ok hp
  rw [List.forM_eq_forM, List.forM_append] at hr
  obtain ⟨_, b₁, hbefore, hr⟩ := run_bind_eq_ok hr
  obtain ⟨_, b₂, hselect, hafter⟩ := run_bind_eq_ok hr
  have hkeep : ∀ {s : Scheme} {c c' : Builder}, (∀ o ∈ s, o ∈ before ++ after) →
      (s.forM (Builder.apply made)).run c = (.ok (), c') → c'.picks = c.picks := by
    intro s c c' hs hrun
    have := Keeps.forM (fun o ho => Builder.keeps_picks made (hone o (hs o ho)).1 (hone o (hs o ho)).2) c
    rwa [hrun] at this
  -- a select list passes its check whatever it holds
  obtain ⟨_, u, hperform, haccept⟩ := run_bind_eq_ok (m := Builder.selectColumns [] [] args) hselect
  refine ⟨b, b₁, u, rfl, hkeep (fun o ho => List.mem_append_left _ ho) hbefore, hperform, ?_⟩
  rw [hkeep (fun o ho => List.mem_append_right _ ho) hafter]
  cases haccept
  rfl

lemma ofScheme_select (hp : ofScheme made (before ++ ⟨.select, args⟩ :: after) = .ok p)
    (hone : ∀ o ∈ before ++ after, o.keyword ≠ .select ∧ o.keyword ≠ .delete) :
    p.columns = (Builder.withInputs (Select.requested args) ((Select.called args).flatMap Call.columns)).map
      (·.inTable p.primary?) ∧ p.calls = (Select.called args).map (·.inTable p.primary?) := by
  obtain ⟨b, b₁, u, rfl, hbefore, hselect, hpicks⟩ := ofScheme_run_selectColumns hp hone
  have hlist := Builder.run_selectColumns hselect
  rw [← hpicks] at hlist
  obtain ⟨hcolumns, hcalls⟩ := Prod.mk.inj hlist
  rw [(Prod.mk.inj hbefore).2] at hcalls
  constructor
  · exact congrArg (List.map _) hcolumns
  · rw [resolve_calls, hcalls]
    rfl

lemma ofScheme_select_nonempty (hp : ofScheme made (before ++ ⟨.select, args⟩ :: after) = .ok p)
    (hone : ∀ o ∈ before ++ after, o.keyword ≠ .select ∧ o.keyword ≠ .delete) (hargs : args ≠ []) :
    Select.requested args ≠ [] ∨ Select.called args ≠ [] := by
  obtain ⟨-, b₁, u, -, -, hselect, -⟩ := ofScheme_run_selectColumns hp hone
  obtain ⟨a, ha⟩ := List.exists_mem_of_ne_nil args hargs
  rcases Builder.requested_or_called_of_run hselect ha with h | h
  · exact .inl (List.ne_nil_of_mem (List.mem_filterMap.mpr ⟨a, ha, (Option.eq_some_of_isSome h)⟩))
  · exact .inr (List.ne_nil_of_mem (List.mem_filterMap.mpr ⟨a, ha, (Option.eq_some_of_isSome h)⟩))

end Plan

end DocQuery
