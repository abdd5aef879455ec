import DocQuery.Proofs.Condition.Residues
import Mathlib.Logic.Function.Iterate

/-! Tidying as rewriting: a rule applied from the left takes one step after the other, rounds of rules take such steps
until none is left, and what they end with is irreducible. -/

namespace DocQuery.Trace

/-! A rule applied from the left takes one step after the other. -/

namespace Rule

variable {rule : Rule}

lemma replaceFrom_taken (rule : Rule) (n : Nat) (cs : List Char) :
    rule.replaceFrom false n cs = rule.replaceFrom false 0 (cs.drop n) := by
  induction cs generalizing n with
  | nil => cases n <;> rfl
  | cons c cs ih =>
    cases n with
    | zero => rfl
    | succ n => exact ih n

lemma replaceFrom_of_match {start : Bool} {taken after kept : List Char}
    (hr : rule start (taken ++ after) = some (kept, taken.length)) (hne : taken ≠ []) :
    rule.replaceFrom start 0 (taken ++ after) = kept ++ rule.replaceFrom false 0 after := by
  cases taken with
  | nil => exact absurd rfl hne
  | cons c taken =>
    rw [List.cons_append] at hr ⊢
    rw [replaceFrom, hr]
    dsimp only
    rw [List.length_cons, Nat.add_sub_cancel, replaceFrom_taken, List.drop_left]

lemma replaceFrom_of_none {start : Bool} {c : Char} {cs : List Char} (hr : rule start (c :: cs) = none) :
    rule.replaceFrom start 0 (c :: cs) = c :: rule.replaceFrom false 0 cs := by
  rw [replaceFrom, hr]

namespace Replaces

variable (h : rule.Replaces)

include h

lemma cases (before : List Char) (c : Char) (cs : List Char) :
    (∃ taken after kept, c :: cs = taken ++ after ∧ taken ≠ [] ∧ Residue before taken after kept ∧
      rule.replaceFrom before.isEmpty 0 (c :: cs) = kept ++ rule.replaceFrom false 0 after) ∨
    rule before.isEmpty (c :: cs) = none ∧
      rule.replaceFrom before.isEmpty 0 (c :: cs) = c :: rule.replaceFrom false 0 cs := by
  cases hr : rule before.isEmpty (c :: cs) with
  | none => exact .inr ⟨rfl, replaceFrom_of_none hr⟩
  | some m =>
    obtain ⟨taken, after, hcs, hn, hres⟩ := h before (c :: cs) m.1 m.2 hr
    have hne : taken ≠ [] := List.ne_nil_of_length_pos (Nat.zero_lt_of_lt hres.length_lt)
    refine .inl ⟨taken, after, m.1, hcs, hne, hres, ?_⟩
    rw [hcs] at hr ⊢
    exact replaceFrom_of_match (hr.trans (by rw [← hn])) hne

lemma steps (before done cs : List Char) (hb : before = [] → done = []) :
    Steps (done ++ cs) (done ++ rule.replaceFrom before.isEmpty 0 cs) := by
  match cs with
  | [] => exact .refl
  | c :: cs =>
    rcases cases h before c cs with ⟨taken, after, kept, hcs, hne, hres, hr⟩ | ⟨-, hr⟩
    · have hres' : Residue done taken after kept := by
        by_cases hnil : before = []
        · rw [hb hnil]
          rwa [hnil] at hres
        · exact hres.move hnil done
      have hlen : after.length < (c :: cs).length := by
        rw [hcs, List.length_append]
        exact Nat.lt_add_of_pos_left (List.length_pos_iff.mpr hne)
      have ih := steps (before ++ taken) (done ++ kept) after (by simp [hne])
      rw [List.isEmpty_eq_false_iff.mpr (by simp [hne])] at ih
      rw [hr, hcs, ← List.append_assoc, ← List.append_assoc]
      exact .head ⟨done, taken, after, kept, hres', rfl, rfl⟩ ih
    · have ih := steps (before ++ [c]) (done ++ [c]) cs (by simp)
      rw [List.isEmpty_eq_false_iff.mpr (by simp)] at ih
      rw [hr]
      simpa using ih
termination_by cs.length
decreasing_by
  · exact hlen
  · exact Nat.lt_succ_self _

lemma length_replaceFrom_le (before cs : List Char) : (rule.replaceFrom before.isEmpty 0 cs).length ≤ cs.length :=
  (steps h before [] cs fun _ => rfl).sublist.length_le

lemma eq_none (before cs : List Char) (hr : rule.replaceFrom before.isEmpty 0 cs = cs) (cs₁ after : List Char)
    (hcs : cs = cs₁ ++ after) : rule (before ++ cs₁).isEmpty after = none := by
  induction cs generalizing before cs₁ with
  | nil =>
    obtain ⟨rfl, rfl⟩ := List.append_eq_nil_iff.mp hcs.symm
    cases hm : rule (before ++ []).isEmpty [] with
    | none => rfl
    | some m =>
      obtain ⟨taken, after, hnil, -, hres⟩ := h _ _ m.1 m.2 hm
      obtain ⟨rfl, -⟩ := List.append_eq_nil_iff.mp hnil.symm
      exact absurd hres.length_lt (Nat.not_lt_zero _)
  | cons c cs ih =>
    rcases cases h before c cs with ⟨taken, rest, kept, hcs', hne, hres, hr'⟩ | ⟨hnone, hr'⟩
    · have hle := length_replaceFrom_le h [c] rest
      have heq := congrArg List.length (hr'.symm.trans (hr.trans hcs'))
      simp only [List.length_append] at heq
      have hlt := hres.length_lt
      have hfalse : ([c] : List Char).isEmpty = false := rfl
      rw [hfalse] at hle
      omega
    · cases cs₁ with
      | nil =>
        rw [List.append_nil, ← List.nil_append after, ← hcs]
        exact hnone
      | cons d cs₁ =>
        obtain ⟨rfl, htail⟩ := List.cons.inj hcs
        have hfalse : (before ++ [c]).isEmpty = false := by simp
        have ih' := ih (before ++ [c]) (hfalse ▸ List.tail_eq_of_cons_eq (hr'.symm.trans hr)) cs₁ htail
        rwa [List.append_assoc] at ih'

end Replaces

end Rule

/-! Rounds of all rules. -/

lemma Steps.foldl {rs : List Rule} (h : ∀ rule ∈ rs, rule.Replaces) (cs : List Char) :
    Steps cs (rs.foldl (fun cs rule => rule.replace cs) cs) := by
  induction rs generalizing cs with
  | nil => exact .refl
  | cons rule rs ih =>
    have hrule : Steps cs (rule.replace cs) := (h rule (by simp)).steps [] [] cs fun _ => rfl
    exact hrule.trans (ih (fun rule hm => h rule (List.mem_cons_of_mem _ hm)) _)

lemma replace_eq_of_foldl {rs : List Rule} (h : ∀ rule ∈ rs, rule.Replaces) {cs : List Char}
    (hf : rs.foldl (fun cs rule => rule.replace cs) cs = cs) : ∀ rule ∈ rs, rule.replace cs = cs := by
  induction rs with
  | nil => simp
  | cons rule rs ih =>
    have hrest : ∀ rule ∈ rs, rule.Replaces := fun rule hm => h rule (List.mem_cons_of_mem _ hm)
    have hrule : (rule.replace cs).Sublist cs := ((h rule (by simp)).steps [] [] cs fun _ => rfl).sublist
    have hall := (Steps.foldl hrest (rule.replace cs)).sublist.length_le
    rw [List.foldl_cons] at hf
    rw [hf] at hall
    have heq : rule.replace cs = cs := hrule.eq_of_length_le hall
    rw [heq] at hf
    exact List.forall_mem_cons.mpr ⟨heq, ih hrest hf⟩

lemma steps_round (cs : List Char) : Steps cs (round cs) := Steps.foldl (fun _ => replaces_of_mem) cs

lemma steps_tidyChars (cs : List Char) : Steps cs (tidyChars cs) := by
  fun_induction tidyChars cs with
  | case1 cs h => exact .refl
  | case2 cs h ih => exact (steps_round cs).trans ih

lemma round_tidyChars (cs : List Char) : round (tidyChars cs) = tidyChars cs := by
  fun_induction tidyChars cs with
  | case1 cs h => exact h
  | case2 cs h ih => exact ih

def Rule.Misses (rule : Rule) (cs : List Char) : Prop :=
  ∀ before after, cs = before ++ after → rule before.isEmpty after = none

def Irreducible (cs : List Char) : Prop := ∀ cs', ¬ Step cs cs'

lemma misses_of_round {cs : List Char} (h : round cs = cs) : ∀ rule ∈ rules, rule.Misses cs := by
  intro rule hrule before after hcs
  have hr := replace_eq_of_foldl (fun _ => replaces_of_mem) h rule hrule
  exact (replaces_of_mem hrule).eq_none [] cs hr before after hcs

lemma irreducible_of_misses {cs : List Char} (h : ∀ rule ∈ rules, rule.Misses cs) : Irreducible cs := by
  rintro cs' ⟨before, taken, after, kept, hres, hcs, rfl⟩
  obtain ⟨rule, hrule, hmatch⟩ := exists_rule hres
  rw [List.append_assoc] at hcs
  exact hmatch (h rule hrule before (taken ++ after) hcs)

lemma irreducible_tidyChars (cs : List Char) : Irreducible (tidyChars cs) :=
  irreducible_of_misses (misses_of_round (round_tidyChars cs))

lemma exists_rounds (cs : List Char) : ∃ n ≤ cs.length, tidyChars cs = round^[n] cs := by
  fun_induction tidyChars cs with
  | case1 cs h => exact ⟨0, Nat.zero_le _, rfl⟩
  | case2 cs h ih =>
    obtain ⟨n, hn, ht⟩ := ih
    have hlt : (round cs).length < cs.length :=
      Nat.lt_of_le_of_ne (round_sublist cs).length_le fun hl => h ((round_sublist cs).eq_of_length hl)
    exact ⟨n + 1, Nat.lt_of_le_of_lt hn hlt, by rw [ht, Function.iterate_succ_apply]⟩

theorem tidy_irreducible (s : String) :
    (∃ n ≤ s.toList.length, (tidy s).toList = round^[n] s.toList) ∧
      (∀ rule ∈ rules, rule.Misses (tidy s).toList) ∧ Irreducible (tidy s).toList ∧ tidy (tidy s) = tidy s ∧
      (tidy s).toList.Sublist s.toList ∧
      (tidy s).toList.filter (!isSyntax ·) = s.toList.filter (!isSyntax ·) := by
  have hchars : (tidy s).toList = tidyChars s.toList := String.toList_ofList
  have hround : round (tidyChars s.toList) = tidyChars s.toList := round_tidyChars _
  have hagain : tidyChars (tidyChars s.toList) = tidyChars s.toList := by rw [tidyChars, if_pos hround]
  have hsteps : Steps s.toList (tidyChars s.toList) := steps_tidyChars _
  have htidy : tidy (tidy s) = tidy s := by rw [tidy, hchars, hagain, tidy]
  rw [hchars]
  exact ⟨exists_rounds _, misses_of_round hround, irreducible_tidyChars _, htidy, hsteps.sublist, hsteps.filter_eq⟩

end DocQuery.Trace
