import DocQuery.Condition.Trace
import Mathlib.Logic.Relation
import Mathlib.Tactic.Lemma

/-! The rules of `tidy` as forms of text: what each takes in, where, and what stays of it. A rule that is applied
everywhere from the left takes such steps one after the other, and a text that no rule changes has none of these
forms in it. -/

namespace DocQuery.Trace

inductive IsConnectives : List Char → Prop
  | nil : IsConnectives []
  | and {cs : List Char} (h : IsConnectives cs) : IsConnectives ('&' :: '&' :: cs)
  | or {cs : List Char} (h : IsConnectives cs) : IsConnectives ('|' :: '|' :: cs)

def IsConnective (c : List Char) : Prop := c = ['&', '&'] ∨ c = ['|', '|']

/-- What a rule takes in between what is before and after it, and what stays: digits in brackets, connectives before
a closing bracket or the end, connectives after an opening bracket or at the start, empty brackets, connectives after
another one, and negations before a closing bracket, the end or a connective. -/
inductive Residue : (before taken after kept : List Char) → Prop
  | digit {before after : List Char} {d : Char} (hd : d = '0' ∨ d = '1') : Residue before ['(', d, ')'] after [d]
  | trailing {before m after : List Char} (hm : IsConnectives m) (hne : m ≠ []) :
    Residue before (m ++ [')']) after [')']
  | trailingEnd {before m : List Char} (hm : IsConnectives m) (hne : m ≠ []) : Residue before m [] []
  | leading {before m after : List Char} (hm : IsConnectives m) (hne : m ≠ []) : Residue before ('(' :: m) after ['(']
  | leadingStart {m after : List Char} (hm : IsConnectives m) (hne : m ≠ []) : Residue [] m after []
  | emptyGroup {before after : List Char} : Residue before ['(', ')'] after []
  | repeated {before c m after : List Char} (hc : IsConnective c) (hm : IsConnectives m) (hne : m ≠ []) :
    Residue before (c ++ m) after c
  | loose {before after : List Char} (n : Nat) : Residue before (List.replicate (n + 1) '!' ++ [')']) after [')']
  | looseEnd {before : List Char} (n : Nat) : Residue before (List.replicate (n + 1) '!') [] []
  | looseBefore {before c after : List Char} (n : Nat) (hc : IsConnective c) :
    Residue before (List.replicate (n + 1) '!' ++ c) after c

def Step (cs cs' : List Char) : Prop :=
  ∃ before taken after kept, Residue before taken after kept ∧ cs = before ++ taken ++ after ∧
    cs' = before ++ kept ++ after

def isSyntax (c : Char) : Bool := ['(', ')', '&', '|', '!'].contains c

lemma IsConnectives.isSyntax {m : List Char} (h : IsConnectives m) : ∀ c ∈ m, isSyntax c = true := by
  induction h with
  | nil => simp
  | and _ ih => simpa [Trace.isSyntax] using ih
  | or _ ih => simpa [Trace.isSyntax] using ih

lemma filter_isSyntax {m : List Char} (h : ∀ c ∈ m, isSyntax c = true) : m.filter (!isSyntax ·) = [] :=
  List.filter_eq_nil_iff.mpr fun c hc => by simp [h c hc]

namespace Residue

variable {before taken after kept : List Char}

lemma move (h : Residue before taken after kept) (hb : before ≠ []) (before' : List Char) :
    Residue before' taken after kept := by
  cases h with
  | digit hd => exact .digit hd
  | trailing hm hne => exact .trailing hm hne
  | trailingEnd hm hne => exact .trailingEnd hm hne
  | leading hm hne => exact .leading hm hne
  | leadingStart => exact absurd rfl hb
  | emptyGroup => exact .emptyGroup
  | repeated hc hm hne => exact .repeated hc hm hne
  | loose n => exact .loose n
  | looseEnd n => exact .looseEnd n
  | looseBefore n hc => exact .looseBefore n hc

lemma length_lt (h : Residue before taken after kept) : kept.length < taken.length := by
  cases h with
  | digit | emptyGroup => simp
  | trailing hm hne | trailingEnd hm hne | leadingStart hm hne => simpa [List.length_pos_iff] using hne
  | leading hm hne | repeated hc hm hne => simpa [List.length_pos_iff] using hne
  | loose n | looseEnd n | looseBefore n => simp

lemma sublist (h : Residue before taken after kept) : kept.Sublist taken := by
  cases h with
  | digit => simp
  | trailing | loose | looseBefore => exact List.sublist_append_right _ _
  | trailingEnd | leadingStart | emptyGroup | looseEnd => exact List.nil_sublist _
  | leading => simp
  | repeated => exact List.sublist_append_left _ _

lemma filter_kept (h : Residue before taken after kept) :
    kept.filter (!isSyntax ·) = taken.filter (!isSyntax ·) := by
  have hnot (n : Nat) : (List.replicate n '!').filter (!isSyntax ·) = [] :=
    filter_isSyntax fun c hc => by rw [List.eq_of_mem_replicate hc]; rfl
  cases h with
  | @digit _ _ d hd => rcases hd with rfl | rfl <;> rfl
  | trailing hm => rw [List.filter_append, filter_isSyntax hm.isSyntax, List.nil_append]
  | trailingEnd hm | leadingStart hm => rw [filter_isSyntax hm.isSyntax, List.filter_nil]
  | leading hm => rw [List.filter_cons, List.filter_cons, filter_isSyntax hm.isSyntax, List.filter_nil]
  | emptyGroup => rfl
  | repeated hc hm => rw [List.filter_append, filter_isSyntax hm.isSyntax, List.append_nil]
  | loose n => rw [List.filter_append, hnot, List.nil_append]
  | looseEnd n => rw [hnot, List.filter_nil]
  | looseBefore n => rw [List.filter_append, hnot, List.nil_append]

end Residue

namespace Step

variable {cs cs' : List Char}

lemma sublist (h : Step cs cs') : cs'.Sublist cs := by
  obtain ⟨before, taken, after, kept, hr, rfl, rfl⟩ := h
  exact (hr.sublist.append_left before).append_right after

lemma filter_eq (h : Step cs cs') : cs'.filter (!isSyntax ·) = cs.filter (!isSyntax ·) := by
  obtain ⟨before, taken, after, kept, hr, rfl, rfl⟩ := h
  simp only [List.filter_append, hr.filter_kept]

end Step

abbrev Steps : List Char → List Char → Prop := Relation.ReflTransGen Step

lemma Steps.sublist {cs cs' : List Char} (h : Steps cs cs') : cs'.Sublist cs := by
  induction h with
  | refl => exact List.Sublist.refl _
  | tail _ hs ih => exact hs.sublist.trans ih

lemma Steps.filter_eq {cs cs' : List Char} (h : Steps cs cs') :
    cs'.filter (!isSyntax ·) = cs.filter (!isSyntax ·) := by
  induction h with
  | refl => rfl
  | tail _ hs ih => exact hs.filter_eq.trans ih

lemma connectives_append {m : List Char} (h : IsConnectives m) (after : List Char) :
    2 * connectives (m ++ after) = m.length + 2 * connectives after := by
  induction h with
  | nil => simp
  | and _ ih | or _ ih =>
    simp only [List.cons_append, connectives, List.length_cons]
    omega

lemma exists_connectives (cs : List Char) : ∃ m after, cs = m ++ after ∧ IsConnectives m ∧
    m.length = 2 * connectives cs := by
  fun_induction connectives cs with
  | case1 cs ih =>
    obtain ⟨m, after, rfl, hm, hl⟩ := ih
    exact ⟨_, after, rfl, .and hm, by simp only [List.length_cons]; omega⟩
  | case2 cs ih =>
    obtain ⟨m, after, rfl, hm, hl⟩ := ih
    exact ⟨_, after, rfl, .or hm, by simp only [List.length_cons]; omega⟩
  | case3 cs => exact ⟨[], cs, rfl, .nil, rfl⟩

lemma exists_negations (cs : List Char) : ∃ after, cs = List.replicate (negations cs) '!' ++ after := by
  fun_induction negations cs with
  | case1 cs ih =>
    obtain ⟨after, hcs⟩ := ih
    exact ⟨after, by rw [List.replicate_succ, List.cons_append, ← hcs]⟩
  | case2 cs => exact ⟨cs, rfl⟩

lemma negations_append (n : Nat) {after : List Char} (h : negations after = 0) :
    negations (List.replicate n '!' ++ after) = n := by
  induction n with
  | zero => exact h
  | succ n ih => rw [List.replicate_succ, List.cons_append, negations, ih]

lemma exists_connective {cs : List Char} (h : connectives cs ≠ 0) :
    ∃ c after, cs = c ++ after ∧ IsConnective c ∧ connectives cs = connectives after + 1 := by
  fun_cases connectives cs with
  | case1 cs => exact ⟨['&', '&'], cs, rfl, .inl rfl, rfl⟩
  | case2 cs => exact ⟨['|', '|'], cs, rfl, .inr rfl, rfl⟩
  | case3 cs hand hor => exact absurd (by rw [connectives] <;> assumption) h

lemma IsConnective.length_eq {c : List Char} (h : IsConnective c) : c.length = 2 := by
  rcases h with rfl | rfl <;> rfl

lemma IsConnective.isConnectives {c : List Char} (h : IsConnective c) : IsConnectives c := by
  rcases h with rfl | rfl
  · exact .and .nil
  · exact .or .nil

lemma ne_nil_of_length {m : List Char} {n : Nat} (h : m.length = 2 * (n + 1)) : m ≠ [] := by
  rintro rfl
  simp at h

namespace Rule

def Replaces (rule : Rule) : Prop :=
  ∀ before cs kept n, rule before.isEmpty cs = some (kept, n) →
    ∃ taken after, cs = taken ++ after ∧ n = taken.length ∧ Residue before taken after kept

end Rule

lemma bareDigit_replaces : bareDigit.Replaces := by
  intro before cs kept n h
  unfold bareDigit at h
  split at h
  · next d after =>
    split at h
    · next hd =>
      cases h
      exact ⟨['(', d, ')'], after, rfl, rfl, .digit hd⟩
    · cases h
  · cases h

lemma emptyGroup_replaces : emptyGroup.Replaces := by
  intro before cs kept n h
  unfold emptyGroup at h
  split at h
  · next after =>
    cases h
    exact ⟨['(', ')'], after, rfl, rfl, .emptyGroup⟩
  · cases h

lemma trailing_replaces : trailing.Replaces := by
  intro before cs kept n h
  obtain ⟨m, after, hcs, hm, hl⟩ := exists_connectives cs
  unfold trailing at h
  split at h
  · cases h
  · next k hk =>
    rw [hk] at hl
    have hne := ne_nil_of_length hl
    rw [hcs, ← hl, List.drop_left] at h
    split at h
    · cases h
      exact ⟨m, [], hcs, rfl, .trailingEnd hm hne⟩
    · next after =>
      cases h
      exact ⟨m ++ [')'], after, by rw [hcs, List.append_assoc]; rfl, by simp, .trailing hm hne⟩
    · cases h

lemma leading_replaces : leading.Replaces := by
  intro before cs kept n h
  simp only [leading] at h
  split at h
  · next hbracket =>
    cases h
    split at hbracket
    · next cs =>
      obtain ⟨m, after, hcs, hm, hl⟩ := exists_connectives cs
      split at hbracket
      · cases hbracket
      · next hk =>
        cases hbracket
        obtain ⟨k, hk⟩ := Nat.exists_eq_succ_of_ne_zero hk
        rw [← hl]
        exact ⟨'(' :: m, after, by rw [hcs]; rfl, rfl, .leading hm (ne_nil_of_length (hk ▸ hl))⟩
    · cases hbracket
  · split at h
    · next hstart =>
      obtain ⟨m, after, hcs, hm, hl⟩ := exists_connectives cs
      obtain ⟨k, hk⟩ := Nat.exists_eq_succ_of_ne_zero hstart.2
      obtain rfl : before = [] := List.isEmpty_iff.mp hstart.1
      cases h
      rw [← hl]
      exact ⟨m, after, hcs, rfl, .leadingStart hm (ne_nil_of_length (hk ▸ hl))⟩
    · cases h

lemma repeated_replaces : repeated.Replaces := by
  intro before cs kept n h
  unfold repeated at h
  split at h
  · cases h
  · next hk =>
    cases h
    have hk0 : connectives cs ≠ 0 := by omega
    obtain ⟨c, rest, rfl, hc, hcount⟩ := exists_connective hk0
    obtain ⟨m, after, rfl, hm, hl⟩ := exists_connectives rest
    have hne : m ≠ [] := by
      rintro rfl
      simp only [List.length_nil] at hl
      omega
    refine ⟨c ++ m, after, (List.append_assoc _ _ _).symm, ?_, ?_⟩
    · rw [hcount, List.length_append, hc.length_eq, hl]
      omega
    · rw [List.take_left' hc.length_eq]
      exact .repeated hc hm hne

lemma loose_replaces : loose.Replaces := by
  intro before cs kept n h
  obtain ⟨after, hcs⟩ := exists_negations cs
  unfold loose at h
  split at h
  · cases h
  · next k hk =>
    rw [hk] at hcs
    rw [hcs, List.drop_left' (by simp)] at h
    split at h
    · cases h
      exact ⟨_, [], hcs, by simp, .looseEnd k⟩
    · next after =>
      cases h
      exact ⟨_, after, by rw [hcs, List.append_assoc]; rfl, by simp, .loose k⟩
    · split at h
      · cases h
      · next hne =>
        cases h
        obtain ⟨c, rest, rfl, hc, -⟩ := exists_connective hne
        refine ⟨List.replicate (k + 1) '!' ++ c, rest, by rw [hcs, List.append_assoc], ?_, ?_⟩
        · simp [hc.length_eq]
        · rw [List.take_left' hc.length_eq]
          exact .looseBefore k hc

lemma replaces_of_mem {rule : Rule} (h : rule ∈ rules) : rule.Replaces := by
  simp only [rules, List.mem_cons, List.not_mem_nil, or_false] at h
  rcases h with rfl | rfl | rfl | rfl | rfl | rfl
  · exact bareDigit_replaces
  · exact trailing_replaces
  · exact leading_replaces
  · exact emptyGroup_replaces
  · exact repeated_replaces
  · exact loose_replaces

lemma trailing_ne_none {m after : List Char} (hm : IsConnectives m) (hne : m ≠ []) (start : Bool)
    (h : after = [] ∨ after.head? = some ')') : trailing start (m ++ after) ≠ none := by
  have hk : 2 * connectives (m ++ after) = m.length := by
    rw [connectives_append hm]
    rcases h with rfl | h
    · simp [connectives]
    · obtain ⟨rest, rfl⟩ := List.head?_eq_some_iff.mp h
      simp [connectives]
  unfold trailing
  split
  · next hzero => exact absurd (List.eq_nil_of_length_eq_zero (by omega)) hne
  · next k hsucc =>
    rw [show k + 1 = connectives (m ++ after) from hsucc.symm, hk, List.drop_left]
    rcases h with rfl | h
    · simp
    · obtain ⟨rest, rfl⟩ := List.head?_eq_some_iff.mp h
      simp

lemma connectives_ne_zero {m : List Char} (hm : IsConnectives m) (hne : m ≠ []) (after : List Char) :
    connectives (m ++ after) ≠ 0 := by
  intro h
  have hk := connectives_append hm after
  exact hne (List.eq_nil_of_length_eq_zero (by omega))

lemma loose_ne_none {after : List Char} (n : Nat) (start : Bool)
    (h : after = [] ∨ after.head? = some ')' ∨ connectives after ≠ 0) :
    loose start (List.replicate (n + 1) '!' ++ after) ≠ none := by
  have hzero : negations after = 0 := by
    rcases h with rfl | h | h
    · rfl
    · obtain ⟨rest, rfl⟩ := List.head?_eq_some_iff.mp h
      rfl
    · obtain ⟨c, rest, rfl, rfl | rfl, -⟩ := exists_connective h <;> rfl
  unfold loose
  rw [negations_append (n + 1) hzero]
  dsimp only
  rw [List.drop_left' (by simp)]
  split
  · simp
  · simp
  · next hnil hclose =>
    rcases h with rfl | h | h
    · exact absurd rfl hnil
    · obtain ⟨rest, rfl⟩ := List.head?_eq_some_iff.mp h
      exact absurd rfl (hclose rest)
    · simp [h]

lemma exists_rule {before taken after kept : List Char} (h : Residue before taken after kept) :
    ∃ rule ∈ rules, rule before.isEmpty (taken ++ after) ≠ none := by
  cases h with
  | digit hd => exact ⟨bareDigit, by simp [rules], by simp [bareDigit, hd]⟩
  | trailing hm hne =>
    refine ⟨trailing, by simp [rules], ?_⟩
    rw [List.append_assoc]
    exact trailing_ne_none hm hne _ (.inr rfl)
  | trailingEnd hm hne => exact ⟨trailing, by simp [rules], trailing_ne_none hm hne _ (.inl rfl)⟩
  | leading hm hne =>
    exact ⟨leading, by simp [rules], by simp [leading, connectives_ne_zero hm hne]⟩
  | leadingStart hm hne =>
    refine ⟨leading, by simp [rules], ?_⟩
    have hc := connectives_ne_zero hm hne after
    simp only [leading]
    split
    · simp
    · simp [hc]
  | emptyGroup => exact ⟨emptyGroup, by simp [rules], by simp [emptyGroup]⟩
  | @repeated _ _ m _ hc hm hne =>
    refine ⟨repeated, by simp [rules], ?_⟩
    have hk : ¬ connectives (kept ++ m ++ after) < 2 := by
      have h1 := connectives_append hc.isConnectives (m ++ after)
      have h2 := connectives_ne_zero hm hne after
      rw [hc.length_eq] at h1
      rw [List.append_assoc]
      omega
    rw [repeated, if_neg hk]
    exact Option.some_ne_none _
  | loose n =>
    refine ⟨loose, by simp [rules], ?_⟩
    rw [List.append_assoc]
    exact loose_ne_none n _ (.inr (.inl rfl))
  | looseEnd n => exact ⟨loose, by simp [rules], loose_ne_none n _ (.inl rfl)⟩
  | looseBefore n hc =>
    refine ⟨loose, by simp [rules], ?_⟩
    rw [List.append_assoc]
    have hne := connectives_ne_zero hc.isConnectives (by rcases hc with rfl | rfl <;> simp)
    exact loose_ne_none n _ (.inr (.inr (hne _)))

end DocQuery.Trace
