import DocQuery.Proofs.Condition.Expressions
import DocQuery.Proofs.Condition.Tidying

/-! A trace read as a boolean expression again, once it is tidied. -/

namespace DocQuery

namespace Trace

def constant (b : Bool) : Token := .leaf ⟨"", .nonempty [.known (.array (if b then [.null] else []))]⟩

def lex : List Char → List Token
  | [] => []
  | '&' :: '&' :: cs => .and :: lex cs
  | '|' :: '|' :: cs => .or :: lex cs
  | '1' :: cs => constant true :: lex cs
  | '0' :: cs => constant false :: lex cs
  | '!' :: cs => .not :: lex cs
  | '(' :: cs => .openGroup :: lex cs
  | ')' :: cs => .closeGroup :: lex cs
  | _ :: cs => lex cs

def reading (s : String) : Bool := Conditions.test [] ⟨lex s.toList⟩ (.ofValue (.named "") "" .null)

variable {rs : Results} {row : Row} {p : Place} {cs : List Char}

lemma text_constant (b : Bool) : text rs row (constant b) = [if b then '1' else '0'] := by
  have he : (Test.nonempty [.known (.array (if b then [.null] else []))]).eval rs row = some b := by
    cases b <;> rfl
  rw [constant, text, he]
  cases b <;> rfl

lemma lex_complete {c : Char} (h : spelled p (c :: cs) = true) (hp : p.isWhole = true)
    (hand : ∀ cs', c = '&' → cs = '&' :: cs' → False) (hor : ∀ cs', c = '|' → cs = '|' :: cs' → False)
    (hone : c ≠ '1') (hzero : c ≠ '0') (hnot : c ≠ '!') (hopen : c ≠ '(') (hclose : c ≠ ')') : False := by
  rcases spelled_mem h List.mem_cons_self with hc | rfl | ⟨k, rfl⟩
  · simp only [List.mem_cons, List.not_mem_nil, or_false] at hc
    rcases hc with hc | hc | hc | hc
    · exact hzero hc
    · exact hone hc
    · exact hopen hc
    · exact hclose hc
  · exact hnot rfl
  · obtain ⟨q, hq, hs⟩ := spelled_cons_iff.mp h
    rw [read_mark hp] at hq
    cases hq
    obtain ⟨cs', rfl⟩ := exists_mark hs
    cases k with
    | and => exact hand cs' rfl rfl
    | or => exact hor cs' rfl rfl

lemma flatMap_text_lex (h : spelled .fresh cs = true) : (lex cs).flatMap (text rs row) = cs := by
  fun_induction lex cs with
  | case1 => rfl
  | case2 cs ih => exact congrArg ('&' :: '&' :: ·) (ih h)
  | case3 cs ih => exact congrArg ('|' :: '|' :: ·) (ih h)
  | case4 cs ih =>
    rw [List.flatMap_cons, text_constant, ih (spelled_fresh h)]
    rfl
  | case5 cs ih =>
    rw [List.flatMap_cons, text_constant, ih (spelled_fresh h)]
    rfl
  | case6 cs ih => exact congrArg ('!' :: ·) (ih h)
  | case7 cs ih => exact congrArg ('(' :: ·) (ih h)
  | case8 cs ih => exact congrArg (')' :: ·) (ih (spelled_fresh h))
  | case9 c cs hand hor hone hzero hnot hopen hclose =>
    exact (lex_complete h rfl hand hor hone hzero hnot hopen hclose).elim

def Begins (p : Place) (ts : List Token) : Prop := p = .operand → ∀ t ∈ ts.head?, t.startsOperand = false

def Place.after (t : Token) : Place := if t.endsOperand then operand else fresh

lemma separated_cons_iff {t : Token} {ts : List Token} :
    Separated (t :: ts) ↔ Begins (.after t) ts ∧ Separated ts := by
  refine List.isChain_cons.trans (and_congr_left' ?_)
  cases h : t.endsOperand <;> simp [Begins, Place.after, Token.Apart, h]

lemma spelled_text_append {t : Token} (ha : t.applies rs row = true) (hp : p.isWhole = true)
    (hb : Begins p [t]) : spelled p (text rs row t ++ cs) = spelled (.after t) cs := by
  have hfresh (ht : t.startsOperand = true) : p = .fresh := by
    cases p with
    | half => cases hp
    | fresh => rfl
    | operand =>
      rw [hb rfl t rfl] at ht
      cases ht
  cases t with
  | leaf l =>
    obtain ⟨v, hv⟩ := Option.isSome_iff_exists.mp ha
    rw [hfresh rfl, text, hv]
    cases v <;> rfl
  | not | openGroup =>
    rw [hfresh rfl]
    rfl
  | and | or | closeGroup =>
    cases p with
    | half => cases hp
    | fresh | operand => rfl

lemma isWhole_after (t : Token) : (Place.after t).isWhole = true := by
  cases t <;> rfl

lemma spelled_flatMap_text {ts : List Token} (h : Separated ts) (ha : ∀ t ∈ ts, t.applies rs row = true)
    (hp : p.isWhole = true) (hb : Begins p ts) : spelled p (ts.flatMap (text rs row)) = true := by
  induction ts generalizing p with
  | nil => exact hp
  | cons t ts ih =>
    obtain ⟨hbegins, hts⟩ := separated_cons_iff.mp h
    rw [List.flatMap_cons, spelled_text_append (ha t List.mem_cons_self) hp hb]
    exact ih hts (fun u hu => ha u (List.mem_cons_of_mem _ hu)) (isWhole_after t) hbegins

lemma spelled_render {ts : List Token} (h : Separated ts) : spelled .fresh (render rs row ts).toList = true := by
  rw [toList_render, ← text_filter_applies]
  exact spelled_flatMap_text (h.filter_applies rs row) (fun t ht => (List.mem_filter.mp ht).2) rfl fun hp => by cases hp

lemma separated_cons_begins {t : Token} {ts : List Token} (h : Separated ts ∧ Begins (.after t) ts)
    (ht : t.startsOperand = true → p = .fresh) : Separated (t :: ts) ∧ Begins p (t :: ts) := by
  refine ⟨separated_cons_iff.mpr h.symm, ?_⟩
  rintro rfl u ⟨⟩
  cases hs : t.startsOperand with
  | false => rfl
  | true => cases ht hs

lemma separated_lex (h : spelled p cs = true) (hp : p.isWhole = true) :
    Separated (lex cs) ∧ Begins p (lex cs) := by
  fun_induction lex cs generalizing p with
  | case1 => exact ⟨List.isChain_nil, fun _ _ ht => by cases ht⟩
  | case2 cs ih | case3 cs ih =>
    cases p with
    | half => cases hp
    | fresh | operand => exact separated_cons_begins (ih h rfl) fun ht => by cases ht
  | case4 cs ih | case5 cs ih =>
    obtain ⟨q, hq, hs⟩ := spelled_cons_iff.mp h
    obtain ⟨rfl, rfl⟩ := read_digit (by decide) hq
    exact separated_cons_begins (ih hs rfl) fun _ => rfl
  | case6 cs ih | case7 cs ih =>
    obtain ⟨rfl, hs⟩ := spelled_opening (by decide) h
    exact separated_cons_begins (ih hs rfl) fun _ => rfl
  | case8 cs ih =>
    cases p with
    | half => cases hp
    | fresh | operand => exact separated_cons_begins (ih h rfl) fun ht => by cases ht
  | case9 c cs hand hor hone hzero hnot hopen hclose =>
    exact (lex_complete h hp hand hor hone hzero hnot hopen hclose).elim

lemma reading_eq {s : String} (h : spelled .fresh s.toList = true) :
    reading s = (scan weaker s.toList).getD true := by
  have hv : Conditions.verdict [] ⟨lex s.toList⟩ (.ofValue (.named "") "" .null) = scan weaker s.toList := by
    refine (verdict?_ofTokens? (separated_lex h rfl).1).trans ?_
    rw [toList_render, flatMap_text_lex h]
  rw [reading, Conditions.test, hv]

theorem reading_of_reads {s : String} {b : Bool} (h : Reads .disjunction s.toList b) : reading s = b := by
  rw [reading_eq h.spelled, h.scan_eq]
  rfl

end Trace

namespace Conditions

open Trace

variable {rs : Results} {row : Row} {c : Conditions}

lemma test_eq_scan (h : Separated c.tokens) :
    c.test rs row = (scan weaker (c.trace rs row).toList).getD true :=
  congrArg (Option.getD · true) (verdict?_ofTokens? h)

lemma reading_tidy_trace (h : Separated c.tokens) :
    reading (tidy (c.trace rs row)) = (scan former (c.trace rs row).toList).getD true := by
  have hchars : (tidy (c.trace rs row)).toList = tidyChars (c.trace rs row).toList := String.toList_ofList
  obtain ⟨hs, hscan⟩ := (steps_tidyChars (c.trace rs row).toList).spelled_scan (spelled_render h)
  rw [reading_eq (hchars ▸ hs), hchars, hscan, scan_eq_of_irreducible hs (irreducible_tidyChars _)]

lemma reads_tidy_trace (h : Separated c.tokens) (hb : Balanced (c.trace rs row).toList) :
    tidy (c.trace rs row) = "" ∧ reading (tidy (c.trace rs row)) = true ∨
      Reads .disjunction (tidy (c.trace rs row)).toList (reading (tidy (c.trace rs row))) := by
  have hchars : (tidy (c.trace rs row)).toList = tidyChars (c.trace rs row).toList := String.toList_ofList
  have hsteps := steps_tidyChars (c.trace rs row).toList
  by_cases hne : tidyChars (c.trace rs row).toList = []
  · have htidy : tidy (c.trace rs row) = "" := by rw [tidy, hne]
    exact .inl ⟨htidy, htidy ▸ rfl⟩
  · obtain ⟨b, hr⟩ := exists_reads (hsteps.spelled_scan (spelled_render h)).1 (hsteps.balanced hb)
      (irreducible_tidyChars _) hne
    rw [← hchars] at hr
    rw [reading_of_reads hr]
    exact .inr hr

lemma reading_eq_test (h : Separated c.tokens) (hgap : ¬ HasGap (c.trace rs row).toList) :
    reading (tidy (c.trace rs row)) = c.test rs row := by
  rw [reading_tidy_trace h, test_eq_scan h, scan_former_eq hgap]

end Conditions

end DocQuery
