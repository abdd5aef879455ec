import DocQuery.Proofs.Condition.Reading
import DocQuery.Proofs.Condition.Skipping
import Mathlib.Data.String.Basic

/-! The verdict of a trace, told from its characters one by one. A connective waits for the operand after it, and
where connectives meet since nothing is left between them, one of them counts. With the weaker one counting, the
verdict is that of the formula that the tokens are read as. -/

namespace DocQuery.Trace

open Formula (eval verdict?)

abbrev Meeting := Connective → Connective → Connective

def former : Meeting := fun c _ => c

def weaker : Meeting
  | .and, .and => .and
  | _, _ => .or

/-- An open bracket: the verdict of the finished operands of `or`, that of the current `and`, whether the next operand
is negated, and the connective that waits for it. -/
structure Bracket where
  terms : Verdict
  factors : Verdict
  negated : Bool
  gap : Option Connective

namespace Bracket

def empty : Bracket := ⟨none, none, false, none⟩

def value (b : Bracket) : Verdict := Verdict.any [b.terms, b.factors]

def opened (b : Bracket) : Verdict × Verdict :=
  if b.gap = some .or then (b.value, none) else (b.terms, b.factors)

def put (b : Bracket) : Verdict → Bracket
  | none => { b with negated := false }
  | some v => ⟨b.opened.1, Verdict.all [b.opened.2, some (v ^^ b.negated)], false, none⟩

def connect (meet : Meeting) (c : Connective) (b : Bracket) : Bracket :=
  if b.factors = none then { b with negated := false }
  else { b with negated := false, gap := some (b.gap.elim c (meet · c)) }

@[simp] lemma any_opened (b : Bracket) : Verdict.any [b.opened.1, b.opened.2] = b.value := by
  unfold opened
  split
  · rw [value]
    rcases b.terms with _ | _ | _ <;> rcases b.factors with _ | _ | _ <;> rfl
  · rfl

@[simp] lemma negated_connect (meet : Meeting) (c : Connective) (b : Bracket) : (b.connect meet c).negated = false := by
  unfold connect
  split <;> rfl

lemma connect_weaker_twice (c : Connective) (b : Bracket) :
    (b.connect weaker c).connect weaker c = b.connect weaker c := by
  obtain ⟨_, _ | _, _, _ | _ | _⟩ := b <;> cases c <;> rfl

lemma opened_connect_and (b : Bracket) : (b.connect weaker .and).opened = b.opened := by
  obtain ⟨_, _ | _, _, _ | _ | _⟩ := b <;> rfl

lemma opened_connect_or (b : Bracket) : (b.connect weaker .or).opened = (b.value, none) := by
  obtain ⟨_ | _ | _, _ | _, _, _ | _ | _⟩ := b <;> rfl

end Bracket

structure Scan where
  read : Verdict
  outer : List Bracket
  frame : Bracket

namespace Scan

def start : Scan := ⟨none, [], .empty⟩

def close (s : Scan) : Scan :=
  match s.outer with
  | [] => ⟨Verdict.all [s.read, s.frame.value], [], .empty⟩
  | b :: bs => ⟨s.read, bs, b.put s.frame.value⟩

def step (meet : Meeting) (s : Scan) : Char → Scan
  | '1' => { s with frame := s.frame.put (some true) }
  | '0' => { s with frame := s.frame.put (some false) }
  | '&' => { s with frame := s.frame.connect meet .and }
  | '|' => { s with frame := s.frame.connect meet .or }
  | '!' => { s with frame := { s.frame with negated := !s.frame.negated } }
  | '(' => ⟨s.read, s.frame :: s.outer, .empty⟩
  | ')' => s.close
  | _ => s

def run (meet : Meeting) (s : Scan) (cs : List Char) : Scan := cs.foldl (step meet) s

lemma run_append (meet : Meeting) (s : Scan) (cs ds : List Char) :
    s.run meet (cs ++ ds) = (s.run meet cs).run meet ds := List.foldl_append

def closeAll (b : Bracket) (outer : List Bracket) : Bracket := outer.foldl (fun b o => o.put b.value) b

def verdict (s : Scan) : Verdict := Verdict.all [s.read, (closeAll s.frame s.outer).value]

end Scan

def scan (meet : Meeting) (cs : List Char) : Verdict := (Scan.start.run meet cs).verdict

/-! ### The reader of tokens -/

variable (rs : Results) (row : Row)

def text : Token → List Char
  | .leaf l => (symbol (l.test.eval rs row)).toList
  | t => t.label.toList

lemma toList_render (ts : List Token) : (render rs row ts).toList = ts.flatMap (text rs row) := by
  rw [render, String.toList_join, List.flatMap_map]
  congr 1
  funext t
  cases t <;> rfl

lemma text_filter_applies (ts : List Token) :
    (ts.filter (Token.applies rs row)).flatMap (text rs row) = ts.flatMap (text rs row) := by
  induction ts with
  | nil => rfl
  | cons t ts ih =>
    rw [List.filter_cons]
    split
    · rw [List.flatMap_cons, List.flatMap_cons, ih]
    · rename_i h
      cases t with
      | leaf l =>
        have hl : l.test.eval rs row = none := by simpa [Token.applies] using h
        rw [List.flatMap_cons, ih, text, hl]
        rfl
      | _ => exact absurd rfl h

structure Shows (fr : Formula.Frame) (b : Bracket) : Prop where
  terms : Verdict.any (fr.terms.map (eval rs row)) = b.opened.1
  factors : Verdict.all (fr.factors.map (eval rs row)) = b.opened.2
  negations : fr.negations.bodd = b.negated

structure Reflects (r : Formula.Reader) (s : Scan) : Prop where
  read : Verdict.all (r.read.map (eval rs row)) = s.read
  outer : List.Forall₂ (Shows rs row) r.outer s.outer
  frame : Shows rs row r.frame s.frame

variable {rs row} {fr : Formula.Frame} {b : Bracket} {r : Formula.Reader} {s : Scan}

lemma Shows.empty : Shows rs row .empty .empty := ⟨rfl, rfl, rfl⟩

lemma Shows.formula? (h : Shows rs row fr b) : verdict? rs row fr.formula? = b.value := by
  rw [Formula.Frame.verdict_formula?, Verdict.any_append, h.terms, Verdict.any_singleton, h.factors,
    Bracket.any_opened]

lemma Shows.put (h : Shows rs row fr b) {f : Option Formula} {v : Verdict} (hf : verdict? rs row f = v) :
    Shows rs row (fr.put f) (b.put v) := by
  have hall : Verdict.all ((fr.put f).factors.map (eval rs row)) = _ := Formula.Frame.all_put fr f
  rw [Formula.Frame.verdict?_negate, hf, h.factors, h.negations] at hall
  cases v with
  | none =>
    refine ⟨h.terms, hall.trans ?_, Nat.bodd_zero⟩
    show Verdict.all [b.opened.2, none] = b.opened.2
    rcases b.opened.2 with _ | _ | _ <;> rfl
  | some v => exact ⟨h.terms, hall, Nat.bodd_zero⟩

lemma Shows.connect_and (h : Shows rs row fr b) :
    Shows rs row { fr with negations := 0 } (b.connect weaker .and) := by
  refine ⟨?_, ?_, ?_⟩
  · rw [Bracket.opened_connect_and, ← h.terms]
  · rw [Bracket.opened_connect_and, ← h.factors]
  · rw [Bracket.negated_connect, Nat.bodd_zero]

lemma Shows.connect_or (h : Shows rs row fr b) : Shows rs row fr.closeTerm (b.connect weaker .or) := by
  refine ⟨?_, ?_, ?_⟩
  · rw [Bracket.opened_connect_or, ← h.formula?, Formula.Frame.formula?, Formula.verdict?_group_any]
  · rw [Bracket.opened_connect_or]
    rfl
  · rw [Bracket.negated_connect]
    exact Nat.bodd_zero

lemma closeAll_shows {outer : List Formula.Frame} {bs : List Bracket} (h : List.Forall₂ (Shows rs row) outer bs)
    {fr : Formula.Frame} {b : Bracket} (hf : Shows rs row fr b) :
    Shows rs row (Formula.Reader.closeAll fr outer) (Scan.closeAll b bs) := by
  induction h generalizing fr b with
  | nil => exact hf
  | cons ho _ ih => exact ih (ho.put hf.formula?)

lemma Reflects.finish (h : Reflects rs row r s) :
    Verdict.all (r.finish.read.map (eval rs row)) = s.verdict := by
  rw [Formula.Reader.finish, List.map_append, Formula.all_append_toList, Verdict.all_append, h.read,
    Verdict.all_singleton, (closeAll_shows h.outer h.frame).formula?, Scan.verdict]

lemma Reflects.step (h : Reflects rs row r s) {t : Token} (ht : t.applies rs row = true) :
    Reflects rs row (r.stepOperand t) (s.run weaker (text rs row t)) := by
  obtain ⟨read, outer, frame, after⟩ := r
  cases t with
  | leaf l =>
    obtain ⟨v, hv⟩ := Option.isSome_iff_exists.mp ht
    have hput := h.frame.put (f := some (.leaf l)) ((Formula.eval_leaf rs row l).trans hv)
    rw [text, hv]
    cases v <;> exact ⟨h.read, h.outer, hput⟩
  | not =>
    refine ⟨h.read, h.outer, h.frame.terms, h.frame.factors, ?_⟩
    exact (Nat.bodd_succ _).trans (congrArg (!·) h.frame.negations)
  | openGroup => exact ⟨h.read, .cons h.frame h.outer, .empty⟩
  | and =>
    refine ⟨h.read, h.outer, ?_⟩
    show Shows rs row _ ((s.frame.connect weaker .and).connect weaker .and)
    rw [Bracket.connect_weaker_twice]
    exact h.frame.connect_and
  | or =>
    refine ⟨h.read, h.outer, ?_⟩
    show Shows rs row _ ((s.frame.connect weaker .or).connect weaker .or)
    rw [Bracket.connect_weaker_twice]
    exact h.frame.connect_or
  | closeGroup =>
    obtain ⟨sread, souter, sframe⟩ := s
    obtain ⟨hread, houter, hframe⟩ := h
    cases houter with
    | nil => exact ⟨Reflects.finish ⟨hread, .nil, hframe⟩, .nil, .empty⟩
    | cons ho houter => exact ⟨hread, houter, ho.put hframe.formula?⟩

lemma Reflects.foldl {ts : List Token} (hts : ∀ t ∈ ts, t.applies rs row = true) (h : Reflects rs row r s) :
    Reflects rs row (ts.foldl Formula.Reader.stepOperand r) (s.run weaker (ts.flatMap (text rs row))) := by
  induction ts generalizing r s with
  | nil => exact h
  | cons t ts ih =>
    rw [List.flatMap_cons, Scan.run_append]
    exact ih (fun u hu => hts u (List.mem_cons_of_mem _ hu)) (h.step (hts t List.mem_cons_self))

lemma verdict?_ofTokens? {ts : List Token} (h : Separated ts) :
    verdict? rs row (Formula.ofTokens? ts) = scan weaker (render rs row ts).toList := by
  have hstart : Reflects rs row .start .start := ⟨rfl, .nil, .empty⟩
  have happly : ∀ t ∈ ts.filter (Token.applies rs row), t.applies rs row = true :=
    fun t ht => (List.mem_filter.mp ht).2
  have hfold := hstart.foldl happly
  rw [text_filter_applies] at hfold
  rw [Formula.verdict?_filter_applies h, Formula.ofTokens?, Formula.verdict?_group_all,
    Formula.Reader.foldl_step (h.filter_applies rs row) _ (fun he => by cases he), hfold.finish, toList_render, scan]

end DocQuery.Trace
