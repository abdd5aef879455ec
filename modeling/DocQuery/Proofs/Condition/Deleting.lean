import DocQuery.Proofs.Condition.Gaps
import DocQuery.Proofs.Condition.Residues

namespace DocQuery.Trace

inductive Place where
  | fresh
  | operand
  | half (c : Connective)

def mark : Connective → Char
  | .and => '&'
  | .or => '|'

namespace Place

def read : Place → Char → Option Place
  | half k, c => if c = mark k then some fresh else none
  | _, '&' => some (half .and)
  | _, '|' => some (half .or)
  | _, ')' => some operand
  | fresh, '(' => some fresh
  | fresh, '!' => some fresh
  | fresh, '0' => some operand
  | fresh, '1' => some operand
  | _, _ => none

def reads (p : Place) (cs : List Char) : Option Place := cs.foldlM read p

def isWhole : Place → Bool
  | half _ => false
  | _ => true

end Place

def spelled : Place → List Char → Bool
  | p, [] => p.isWhole
  | p, c :: cs => (p.read c).any (spelled · cs)

variable {p : Place} {cs m : List Char}

lemma spelled_append (p : Place) (cs ds : List Char) :
    spelled p (cs ++ ds) = (p.reads cs).any (spelled · ds) := by
  induction cs generalizing p with
  | nil => rfl
  | cons c cs ih =>
    rw [List.cons_append, spelled, Place.reads, List.foldlM_cons]
    cases p.read c with
    | none => rfl
    | some q => exact ih q

lemma spelled_cons_iff {c : Char} :
    spelled p (c :: cs) = true ↔ ∃ q, p.read c = some q ∧ spelled q cs = true := by
  rw [spelled, Option.any_eq_true]

lemma spelled_append_iff {ds : List Char} :
    spelled p (cs ++ ds) = true ↔ ∃ q, p.reads cs = some q ∧ spelled q ds = true := by
  rw [spelled_append, Option.any_eq_true]

lemma read_operand {c : Char} {q : Place} (h : Place.operand.read c = some q) :
    c = '&' ∧ q = .half .and ∨ c = '|' ∧ q = .half .or ∨ c = ')' ∧ q = .operand := by
  unfold Place.read at h
  split at h <;> simp_all

lemma spelled_fresh (h : spelled .operand cs = true) : spelled .fresh cs = true := by
  cases cs with
  | nil => rfl
  | cons c cs =>
    obtain ⟨q, hq, hs⟩ := spelled_cons_iff.mp h
    obtain ⟨rfl, rfl⟩ | ⟨rfl, rfl⟩ | ⟨rfl, rfl⟩ := read_operand hq <;> exact hs

lemma spelled_of_connectives (hm : IsConnectives m) (hp : p ≠ .operand) (h : spelled p (m ++ cs) = true) :
    spelled p cs = true := by
  induction hm with
  | nil => exact h
  | and _ ih =>
    refine ih ?_
    cases p with
    | operand => exact absurd rfl hp
    | fresh => exact h
    | half k =>
      cases k with
      | and => exact h
      | or => cases h
  | or _ ih =>
    refine ih ?_
    cases p with
    | operand => exact absurd rfl hp
    | fresh => exact h
    | half k =>
      cases k with
      | and => cases h
      | or => exact h

lemma spelled_fresh_of_connectives (hm : IsConnectives m) (h : spelled .operand (m ++ cs) = true) :
    spelled .fresh cs = true :=
  spelled_of_connectives hm (by simp) (spelled_fresh h)

lemma read_opening {c : Char} {q : Place} (hc : c = '(' ∨ c = '!') (h : p.read c = some q) :
    p = .fresh ∧ q = .fresh := by
  cases p with
  | half k => rcases hc with rfl | rfl <;> cases k <;> cases h
  | operand => rcases hc with rfl | rfl <;> cases h
  | fresh => rcases hc with rfl | rfl <;> cases h <;> exact ⟨rfl, rfl⟩

lemma read_digit {c : Char} {q : Place} (hc : c = '0' ∨ c = '1') (h : p.read c = some q) :
    p = .fresh ∧ q = .operand := by
  cases p with
  | half k => rcases hc with rfl | rfl <;> cases k <;> cases h
  | operand => rcases hc with rfl | rfl <;> cases h
  | fresh => rcases hc with rfl | rfl <;> cases h <;> exact ⟨rfl, rfl⟩

lemma spelled_opening {c : Char} (hc : c = '(' ∨ c = '!') (h : spelled p (c :: cs) = true) :
    p = .fresh ∧ spelled .fresh cs = true := by
  obtain ⟨q, hq, hs⟩ := spelled_cons_iff.mp h
  obtain ⟨rfl, rfl⟩ := read_opening hc hq
  exact ⟨rfl, hs⟩

lemma spelled_not {n : Nat} (h : spelled p (List.replicate (n + 1) '!' ++ cs) = true) :
    p = .fresh ∧ spelled .fresh cs = true := by
  induction n generalizing p with
  | zero => exact spelled_opening (.inr rfl) h
  | succ n ih =>
    obtain ⟨rfl, hs⟩ := spelled_opening (.inr rfl) h
    exact ⟨rfl, (ih hs).2⟩

lemma isConnective_mark (k : Connective) : IsConnective [mark k, mark k] := by
  cases k
  · exact .inl rfl
  · exact .inr rfl

lemma spelled_connective {c : List Char} (hc : IsConnective c) (h : spelled p (c ++ cs) = true) :
    ∃ q, q ≠ .operand ∧ ∀ ds, spelled p (c ++ ds) = spelled q ds := by
  cases p with
  | fresh => exact ⟨.fresh, by simp, fun ds => by rcases hc with rfl | rfl <;> rfl⟩
  | operand => exact ⟨.fresh, by simp, fun ds => by rcases hc with rfl | rfl <;> rfl⟩
  | half k =>
    refine ⟨.half k, by simp, fun ds => ?_⟩
    rcases hc with rfl | rfl <;> cases k
    · rfl
    · cases h
    · cases h
    · rfl

namespace Residue

variable {before taken after kept : List Char}

lemma isSpelled (h : Residue before taken after kept) (hb : Place.fresh.reads before = some p)
    (hs : spelled p (taken ++ after) = true) : spelled p (kept ++ after) = true := by
  cases h with
  | digit hd =>
    obtain ⟨rfl, hdigit⟩ := spelled_opening (.inl rfl) hs
    obtain ⟨q, hq, hclose⟩ := spelled_cons_iff.mp hdigit
    obtain ⟨-, rfl⟩ := read_digit hd hq
    rcases hd with rfl | rfl <;> exact hclose
  | trailing hm hne =>
    rw [List.append_assoc] at hs
    by_cases hp : p = .operand
    · subst hp
      exact spelled_fresh_of_connectives hm hs
    · exact spelled_of_connectives hm hp hs
  | trailingEnd hm hne =>
    by_cases hp : p = .operand
    · subst hp
      rfl
    · exact spelled_of_connectives hm hp hs
  | leading hm hne =>
    obtain ⟨rfl, hopen⟩ := spelled_opening (.inl rfl) hs
    show spelled .fresh after = true
    exact spelled_of_connectives hm (by simp) hopen
  | leadingStart hm hne =>
    cases hb
    exact spelled_of_connectives hm (by simp) hs
  | emptyGroup =>
    obtain ⟨rfl, hopen⟩ := spelled_opening (.inl rfl) hs
    exact spelled_fresh hopen
  | repeated hc hm hne =>
    rw [List.append_assoc] at hs
    obtain ⟨q, hq, hread⟩ := spelled_connective hc hs
    rw [hread] at hs ⊢
    exact spelled_of_connectives hm hq hs
  | loose n =>
    rw [List.append_assoc] at hs
    obtain ⟨rfl, hrest⟩ := spelled_not hs
    exact hrest
  | looseEnd n =>
    obtain ⟨rfl, -⟩ := spelled_not hs
    rfl
  | looseBefore n hc =>
    rw [List.append_assoc] at hs
    obtain ⟨rfl, hrest⟩ := spelled_not hs
    exact hrest

end Residue

lemma Step.isSpelled {cs cs' : List Char} (h : Step cs cs') (hs : spelled .fresh cs = true) :
    spelled .fresh cs' = true := by
  obtain ⟨before, taken, after, kept, hres, rfl, rfl⟩ := h
  rw [List.append_assoc] at hs ⊢
  obtain ⟨q, hq, hs⟩ := spelled_append_iff.mp hs
  exact spelled_append_iff.mpr ⟨q, hq, hres.isSpelled hq hs⟩

/-! ### The verdict along a step -/

namespace Scan

structure Even (s s' : Scan) : Prop where
  read : s.read = s'.read
  outer : s.outer = s'.outer
  terms : s.frame.terms = s'.frame.terms
  factors : s.frame.factors = s'.frame.factors

variable {s s' s'' : Scan} {meet : Meeting}

lemma Even.refl (s : Scan) : Even s s := ⟨rfl, rfl, rfl, rfl⟩

lemma Even.trans (h : Even s s') (h' : Even s' s'') : Even s s'' :=
  ⟨h.read.trans h'.read, h.outer.trans h'.outer, h.terms.trans h'.terms, h.factors.trans h'.factors⟩

lemma Even.value (h : Even s s') : s.frame.value = s'.frame.value := by
  rw [Bracket.value, Bracket.value, h.terms, h.factors]

lemma Even.close (h : Even s s') : s.close = s'.close := by
  rw [Scan.close, Scan.close, h.read, h.outer, h.value]

lemma Even.verdict (h : Even s s') : s.verdict = s'.verdict := by
  rw [Scan.verdict, Scan.verdict, h.read, h.outer]
  cases s'.outer with
  | nil => rw [closeAll, closeAll, List.foldl_nil, List.foldl_nil, h.value]
  | cons b bs => rw [closeAll, closeAll, List.foldl_cons, List.foldl_cons, h.value]

lemma even_connect (s : Scan) (c : Connective) : Even { s with frame := s.frame.connect meet c } s := by
  refine ⟨rfl, rfl, ?_, ?_⟩ <;> simp only [Bracket.connect] <;> split <;> rfl

lemma even_run (hm : ∀ c ∈ m, c = '&' ∨ c = '|' ∨ c = '!') (s : Scan) : Even (s.run meet m) s := by
  induction m generalizing s with
  | nil => exact .refl s
  | cons c m ih =>
    refine (ih (fun d hd => hm d (List.mem_cons_of_mem _ hd)) (s.step meet c)).trans ?_
    rcases hm c List.mem_cons_self with rfl | rfl | rfl
    · exact even_connect s .and
    · exact even_connect s .or
    · exact ⟨rfl, rfl, rfl, rfl⟩

lemma run_connectives_empty (hm : IsConnectives m) (hs : s.frame = .empty) : s.run meet m = s := by
  obtain ⟨read, outer, frame⟩ := s
  obtain rfl := hs
  induction hm with
  | nil => rfl
  | and _ ih => exact ih
  | or _ ih => exact ih

lemma run_connectives_former (hm : IsConnectives m) {b : Bracket} {k : Connective}
    (hs : s.frame = b.connect former k) : s.run former m = s := by
  have hk (j : Connective) : (b.connect former k).connect former j = b.connect former k := by
    obtain ⟨_, _ | _, _, _ | _⟩ := b <;> rfl
  obtain ⟨read, outer, frame⟩ := s
  obtain rfl := hs
  have hstep (j : Connective) (cs : List Char) :
      (⟨read, outer, b.connect former k⟩ : Scan).run former (mark j :: mark j :: cs) =
        (⟨read, outer, b.connect former k⟩ : Scan).run former cs := by
    have hj : step former ⟨read, outer, b.connect former k⟩ (mark j) = ⟨read, outer, b.connect former k⟩ := by
      cases j <;> simp only [mark, step, hk]
    simp only [run, List.foldl_cons, hj]
  induction hm with
  | nil => rfl
  | and _ ih => exact (hstep .and _).trans ih
  | or _ ih => exact (hstep .or _).trans ih

lemma run_repeated {c : List Char} (hc : IsConnective c) (hm : IsConnectives m) (s : Scan) :
    s.run former (c ++ m) = s.run former c := by
  rw [run_append]
  rcases hc with rfl | rfl
  · exact run_connectives_former hm (b := s.frame.connect former .and) (k := .and) rfl
  · exact run_connectives_former hm (b := s.frame.connect former .or) (k := .or) rfl

lemma run_not_connective {c : List Char} (hc : IsConnective c) (n : Nat) (s : Scan) :
    s.run meet (List.replicate n '!' ++ c) = s.run meet c := by
  induction n generalizing s with
  | zero => rfl
  | succ n ih =>
    refine (ih (s.step meet '!')).trans ?_
    rcases hc with rfl | rfl <;> rfl

lemma verdict_run_operand (hs : spelled .operand cs = true) (s : Scan) (b : Bool) :
    (run meet { s with frame := { s.frame with negated := b } } cs).verdict = (s.run meet cs).verdict := by
  cases cs with
  | nil => exact Even.verdict ⟨rfl, rfl, rfl, rfl⟩
  | cons c cs =>
    obtain ⟨q, hq, -⟩ := spelled_cons_iff.mp hs
    have hstep : step meet { s with frame := { s.frame with negated := b } } c = s.step meet c := by
      obtain ⟨rfl, -⟩ | ⟨rfl, -⟩ | ⟨rfl, -⟩ := read_operand hq
      · rfl
      · rfl
      · exact Even.close ⟨rfl, rfl, rfl, rfl⟩
    rw [run, run, List.foldl_cons, List.foldl_cons, hstep]

end Scan

lemma IsConnectives.even (hm : IsConnectives m) (meet : Meeting) (s : Scan) : (s.run meet m).Even s := by
  refine Scan.even_run ?_ s
  induction hm with
  | nil => simp
  | and _ ih | or _ ih => simpa using ih

lemma even_run_not (n : Nat) (meet : Meeting) (s : Scan) : (s.run meet (List.replicate n '!')).Even s :=
  Scan.even_run (fun _ hc => .inr (.inr (List.eq_of_mem_replicate hc))) s

lemma Residue.verdict_run {before taken after kept : List Char} (h : Residue before taken after kept)
    (hb : Place.fresh.reads before = some p) (hs : spelled p (taken ++ after) = true) :
    ((Scan.start.run former before).run former (taken ++ after)).verdict =
      ((Scan.start.run former before).run former (kept ++ after)).verdict := by
  -- The place counts for an empty group alone: a negation before it is left waiting, and no operand may follow.
  generalize hstart : Scan.start.run former before = s
  have hcongr {u v : List Char} (h : s.run former u = s.run former v) (w : List Char) :
      (s.run former (u ++ w)).verdict = (s.run former (v ++ w)).verdict := by
    rw [Scan.run_append, Scan.run_append, h]
  cases h with
  | digit hd => rcases hd with rfl | rfl <;> rfl
  | trailing hm hne =>
    refine hcongr ?_ after
    rw [Scan.run_append]
    exact (hm.even former s).close
  | trailingEnd hm hne =>
    rw [List.append_nil]
    exact (hm.even former s).verdict
  | leading hm hne =>
    refine hcongr ?_ after
    exact Scan.run_connectives_empty hm rfl
  | leadingStart hm hne =>
    obtain rfl := hstart
    rw [Scan.run_append]
    exact congrArg (fun s => (Scan.run former s after).verdict) (Scan.run_connectives_empty hm rfl)
  | emptyGroup =>
    obtain ⟨rfl, hopen⟩ := spelled_opening (.inl rfl) hs
    exact Scan.verdict_run_operand hopen s false
  | repeated hc hm hne => exact hcongr (Scan.run_repeated hc hm s) after
  | loose n =>
    refine hcongr ?_ after
    rw [Scan.run_append]
    exact (even_run_not (n + 1) former s).close
  | looseEnd n =>
    rw [List.append_nil]
    exact (even_run_not (n + 1) former s).verdict
  | looseBefore n hc => exact hcongr (Scan.run_not_connective hc (n + 1) s) after

lemma Step.scan_eq {cs cs' : List Char} (h : Step cs cs') (hs : spelled .fresh cs = true) :
    scan former cs = scan former cs' := by
  obtain ⟨before, taken, after, kept, hres, rfl, rfl⟩ := h
  rw [List.append_assoc] at hs ⊢
  rw [List.append_assoc]
  obtain ⟨q, hq, hq'⟩ := spelled_append_iff.mp hs
  rw [scan, scan, Scan.run_append former .start before (taken ++ after),
    Scan.run_append former .start before (kept ++ after), hres.verdict_run hq hq']

lemma Steps.spelled_scan {cs cs' : List Char} (h : Steps cs cs') (hs : spelled .fresh cs = true) :
    spelled .fresh cs' = true ∧ scan former cs = scan former cs' := by
  induction h with
  | refl => exact ⟨hs, rfl⟩
  | tail _ h ih => exact ⟨h.isSpelled ih.1, ih.2.trans (h.scan_eq ih.1)⟩

/-! ### Texts without residues -/

lemma read_mark (hp : p.isWhole = true) (k : Connective) : p.read (mark k) = some (.half k) := by
  cases p with
  | half => cases hp
  | fresh | operand => cases k <;> rfl

lemma read_eq_half {c : Char} {k : Connective} (h : p.read c = some (.half k)) : c = mark k := by
  unfold Place.read at h
  split at h
  · split at h <;> cases h
  all_goals cases h
  · rfl
  · rfl

lemma half_read {c : Char} {k : Connective} {q : Place} (h : (Place.half k).read c = some q) : c = mark k := by
  by_contra hne
  rw [Place.read, if_neg hne] at h
  cases h

lemma exists_mark {k : Connective} (h : spelled (.half k) cs = true) : ∃ cs', cs = mark k :: cs' := by
  cases cs with
  | nil => cases h
  | cons c cs =>
    obtain ⟨q, hq, -⟩ := spelled_cons_iff.mp h
    exact ⟨cs, by rw [half_read hq]⟩

lemma reads_eq_half {k : Connective} (h : Place.fresh.reads cs = some (.half k)) : ∃ cs', cs = cs' ++ [mark k] := by
  induction cs using List.reverseRecOn with
  | nil => cases h
  | append_singleton cs c _ =>
    rw [Place.reads, List.foldlM_append] at h
    obtain ⟨q, -, hq⟩ := Option.bind_eq_some_iff.mp h
    rw [List.foldlM_cons] at hq
    obtain ⟨q', hq', ⟨⟩⟩ := Option.bind_eq_some_iff.mp hq
    exact ⟨cs, by rw [read_eq_half hq']⟩

lemma exists_half {c d : Char} {before after : List Char} (h : spelled .fresh (before ++ c :: d :: after) = true)
    (hne : c ≠ d) : (∀ k, c = mark k → ∃ before', before = before' ++ [mark k]) ∧
      ∀ k, d = mark k → ∃ after', after = mark k :: after' := by
  obtain ⟨q, hq, hcs⟩ := spelled_append_iff.mp h
  obtain ⟨q₁, hc, hds⟩ := spelled_cons_iff.mp hcs
  obtain ⟨q₂, hd, hafter⟩ := spelled_cons_iff.mp hds
  have hwhole : q₁.isWhole = true := by
    cases q₁ with
    | half j => exact absurd ((read_eq_half hc).trans (half_read hd).symm) hne
    | fresh | operand => rfl
  constructor
  · rintro k rfl
    cases q with
    | half j =>
      rw [half_read hc]
      exact reads_eq_half hq
    | fresh | operand =>
      rw [read_mark rfl] at hc
      cases hc
      cases hwhole
  · rintro k rfl
    rw [read_mark hwhole] at hd
    cases hd
    exact exists_mark hafter

lemma spelled_mem (h : spelled p cs = true) {c : Char} (hc : c ∈ cs) :
    c ∈ ['0', '1', '(', ')'] ∨ c = '!' ∨ ∃ k, c = mark k := by
  induction cs generalizing p with
  | nil => cases hc
  | cons d cs ih =>
    obtain ⟨q, hq, hcs⟩ := spelled_cons_iff.mp h
    rcases List.mem_cons.mp hc with rfl | hc
    · unfold Place.read at hq
      split at hq
      · split at hq
        · exact .inr (.inr ⟨_, ‹_›⟩)
        · cases hq
      · exact .inr (.inr ⟨.and, rfl⟩)
      · exact .inr (.inr ⟨.or, rfl⟩)
      all_goals first | exact .inl (by decide) | exact .inr (.inl rfl) | cases hq
    · exact ih hcs hc

lemma exists_step_of_group {w : List Char} (hw : Vacant w) {before after : List Char}
    (hs : spelled .fresh (before ++ ('(' :: w ++ ')' :: after)) = true) :
    ∃ cs', Step (before ++ ('(' :: w ++ ')' :: after)) cs' := by
  induction hw generalizing before after with
  | nil => exact ⟨_, before, ['(', ')'], after, [], .emptyGroup, by simp, rfl⟩
  | @mark u c hu hc _ =>
    have hcmem : c ∈ before ++ ('(' :: (u ++ [c]) ++ ')' :: after) := by simp
    rcases spelled_mem hs hcmem with h | rfl | ⟨k, rfl⟩
    · exact absurd h hc
    · exact ⟨_, before ++ '(' :: u, ['!', ')'], after, [')'], .loose 0, by simp, rfl⟩
    · have hs' : spelled .fresh ((before ++ '(' :: u) ++ mark k :: ')' :: after) = true := by simpa using hs
      obtain ⟨before', hb⟩ := (exists_half hs' (by cases k <;> decide)).1 k rfl
      have htext : before ++ ('(' :: (u ++ [mark k]) ++ ')' :: after) =
          (before ++ '(' :: u) ++ mark k :: ')' :: after := by simp
      rw [htext, hb]
      refine ⟨_, before', [mark k, mark k, ')'], after, [')'], ?_, by simp, rfl⟩
      exact .trailing (isConnective_mark k).isConnectives (by simp)
  | @group u w _ hw _ ih =>
    have htext : before ++ ('(' :: (u ++ ('(' :: w ++ [')'])) ++ ')' :: after) =
        (before ++ '(' :: u) ++ ('(' :: w ++ ')' :: ')' :: after) := by simp
    rw [htext] at hs ⊢
    exact ih hs

lemma exists_step_of_gap {w : List Char} (hw : Vacant w) {before after : List Char}
    (hs : spelled .fresh (before ++ '&' :: w ++ '|' :: after) = true) :
    ∃ cs', Step (before ++ '&' :: w ++ '|' :: after) cs' := by
  have hmeet {b a : List Char} (hs : spelled .fresh (b ++ '&' :: '|' :: a) = true) :
      ∃ cs', Step (b ++ '&' :: '|' :: a) cs' := by
    obtain ⟨hbefore, hafter⟩ := exists_half hs (by decide)
    obtain ⟨b', rfl⟩ := hbefore .and rfl
    obtain ⟨a', rfl⟩ := hafter .or rfl
    refine ⟨_, b', ['&', '&', '|', '|'], a', ['&', '&'], ?_, by simp [mark], rfl⟩
    exact .repeated (.inl rfl) (.or .nil) (by simp)
  induction hw generalizing after with
  | nil =>
    rw [List.append_assoc] at hs ⊢
    exact hmeet hs
  | @mark u c hu hc ih =>
    have hcmem : c ∈ before ++ '&' :: (u ++ [c]) ++ '|' :: after := by simp
    have htext : before ++ '&' :: (u ++ [c]) ++ '|' :: after = (before ++ '&' :: u) ++ c :: '|' :: after := by simp
    rw [htext] at hs ⊢
    rcases spelled_mem hs (htext ▸ hcmem) with h | rfl | ⟨_ | _, rfl⟩
    · exact absurd h hc
    · obtain ⟨a', rfl⟩ := (exists_half hs (by decide)).2 .or rfl
      exact ⟨_, before ++ '&' :: u, ['!', '|', '|'], a', ['|', '|'], .looseBefore 0 (.inr rfl), by simp [mark], rfl⟩
    · exact hmeet hs
    · exact ih hs
  | @group u w _ hw _ =>
    have htext : before ++ '&' :: (u ++ ('(' :: w ++ [')'])) ++ '|' :: after =
        (before ++ '&' :: u) ++ ('(' :: w ++ ')' :: '|' :: after) := by simp
    rw [htext] at hs ⊢
    exact exists_step_of_group hw hs

lemma scan_eq_of_irreducible (hs : spelled .fresh cs = true) (h : ∀ cs', ¬ Step cs cs') :
    scan former cs = scan weaker cs := by
  refine scan_former_eq ?_
  rintro ⟨before, between, after, rfl, hv⟩
  obtain ⟨cs', hstep⟩ := exists_step_of_gap hv hs
  exact h cs' hstep

end DocQuery.Trace
