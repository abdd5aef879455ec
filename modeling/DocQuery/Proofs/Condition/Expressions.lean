import DocQuery.Proofs.Condition.Deleting

namespace DocQuery.Trace

inductive Level where
  | disjunction
  | conjunction
  | operand

inductive Reads : Level → List Char → Bool → Prop
  | one : Reads .operand ['1'] true
  | zero : Reads .operand ['0'] false
  | not {u : List Char} {b : Bool} (h : Reads .operand u b) : Reads .operand ('!' :: u) (!b)
  | group {u : List Char} {b : Bool} (h : Reads .disjunction u b) : Reads .operand ('(' :: u ++ [')']) b
  | operand {u : List Char} {b : Bool} (h : Reads .operand u b) : Reads .conjunction u b
  | and {u w : List Char} {a b : Bool} (h : Reads .conjunction u a) (h' : Reads .operand w b) :
    Reads .conjunction (u ++ '&' :: '&' :: w) (a && b)
  | conjunction {u : List Char} {b : Bool} (h : Reads .conjunction u b) : Reads .disjunction u b
  | or {u w : List Char} {a b : Bool} (h : Reads .disjunction u a) (h' : Reads .conjunction w b) :
    Reads .disjunction (u ++ '|' :: '|' :: w) (a || b)

lemma reads_append (p : Place) (cs ds : List Char) : p.reads (cs ++ ds) = (p.reads cs).bind (·.reads ds) :=
  List.foldlM_append

namespace Bracket

structure Holds (b : Bracket) (v : Bool) : Prop where
  factors : b.factors ≠ none
  negated : b.negated = false
  gap : b.gap = none
  value : b.value = some v

lemma put_not (b : Bracket) (v : Bool) : Bracket.put { b with negated := !b.negated } (some v) = b.put (some !v) := by
  obtain ⟨t, f, n, g⟩ := b
  cases n <;> cases v <;> rfl

lemma put_and {b : Bracket} (hb : b.negated = false) (v w : Bool) :
    (((b.put (some v)).connect weaker .and).connect weaker .and).put (some w) = b.put (some (v && w)) := by
  obtain ⟨t, f, n, g⟩ := b
  obtain rfl : n = false := hb
  rcases f with _ | _ | _ <;> rcases g with _ | _ | _ <;> cases v <;> cases w <;> rfl

lemma Holds.or {b : Bracket} {v : Bool} (h : b.Holds v) (w : Bool) :
    (((b.connect weaker .or).connect weaker .or).put (some w)).Holds (v || w) := by
  obtain ⟨t, f, n, g⟩ := b
  obtain ⟨hf, hn, hg, hv⟩ := h
  obtain rfl : n = false := hn
  obtain rfl : g = none := hg
  obtain ⟨x, rfl⟩ := Option.ne_none_iff_exists'.mp hf
  have hput : (((Bracket.mk t (some x) false none).connect weaker .or).connect weaker .or).put (some w) =
      ⟨some v, some w, false, none⟩ := by
    rw [← hv]
    cases w <;> rfl
  rw [hput]
  refine ⟨Option.some_ne_none _, rfl, rfl, ?_⟩
  cases v <;> cases w <;> rfl

end Bracket

namespace Reads

variable {l : Level} {u : List Char} {b : Bool}

lemma reads (h : Reads l u b) : Place.fresh.reads u = some .operand := by
  induction h with
  | one | zero => rfl
  | not _ ih => exact ih
  | group _ ih =>
    refine (reads_append .fresh _ [')']).trans ?_
    exact (congrArg (Option.bind · (·.reads [')'])) ih).trans rfl
  | operand _ ih | conjunction _ ih => exact ih
  | and _ _ ih ih' | or _ _ ih ih' =>
    rw [reads_append, ih]
    exact ih'

def Effect : Level → List Char → Bool → Prop
  | .operand, u, b => ∀ s : Scan, s.run weaker u = { s with frame := s.frame.put (some b) }
  | .conjunction, u, b => ∀ s : Scan, s.frame.negated = false →
    s.run weaker u = { s with frame := s.frame.put (some b) }
  | .disjunction, u, b => ∀ s : Scan, s.frame = .empty →
    ∃ frame, s.run weaker u = { s with frame := frame } ∧ frame.Holds b

lemma effect (h : Reads l u b) : Effect l u b := by
  induction h with
  | one => exact fun s => rfl
  | zero => exact fun s => rfl
  | @not u b _ ih =>
    intro s
    refine (ih _).trans ?_
    exact congrArg (fun f => ({ s with frame := f } : Scan)) (s.frame.put_not b)
  | @group u b _ ih =>
    intro s
    obtain ⟨frame, hrun, hf⟩ := ih ⟨s.read, s.frame :: s.outer, .empty⟩ rfl
    rw [Scan.run_append]
    refine (congrArg (Scan.run weaker · [')']) hrun).trans ?_
    show (⟨s.read, s.outer, s.frame.put frame.value⟩ : Scan) = _
    rw [hf.value]
  | operand _ ih => exact fun s _ => ih s
  | @and u w a b _ _ ih ih' =>
    intro s hs
    rw [Scan.run_append, ih s hs]
    refine (ih' _).trans ?_
    exact congrArg (fun f => ({ s with frame := f } : Scan)) (Bracket.put_and hs a b)
  | @conjunction u b _ ih =>
    intro s hs
    refine ⟨s.frame.put (some b), ih s (by rw [hs]; rfl), ?_⟩
    rw [hs]
    refine ⟨?_, rfl, rfl, ?_⟩ <;> cases b <;> decide
  | @or u w a b _ _ ih ih' =>
    intro s hs
    obtain ⟨frame, hrun, hf⟩ := ih s hs
    rw [Scan.run_append, hrun]
    refine ⟨_, ih' ⟨s.read, s.outer, (frame.connect weaker .or).connect weaker .or⟩ ?_, hf.or b⟩
    exact Bracket.negated_connect weaker .or _

lemma spelled (h : Reads l u b) : Trace.spelled .fresh u = true := by
  have hs := spelled_append .fresh u []
  rw [List.append_nil, h.reads] at hs
  exact hs

lemma scan_eq (h : Reads .disjunction u b) : scan weaker u = some b := by
  obtain ⟨frame, hrun, hf⟩ := h.effect .start rfl
  rw [scan, hrun]
  show Verdict.all [none, frame.value] = some b
  rw [hf.value]
  cases b <;> rfl

end Reads

/-! ### Texts without residues are expressions -/

def Awaits (w : List Char) : Prop := ∀ u b, Reads .operand u b → ∃ b', Reads .disjunction (w ++ u) b'

lemma awaits_nil : Awaits [] := fun _ b h => ⟨b, h.operand.conjunction⟩

lemma Awaits.not {w : List Char} (h : Awaits w) : Awaits (w ++ ['!']) := by
  intro u b hu
  obtain ⟨b', hb⟩ := h _ _ hu.not
  exact ⟨b', by simpa using hb⟩

lemma Awaits.group {w u : List Char} (h : Awaits w) {b : Bool} (hu : Reads .disjunction u b) :
    ∃ b', Reads .disjunction (w ++ ('(' :: u ++ [')'])) b' := h _ _ hu.group

lemma Reads.awaits {w : List Char} {b : Bool} (h : Reads .disjunction w b) (k : Connective) :
    Awaits (w ++ [mark k, mark k]) := by
  intro u a hu
  rw [List.append_assoc]
  cases k with
  | or => exact ⟨_, .or h hu.operand⟩
  | and =>
    -- The new operand joins the last conjunction alone.
    cases h with
    | conjunction h => exact ⟨_, (h.and hu).conjunction⟩
    | or h h' =>
      rw [List.append_assoc]
      exact ⟨_, h.or (h'.and hu)⟩

def nest : Nat → Char → Option Nat
  | n, '(' => some (n + 1)
  | 0, ')' => none
  | n + 1, ')' => some n
  | n, _ => some n

def nests (n : Nat) (cs : List Char) : Option Nat := cs.foldlM nest n

def Balanced (cs : List Char) : Prop := nests 0 cs = some 0

lemma nests_append (n : Nat) (cs ds : List Char) : nests n (cs ++ ds) = (nests n cs).bind (nests · ds) :=
  List.foldlM_append

lemma nests_concat (n : Nat) (cs : List Char) (c : Char) : nests n (cs ++ [c]) = (nests n cs).bind (nest · c) := by
  rw [nests_append]
  congr 1
  funext m
  exact bind_pure (nest m c)

lemma nests_of_connectives {m : List Char} (hm : IsConnectives m) (n : Nat) : nests n m = some n := by
  induction hm with
  | nil => rfl
  | and _ ih | or _ ih => exact ih

lemma nests_not (k n : Nat) : nests n (List.replicate k '!') = some n := by
  induction k with
  | zero => rfl
  | succ k ih => exact ih

lemma Residue.nests_eq {before taken after kept : List Char} (h : Residue before taken after kept) (n : Nat) :
    nests n taken = nests n kept := by
  cases h with
  | digit hd => rcases hd with rfl | rfl <;> rfl
  | trailing hm => rw [nests_append, nests_of_connectives hm, Option.bind_some]
  | trailingEnd hm | leadingStart hm => exact nests_of_connectives hm n
  | leading hm => exact nests_of_connectives hm (n + 1)
  | emptyGroup => rfl
  | repeated hc hm =>
    rw [nests_append, nests_of_connectives hc.isConnectives, Option.bind_some, nests_of_connectives hm]
  | loose k | looseBefore k => rw [nests_append, nests_not, Option.bind_some]
  | looseEnd k => exact nests_not (k + 1) n

lemma Steps.balanced {cs cs' : List Char} (h : Steps cs cs') (hb : Balanced cs) : Balanced cs' := by
  induction h with
  | refl => exact hb
  | tail _ hstep ih =>
    obtain ⟨before, taken, after, kept, hres, rfl, rfl⟩ := hstep
    rw [Balanced, ← ih, nests_append, nests_append, nests_append, nests_append]
    simp only [hres.nests_eq]

lemma read_eq_fresh {p : Place} {c : Char} (h : p.read c = some .fresh) :
    c = '(' ∨ c = '!' ∨ ∃ k, p = .half k ∧ c = mark k := by
  unfold Place.read at h
  split at h
  · exact .inr (.inr ⟨_, rfl, half_read h⟩)
  all_goals first | exact .inl rfl | exact .inr (.inl rfl) | cases h

lemma exists_read {p q : Place} {cs : List Char} {c : Char} (h : p.reads (cs ++ [c]) = some q) :
    ∃ q', p.reads cs = some q' ∧ q'.read c = some q := by
  rw [reads_append] at h
  obtain ⟨q', hq', hq⟩ := Option.bind_eq_some_iff.mp h
  obtain ⟨_, hr, ⟨⟩⟩ := Option.bind_eq_some_iff.mp hq
  exact ⟨q', hq', hr⟩

lemma reads_eq_fresh {cs : List Char} (h : Place.fresh.reads cs = some .fresh) :
    cs = [] ∨ ∃ cs', cs = cs' ++ ['('] ∨ cs = cs' ++ ['!'] ∨ ∃ k, cs = cs' ++ [mark k, mark k] := by
  induction cs using List.reverseRecOn with
  | nil => exact .inl rfl
  | append_singleton cs c _ =>
    obtain ⟨q, hq, hc⟩ := exists_read h
    rcases read_eq_fresh hc with rfl | rfl | ⟨k, rfl, rfl⟩
    · exact .inr ⟨cs, .inl rfl⟩
    · exact .inr ⟨cs, .inr (.inl rfl)⟩
    · obtain ⟨cs', rfl⟩ := reads_eq_half hq
      exact .inr ⟨cs', .inr (.inr ⟨k, by simp⟩)⟩

lemma exists_step_of_mark {u rest : List Char} {k : Connective} (hs : spelled .fresh (u ++ mark k :: rest) = true)
    (hu : Place.fresh.reads u = some .fresh) : ∃ cs', Step (u ++ mark k :: rest) cs' := by
  have hk := (isConnective_mark k).isConnectives
  obtain ⟨rest, rfl⟩ : ∃ rest', rest = mark k :: rest' := by
    obtain ⟨q, hq, hq'⟩ := spelled_append_iff.mp hs
    obtain rfl : q = .fresh := Option.some.inj (hq.symm.trans hu)
    obtain ⟨q', hr, hrest⟩ := spelled_cons_iff.mp hq'
    rw [read_mark rfl] at hr
    cases hr
    exact exists_mark hrest
  rcases reads_eq_fresh hu with rfl | ⟨v, rfl | rfl | ⟨j, rfl⟩⟩
  · exact ⟨_, [], [mark k, mark k], rest, [], .leadingStart hk (by simp), by simp, rfl⟩
  · exact ⟨_, v, ['(', mark k, mark k], rest, ['('], .leading hk (by simp), by simp, rfl⟩
  · exact ⟨_, v, ['!', mark k, mark k], rest, _, .looseBefore 0 (isConnective_mark k), by simp, rfl⟩
  · exact ⟨_, v, [mark j, mark j, mark k, mark k], rest, _, .repeated (isConnective_mark j) hk (by simp),
      by simp, rfl⟩

lemma exists_step_of_close {u rest : List Char} (hu : Place.fresh.reads u = some .fresh) (hne : u ≠ []) :
    ∃ cs', Step (u ++ ')' :: rest) cs' := by
  rcases reads_eq_fresh hu with rfl | ⟨v, rfl | rfl | ⟨j, rfl⟩⟩
  · exact absurd rfl hne
  · exact ⟨_, v, ['(', ')'], rest, [], .emptyGroup, by simp, rfl⟩
  · exact ⟨_, v, ['!', ')'], rest, [')'], .loose 0, by simp, rfl⟩
  · refine ⟨_, v, [mark j, mark j, ')'], rest, [')'], ?_, by simp, rfl⟩
    exact .trailing (isConnective_mark j).isConnectives (by simp)

lemma exists_step_of_end {u : List Char} (hu : Place.fresh.reads u = some .fresh) (hne : u ≠ [])
    (hopen : ∀ v, u ≠ v ++ ['(']) : ∃ cs', Step u cs' := by
  rcases reads_eq_fresh hu with rfl | ⟨v, rfl | rfl | ⟨j, rfl⟩⟩
  · exact absurd rfl hne
  · exact absurd rfl (hopen v)
  · exact ⟨_, v, ['!'], [], [], .looseEnd 0, by simp, rfl⟩
  · refine ⟨_, v, [mark j, mark j], [], [], ?_, by simp, rfl⟩
    exact .trailingEnd (isConnective_mark j).isConnectives (by simp)

/-- What stands in the innermost bracket at a place: it awaits an operand, it is an expression, or it is one with half
of a connective. -/
def Standing : Place → List Char → Prop
  | .fresh, w => Awaits w
  | .operand, w => ∃ b, Reads .disjunction w b
  | .half k, w => ∃ v b, w = v ++ [mark k] ∧ Reads .disjunction v b

inductive Within : Nat → List Char → Prop
  | nil : Within 0 []
  | opening {n : Nat} {v w : List Char} (h : Within n v) (hw : Awaits w) : Within (n + 1) (v ++ w ++ ['('])

def Parsed (u : List Char) (q : Place) (n : Nat) : Prop := ∃ v w, u = v ++ w ∧ Within n v ∧ Standing q w

namespace Parsed

variable {u : List Char} {q q' : Place} {n n' : Nat} {c : Char}

lemma fresh (h : Parsed u .fresh n) (hq : Place.fresh.read c = some q') (hn : nest n c = some n')
    (hclose : c ≠ ')') (hmark : ∀ k, c ≠ mark k) : Parsed (u ++ [c]) q' n' := by
  obtain ⟨v, w, rfl, hv, hw⟩ := h
  unfold Place.read at hq
  split at hq
  · rename_i heq
    cases heq
  · exact absurd rfl (hmark .and)
  · exact absurd rfl (hmark .or)
  · exact absurd rfl hclose
  · cases hq
    cases hn
    exact ⟨v ++ w ++ ['('], [], (List.append_nil _).symm, hv.opening hw, awaits_nil⟩
  · cases hq
    cases hn
    exact ⟨v, w ++ ['!'], List.append_assoc _ _ _, hv, hw.not⟩
  · cases hq
    cases hn
    exact ⟨v, w ++ ['0'], List.append_assoc _ _ _, hv, hw _ _ .zero⟩
  · cases hq
    cases hn
    exact ⟨v, w ++ ['1'], List.append_assoc _ _ _, hv, hw _ _ .one⟩
  · cases hq

lemma operand (h : Parsed u .operand n) (hq : Place.operand.read c = some q') (hn : nest n c = some n') :
    Parsed (u ++ [c]) q' n' := by
  obtain ⟨v, w, rfl, hv, b, hw⟩ := h
  obtain ⟨rfl, rfl⟩ | ⟨rfl, rfl⟩ | ⟨rfl, rfl⟩ := read_operand hq
  · cases hn
    exact ⟨v, w ++ ['&'], List.append_assoc _ _ _, hv, w, b, rfl, hw⟩
  · cases hn
    exact ⟨v, w ++ ['|'], List.append_assoc _ _ _, hv, w, b, rfl, hw⟩
  · cases hv with
    | nil => cases hn
    | @opening n v w' hv hw' =>
      cases hn
      exact ⟨v, w' ++ ('(' :: w ++ [')']), by simp, hv, hw'.group hw⟩

lemma half {k : Connective} (h : Parsed u (.half k) n) (hq : (Place.half k).read c = some q')
    (hn : nest n c = some n') : Parsed (u ++ [c]) q' n' := by
  obtain ⟨v, _, rfl, hv, w, b, rfl, hw⟩ := h
  obtain rfl := half_read hq
  have hq' : Place.fresh = q' := by simpa [Place.read] using hq
  have hn' : n = n' := by cases k <;> exact Option.some.inj hn
  subst hq' hn'
  exact ⟨v, w ++ [mark k, mark k], by simp, hv, hw.awaits k⟩

end Parsed

lemma exists_parsed {cs : List Char} (hs : spelled .fresh cs = true) (hb : Balanced cs)
    (hirr : ∀ cs', ¬ Step cs cs') {u : List Char} (hu : u <+: cs) :
    ∃ q n, Place.fresh.reads u = some q ∧ nests 0 u = some n ∧ Parsed u q n := by
  -- From prefix to prefix; where an operand may stand, anything else that came would make a residue.
  induction u using List.reverseRecOn with
  | nil => exact ⟨.fresh, 0, rfl, rfl, [], [], rfl, .nil, awaits_nil⟩
  | append_singleton u c ih =>
    obtain ⟨q, n, hq, hn, hp⟩ := ih ((List.prefix_append u [c]).trans hu)
    obtain ⟨rest, rfl⟩ := hu
    obtain ⟨q', hq', -⟩ := spelled_append_iff.mp hs
    have hc : q.read c = some q' := by
      obtain ⟨q'', hq'', hc⟩ := exists_read hq'
      obtain rfl := Option.some.inj (hq''.symm.trans hq)
      exact hc
    rw [Balanced, nests_append] at hb
    obtain ⟨n', hn', -⟩ := Option.bind_eq_some_iff.mp hb
    have hnest : nest n c = some n' := by rwa [nests_concat, hn] at hn'
    refine ⟨q', n', hq', hn', ?_⟩
    rw [List.append_assoc] at hs hirr
    cases q with
    | operand => exact hp.operand hc hnest
    | half k => exact hp.half hc hnest
    | fresh =>
      refine hp.fresh hc hnest ?_ ?_
      · rintro rfl
        by_cases hne : u = []
        · subst hne
          cases hn
          cases hnest
        · exact (exists_step_of_close hq hne).elim hirr
      · rintro k rfl
        exact (exists_step_of_mark hs hq).elim hirr

lemma exists_reads {cs : List Char} (hs : spelled .fresh cs = true) (hb : Balanced cs)
    (hirr : ∀ cs', ¬ Step cs cs') (hne : cs ≠ []) : ∃ b, Reads .disjunction cs b := by
  obtain ⟨q, n, hq, hn, v, w, rfl, hv, hw⟩ := exists_parsed hs hb hirr (List.prefix_refl _)
  obtain rfl : n = 0 := Option.some.inj (hn.symm.trans hb)
  cases hv
  cases q with
  | operand => exact hw
  | half k =>
    have hend := spelled_append .fresh w []
    rw [List.append_nil] at hend
    rw [List.nil_append] at hq hs
    rw [hs, hq] at hend
    cases hend
  | fresh =>
    refine absurd hirr (not_forall_not.mpr (exists_step_of_end hq hne fun v hv => ?_))
    rw [hv, nests_concat] at hn
    obtain ⟨m, -, hm⟩ := Option.bind_eq_some_iff.mp hn
    cases hm

end DocQuery.Trace
