import DocQuery.Proofs.Condition.Scanning

/-! The two ways to scan a trace differ only where an `and` and an `or` of one bracket meet, with nothing left
between them. -/

namespace DocQuery.Trace

inductive Vacant : List Char → Prop
  | nil : Vacant []
  | mark {u : List Char} {c : Char} (h : Vacant u) (hc : c ∉ ['0', '1', '(', ')']) : Vacant (u ++ [c])
  | group {u w : List Char} (h : Vacant u) (hw : Vacant w) : Vacant (u ++ ('(' :: w ++ [')']))

def HasGap (cs : List Char) : Prop :=
  ∃ before between after, cs = before ++ '&' :: between ++ '|' :: after ∧ Vacant between

lemma HasGap.append {cs : List Char} (h : HasGap cs) (ds : List Char) : HasGap (cs ++ ds) := by
  obtain ⟨before, between, after, rfl, hv⟩ := h
  exact ⟨before, between, after ++ ds, by simp, hv⟩

lemma HasGap.sublist {cs : List Char} (h : HasGap cs) : ['&', '|'].Sublist cs := by
  obtain ⟨before, between, after, rfl, -⟩ := h
  rw [List.append_assoc]
  refine List.sublist_append_of_sublist_right (List.Sublist.cons_cons '&' ?_)
  exact List.sublist_append_of_sublist_right (List.Sublist.cons_cons '|' (List.nil_sublist _))

/-- What a bracket tells about the text since it was opened: there is no digit in it before the first operand, and
none after a connective that waits. -/
structure Since (u : List Char) (b : Bracket) : Prop where
  vacant : b.factors = none → Vacant u
  gap : b.gap = some .and → ∃ before between, u = before ++ '&' :: between ∧ Vacant between

namespace Since

variable {u w : List Char} {b : Bracket}

lemma empty : Since [] .empty := ⟨fun _ => .nil, fun h => by cases h⟩

lemma extend (h : Since u b) {b' : Bracket} (hf : b'.factors = b.factors) (hg : b'.gap = b.gap)
    (hw : ∀ v, Vacant v → Vacant (v ++ w)) : Since (u ++ w) b' := by
  refine ⟨fun hn => hw u (h.vacant (hf ▸ hn)), fun hn => ?_⟩
  obtain ⟨before, between, rfl, hv⟩ := h.gap (hg ▸ hn)
  exact ⟨before, between ++ w, by simp, hw between hv⟩

lemma put (v : Bool) (b : Bracket) (u : List Char) : Since u (b.put (some v)) := by
  have hf : (b.put (some v)).factors ≠ none := by
    refine Verdict.all_ne_none (b := v ^^ b.negated) ?_
    simp
  exact ⟨fun hn => absurd hn hf, fun hn => by cases hn⟩

lemma connect (h : Since u b) {c : Char} (hc : c ∉ ['0', '1', '(', ')']) {k : Connective}
    (hk : k = .and → c = '&') : Since (u ++ [c]) (b.connect former k) := by
  unfold Bracket.connect
  split
  · exact h.extend rfl rfl fun _ hv => hv.mark hc
  · rename_i hf
    cases hg : b.gap with
    | none =>
      refine ⟨fun hn => absurd hn hf, fun hn => ⟨u, [], ?_, .nil⟩⟩
      rw [hk (Option.some.inj hn)]
    | some g => exact h.extend rfl hg.symm fun _ hv => hv.mark hc

lemma close (ho : Since u b) {b' : Bracket} (hs : Since w b') :
    Since (u ++ ('(' :: w ++ [')'])) (b.put b'.value) := by
  cases hv : b'.value with
  | some v => exact put v b _
  | none =>
    have hf : b'.factors = none := by
      by_contra hne
      obtain ⟨v, hf⟩ := Option.ne_none_iff_exists'.mp hne
      refine Verdict.any_ne_none (b := v) ?_ hv
      simp [hf]
    exact ho.extend rfl rfl fun _ hu => hu.group (hs.vacant hf)

end Since

inductive Around : List Char → List Bracket → Prop
  | bottom (u : List Char) : Around u []
  | push {u w : List Char} {b : Bracket} {bs : List Bracket} (h : Around u bs) (hs : Since w b) :
    Around (u ++ w ++ ['(']) (b :: bs)

def Scan.After (cs : List Char) (s : Scan) : Prop := ∃ u w, cs = u ++ w ∧ Around u s.outer ∧ Since w s.frame

lemma Scan.After.step {cs : List Char} {s : Scan} (h : s.After cs) (c : Char) :
    (s.step former c).After (cs ++ [c]) := by
  obtain ⟨u, w, rfl, ha, hs⟩ := h
  have hmore {s' : Scan} (ho : s'.outer = s.outer) (hf : Since (w ++ [c]) s'.frame) :
      s'.After (u ++ w ++ [c]) := ⟨u, w ++ [c], List.append_assoc _ _ _, ho ▸ ha, hf⟩
  unfold Scan.step
  split
  · exact hmore rfl (.put true s.frame _)
  · exact hmore rfl (.put false s.frame _)
  · exact hmore rfl (hs.connect (by decide) fun _ => rfl)
  · exact hmore rfl (hs.connect (by decide) fun h => by cases h)
  · exact hmore rfl (hs.extend rfl rfl fun _ hv => hv.mark (by decide))
  · exact ⟨u ++ w ++ ['('], [], (List.append_nil _).symm, ha.push hs, .empty⟩
  · obtain ⟨read, outer, frame⟩ := s
    cases ha with
    | bottom u => exact ⟨u ++ w ++ [')'], [], (List.append_nil _).symm, .bottom _, .empty⟩
    | @push u v b bs ha ho => exact ⟨u, v ++ ('(' :: w ++ [')']), by simp, ha, ho.close hs⟩
  · rename_i h1 h0 _ _ _ hopen hclose
    have hc : c ∉ ['0', '1', '(', ')'] := by simpa using ⟨h0, h1, hopen, hclose⟩
    exact hmore rfl (hs.extend rfl rfl fun _ hv => hv.mark hc)

lemma Scan.after_run (cs : List Char) : (Scan.start.run former cs).After cs := by
  induction cs using List.reverseRecOn with
  | nil => exact ⟨[], [], rfl, .bottom [], .empty⟩
  | append_singleton cs c ih =>
    rw [Scan.run_append]
    exact ih.step c

lemma Bracket.connect_former_eq {c : Connective} {b : Bracket} (h : c = .or → b.gap ≠ some .and) :
    b.connect former c = b.connect weaker c := by
  obtain ⟨_, _ | _, _, _ | _ | _⟩ := b <;> cases c <;> first | rfl | exact absurd rfl (h rfl)

lemma run_former_eq {cs : List Char} (h : ¬ HasGap cs) :
    Scan.start.run former cs = Scan.start.run weaker cs := by
  -- The scans are in one state until an `or` comes while an `and` waits.
  induction cs using List.reverseRecOn with
  | nil => rfl
  | append_singleton cs c ih =>
    have ih := ih fun hg => h (hg.append [c])
    rw [Scan.run_append, Scan.run_append, ← ih]
    have hgap : c = '|' → (Scan.start.run former cs).frame.gap ≠ some .and := by
      rintro rfl hg
      obtain ⟨u, w, rfl, -, hs⟩ := Scan.after_run cs
      obtain ⟨before, between, rfl, hv⟩ := hs.gap hg
      exact h ⟨u ++ before, between, [], by simp, hv⟩
    show Scan.step former _ c = Scan.step weaker _ c
    unfold Scan.step
    split
    · rfl
    · rfl
    · rw [Bracket.connect_former_eq fun h => by cases h]
    · rw [Bracket.connect_former_eq fun _ => hgap rfl]
    all_goals rfl

lemma scan_former_eq {cs : List Char} (h : ¬ HasGap cs) : scan former cs = scan weaker cs := by
  rw [scan, scan, run_former_eq h]

end DocQuery.Trace
