import DocQuery.Json.Reader
import DocQuery.Proofs.Json.Lexing

namespace DocQuery

namespace Value

mutual

def levels : Value → Nat
  | array items => levelsOfItems items + 1
  | object fields => levelsOfFields fields + 1
  | _ => 0

def levelsOfItems : List Value → Nat
  | [] => 0
  | v :: vs => max v.levels (levelsOfItems vs)

def levelsOfFields : List (String × Value) → Nat
  | [] => 0
  | (_, v) :: fs => max v.levels (levelsOfFields fs)

end

end Value

namespace Json

namespace State

def run (s : State) (ts : List Token) : Option State := ts.foldlM (step fun _ => false) s

lemma run_cons {s s' : State} {t : Token} (h : s.step (fun _ => false) t = some s') (ts : List Token) :
    s.run (t :: ts) = s'.run ts := by
  rw [run, List.foldlM_cons, h]
  rfl

lemma run_append (s : State) (ts us : List Token) : s.run (ts ++ us) = (s.run ts).bind (·.run us) :=
  List.foldlM_append

def Takes : Frame → Prop
  | .array _ | .field _ _ => True
  | _ => False

def Begins : Token → Prop
  | .closeArray | .closeObject | .comma | .colon => False
  | _ => True

lemma begins_tokens (v : Value) : ∃ t ts, v.tokens = t :: ts ∧ Begins t := by
  cases v <;> exact ⟨_, _, rfl, trivial⟩

lemma run_first {items : List Value} {fs : List Frame} {r : Value} (v : Value) :
    run ⟨.array items :: fs, .first, r⟩ v.tokens = run ⟨.array items :: fs, .value, r⟩ v.tokens := by
  obtain ⟨t, ts, hv, ht⟩ := begins_tokens v
  have hs : step (fun _ => false) ⟨.array items :: fs, .first, r⟩ t =
      step (fun _ => false) ⟨.array items :: fs, .value, r⟩ t := by
    cases t with
    | closeArray | closeObject | comma | colon => exact ht.elim
    | _ => rfl
  rw [hv, run, run, List.foldlM_cons, List.foldlM_cons, hs]

lemma step_value {fs : List Frame} (hf : ∀ f ∈ fs.head?, Takes f) (r : Value) (t : Token) :
    step (fun _ => false) ⟨fs, .value, r⟩ t =
      match t with
      | .openArray => push ⟨fs, .value, r⟩ (.array [])
      | .openObject => push ⟨fs, .value, r⟩ (.object [])
      | .null => put ⟨fs, .value, r⟩ .null
      | .bool b => put ⟨fs, .value, r⟩ (.bool b)
      | .number n => n.bind fun n => put ⟨fs, .value, r⟩ (.number n)
      | .string s => s.bind fun s => put ⟨fs, .value, r⟩ (.string s)
      | _ => none := by
  have hskip : fs.head?.any Frame.isSkipped = false := by
    cases fs with
    | nil => rfl
    | cons f fs =>
      cases f with
      | array _ | field _ _ => rfl
      | object _ | skippedArray | skippedObject => exact (hf _ rfl).elim
  cases t <;> simp [step, value, hskip]

lemma push_of_levels {fs : List Frame} {f : Frame} {n : Nat} {r : Value} (h : n + 1 + fs.length ≤ 127) :
    push ⟨fs, .value, r⟩ f = some ⟨f :: fs, .first, .null⟩ := by
  rw [push, if_pos]
  simp only [Bool.or_eq_true, decide_eq_true_eq]
  omega

lemma run_single (s : State) (t : Token) : s.run [t] = s.step (fun _ => false) t := bind_pure _

lemma put_result (fs : List Frame) (r r' v : Value) : put ⟨fs, .value, r⟩ v = put ⟨fs, .value, r'⟩ v := by
  cases fs with
  | nil => rfl
  | cons f fs => cases f <;> rfl

lemma step_closeArray (items : List Value) (fs : List Frame) (r : Value) :
    step (fun _ => false) ⟨.array items.reverse :: fs, .separator, r⟩ .closeArray =
      put ⟨fs, .value, .null⟩ (.array items) :=
  congrArg (fun items => put ⟨fs, .value, .null⟩ (.array items)) items.reverse_reverse

lemma step_closeObject (fields : List (String × Value)) (fs : List Frame) (r : Value) :
    step (fun _ => false) ⟨.object fields.reverse :: fs, .separator, r⟩ .closeObject =
      put ⟨fs, .value, .null⟩ (.object fields) :=
  congrArg (fun fields => put ⟨fs, .value, .null⟩ (.object fields)) fields.reverse_reverse

mutual

lemma run_tokens (v : Value) {fs : List Frame} (hf : ∀ f ∈ fs.head?, Takes f) (hl : v.levels + fs.length ≤ 127)
    (r : Value) : run ⟨fs, .value, r⟩ v.tokens = put ⟨fs, .value, .null⟩ v := by
  cases v with
  | null | bool _ | number _ | string _ =>
    rw [Value.tokens, run_single, step_value hf]
    exact put_result ..
  | array items =>
    have hopen := (step_value hf r .openArray).trans (push_of_levels hl)
    rw [Value.tokens, run_cons hopen]
    by_cases hne : items = []
    · subst hne
      exact run_single _ _
    · rw [Value.levels] at hl
      have hitems := run_items items hne [] fs (by omega) (.inl rfl)
      rw [run_append, hitems, List.append_nil, Option.bind_some, run_single, step_closeArray]
  | object fields =>
    have hopen := (step_value hf r .openObject).trans (push_of_levels hl)
    rw [Value.tokens, run_cons hopen]
    by_cases hne : fields = []
    · subst hne
      exact run_single _ _
    · rw [Value.levels] at hl
      have hfields := run_fields fields hne [] fs (by omega) (.inl rfl)
      rw [run_append, hfields, List.append_nil, Option.bind_some, run_single, step_closeObject]

lemma run_items (vs : List Value) (hne : vs ≠ []) (read : List Value) (fs : List Frame)
    (hl : Value.levelsOfItems vs + (fs.length + 1) ≤ 127) {e : Expect} (he : e = .first ∨ e = .value) :
    run ⟨.array read :: fs, e, .null⟩ ([Token.comma].intercalate (Value.tokensOfItems vs)) =
      some ⟨.array (vs.reverse ++ read) :: fs, .separator, .null⟩ := by
  match vs with
  | [] => exact (hne rfl).elim
  | v :: vs =>
    rw [Value.levelsOfItems] at hl
    have hv : run ⟨.array read :: fs, e, .null⟩ v.tokens = some ⟨.array (v :: read) :: fs, .separator, .null⟩ := by
      have hvalue := @run_tokens v (.array read :: fs) (by simp [Takes]) (by simp; omega) .null
      rcases he with rfl | rfl
      · exact (run_first v).trans hvalue
      · exact hvalue
    match vs with
    | [] => simpa [Value.tokensOfItems] using hv
    | w :: vs =>
      have hrest := run_items (w :: vs) (by simp) (v :: read) fs (by omega) (.inr rfl)
      rw [Value.tokensOfItems] at hrest
      rw [Value.tokensOfItems, Value.tokensOfItems, List.intercalate_cons_cons, List.append_assoc, run_append, hv]
      -- a comma in an array stands in front of one more value
      simpa using (run_cons rfl _).trans hrest

lemma run_fields (fields : List (String × Value)) (hne : fields ≠ []) (read : List (String × Value)) (fs : List Frame)
    (hl : Value.levelsOfFields fields + (fs.length + 1) ≤ 127) {e : Expect} (he : e = .first ∨ e = .key) :
    run ⟨.object read :: fs, e, .null⟩ ([Token.comma].intercalate (Value.tokensOfFields fields)) =
      some ⟨.object (fields.reverse ++ read) :: fs, .separator, .null⟩ := by
  match fields with
  | [] => exact (hne rfl).elim
  | (k, v) :: fields =>
    rw [Value.levelsOfFields] at hl
    have hv : run ⟨.object read :: fs, e, .null⟩ (.string (some k) :: .colon :: v.tokens) =
        some ⟨.object ((k, v) :: read) :: fs, .separator, .null⟩ := by
      have hkey : step (fun _ => false) ⟨.object read :: fs, e, .null⟩ (.string (some k)) =
          some ⟨.field read k :: fs, .colon, .null⟩ := by
        rcases he with rfl | rfl <;> rfl
      rw [run_cons hkey, run_cons rfl]
      exact run_tokens v (by simp [Takes]) (by simp; omega) .null
    match fields with
    | [] => simpa [Value.tokensOfFields] using hv
    | (l, w) :: fields =>
      have hrest := run_fields ((l, w) :: fields) (by simp) ((k, v) :: read) fs (by omega) (.inr rfl)
      rw [Value.tokensOfFields] at hrest
      rw [Value.tokensOfFields, Value.tokensOfFields, List.intercalate_cons_cons, List.append_assoc, run_append, hv]
      simpa using (run_cons rfl _).trans hrest

end

end State

theorem read?_pretty {v : Value} (hn : ∀ n, Value.number n ∈ v.scalars → n.Rereadable) (hl : v.levels ≤ 127) :
    read? (pretty v ++ "\n") = some v.canonical := by
  have hrun : v.tokens.foldlM (State.step fun _ => false) .start = some ⟨[], .nothing, v⟩ :=
    @State.run_tokens v [] (by simp) hl .null
  rw [read?, written?, lex_pretty hn, Option.bind_eq_bind, Option.bind_some, ofTokens?, hrun]
  rfl

end Json

end DocQuery
