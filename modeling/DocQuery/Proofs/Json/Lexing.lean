import DocQuery.Json.Printer
import DocQuery.Json.Token
import Mathlib.Data.List.TakeDrop
import Mathlib.Tactic.Lemma

namespace DocQuery

namespace Json

def isNumeral (c : Char) : Bool := c.isDigit || c == '-' || c == '+' || c == '.' || c == 'e' || c == 'E'

end Json

structure Number.Rereadable (n : Number) : Prop where
  numeral : ∀ c ∈ n.text.toList, Json.isNumeral c = true
  read : Json.number? n.text.toList = some (some n)

namespace Json

variable {cs : List Char} {ts : List Token}

def Lexes (cs : List Char) (ts : List Token) : Prop := ∀ fuel, cs.length ≤ fuel → lexFrom fuel cs = some ts

lemma lexes_nil : Lexes [] [] := by
  intro fuel _
  cases fuel <;> rfl

lemma Lexes.token {w : List Char} {t : Token} (h : Lexes cs ts) (hw : w ≠ [])
    (hs : ∀ fuel, lexFrom (fuel + 1) (w ++ cs) = (lexFrom fuel cs).map (t :: ·)) : Lexes (w ++ cs) (t :: ts) := by
  intro fuel hf
  have hl := List.length_pos_iff.mpr hw
  rw [List.length_append] at hf
  obtain ⟨k, rfl⟩ : ∃ k, fuel = k + 1 := ⟨fuel - 1, by omega⟩
  rw [hs, h k (by omega)]
  rfl

lemma Lexes.blank {w : List Char} (h : Lexes cs ts) (hw : ∀ c ∈ w, c = ' ' ∨ c = '\n') : Lexes (w ++ cs) ts := by
  induction w with
  | nil => exact h
  | cons c w ih =>
    intro fuel hf
    obtain ⟨k, rfl⟩ : ∃ k, fuel = k + 1 := ⟨fuel - 1, by simp at hf; omega⟩
    have hrest := ih (fun c hm => hw c (List.mem_cons_of_mem _ hm)) k (by simpa using hf)
    rcases hw c List.mem_cons_self with rfl | rfl <;> exact hrest

section Strings

lemma unit?_hexDigit : ∀ n < 0x20, unit? '0' '0' (hexDigit (n / 16)) (hexDigit (n % 16)) = some n := by decide

lemma textOf?_unit {n : Nat} (hn : n < 0x20) (read : List Char) (ps : List Piece) :
    textOf? read (.unit n :: ps) = textOf? (Char.ofNat n :: read) ps := by
  have hh : isHigh n = false := by simp [isHigh]; omega
  have hl : isLow n = false := by simp [isLow]; omega
  cases ps with
  | nil => simp [textOf?, hh, hl]
  | cons p ps => cases p <;> simp [textOf?, hh, hl]

lemma pieces_escape (c : Char) : ∃ p, (∀ read cs, pieces read (escape c ++ cs) = pieces (p :: read) cs) ∧
    ∀ read ps, textOf? read (p :: ps) = textOf? (c :: read) ps := by
  unfold escape
  split
  case h_8 hq hb _ _ _ _ _ =>
    have hne : c ≠ '\\' := hb
    split
    · next hc =>
      refine ⟨.unit c.toNat, fun read cs => ?_, fun read ps => ?_⟩
      · have hu := unit?_hexDigit c.toNat hc
        simp only [List.cons_append, List.nil_append, pieces, hu]
        rfl
      · rw [textOf?_unit hc, Char.ofNat_toNat]
    · next hc =>
      refine ⟨.char c, fun read cs => ?_, fun read ps => rfl⟩
      rw [List.cons_append, List.nil_append, pieces]
      · simp [hc, hne]
      · exact hq
      · exact fun _ _ _ _ _ h => absurd h hne
      · exact fun _ _ h => absurd h hne
  all_goals exact ⟨.char _, fun _ _ => rfl, fun _ _ => rfl⟩

lemma pieces_flatMap (s : List Char) (read : List Piece) (cs : List Char) :
    ∃ ps, pieces read (s.flatMap escape ++ '"' :: cs) = some (read.reverse ++ ps, cs) ∧
      ∀ acc, textOf? acc ps = some (String.ofList (acc.reverse ++ s)) := by
  induction s generalizing read with
  | nil => exact ⟨[], by simp [pieces], fun acc => by simp [textOf?]⟩
  | cons c s ih =>
    obtain ⟨p, hp, ht⟩ := pieces_escape c
    obtain ⟨ps, hps, hts⟩ := ih (p :: read)
    refine ⟨p :: ps, ?_, fun acc => ?_⟩
    · rw [List.flatMap_cons, List.append_assoc, hp, hps]
      simp
    · rw [ht, hts]
      simp

lemma Lexes.quote (h : Lexes cs ts) (s : String) : Lexes ((Json.quote s).toList ++ cs) (.string (some s) :: ts) := by
  have hq : (Json.quote s).toList = '"' :: (s.toList.flatMap escape ++ ['"']) := by simp [Json.quote]
  refine h.token (by simp [hq]) fun fuel => ?_
  obtain ⟨ps, hp, ht⟩ := pieces_flatMap s.toList [] cs
  rw [hq, List.cons_append, List.append_assoc, List.singleton_append, lexFrom, hp]
  simp [ht]

end Strings

lemma numeral_append {w : List Char} (hw : ∀ c ∈ w, isNumeral c = true) (hcs : ∀ c ∈ cs.head?, isNumeral c = false) :
    numeral (w ++ cs) = (w, cs) := by
  have hd : cs.takeWhile isNumeral = [] ∧ cs.dropWhile isNumeral = cs := by
    cases cs with
    | nil => exact ⟨rfl, rfl⟩
    | cons c cs => simp [hcs c rfl]
  change (w ++ cs).span isNumeral = _
  rw [List.span_eq_takeWhile_dropWhile, List.takeWhile_append_of_pos hw, List.dropWhile_append_of_pos hw, hd.1, hd.2,
    List.append_nil]

lemma lexFrom_numeral {c : Char} (hc : isNumeral c = true) (fuel : Nat) (cs : List Char) :
    lexFrom (fuel + 1) (c :: cs) = (number? (numeral (c :: cs)).1).bind fun n =>
      (lexFrom fuel (numeral (c :: cs)).2).map (.number n :: ·) := by
  have hs : isSpace c = false := by
    simp only [isSpace, Bool.or_eq_false_iff, beq_eq_false_iff_ne]
    refine ⟨⟨⟨?_, ?_⟩, ?_⟩, ?_⟩ <;> rintro rfl <;> cases hc
  rw [lexFrom]
  · rw [hs]
    rfl
  all_goals
    intros
    subst_vars
    cases hc

lemma Lexes.number {n : Number} (h : Lexes cs ts) (hn : n.Rereadable) (hcs : ∀ c ∈ cs.head?, isNumeral c = false) :
    Lexes (n.text.toList ++ cs) (.number (some n) :: ts) := by
  have hne : n.text.toList ≠ [] := by
    intro he
    have hr := hn.read
    rw [he] at hr
    cases hr
  refine h.token hne fun fuel => ?_
  obtain ⟨c, w, hw⟩ := List.exists_cons_of_ne_nil hne
  have hc : isNumeral c = true := hn.numeral c (by simp [hw])
  rw [hw, List.cons_append, lexFrom_numeral hc, ← List.cons_append, ← hw, numeral_append hn.numeral hcs, hn.read]
  rfl

end Json

namespace Value

open Json (Token)

mutual

def tokens : Value → List Token
  | null => [.null]
  | bool b => [.bool b]
  | number n => [.number (some n)]
  | string s => [.string (some s)]
  | array items => .openArray :: ([Token.comma].intercalate (tokensOfItems items) ++ [.closeArray])
  | object fields => .openObject :: ([Token.comma].intercalate (tokensOfFields fields) ++ [.closeObject])

def tokensOfItems : List Value → List (List Token)
  | [] => []
  | v :: vs => v.tokens :: tokensOfItems vs

def tokensOfFields : List (String × Value) → List (List Token)
  | [] => []
  | (k, v) :: fs => (.string (some k) :: .colon :: v.tokens) :: tokensOfFields fs

end

end Value

namespace Json

variable {cs : List Char} {ts : List Token}

def Spells (w : String) (us : List Token) : Prop :=
  ∀ {cs ts}, (∀ c ∈ cs.head?, isNumeral c = false) → Lexes cs ts → Lexes (w.toList ++ cs) (us ++ ts)

lemma lexes_intercalate {ws : List String} {uss : List (List Token)} (h : List.Forall₂ Spells ws uss)
    (hcs : ∀ c ∈ cs.head?, isNumeral c = false) (hl : Lexes cs ts) :
    Lexes ((",".intercalate ws).toList ++ cs) ([Token.comma].intercalate uss ++ ts) := by
  rw [String.toList_intercalate]
  induction h with
  | nil => exact hl
  | cons hw h ih =>
    cases h with
    | nil => simpa using hw hcs hl
    | cons hx h =>
      have hcomma : Lexes (",".toList ++ _) (.comma :: _) := ih.token (by simp) fun _ => rfl
      have hall := hw (by simp [isNumeral]) hcomma
      simpa [List.intercalate] using hall

def Marks (w : String) (t : Token) : Prop := ∀ {cs ts}, Lexes cs ts → Lexes (w.toList ++ cs) (t :: ts)

lemma marks_of_step {w : String} {t : Token} (hw : w.toList ≠ [])
    (hs : ∀ fuel cs, lexFrom (fuel + 1) (w.toList ++ cs) = (lexFrom fuel cs).map (t :: ·)) : Marks w t :=
  fun h => h.token hw fun fuel => hs fuel _

lemma lexes_newline (depth : Nat) (h : Lexes cs ts) : Lexes ((newline depth).toList ++ cs) ts := by
  rw [newline, String.toList_ofList]
  refine h.blank fun c hc => ?_
  rcases List.mem_cons.mp hc with rfl | hc
  · exact .inr rfl
  · exact .inl (List.eq_of_mem_replicate hc)

lemma lexes_enclosed {opening closing : String} {l r : Token} (ho : Marks opening l) (hc : Marks closing r)
    {ws : List String} {uss : List (List Token)} (h : List.Forall₂ Spells ws uss) (depth : Nat) (hl : Lexes cs ts) :
    Lexes ((opening ++ ",".intercalate ws ++ newline depth ++ closing).toList ++ cs)
      (l :: ([Token.comma].intercalate uss ++ [r]) ++ ts) := by
  have hn : ∀ c ∈ ((newline depth).toList ++ (closing.toList ++ cs)).head?, isNumeral c = false := by
    simp [newline, isNumeral]
  have hall := ho (lexes_intercalate h hn (lexes_newline depth (hc hl)))
  simpa using hall

mutual

lemma spells_indented (v : Value) (hv : ∀ n, Value.number n ∈ v.scalars → n.Rereadable) (depth : Nat) :
    Spells (indented depth v) v.tokens := by
  intro cs ts hcs hl
  cases v with
  | null =>
    rw [indented, Value.tokens]
    exact hl.token (by simp) fun _ => rfl
  | bool b =>
    rw [indented, Value.tokens]
    cases b <;> exact hl.token (by simp) fun _ => rfl
  | number n =>
    rw [indented, Value.tokens]
    exact hl.number (hv n (by simp [Value.scalars])) hcs
  | string s =>
    rw [indented, Value.tokens]
    exact hl.quote s
  | array items =>
    have ho : Marks "[" .openArray := marks_of_step (by simp) fun _ _ => rfl
    have hc : Marks "]" .closeArray := marks_of_step (by simp) fun _ _ => rfl
    have hitems := spells_items items hv (depth + 1)
    rw [Value.tokens]
    cases items with
    | nil => simpa [indented, Value.tokensOfItems] using ho (hc hl)
    | cons v vs => exact lexes_enclosed ho hc hitems depth hl
  | object fields =>
    have ho : Marks "\x7b" .openObject := marks_of_step (by simp) fun _ _ => rfl
    have hc : Marks "\x7d" .closeObject := marks_of_step (by simp) fun _ _ => rfl
    have hfields := spells_fields fields hv (depth + 1)
    rw [Value.tokens]
    cases fields with
    | nil => simpa [indented, Value.tokensOfFields] using ho (hc hl)
    | cons e es => exact lexes_enclosed ho hc hfields depth hl

lemma spells_items (vs : List Value) (hv : ∀ n, Value.number n ∈ Value.scalarsOfItems vs → n.Rereadable)
    (depth : Nat) : List.Forall₂ Spells (indentedItems depth vs) (Value.tokensOfItems vs) := by
  cases vs with
  | nil => exact .nil
  | cons v vs =>
    refine .cons ?_ (spells_items vs (fun n hn => hv n (List.mem_append_right _ hn)) depth)
    intro cs ts hcs hl
    have hrest := spells_indented v (fun n hn => hv n (List.mem_append_left _ hn)) depth hcs hl
    simpa using lexes_newline depth hrest

lemma spells_fields (fields : List (String × Value))
    (hv : ∀ n, Value.number n ∈ Value.scalarsOfFields fields → n.Rereadable) (depth : Nat) :
    List.Forall₂ Spells (indentedFields depth fields) (Value.tokensOfFields fields) := by
  match fields with
  | [] => exact .nil
  | (k, v) :: fields =>
    refine .cons ?_ (spells_fields fields (fun n hn => hv n (List.mem_append_right _ hn)) depth)
    intro cs ts hcs hl
    have hrest := spells_indented v (fun n hn => hv n (List.mem_append_left _ hn)) depth hcs hl
    have hblank : Lexes (" ".toList ++ _) _ := hrest.blank (by simp)
    have hcolon : Lexes (":".toList ++ _) (.colon :: _) := hblank.token (by simp) fun _ => rfl
    simpa using lexes_newline depth (hcolon.quote k)

end

theorem lex_pretty {v : Value} (hv : ∀ n, Value.number n ∈ v.scalars → n.Rereadable) :
    lex (pretty v ++ "\n") = some v.tokens := by
  have hend : Lexes ("\n".toList ++ []) [] := lexes_nil.blank (by simp)
  have hall := spells_indented v hv 0 (by simp [isNumeral]) hend
  rw [List.append_nil, List.append_nil, ← String.toList_append] at hall
  exact hall _ (Nat.le_refl _)

end Json

end DocQuery
