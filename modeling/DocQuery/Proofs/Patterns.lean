import DocQuery.Pattern
import Mathlib.Data.List.Infix
import Mathlib.Data.String.Basic
import Mathlib.Tactic.Lemma

/-! What a pattern with wildcards accepts: the texts that decompose along it, which are those that the
regular expression it spells denotes. -/

namespace DocQuery

open Wildcard (isMeta)

namespace Wildcard

def quoted (c : Char) : List Char := if isMeta c then ['\\', c] else [c]

def spelled : Wildcard → List Char
  | .any => ['.', '*']
  | .one => ['.']
  | .char c => quoted c

lemma utf8Size_of_isMeta {c : Char} (h : isMeta c = true) : c.utf8Size = 1 := by
  have hall {cs : List Char} (hs : cs.all (·.utf8Size == 1) = true) (hc : cs.contains c = true) :
      c.utf8Size = 1 := by
    simpa using List.all_eq_true.mp hs c (List.contains_iff_mem.mp hc)
  exact hall (by decide) h

lemma utf8Len_spelled (w : Wildcard) : String.utf8Len w.spelled = w.cost := by
  cases w with
  | any => rfl
  | one => rfl
  | char c =>
    rw [spelled, quoted, cost]
    split
    next h =>
      rw [String.utf8Len_cons, String.utf8Len_cons, utf8Size_of_isMeta h]
      rfl
    next => exact Nat.zero_add _

end Wildcard

namespace Pattern

def regex (s : String) : String :=
  "(?s)^" ++ String.ofList ((ofChars s.toList).flatMap Wildcard.spelled) ++ "$"

/-- The text decomposes along the characters of a pattern. -/
inductive Covers : List Char → List Char → Prop
  | nil : Covers [] []
  | any (u : List Char) {cs t : List Char} : Covers cs t → Covers ('%' :: cs) (u ++ t)
  | one (c : Char) {cs t : List Char} : Covers cs t → Covers ('_' :: cs) (c :: t)
  | escaped (c : Char) {cs t : List Char} : Covers cs t → Covers ('\\' :: c :: cs) (c :: t)
  | backslash : Covers ['\\'] ['\\']
  | plain {c : Char} {cs t : List Char} (h : c ∉ ['%', '_', '\\']) : Covers cs t → Covers (c :: cs) (c :: t)

/-- The texts of a regular expression made of dots, starred dots, quoted characters and characters that
need no quoting. -/
inductive Denotes : List Char → List Char → Prop
  | nil : Denotes [] []
  | dots (u : List Char) {e t : List Char} : Denotes e t → Denotes ('.' :: '*' :: e) (u ++ t)
  | dot (c : Char) {e t : List Char} : Denotes e t → Denotes ('.' :: e) (c :: t)
  | quoted {c : Char} {e t : List Char} (h : isMeta c = true) : Denotes e t → Denotes ('\\' :: c :: e) (c :: t)
  | plain {c : Char} {e t : List Char} (h : isMeta c = false) : Denotes e t → Denotes (c :: e) (c :: t)

def Matches (expression text : String) : Prop :=
  ∃ e, expression = "(?s)^" ++ String.ofList e ++ "$" ∧ Denotes e text.toList

def literal (t : List Char) : List Char :=
  t.flatMap fun c => if c ∈ ['%', '_', '\\'] then ['\\', c] else [c]

def fits : Pattern → List Char → Bool
  | [], t => t.isEmpty
  | .any :: p, t => t.tails.any (fits p)
  | .one :: _, [] => false
  | .one :: p, _ :: t => fits p t
  | .char _ :: _, [] => false
  | .char c :: p, d :: t => c == d && fits p t

variable {p : Pattern} {c : Char} {cs e t : List Char}

lemma fits_any_iff : fits (.any :: p) t = true ↔ ∃ u v, t = u ++ v ∧ fits p v = true := by
  rw [fits, List.any_eq_true]
  constructor
  · rintro ⟨v, hv, hf⟩
    obtain ⟨u, rfl⟩ := (List.mem_tails _ _).mp hv
    exact ⟨u, v, rfl, hf⟩
  · rintro ⟨u, v, rfl, hf⟩
    exact ⟨v, (List.mem_tails _ _).mpr (List.suffix_append u v), hf⟩

lemma fits_one_iff : fits (.one :: p) t = true ↔ ∃ c v, t = c :: v ∧ fits p v = true := by
  cases t <;> simp [fits]

lemma fits_char_iff : fits (.char c :: p) t = true ↔ ∃ v, t = c :: v ∧ fits p v = true := by
  cases t with
  | nil => simp [fits]
  | cons d t =>
    rw [fits, Bool.and_eq_true, beq_iff_eq]
    constructor
    · rintro ⟨rfl, h⟩
      exact ⟨t, rfl, h⟩
    · rintro ⟨v, ⟨⟩, h⟩
      exact ⟨rfl, h⟩

lemma anyFrom_tails (f : List Char → Bool) (t : List Char) :
    anyFrom (t.tails.map f) = t.tails.map fun v => v.tails.any f := by
  induction t with
  | nil => simp [anyFrom]
  | cons c t ih =>
    rw [List.tails_cons, List.map_cons, anyFrom, ih, List.map_cons, List.tails_cons, List.any_cons]
    cases t <;> simp

lemma drop_tails (f : List Char → Bool) (t : List Char) :
    (t.tails.map f).drop 1 ++ [false] = t.tails.map fun
      | [] => false
      | _ :: v => f v := by
  induction t with
  | nil => rfl
  | cons d t ih =>
    rw [List.tails_cons, List.map_cons, List.map_cons, ← ih]
    cases t <;> simp

lemma zipWith_tails (f : List Char → Bool) (c : Char) (t : List Char) :
    List.zipWith (fun d b => c == d && b) t ((t.tails.map f).drop 1) ++ [false] = t.tails.map fun
      | [] => false
      | d :: v => c == d && f v := by
  induction t with
  | nil => rfl
  | cons d t ih =>
    rw [List.tails_cons, List.map_cons, List.map_cons, ← ih]
    cases t <;> simp

lemma ends_eq (p : Pattern) (t : List Char) : ends p t = t.tails.map (fits p) := by
  induction p with
  | nil =>
    induction t with
    | nil => rfl
    | cons c t ih => simpa [ends, fits] using ih
  | cons w p ih =>
    cases w with
    | any => rw [ends, ih, anyFrom_tails]; rfl
    | one =>
      rw [ends, ih, drop_tails]
      exact List.map_congr_left fun v _ => by cases v <;> rfl
    | char c =>
      rw [ends, ih, zipWith_tails]
      exact List.map_congr_left fun v _ => by cases v <;> rfl

lemma accepts_eq (p : Pattern) (text : String) : p.accepts text = fits p text.toList := by
  rw [accepts, ends_eq]
  cases text.toList <;> simp

lemma fits_ofChars_iff (cs t : List Char) : fits (ofChars cs) t = true ↔ Covers cs t := by
  induction cs using ofChars.induct generalizing t with
  | case1 =>
    rw [ofChars, fits, List.isEmpty_iff]
    constructor
    · rintro rfl
      exact .nil
    · rintro ⟨⟩
      rfl
  | case2 c cs ih =>
    rw [ofChars, fits_char_iff]
    constructor
    · rintro ⟨v, rfl, hv⟩
      exact .escaped c ((ih v).mp hv)
    · intro h
      cases h with
      | escaped _ hv => exact ⟨_, rfl, (ih _).mpr hv⟩
      | plain hc => simp at hc
  | case3 cs ih =>
    rw [ofChars, fits_any_iff]
    constructor
    · rintro ⟨u, v, rfl, hv⟩
      exact .any u ((ih v).mp hv)
    · intro h
      cases h with
      | any u hv => exact ⟨u, _, rfl, (ih _).mpr hv⟩
      | plain hc => simp at hc
  | case4 cs ih =>
    rw [ofChars, fits_one_iff]
    constructor
    · rintro ⟨c, v, rfl, hv⟩
      exact .one c ((ih v).mp hv)
    · intro h
      cases h with
      | one c hv => exact ⟨c, _, rfl, (ih _).mpr hv⟩
      | plain hc => simp at hc
  | case5 c cs hesc hany hone ih =>
    have hofs : ofChars (c :: cs) = .char c :: ofChars cs := by
      rw [ofChars]
      exacts [hesc, hany, hone]
    rw [hofs, fits_char_iff]
    constructor
    · rintro ⟨v, rfl, hv⟩
      have hcs := (ih v).mp hv
      by_cases hc : c = '\\'
      · subst hc
        cases cs with
        | nil =>
          cases hcs
          exact .backslash
        | cons d cs => exact (hesc d cs rfl rfl).elim
      · exact .plain (by simp [hc]; exact ⟨hany, hone⟩) hcs
    · intro h
      cases h with
      | any => exact (hany rfl).elim
      | one => exact (hone rfl).elim
      | escaped c => exact (hesc c _ rfl rfl).elim
      | backslash => exact ⟨[], rfl, rfl⟩
      | plain _ hv => exact ⟨_, rfl, (ih _).mpr hv⟩

lemma fits_literal_iff (u t : List Char) : fits (ofChars (literal u)) t = true ↔ t = u := by
  have hofs : ofChars (literal u) = u.map .char := by
    induction u with
    | nil => rfl
    | cons c u ih =>
      rw [literal, List.flatMap_cons, ← literal, List.map_cons, ← ih]
      split
      next => rfl
      next h =>
        simp only [List.mem_cons, List.not_mem_nil, or_false, not_or] at h
        rw [List.singleton_append, ofChars]
        exacts [fun _ _ hc _ => h.2.2 hc, h.1, h.2.1]
  rw [hofs]
  clear hofs
  induction u generalizing t with
  | nil => simp [fits]
  | cons c u ih =>
    rw [List.map_cons, fits_char_iff]
    constructor
    · rintro ⟨v, rfl, hv⟩
      rw [(ih v).mp hv]
    · rintro rfl
      exact ⟨u, rfl, (ih u).mpr rfl⟩

lemma denotes_quoted_iff : Denotes (Wildcard.quoted c ++ e) t ↔ ∃ v, t = c :: v ∧ Denotes e v := by
  unfold Wildcard.quoted
  constructor
  · intro h
    split at h
    next hc =>
      cases h with
      | quoted _ hv => exact ⟨_, rfl, hv⟩
      | plain hb => exact absurd hb (by decide)
    next hc =>
      cases h with
      | dots | dot | quoted => exact absurd rfl hc
      | plain _ hv => exact ⟨_, rfl, hv⟩
  · rintro ⟨v, rfl, hv⟩
    split
    next hc => exact .quoted hc hv
    next hc => exact .plain (by simpa using hc) hv

lemma spelled_ne_star (p : Pattern) (e : List Char) : p.flatMap Wildcard.spelled ≠ '*' :: e := by
  cases p with
  | nil => simp
  | cons w p =>
    cases w with
    | any | one => simp [Wildcard.spelled]
    | char c =>
      rw [List.flatMap_cons, Wildcard.spelled, Wildcard.quoted]
      split
      next => simp
      next h =>
        rintro ⟨⟩
        exact h rfl

lemma denotes_spelled_iff (p : Pattern) (t : List Char) :
    Denotes (p.flatMap Wildcard.spelled) t ↔ fits p t = true := by
  induction p generalizing t with
  | nil =>
    rw [List.flatMap_nil, fits, List.isEmpty_iff]
    constructor
    · rintro ⟨⟩
      rfl
    · rintro rfl
      exact .nil
  | cons w p ih =>
    rw [List.flatMap_cons]
    cases w with
    | any =>
      rw [fits_any_iff]
      constructor
      · intro h
        cases h with
        | dots u hv => exact ⟨u, _, rfl, (ih _).mp hv⟩
        | dot c hv =>
          cases hv with
          | plain hs => exact absurd hs (by decide)
        | plain hs => exact absurd hs (by decide)
      · rintro ⟨u, v, rfl, hv⟩
        exact .dots u ((ih v).mpr hv)
    | one =>
      rw [fits_one_iff]
      constructor
      · intro h
        rw [Wildcard.spelled, List.singleton_append] at h
        generalize he : p.flatMap Wildcard.spelled = e at h
        cases h with
        | dots => exact absurd he (spelled_ne_star p _)
        | dot c hv => exact ⟨c, _, rfl, (ih _).mp (he ▸ hv)⟩
        | plain hd => exact absurd hd (by decide)
      · rintro ⟨c, v, rfl, hv⟩
        exact .dot c ((ih v).mpr hv)
    | char c =>
      rw [fits_char_iff, Wildcard.spelled, denotes_quoted_iff]
      simp only [ih]

/-! ### Patterns and their regular expressions -/

lemma utf8ByteSize_regex (s : String) : (regex s).utf8ByteSize = cost (ofChars s.toList) := by
  have hcost : ∀ (p : Pattern) (n : Nat),
      p.foldl (fun n w => n + w.cost) n = n + String.utf8Len (p.flatMap Wildcard.spelled) := by
    intro p
    induction p with
    | nil => exact fun n => rfl
    | cons w p ih =>
      intro n
      rw [List.foldl_cons, ih, List.flatMap_cons, String.utf8Len_append, Wildcard.utf8Len_spelled, Nat.add_assoc]
  have hpre : "(?s)^".utf8ByteSize = 5 := by decide
  have hpost : "$".utf8ByteSize = 1 := by decide
  rw [regex, String.utf8ByteSize_append, String.utf8ByteSize_append, hpre, hpost, String.utf8ByteSize_ofList,
    cost, hcost]
  omega

lemma read?_eq_some {s : String} (h : read? s = some p) : p = ofChars s.toList := by
  simp only [read?] at h
  split at h
  · exact (Option.some.inj h).symm
  · cases h

lemma read?_eq_none_iff (s : String) : read? s = none ↔ 1000 < (regex s).utf8ByteSize := by
  rw [utf8ByteSize_regex]
  simp [read?]

lemma matches_regex_iff (s text : String) :
    Matches (regex s) text ↔ Denotes ((ofChars s.toList).flatMap Wildcard.spelled) text.toList := by
  constructor
  · rintro ⟨e, he, h⟩
    rw [regex, String.append_left_inj, String.append_right_inj, String.ofList_inj] at he
    exact he ▸ h
  · exact fun h => ⟨_, rfl, h⟩

theorem accepts_iff_covers (s : String) :
    (read? s = none ↔ 1000 < (regex s).utf8ByteSize) ∧
    ∀ p, read? s = some p → ∀ text : String,
      (p.accepts text = true ↔ Matches (regex s) text) ∧
      (p.accepts text = true ↔ Covers s.toList text.toList) ∧
      ∀ u : String, s = String.ofList (literal u.toList) → (p.accepts text = true ↔ text = u) := by
  refine ⟨read?_eq_none_iff s, fun p hp text => ?_⟩
  have hfits : p.accepts text = fits (ofChars s.toList) text.toList := by
    rw [accepts_eq, read?_eq_some hp]
  rw [hfits]
  refine ⟨?_, fits_ofChars_iff _ _, fun u hu => ?_⟩
  · rw [matches_regex_iff, denotes_spelled_iff]
  · rw [hu, String.toList_ofList, fits_literal_iff, String.toList_inj]

theorem accepts_iff_covers_percent :
    read? "1.5\\%_%" = some [.char '1', .char '.', .char '5', .char '%', .one, .any] ∧
    Matches (regex "1.5\\%_%") "1.5%\n" ∧ Covers "1.5\\%_%".toList "1.5%\n".toList ∧
    read? "1\\%" = some [.char '1', .char '%'] ∧ ¬ Covers "1\\%".toList "1\\%".toList := by
  have hp : read? "1.5\\%_%" = some [.char '1', .char '.', .char '5', .char '%', .one, .any] := by decide
  have hq : read? "1\\%" = some [.char '1', .char '%'] := by decide
  have h := (accepts_iff_covers "1.5\\%_%").2 _ hp "1.5%\n"
  have hu := ((accepts_iff_covers "1\\%").2 _ hq "1\\%").2
  refine ⟨hp, h.1.mp (by decide), h.2.1.mp (by decide), hq, fun hc => ?_⟩
  exact absurd ((hu.2 "1%" (by decide)).mp (hu.1.mpr hc)) (by decide)

end Pattern

end DocQuery
