import DocQuery.Proofs.Function.Delimiters
import Mathlib.Algebra.GroupWithZero.Nat

/-! How long the texts are that functions put together. Those that repeat a text or pad one compare the length with the
longest one and give null beyond it; those that join texts, replace parts of them or change their case do not. -/

namespace DocQuery.Function.Text

open DocQuery.Text (parts cycle lowerChar lowerFrom upperChar)

def Oversized : Value → Prop
  | .string s => maxLength < s.length
  | _ => False

/-- The functions that compare the length with the longest one. -/
def guarded : List String := ["LPAD", "RPAD", "REPEAT", "SPACE"]

def joined (separator : List Char) (ps : List (List Char)) : Nat :=
  (ps.map List.length).sum + (ps.length - 1) * separator.length

def inserted (count : Nat) (position length : Int) (new : Nat) : Nat :=
  if position < 1 ∨ position > count then count
  else position.toNat - 1 + new + if length < 0 then 0 else count - (position.toNat - 1 + length.toNat)

def concatSize (args : List Value) : Nat :=
  if args.any Value.isNull then 0 else (args.map (·.text.length)).sum

def orZero (n : Option Nat) : Nat := n.getD 0

def concatWithSize (args : List Value) : Nat := orZero do
  let separator ← text? args 0
  return joined separator (((args.drop 1).filter (!·.isNull)).map (·.text.toList))

def insertSize (args : List Value) : Nat := orZero do
  let cs ← text? args 0
  let position ← int? args 1
  let length ← int? args 2
  let new ← text? args 3
  return inserted cs.length position length new.length

def replaceSize (args : List Value) : Nat := orZero do
  let cs ← text? args 0
  let old ← text? args 1
  let new ← text? args 2
  return if old = [] then cs.length else joined new (parts old cs)

def caseSize (change : Char → List Char) (args : List Value) : Nat := orZero do
  let cs ← text? args 0
  return (cs.map fun c => (change c).length).sum

def padSize (args : List Value) : Nat := ((int? args 1).getD 0).toNat

def repeatSize (args : List Value) : Nat := ((text? args 0).getD []).length * ((int? args 1).getD 0).toNat

def spacesSize (args : List Value) : Nat := ((int? args 0).getD 0).toNat

def sizes : List (String × (List Value → Nat)) :=
  [("CONCAT", concatSize),
    ("CONCAT_WS", concatWithSize),
    ("INSERT", insertSize),
    ("REPLACE", replaceSize),
    ("LCASE", caseSize lowerChar),
    ("LOWER", caseSize lowerChar),
    ("UCASE", caseSize upperChar),
    ("UPPER", caseSize upperChar),
    ("LPAD", padSize),
    ("RPAD", padSize),
    ("REPEAT", repeatSize),
    ("SPACE", spacesSize)]

def built (name : String) : List Value → Nat := (sizes.lookup name).getD fun _ => 0

lemma oversized_ofChars {cs : List Char} : Oversized (ofChars cs) ↔ maxLength < cs.length := by
  rw [ofChars, Oversized, String.length_ofList]

lemma not_oversized_null : ¬ Oversized .null := id

lemma oversized_null_iff : Oversized .null ↔ maxLength < 0 := iff_of_false not_oversized_null (Nat.not_lt_zero _)

lemma not_oversized_int (n : Int) : ¬ Oversized (.int n) := id

lemma not_oversized_ofNat (n : Nat) : ¬ Oversized (.ofNat n) := id

lemma not_oversized_ofChars {cs : List Char} (h : cs.length ≤ maxLength) : ¬ Oversized (ofChars cs) :=
  mt oversized_ofChars.mp (Nat.not_lt.mpr h)

lemma not_oversized_position (i : Option Nat) : ¬ Oversized (position i) := id

lemma not_oversized_sign (o : Ordering) : ¬ Oversized (sign o) := by cases o <;> exact not_oversized_int _

section Reading

variable {α : Type} {o : Option α} {f : α → Option Value}

lemma orNull_bind (p : Value → Prop) (hnull : p .null) (h : ∀ a, o = some a → p (orNull (f a))) :
    p (orNull (o >>= f)) := by
  cases o with
  | none => exact hnull
  | some a => exact h a rfl

lemma not_oversized_bind (h : ∀ a, o = some a → ¬ Oversized (orNull (f a))) : ¬ Oversized (orNull (o >>= f)) :=
  orNull_bind (fun v => ¬ Oversized v) not_oversized_null h

lemma bind_eq_null (h : ∀ a, o = some a → orNull (f a) = .null) : orNull (o >>= f) = .null :=
  orNull_bind (· = .null) rfl h

lemma oversized_bind {size : α → Option Nat} (h : ∀ a, Oversized (orNull (f a)) ↔ maxLength < orZero (size a)) :
    Oversized (orNull (o >>= f)) ↔ maxLength < orZero (o >>= size) := by
  cases o with
  | none => exact oversized_null_iff
  | some a => exact h a

end Reading

section Arguments

variable {args : List Value} (hargs : ∀ v ∈ args, v.text.length ≤ maxLength)

include hargs

lemma length_le_of_text? {i : Nat} {cs : List Char} (h : text? args i = some cs) : cs.length ≤ maxLength := by
  unfold text? at h
  split at h
  · cases h
  · cases h
  · next v _ hv =>
    cases h
    exact String.length_toList ▸ hargs v (List.mem_of_getElem? hv)

lemma not_oversized_ofText {f : List Char → Value} (h : ∀ cs, cs.length ≤ maxLength → ¬ Oversized (f cs)) :
    ¬ Oversized (ofText f args) :=
  not_oversized_bind fun cs hcs => h cs (length_le_of_text? hargs hcs)

lemma not_oversized_ofTextAndInt {f : List Char → Int → Value}
    (h : ∀ cs n, cs.length ≤ maxLength → ¬ Oversized (f cs n)) : ¬ Oversized (ofTextAndInt f args) :=
  not_oversized_bind fun cs hcs => not_oversized_bind fun n _ => h cs n (length_le_of_text? hargs hcs)

lemma not_oversized_byDelimiter : ¬ Oversized (byDelimiter args) :=
  not_oversized_bind fun _ hcs => not_oversized_bind fun _ _ => not_oversized_bind fun _ _ =>
    not_oversized_ofChars ((length_substringIndex_le ..).trans (length_le_of_text? hargs hcs))

end Arguments

lemma length_trimStart_le (cs : List Char) : (trimStart cs).length ≤ cs.length :=
  (List.dropWhile_sublist _).length_le

lemma length_trimEnd_le (cs : List Char) : (trimEnd cs).length ≤ cs.length := by
  rw [trimEnd, List.length_reverse]
  exact (length_trimStart_le _).trans_eq List.length_reverse

lemma length_substring_le (cs : List Char) (position : Int) (length : Option Int) :
    (substring cs position length).length ≤ cs.length := by
  simp only [substring]
  generalize (if position < 0 then (cs.length : Int) + position else position - 1) = start
  split
  · exact Nat.zero_le _
  · cases length with
    | none => exact (List.drop_sublist ..).length_le
    | some n => exact ((List.take_sublist ..).trans (List.drop_sublist ..)).length_le

lemma not_oversized_field (args : List Value) : ¬ Oversized (field args) := by
  rw [field]
  cases text? args 0 with
  | none => exact not_oversized_int 0
  | some needle => exact not_oversized_position _

lemma not_oversized_findInSet (args : List Value) : ¬ Oversized (findInSet args) := by
  refine not_oversized_bind fun needle _ => not_oversized_bind fun list _ => ?_
  show ¬ Oversized (if list = [] then .int 0 else position ((parts [','] list).findIdx? (· == needle)))
  split
  · exact not_oversized_int 0
  · exact not_oversized_position _

lemma not_oversized_inText (args : List Value) : ¬ Oversized (inText args) :=
  not_oversized_bind fun _ _ => not_oversized_bind fun _ _ => not_oversized_ofNat _

lemma not_oversized_locateFrom (args : List Value) : ¬ Oversized (locateFrom args) :=
  not_oversized_bind fun _ _ => not_oversized_bind fun _ _ => not_oversized_ofNat _

lemma not_oversized_compareTexts (args : List Value) : ¬ Oversized (compareTexts args) :=
  not_oversized_bind fun _ _ => not_oversized_bind fun _ _ => not_oversized_sign _

section Guarded

lemma length_cycle_le (cs : List Char) (n : Nat) : (cycle cs n).length ≤ n :=
  (List.length_filterMap_le ..).trans_eq List.length_range

lemma length_filling {cs padding filling : List Char} {length : Int} (h : filling? cs length padding = some filling) :
    (cs.take length.toNat).length + filling.length ≤ maxLength := by
  unfold filling? at h
  split at h
  · cases h
  · next hin =>
    have htake : (cs.take length.toNat).length ≤ length.toNat := List.length_take_le ..
    split at h
    · cases h
      simp only [List.length_nil]
      omega
    · split at h
      · cases h
      · cases h
        have hcycle := length_cycle_le padding (length.toNat - cs.length)
        have hall : (cs.take length.toNat).length ≤ cs.length := List.length_take_le' ..
        omega

lemma not_oversized_pad {join : List Char → List Char → List Char}
    (hjoin : ∀ cs filling, (join cs filling).length = cs.length + filling.length) (args : List Value) :
    ¬ Oversized (pad join args) :=
  not_oversized_bind fun _ _ => not_oversized_bind fun _ _ => not_oversized_bind fun _ _ =>
    not_oversized_bind fun _ hfilling => not_oversized_ofChars ((hjoin ..).trans_le (length_filling hfilling))

lemma pad_eq_null (join : List Char → List Char → List Char) {args : List Value} (h : maxLength < padSize args) :
    pad join args = .null := by
  refine bind_eq_null fun cs _ => bind_eq_null fun length hlength => bind_eq_null fun padding _ =>
    bind_eq_null fun filling hfilling => ?_
  rw [padSize, hlength, Option.getD_some] at h
  have hnone : filling? cs length padding = none := if_pos (by omega)
  cases hnone.symm.trans hfilling

lemma not_oversized_repeated (cs : List Char) (n : Int) : ¬ Oversized (repeated cs n) := by
  rw [repeated]
  split
  · exact not_oversized_ofChars (Nat.zero_le _)
  · split
    · next h =>
      refine not_oversized_ofChars ?_
      rwa [List.length_flatten, List.map_replicate, List.sum_replicate_nat, Nat.mul_comm]
    · exact not_oversized_null

lemma not_oversized_repeat (args : List Value) : ¬ Oversized (ofTextAndInt repeated args) :=
  not_oversized_bind fun cs _ => not_oversized_bind fun n _ => not_oversized_repeated cs n

lemma repeated_eq_null {cs : List Char} {n : Int} (h : maxLength < cs.length * n.toNat) : repeated cs n = .null := by
  have hne : cs ≠ [] := by
    rintro rfl
    rw [List.length_nil, Nat.zero_mul] at h
    exact Nat.not_lt_zero _ h
  rw [repeated, if_neg hne, if_neg (Nat.not_le.mpr h)]

lemma repeat_eq_null {args : List Value} (h : maxLength < repeatSize args) : ofTextAndInt repeated args = .null := by
  refine bind_eq_null fun cs hcs => bind_eq_null fun n hn => ?_
  rw [repeatSize, hcs, hn] at h
  exact repeated_eq_null h

lemma not_oversized_spaces (args : List Value) : ¬ Oversized (spaces args) := by
  refine not_oversized_bind fun n _ => ?_
  show ¬ Oversized (if n.toNat ≤ maxLength then ofChars (List.replicate n.toNat ' ') else .null)
  split
  · next h => exact not_oversized_ofChars (List.length_replicate.trans_le h)
  · exact not_oversized_null

lemma spaces_eq_null {args : List Value} (h : maxLength < spacesSize args) : spaces args = .null := by
  refine bind_eq_null fun n hn => ?_
  rw [spacesSize, hn] at h
  exact if_neg (Nat.not_le.mpr h)

end Guarded

section Unguarded

lemma length_intercalate (separator : List Char) (ps : List (List Char)) :
    (separator.intercalate ps).length = joined separator ps := by
  induction ps with
  | nil => simp [joined]
  | cons p ps ih =>
    cases ps with
    | nil => simp [joined]
    | cons q ps =>
      rw [List.intercalate_cons_cons, List.length_append, List.length_append, ih]
      simp only [joined, List.map_cons, List.sum_cons, List.length_cons, Nat.add_sub_cancel, Nat.succ_mul]
      omega

lemma length_insert (cs : List Char) (position length : Int) (new : List Char) :
    (insert cs position length new).length = inserted cs.length position length new.length := by
  simp only [insert, inserted]
  split
  · rfl
  · next hin =>
    have htake : (cs.take (position.toNat - 1)).length = position.toNat - 1 := List.length_take_of_le (by omega)
    rw [List.length_append, List.length_append, htake]
    split
    · rfl
    · rw [List.length_drop]

lemma length_lowerFrom (before cs : List Char) :
    (lowerFrom before cs).length = (cs.map fun c => (lowerChar c).length).sum := by
  induction cs generalizing before with
  | nil => rfl
  | cons c cs ih =>
    have hsigma : (lowerChar 'Σ').length = 1 := by decide
    rw [lowerFrom, List.length_append, ih, List.map_cons, List.sum_cons]
    split
    · next hc => rw [hc, hsigma, List.length_singleton]
    · rfl

lemma oversized_concat (args : List Value) : Oversized (concat args) ↔ maxLength < concatSize args := by
  rw [concat, concatSize]
  split
  · exact oversized_null_iff
  · rw [Oversized, String.length_join, List.map_map]
    rfl

lemma oversized_concatWith (args : List Value) : Oversized (concatWith args) ↔ maxLength < concatWithSize args :=
  oversized_bind fun _ => oversized_ofChars.trans (by rw [length_intercalate]; rfl)

lemma oversized_insertAt (args : List Value) : Oversized (insertAt args) ↔ maxLength < insertSize args :=
  oversized_bind fun _ => oversized_bind fun _ => oversized_bind fun _ => oversized_bind fun _ =>
    oversized_ofChars.trans (by rw [length_insert]; rfl)

lemma length_replaced (old new cs : List Char) : (if old = [] then cs else DocQuery.Text.replace old new cs).length =
    if old = [] then cs.length else joined new (parts old cs) := by
  rw [apply_ite List.length, DocQuery.Text.replace, length_intercalate]

lemma oversized_replaceAll (args : List Value) : Oversized (replaceAll args) ↔ maxLength < replaceSize args :=
  oversized_bind fun _ => oversized_bind fun _ => oversized_bind fun _ =>
    oversized_ofChars.trans (by rw [length_replaced]; rfl)

lemma oversized_string {s : String} : Oversized (.string s) ↔ maxLength < s.length := Iff.rfl

lemma oversized_lower (args : List Value) :
    Oversized (ofText (fun cs => .string (DocQuery.Text.lower (String.ofList cs))) args) ↔
      maxLength < caseSize lowerChar args := by
  refine oversized_bind fun cs => oversized_string.trans ?_
  rw [DocQuery.Text.lower, String.length_ofList, length_lowerFrom, String.toList_ofList]
  rfl

lemma oversized_upper (args : List Value) :
    Oversized (ofText (fun cs => .string (DocQuery.Text.upper (String.ofList cs))) args) ↔
      maxLength < caseSize upperChar args := by
  refine oversized_bind fun cs => oversized_string.trans ?_
  rw [DocQuery.Text.upper, String.length_ofList, List.length_flatMap, String.toList_ofList]
  rfl

end Unguarded

def Measured (name : String) (f : Scalar) : Prop :=
  ∀ args, (∀ v ∈ args, v.text.length ≤ maxLength) →
    (Oversized (f args) ↔ name ∉ guarded ∧ maxLength < built name args) ∧
    (name ∈ guarded → maxLength < built name args → f args = .null)

namespace Measured

variable {name : String} {f : Scalar}

lemma of_parts (hname : name ∉ guarded) (hbuilt : built name = fun _ => 0)
    (h : ∀ args, (∀ v ∈ args, v.text.length ≤ maxLength) → ¬ Oversized (f args)) : Measured name f := by
  intro args hargs
  rw [hbuilt]
  exact ⟨iff_of_false (h args hargs) fun hlong => Nat.not_lt_zero _ hlong.2, fun hin => absurd hin hname⟩

lemma of_guarded (hname : name ∈ guarded) (h : ∀ args, ¬ Oversized (f args))
    (hnull : ∀ args, maxLength < built name args → f args = .null) : Measured name f :=
  fun args _ => ⟨iff_of_false (h args) fun hlong => hlong.1 hname, fun _ => hnull args⟩

lemma of_unguarded (hname : name ∉ guarded) (h : ∀ args, Oversized (f args) ↔ maxLength < built name args) :
    Measured name f :=
  fun args _ => ⟨(h args).trans (iff_and_self.mpr fun _ => hname), fun hin => absurd hin hname⟩

lemma of_number (hname : name ∉ guarded) (hbuilt : built name = fun _ => 0) (g : List Char → Nat) :
    Measured name (ofText fun cs => .ofNat (g cs)) :=
  of_parts hname hbuilt fun _ hargs => not_oversized_ofText hargs fun cs _ => not_oversized_ofNat (g cs)

lemma of_part (hname : name ∉ guarded) (hbuilt : built name = fun _ => 0) {g : List Char → List Char}
    (h : ∀ cs, (g cs).length ≤ cs.length) : Measured name (ofText fun cs => ofChars (g cs)) :=
  of_parts hname hbuilt fun _ hargs =>
    not_oversized_ofText hargs fun cs hcs => not_oversized_ofChars ((h cs).trans hcs)

lemma of_partAt (hname : name ∉ guarded) (hbuilt : built name = fun _ => 0)
    {g : List Value → List Char → Int → List Char} (h : ∀ args cs n, (g args cs n).length ≤ cs.length) :
    Measured name (fun args => ofTextAndInt (fun cs n => ofChars (g args cs n)) args) :=
  of_parts hname hbuilt fun args hargs =>
    not_oversized_ofTextAndInt hargs fun cs n hcs => not_oversized_ofChars ((h args cs n).trans hcs)

lemma of_mem : ∀ entry ∈ table, Measured entry.1 entry.2 := by
  simp only [table, List.forall_mem_cons]
  refine ⟨?ascii, ?charLength, ?characterLength, ?length, ?concat, ?concatWs, ?field, ?findInSet, ?insert, ?instr,
    ?locate, ?position, ?lcase, ?lower, ?ucase, ?upper, ?left, ?right, ?lpad, ?rpad, ?ltrim, ?rtrim, ?trim,
    ?mid, ?substr, ?substring, ?repeated, ?replace, ?reverse, ?space, ?strcmp, ?substringIndex, nofun⟩
  case ascii => exact of_number (by decide) rfl _
  case charLength => exact of_number (by decide) rfl _
  case characterLength => exact of_number (by decide) rfl _
  case length => exact of_number (by decide) rfl _
  case concat => exact of_unguarded (by decide) oversized_concat
  case concatWs => exact of_unguarded (by decide) oversized_concatWith
  case field => exact of_parts (by decide) rfl fun args _ => not_oversized_field args
  case findInSet => exact of_parts (by decide) rfl fun args _ => not_oversized_findInSet args
  case insert => exact of_unguarded (by decide) oversized_insertAt
  case instr => exact of_parts (by decide) rfl fun args _ => not_oversized_inText args
  case locate => exact of_parts (by decide) rfl fun args _ => not_oversized_locateFrom args
  case position => exact of_parts (by decide) rfl fun args _ => not_oversized_locateFrom args
  case lcase => exact of_unguarded (by decide) oversized_lower
  case lower => exact of_unguarded (by decide) oversized_lower
  case ucase => exact of_unguarded (by decide) oversized_upper
  case upper => exact of_unguarded (by decide) oversized_upper
  case left => exact of_partAt (by decide) rfl fun _ cs n => List.length_take_le' ..
  case right => exact of_partAt (by decide) rfl fun _ cs n => (List.drop_sublist ..).length_le
  case lpad =>
    have hjoin (cs filling : List Char) : (filling ++ cs).length = cs.length + filling.length := by
      rw [List.length_append, Nat.add_comm]
    exact of_guarded (by decide) (not_oversized_pad hjoin) fun _ => pad_eq_null _
  case rpad => exact of_guarded (by decide) (not_oversized_pad fun _ _ => List.length_append) fun _ => pad_eq_null _
  case ltrim => exact of_part (by decide) rfl length_trimStart_le
  case rtrim => exact of_part (by decide) rfl length_trimEnd_le
  case trim => exact of_part (by decide) rfl fun cs => (length_trimEnd_le _).trans (length_trimStart_le cs)
  case mid => exact of_partAt (by decide) rfl fun args cs n => length_substring_le ..
  case substr => exact of_partAt (by decide) rfl fun args cs n => length_substring_le ..
  case substring => exact of_partAt (by decide) rfl fun args cs n => length_substring_le ..
  case repeated => exact of_guarded (by decide) not_oversized_repeat fun _ => repeat_eq_null
  case replace => exact of_unguarded (by decide) oversized_replaceAll
  case reverse => exact of_part (by decide) rfl fun _ => List.length_reverse.le
  case space => exact of_guarded (by decide) not_oversized_spaces fun _ => spaces_eq_null
  case strcmp => exact of_parts (by decide) rfl fun args _ => not_oversized_compareTexts args
  case substringIndex => exact of_parts (by decide) rfl fun _ => not_oversized_byDelimiter

end Measured

theorem oversized_iff {name : String} {f : Scalar} (hf : (name, f) ∈ table) {args : List Value}
    (hargs : ∀ v ∈ args, v.text.length ≤ maxLength) :
    (Oversized (f args) ↔ name ∉ guarded ∧ maxLength < built name args) ∧
    (name ∈ guarded → maxLength < built name args → f args = .null) :=
  Measured.of_mem (name, f) hf args hargs

lemma concat_mem : ("CONCAT", concat) ∈ table := by
  simp [table]

theorem oversized_iff_concat : ("CONCAT", concat) ∈ table ∧
    (∀ v ∈ [Value.string "ab", .string "c"], v.text.length ≤ maxLength) ∧
    ¬ Oversized (concat [.string "ab", .string "c"]) := by
  have hargs : ∀ v ∈ [Value.string "ab", .string "c"], v.text.length ≤ maxLength := by decide
  exact ⟨concat_mem, hargs, fun h => absurd ((oversized_iff concat_mem hargs).1.mp h).2 (by decide)⟩

def longest : String := String.ofList (List.replicate maxLength 'a')

lemma length_longest : longest.length = maxLength := by
  rw [longest, String.length_ofList, List.length_replicate]

lemma concatSize_pair (s t : String) : concatSize [.string s, .string t] = s.length + t.length := rfl

theorem concat_oversized : ("CONCAT", concat) ∈ table ∧
    (∀ v ∈ [Value.string longest, .string "b"], v.text.length ≤ maxLength) ∧
    Oversized (concat [.string longest, .string "b"]) ∧ concat [.string longest, .string "b"] ≠ .null := by
  have hargs : ∀ v ∈ [Value.string longest, .string "b"], v.text.length ≤ maxLength :=
    List.forall_mem_cons.mpr ⟨length_longest.le, List.forall_mem_singleton.mpr (by decide)⟩
  have hover : Oversized (concat [.string longest, .string "b"]) := by
    rw [oversized_concat, concatSize_pair, length_longest]
    exact Nat.lt_succ_self _
  exact ⟨concat_mem, hargs, hover, fun hnull => not_oversized_null (hnull ▸ hover)⟩

end DocQuery.Function.Text
