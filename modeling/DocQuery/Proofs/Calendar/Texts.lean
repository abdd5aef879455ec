import DocQuery.Proofs.Calendar.Days
import DocQuery.Proofs.Json.Integers
import Mathlib.Algebra.Group.Nat.Defs

namespace DocQuery

namespace Text

lemma trimLeft_digits {ds : List Char} (hd : ∀ c ∈ ds, c.isDigit = true) (hne : ds ≠ []) (cs : List Char) :
    trimLeft (ds ++ cs) = ds ++ cs := by
  obtain ⟨c, ds, rfl⟩ := List.exists_cons_of_ne_nil hne
  have hc : isBlank c = false := by
    have h := hd c List.mem_cons_self
    rw [Char.isDigit_iff_toNat] at h
    simp only [isBlank]
    grind
  exact List.dropWhile_cons_of_neg (by simp [hc])

end Text

namespace Calendar

structure Fills (width n : Nat) (ds : List Char) : Prop where
  length : ds.length = width
  digits : ∀ c ∈ ds, c.isDigit = true
  value : Literal.digitsValue ds = n

lemma padded_one {n : Nat} (hn : n < 10) : padded 1 n = [Nat.digitChar n] := by
  rw [padded, Nat.repr, String.toList_ofList, Nat.toDigits_of_lt_base hn]
  rfl

lemma padded_succ (width n : Nat) : padded (width + 2) n = padded (width + 1) (n / 10) ++ [Nat.digitChar (n % 10)] := by
  simp only [padded, Nat.repr, String.toList_ofList]
  by_cases hn : n < 10
  · have hzero : Nat.toDigits 10 0 = ['0'] := rfl
    rw [Nat.toDigits_of_lt_base hn, Nat.div_eq_of_lt hn, Nat.mod_eq_of_lt hn, hzero]
    simp only [List.length_singleton, ← List.replicate_succ', Nat.add_one_sub_one]
  · have hfree (k : Nat) : width + 2 - (k + 1) = width + 1 - k := by omega
    rw [Nat.toDigits_of_base_le (by decide) (by omega), List.length_append, List.length_singleton, hfree,
      List.append_assoc]

lemma length_padded {width n : Nat} (hn : n < 10 ^ (width + 1)) : (padded (width + 1) n).length = width + 1 := by
  induction width generalizing n with
  | zero =>
    rw [padded_one hn]
    rfl
  | succ width ih => rw [padded_succ, List.length_append, ih (by omega), List.length_singleton]

lemma fills_padded {width n : Nat} (hn : n < 10 ^ (width + 1)) : Fills (width + 1) n (padded (width + 1) n) where
  length := length_padded hn
  digits c hc := by
    rcases List.mem_append.mp hc with hc | hc
    · rw [List.eq_of_mem_replicate hc]
      rfl
    · rw [Nat.repr, String.toList_ofList] at hc
      exact Json.isDigit_toDigits n c hc
  value := Literal.digitsValue_padded _ n

lemma digitChar_lt_iff : ∀ a < 10, ∀ b < 10, Nat.digitChar a < Nat.digitChar b ↔ a < b := by decide

lemma digitChar_eq_iff : ∀ a < 10, ∀ b < 10, Nat.digitChar a = Nat.digitChar b ↔ a = b := by decide

lemma padded_append_lt_iff {width a b : Nat} (ha : a < 10 ^ (width + 1)) (hb : b < 10 ^ (width + 1))
    (cs ds : List Char) :
    padded (width + 1) a ++ cs < padded (width + 1) b ++ ds ↔ a < b ∨ a = b ∧ cs < ds := by
  induction width generalizing a b cs ds with
  | zero =>
    rw [padded_one ha, padded_one hb, List.singleton_append, List.singleton_append, List.cons_lt_cons_iff,
      digitChar_lt_iff a ha b hb, digitChar_eq_iff a ha b hb]
  | succ width ih =>
    have hda := Nat.mod_lt a (show 10 > 0 by decide)
    have hdb := Nat.mod_lt b (show 10 > 0 by decide)
    rw [padded_succ, padded_succ, List.append_assoc, List.append_assoc, ih (by omega) (by omega), List.singleton_append,
      List.singleton_append, List.cons_lt_cons_iff, digitChar_lt_iff _ hda _ hdb, digitChar_eq_iff _ hda _ hdb]
    by_cases h : cs < ds
    · simp only [h, and_true]
      omega
    · simp only [h, and_false, or_false]
      omega

namespace Fills

variable {width n : Nat} {ds : List Char}

lemma ne_nil (h : Fills (width + 1) n ds) : ds ≠ [] := List.ne_nil_of_length_eq_add_one h.length

lemma digits? (h : Fills (width + 1) n ds) (cs : List Char) :
    Calendar.digits? (width + 1) (ds ++ cs) = some (ds, cs) := by
  rw [Calendar.digits?, List.take_left' h.length, List.takeWhile_eq_self_iff.mpr h.digits, if_neg h.ne_nil,
    List.drop_left]

lemma fixed? (h : Fills (width + 1) n ds) (cs : List Char) : Calendar.fixed? (width + 1) (ds ++ cs) = some (n, cs) := by
  rw [Calendar.fixed?, h.digits? cs]
  simp only [Option.bind_eq_bind, Option.bind_some, h.length, if_true, h.value]

lemma number? (h : Fills (width + 1) n ds) (cs : List Char) :
    Calendar.number? (width + 1) (ds ++ cs) = some (n, cs) := by
  rw [Calendar.number?, Text.trimLeft_digits h.digits h.ne_nil, h.digits? cs]
  simp only [Option.bind_eq_bind, Option.bind_some, h.value, Option.pure_def]

lemma year? (h : Fills 4 n ds) (cs : List Char) : Calendar.year? (ds ++ cs) = some ((n : Int), cs) := by
  obtain ⟨c, rest, rfl⟩ := List.exists_cons_of_ne_nil h.ne_nil
  have hc := h.digits c List.mem_cons_self
  have hread := h.digits? cs
  rw [Calendar.year?, Text.trimLeft_digits h.digits h.ne_nil]
  rw [List.cons_append] at hread ⊢
  split
  · next he => simp [(List.cons.inj he).1] at hc
  · next he => simp [(List.cons.inj he).1] at hc
  · rw [hread, ← h.value]
    rfl

end Fills

def Item.isFixed : Item → Bool
  | .space | .fraction => false
  | _ => true

def Item.copy (m m' : Moment) : Item → Moment
  | .year => { m' with date := { m'.date with year := m.date.year } }
  | .month => { m' with date := { m'.date with month := m.date.month } }
  | .day => { m' with date := { m'.date with day := m.date.day } }
  | .hour => { m' with hour := m.hour }
  | .minute => { m' with minute := m.minute }
  | .second => { m' with second := m.second }
  | .fraction => { m' with millis := m.millis }
  | .space | .mark _ => m'

lemma readItems_append (m : Moment) (cs : List Char) (p q : List Item) :
    readItems m cs (p ++ q) = (readItems m cs p).bind fun (m, cs) => readItems m cs q := by
  induction p generalizing m cs with
  | nil => rfl
  | cons item p ih =>
    rw [List.cons_append, readItems, readItems]
    cases item.read m cs with
    | none => rfl
    | some r => exact ih r.1 r.2

def datetimePattern : List Item := datePattern ++ .space :: timePattern

namespace Moment

def textBy (m : Moment) (pattern : List Item) : List Char := pattern.flatMap (Item.write m)

lemma toList_write (m : Moment) (pattern : List Item) : (m.write pattern).toList = m.textBy pattern :=
  String.toList_ofList

lemma textBy_datetimePattern (m : Moment) :
    m.textBy datetimePattern = m.textBy datePattern ++ ' ' :: m.textBy timePattern := by
  simp only [textBy, datetimePattern, List.flatMap_append, List.flatMap_cons, Item.write, List.cons_append,
    List.nil_append]

namespace Plain

variable {m m' : Moment}

lemma year_lt (h : m.Plain) : m.date.year.toNat < 10 ^ (3 + 1) := by
  have hy := h.year
  omega

lemma month_lt (h : m.Plain) : m.date.month < 10 ^ (1 + 1) := by
  obtain ⟨-, ⟨-, hm⟩, -⟩ := Date.isValid_iff.mp h.date
  omega

lemma day_lt (h : m.Plain) : m.date.day < 10 ^ (1 + 1) := by
  obtain ⟨-, -, -, hd⟩ := Date.isValid_iff.mp h.date
  have hle := monthLength_le (isLeap m.date.year) m.date.month
  omega

lemma hour_lt (h : m.Plain) : m.hour < 10 ^ (1 + 1) := h.hour.trans_lt (by decide)

lemma minute_lt (h : m.Plain) : m.minute < 10 ^ (1 + 1) := h.minute.trans_lt (by decide)

lemma second_lt (h : m.Plain) : m.second < 10 ^ (1 + 1) := h.second.trans_lt (by decide)

lemma yearText_eq (h : m.Plain) : yearText m.date.year = padded 4 m.date.year.toNat := if_pos h.year

lemma isValid (h : m.Plain) : m.isValid = true := by
  have hs : m.second ≤ 60 := h.second.trans (by decide)
  simp only [Moment.isValid, h.date, h.hour, h.minute, hs, decide_true, Bool.and_self]

lemma read_write (h : m.Plain) (m₀ : Moment) (cs : List Char) {item : Item} (hi : item.isFixed = true) :
    item.read m₀ (item.write m ++ cs) = some (item.copy m m₀, cs) := by
  cases item with
  | year =>
    rw [Item.write, h.yearText_eq, Item.read, (fills_padded h.year_lt).year? cs, Int.toNat_of_nonneg h.year.1]
    rfl
  | month =>
    rw [Item.write, Item.read, (fills_padded h.month_lt).number? cs]
    rfl
  | day =>
    rw [Item.write, Item.read, (fills_padded h.day_lt).number? cs]
    rfl
  | hour =>
    rw [Item.write, Item.read, (fills_padded h.hour_lt).number? cs]
    rfl
  | minute =>
    rw [Item.write, Item.read, (fills_padded h.minute_lt).number? cs]
    rfl
  | second =>
    rw [Item.write, Item.read, (fills_padded h.second_lt).number? cs]
    rfl
  | fraction => cases hi
  | space => cases hi
  | mark c =>
    rw [Item.write, Item.read, List.singleton_append, mark?, if_pos rfl]
    rfl

lemma readItems_write (h : m.Plain) {p : List Item} (hp : p.all Item.isFixed = true) (m₀ : Moment) (cs : List Char) :
    readItems m₀ (m.textBy p ++ cs) p = some (p.foldl (fun m' item => item.copy m m') m₀, cs) := by
  induction p generalizing m₀ with
  | nil => rfl
  | cons item p ih =>
    rw [List.all_cons, Bool.and_eq_true] at hp
    rw [textBy, List.flatMap_cons, List.append_assoc, readItems, h.read_write m₀ _ hp.1]
    exact ih hp.2 _

lemma fixedDate?_textBy (h : m.Plain) (cs : List Char) :
    fixedDate? (m.textBy datePattern ++ cs) = some (m.date, cs) := by
  simp only [textBy, datePattern, List.flatMap_cons, List.flatMap_nil, Item.write, h.yearText_eq, List.append_assoc,
    List.cons_append, List.nil_append]
  simp only [fixedDate?, (fills_padded h.year_lt).fixed?, (fills_padded h.month_lt).fixed?,
    (fills_padded h.day_lt).fixed?, mark?, if_true, Option.bind_eq_bind, Option.bind_some, Option.pure_def,
    Int.toNat_of_nonneg h.year.1]

lemma fixedTime?_textBy (h : m.Plain) (date : Date) :
    fixedTime? date (m.textBy timePattern) = some ({ m with date := date }, []) := by
  simp only [textBy, timePattern, List.flatMap_cons, List.flatMap_nil, Item.write, List.cons_append, List.nil_append]
  simp only [fixedTime?, (fills_padded h.hour_lt).fixed?, (fills_padded h.minute_lt).fixed?,
    (fills_padded h.second_lt).fixed?, mark?, if_true, Option.bind_eq_bind, Option.bind_some, Option.pure_def,
    fraction?, h.millis]

lemma zoned?_textBy (h : m.Plain) : zoned? (m.textBy datetimePattern) = none := by
  rw [zoned?, textBy_datetimePattern, h.fixedDate?_textBy]
  simp only [Option.bind_eq_bind, Option.bind_some, separator?, Char.reduceEq, or_true, if_true,
    h.fixedTime?_textBy, zone?, Option.bind_none]

lemma trimLeft_timePattern (h : m.Plain) : Text.trimLeft (m.textBy timePattern) = m.textBy timePattern :=
  have hf := fills_padded h.hour_lt
  Text.trimLeft_digits hf.digits hf.ne_nil _

lemma foldl_copy (h : m.Plain) :
    timePattern.foldl (fun m' item => item.copy m m') { Moment.start with date := m.date } = m := by
  obtain ⟨date, hour, minute, second, millis⟩ := m
  cases h.millis
  rfl

lemma readBy?_textBy (h : m.Plain) : readBy? datetimePattern (m.textBy datetimePattern) = some m := by
  have htime := h.readItems_write (p := timePattern) rfl { Moment.start with date := m.date } []
  rw [List.append_nil, h.foldl_copy] at htime
  have hblank : Text.trimLeft (' ' :: m.textBy timePattern) = m.textBy timePattern := by
    rw [Text.trimLeft, List.dropWhile_cons_of_pos rfl, ← Text.trimLeft, h.trimLeft_timePattern]
  have hread : readItems Moment.start (m.textBy datetimePattern) datetimePattern = some (m, []) := by
    rw [textBy_datetimePattern, datetimePattern, readItems_append, h.readItems_write rfl, Option.bind_some]
    dsimp only
    rw [readItems, Item.read, Option.bind_eq_bind, Option.bind_some, hblank]
    exact htime
  rw [readBy?, hread]
  exact if_pos ⟨rfl, h.isValid⟩

lemma trim_textBy (h : m.Plain) : Text.trim (m.textBy datetimePattern) = m.textBy datetimePattern := by
  have hf := fills_padded h.year_lt
  have hl := fills_padded h.second_lt
  have hfirst : Text.trimLeft (m.textBy datetimePattern) = m.textBy datetimePattern := by
    rw [textBy, datetimePattern, datePattern, List.cons_append, List.flatMap_cons, Item.write, h.yearText_eq]
    exact Text.trimLeft_digits hf.digits hf.ne_nil _
  have hlast : (m.textBy datetimePattern).reverse = (padded 2 m.second).reverse ++
      (m.textBy (datePattern ++ [.space, .hour, .mark ':', .minute, .mark ':'])).reverse := by
    rw [← List.reverse_append]
    simp [textBy, datetimePattern, timePattern, Item.write]
  have hd : ∀ c ∈ (padded 2 m.second).reverse, c.isDigit = true := fun c hc => hl.digits c (List.mem_reverse.mp hc)
  rw [Text.trim, hfirst, Text.trimRight, ← Text.trimLeft, hlast,
    Text.trimLeft_digits hd (List.reverse_eq_nil_iff.not.mpr hl.ne_nil), ← hlast, List.reverse_reverse]

lemma millis?_write (h : m.Plain) : millis? (m.write datetimePattern) = some m.toMillis := by
  have hpattern : patterns.findSome? (readBy? · (m.textBy datetimePattern)) = some m := by
    rw [patterns, List.findSome?_cons, ← datetimePattern, h.readBy?_textBy]
  rw [millis?, toList_write, h.trim_textBy, h.zoned?_textBy, hpattern]
  rfl

lemma time?_write (h : m.Plain) : time? (m.write datetimePattern) = none := by
  have hf := fills_padded h.year_lt
  rw [time?, toList_write, h.trim_textBy]
  obtain ⟨a, b, c, d, he⟩ : ∃ a b c d, padded 4 m.date.year.toNat = [a, b, c, d] := by
    match hds : padded 4 m.date.year.toNat, hf.length with
    | [a, b, c, d], _ => exact ⟨a, b, c, d, rfl⟩
  have hd := hf.digits
  rw [he] at hd
  have hhour : Fills 2 (Literal.digitsValue [a, b]) [a, b] := ⟨rfl, by simp_all, rfl⟩
  have hc : ':' ≠ c := by
    rintro rfl
    simpa using hd ':' (by simp)
  obtain ⟨cs, hcs⟩ : ∃ cs, m.textBy datetimePattern = [a, b] ++ c :: cs := by
    rw [textBy, datetimePattern, datePattern, List.cons_append, List.flatMap_cons, Item.write, h.yearText_eq, he]
    exact ⟨_, rfl⟩
  have hread : readItems Moment.start (m.textBy datetimePattern) timePattern = none := by
    rw [timePattern, readItems, Item.read, hcs, hhour.number?]
    simp only [Option.map_some, Option.bind_eq_bind, Option.bind_some, readItems, Item.read, mark?, if_neg hc,
      Option.map_none, Option.bind_none]
  rw [readBy?, hread]
  rfl

lemma write_lt_iff (h : m.Plain) (h' : m'.Plain) :
    m.write datetimePattern < m'.write datetimePattern ↔ m.toMillis < m'.toMillis := by
  have hyear := h.year
  have hyear' := h'.year
  have hdays := Date.toDays_lt_iff h.date h'.date
  have hdays' := Date.toDays_lt_iff h'.date h.date
  change (m.write datetimePattern).toList < (m'.write datetimePattern).toList ↔ m.toMillis < m'.toMillis
  rw [toList_write, toList_write, h.toMillis_lt_iff h']
  simp only [textBy, datetimePattern, datePattern, timePattern, List.cons_append, List.nil_append, List.flatMap_cons,
    List.flatMap_nil, Item.write, h.yearText_eq, h'.yearText_eq]
  rw [padded_append_lt_iff h.year_lt h'.year_lt, List.cons_lt_cons_self, padded_append_lt_iff h.month_lt h'.month_lt,
    List.cons_lt_cons_self, padded_append_lt_iff h.day_lt h'.day_lt, List.cons_lt_cons_self,
    padded_append_lt_iff h.hour_lt h'.hour_lt, List.cons_lt_cons_self,
    padded_append_lt_iff h.minute_lt h'.minute_lt, List.cons_lt_cons_self,
    padded_append_lt_iff h.second_lt h'.second_lt, iff_false_intro (List.lt_irrefl _), and_false, or_false]
  omega

end Plain

end Moment

end Calendar

end DocQuery
