import DocQuery.Function.Call
import DocQuery.Proofs.Calendar.Texts

namespace DocQuery.Function

open Calendar

def Renders (name : String) (v : Value) (text : String) : Prop :=
  ∀ drawn, (scalar? name drawn).map (· [v]) = some (.string text)

lemma renders_unique {name : String} {v : Value} {text text' : String} (h : Renders name v text)
    (h' : Renders name v text') : text = text' := by
  have he := (h fun _ => 0).symm.trans (h' fun _ => 0)
  simpa using he

structure WholeSecond (n : Int) : Prop where
  millis : n % 1000 = 0
  year : 0 ≤ yearOf (n / 86400000) ∧ yearOf (n / 86400000) ≤ 9999

namespace Cast

variable {n : Int} {m : Moment} {v : Value}

lemma millis?_int (h : WholeSecond n) : millis? (.int n) = some n := by
  have hl := daysBeforeYear_yearOf_le (n / 86400000)
  have hh := lt_daysBeforeYear_yearOf (n / 86400000)
  have hfirst := daysBeforeYear_le h.year.1
  have hlast := daysBeforeYear_le (Int.add_le_add_right h.year.2 1)
  have hstart : daysBeforeYear 0 = -719528 := rfl
  have hend : daysBeforeYear (9999 + 1) = 2932897 := rfl
  have hsmall : n.natAbs ≤ Nat.pow 2 53 := by
    show n.natAbs ≤ 9007199254740992
    omega
  have hclamp : clampInt64 n = n := by
    simp only [clampInt64, leastInt64, greatestInt64]
    omega
  rw [Value.int, millis?, Number.truncate, Binary64.roundInt_of_natAbs_le hsmall, hclamp]

lemma moment_eq {pattern : List Item} (hn : millis? v = some n) (hm : Moment.ofMillis? n = some m) :
    moment pattern v = .string (m.write pattern) := by
  rw [moment, hn, Option.bind_some, hm]

lemma ofValue_eq {f : Value → Value} (hn : millis? v = some n) : ofValue f [v] = f v := by
  cases v with
  | null => cases hn
  | _ => rfl

lemma renders_date (hn : millis? v = some n) (hm : Moment.ofMillis? n = some m) :
    Renders "CAST_AS_DATE" v (m.write datePattern) := by
  intro drawn
  have hf : scalar? "CAST_AS_DATE" drawn = some (ofValue (moment datePattern)) := rfl
  rw [hf, Option.map_some, ofValue_eq hn, moment_eq hn hm]

lemma renders_datetime (hn : millis? v = some n) (hm : Moment.ofMillis? n = some m) :
    Renders "CAST_AS_DATETIME" v (m.write datetimePattern) := by
  intro drawn
  have hf : scalar? "CAST_AS_DATETIME" drawn = some (ofValue (moment datetimePattern)) := rfl
  rw [hf, Option.map_some, ofValue_eq hn, moment_eq hn hm]

lemma renders_time (ht : v.string?.bind time? = none) (hn : millis? v = some n) (hm : Moment.ofMillis? n = some m) :
    Renders "CAST_AS_TIME" v (m.write timePattern) := by
  intro drawn
  have hf : scalar? "CAST_AS_TIME" drawn = some (ofValue timeOfDay) := rfl
  rw [hf, Option.map_some, ofValue_eq hn, timeOfDay, ht]
  exact congrArg some (moment_eq hn hm)

lemma write_datetimePattern (m : Moment) :
    m.write datetimePattern = m.write datePattern ++ " " ++ m.write timePattern := by
  apply String.toList_injective
  have hspace : " ".toList = [' '] := rfl
  rw [String.toList_append, String.toList_append, Moment.toList_write, Moment.toList_write, Moment.toList_write,
    Moment.textBy_datetimePattern, hspace, List.append_assoc, List.singleton_append]

end Cast

open Cast

theorem castAsDatetime_keeps_instants {m : Int} (h : WholeSecond m) :
    ∃ date time d, Renders "CAST_AS_DATE" (.int m) date ∧ Renders "CAST_AS_TIME" (.int m) time ∧
      Renders "CAST_AS_DATETIME" (.int m) d ∧ d = date ++ " " ++ time ∧ Calendar.millis? d = some m ∧
      Renders "CAST_AS_DATE" (.string d) date ∧ Renders "CAST_AS_TIME" (.string d) time ∧
      Renders "CAST_AS_DATETIME" (.string d) d ∧
      ∀ n e, WholeSecond n → Renders "CAST_AS_DATETIME" (.int n) e → (d < e ↔ m < n) ∧ (d = e ↔ m = n) := by
  obtain ⟨a, ha, hplain, hmillis⟩ := Moment.exists_plain h.millis h.year.1 h.year.2
  have hread : Calendar.millis? (a.write datetimePattern) = some m := hmillis ▸ hplain.millis?_write
  have hint := millis?_int h
  have htime : (Value.string (a.write datetimePattern)).string?.bind time? = none := by
    rw [Value.string?, Option.bind_some, hplain.time?_write]
  refine ⟨a.write datePattern, a.write timePattern, a.write datetimePattern, renders_date hint ha,
    renders_time rfl hint ha, renders_datetime hint ha, write_datetimePattern a, hread, renders_date hread ha,
    renders_time htime hread ha, renders_datetime hread ha, ?_⟩
  intro n e hn he
  obtain ⟨b, hb, hplain', hmillis'⟩ := Moment.exists_plain hn.millis hn.year.1 hn.year.2
  obtain rfl := renders_unique he (renders_datetime (millis?_int hn) hb)
  have hread' : Calendar.millis? (b.write datetimePattern) = some n := hmillis' ▸ hplain'.millis?_write
  refine ⟨by rw [hplain.write_lt_iff hplain', hmillis, hmillis'], fun hd => ?_, ?_⟩
  · rw [hd, hread'] at hread
    exact (Option.some.inj hread).symm
  · rintro rfl
    rw [Option.some.inj (ha.symm.trans hb)]

theorem castAsDatetime_keeps_leapDay : WholeSecond (-1000) ∧ WholeSecond 951782400000 ∧
    Renders "CAST_AS_DATETIME" (.int (-1000)) "1969-12-31 23:59:59" ∧
    Renders "CAST_AS_DATETIME" (.int 951782400000) "2000-02-29 00:00:00" ∧
    Calendar.millis? "1969-12-31 23:59:59" = some (-1000) ∧ "1969-12-31 23:59:59" < "2000-02-29 00:00:00" := by
  have h : WholeSecond (-1000) := ⟨by decide, by decide⟩
  have h' : WholeSecond 951782400000 := ⟨by decide, by decide⟩
  obtain ⟨-, -, d, -, -, hd, -, hread, -, -, -, horder⟩ := castAsDatetime_keeps_instants h
  have ht : Renders "CAST_AS_DATETIME" (.int (-1000)) "1969-12-31 23:59:59" := fun _ => rfl
  have ht' : Renders "CAST_AS_DATETIME" (.int 951782400000) "2000-02-29 00:00:00" := fun _ => rfl
  obtain rfl := renders_unique hd ht
  exact ⟨h, h', hd, ht', hread, (horder _ _ h' ht').1.mpr (by decide)⟩

end DocQuery.Function
