import DocQuery.Column
import DocQuery.Text.Search
import Mathlib.Data.List.TakeDrop
import Mathlib.Tactic.Lemma

namespace DocQuery

namespace Text

def Solid (cs : List Char) : Prop := ∀ c ∈ cs, isBlank c = false

instance (cs : List Char) : Decidable (Solid cs) := List.decidableBAll _ cs

def Dotless (cs : List Char) : Prop := ∀ c ∈ cs, c ≠ '.'

instance (cs : List Char) : Decidable (Dotless cs) := List.decidableBAll _ cs

variable {w cs : List Char}

def fields (cs : List Char) : List (List Char) :=
  cs.foldr (fun c ws =>
    if isBlank c then [] :: ws
    else match ws with
      | [] => [[c]]
      | w :: ws => (c :: w) :: ws) [[]]

lemma words_eq (cs : List Char) : words cs = (fields cs).filter (· ≠ []) := rfl

lemma fields_blank {b : Char} (hb : isBlank b = true) (cs : List Char) : fields (b :: cs) = [] :: fields cs := by
  rw [fields, List.foldr_cons, if_pos hb]
  rfl

lemma fields_append (hw : Solid w) {ws : List (List Char)} {v : List Char} (h : fields cs = v :: ws) :
    fields (w ++ cs) = (w ++ v) :: ws := by
  induction w with
  | nil => exact h
  | cons c w ih =>
    have hc : isBlank c = false := hw c List.mem_cons_self
    have hrest := ih fun c hm => hw c (List.mem_cons_of_mem _ hm)
    rw [List.cons_append, fields, List.foldr_cons, ← fields, hrest, hc]
    rfl

lemma words_single (hw : Solid w) (hne : w ≠ []) : words w = [w] := by
  have h : fields w = [w] := by
    have h : fields (w ++ []) = [w ++ []] := fields_append hw rfl
    rwa [List.append_nil] at h
  rw [words_eq, h, List.filter_cons_of_pos (by simpa using hne)]
  rfl

lemma words_first (hw : Solid w) (hne : w ≠ []) {b : Char} (hb : isBlank b = true) (cs : List Char) :
    words (w ++ b :: cs) = w :: words cs := by
  have h := fields_append hw (fields_blank hb cs)
  rw [List.append_nil] at h
  rw [words_eq, h, List.filter_cons_of_pos (by simpa using hne), words_eq]

lemma trim_solid (hw : Solid w) : trim w = w := by
  have hl : ∀ {v}, Solid v → trimLeft v = v := by
    intro v hv
    cases v with
    | nil => rfl
    | cons c v => exact List.dropWhile_cons_of_neg (by simp [hv c List.mem_cons_self])
  have hr : Solid w.reverse := fun c hc => hw c (List.mem_reverse.mp hc)
  rw [trim, hl hw, trimRight, ← trimLeft, hl hr, List.reverse_reverse]

lemma occursIn_solid (hw : Solid w) {b : Char} (hb : isBlank b = true) (needle : List Char) :
    occursIn (b :: needle) w = false := by
  have h : indexOf? (b :: needle) w = none := by
    induction w with
    | nil => rfl
    | cons c w ih =>
      have hc : b ≠ c := by
        rintro rfl
        rw [hw b List.mem_cons_self] at hb
        cases hb
      rw [indexOf?, if_neg, ih fun c hm => hw c (List.mem_cons_of_mem _ hm)]
      · rfl
      · simp [hc]
  rw [occursIn, h]
  rfl

end Text

structure PlainName where
  text : String
  ne_nil : text.toList ≠ []
  solid : Text.Solid text.toList
  dotless : Text.Dotless text.toList

structure NamedTable where
  name : PlainName
  newName : Option PlainName

structure QualifiedColumn where
  table : PlainName
  name : PlainName

structure DirectedColumn where
  column : QualifiedColumn
  direction : Direction

namespace NamedTable

def table (t : NamedTable) : Table := ⟨t.name.text, t.newName.map PlainName.text⟩

def written (t : NamedTable) : String :=
  match t.newName with
  | none => t.name.text
  | some n => t.name.text ++ " AS " ++ n.text

lemma read_written (t : NamedTable) : Table.read t.written = t.table := by
  obtain ⟨name, _ | newName⟩ := t
  · rw [written, Table.read, Text.words_single name.solid name.ne_nil]
    simp [Table.splitAtAs, Table.named, Table.joinWords, table]
  · have hw : Text.words (name.text ++ " AS " ++ newName.text).toList =
        [name.text.toList, ['A', 'S'], newName.text.toList] := by
      have hs : (name.text ++ " AS " ++ newName.text).toList =
          name.text.toList ++ ' ' :: (['A', 'S'] ++ ' ' :: newName.text.toList) := by simp
      have has : Text.Solid ['A', 'S'] := by simp [Text.Solid, Text.isBlank]
      rw [hs, Text.words_first name.solid name.ne_nil (by decide), Text.words_first has (by decide) (by decide),
        Text.words_single newName.solid newName.ne_nil]
    rw [written, Table.read, hw]
    simp [Table.splitAtAs, Table.joinWords, table]

end NamedTable

namespace QualifiedColumn

def column (c : QualifiedColumn) : Column := .ofTable (.named c.table.text) c.name.text

def written (c : QualifiedColumn) : String := c.table.text ++ "." ++ c.name.text

lemma toList_written (c : QualifiedColumn) : c.written.toList = c.table.text.toList ++ '.' :: c.name.text.toList := by
  simp [written]

lemma solid_written (c : QualifiedColumn) : Text.Solid c.written.toList := by
  intro x hx
  rw [toList_written] at hx
  rcases List.mem_append.mp hx with hx | hx
  · exact c.table.solid x hx
  · rcases List.mem_cons.mp hx with rfl | hx
    · decide
    · exact c.name.solid x hx

lemma written_ne_nil (c : QualifiedColumn) : c.written.toList ≠ [] := by
  rw [toList_written]
  simp

lemma read_written (c : QualifiedColumn) : Column.read c.written = c.column := by
  have hspan : (c.table.text.toList ++ '.' :: c.name.text.toList).span (· ≠ '.') =
      (c.table.text.toList, '.' :: c.name.text.toList) := by
    rw [List.span_eq_takeWhile_dropWhile, List.takeWhile_append_of_pos (by simpa [Text.Dotless] using c.table.dotless),
      List.dropWhile_append_of_pos (by simpa [Text.Dotless] using c.table.dotless)]
    simp
  rw [Column.read, Text.trim_solid c.solid_written, toList_written, hspan]
  dsimp only
  rw [if_pos ⟨c.table.ne_nil, c.name.ne_nil⟩, String.ofList_toList, String.ofList_toList]
  rfl

end QualifiedColumn

def Direction.written : Direction → String
  | ascending => "ASC"
  | descending => "DESC"

lemma Direction.read_written (d : Direction) : read (some d.written) = d := by cases d <;> rfl

namespace DirectedColumn

def sortKey (k : DirectedColumn) : SortKey := ⟨k.column.column, k.direction⟩

def written (k : DirectedColumn) : String := k.column.written ++ " " ++ k.direction.written

lemma words_written (k : DirectedColumn) :
    Text.words k.written.toList = [k.column.written.toList, k.direction.written.toList] := by
  have hs : k.written.toList = k.column.written.toList ++ ' ' :: k.direction.written.toList := by simp [written]
  have hd : Text.words k.direction.written.toList = [k.direction.written.toList] := by
    cases k.direction <;> rfl
  rw [hs, Text.words_first k.column.solid_written k.column.written_ne_nil (by decide), hd]

end DirectedColumn

end DocQuery
