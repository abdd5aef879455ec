import DocQuery.Plan.Builder
import DocQuery.Proofs.Dictionaries
import DocQuery.Proofs.Rows.Repeating
import DocQuery.Run.Select
import Mathlib.Data.List.DropRight

/-! The rows of a selection with those of its unions. Repetitions are dropped once, after all unions, if one of
them is distinct. Dropping them at each distinct union in turn comes to the same unless a union that keeps
them, after the last distinct one, brings rows that are there already. -/

namespace DocQuery

namespace Rows

def adopted (rs : Results) (table : Table) (u : Union) : List Row :=
  (u.output.rows rs).zipIdx.map fun ((source, content), i) => adopt table i source content

def mergeOne (rs : Results) (table : Table) (rows : List Row) (u : Union) : List Row :=
  if u.distinct then firsts (rows ++ adopted rs table u) else rows ++ adopted rs table u

variable {rs : Results} {table : Table}

lemma foldl_union (rows : List Row) (unions : List Union) :
    unions.foldl (fun rows u => union rs table rows u.output) rows = rows ++ unions.flatMap (adopted rs table) := by
  induction unions generalizing rows with
  | nil => simp
  | cons u unions ih =>
    rw [List.foldl_cons, ih, List.flatMap_cons, ← List.append_assoc]
    rfl

def early (unions : List Union) : List Union := unions.rdropWhile (!·.distinct)

def late (unions : List Union) : List Union := unions.rtakeWhile (!·.distinct)

lemma early_append_late (unions : List Union) : early unions ++ late unions = unions :=
  List.rdropWhile_append_rtakeWhile

lemma foldl_mergeOne (rows : List Row) (unions : List Union) :
    unions.foldl (mergeOne rs table) rows =
      (if unions.any (·.distinct) then firsts (rows ++ (early unions).flatMap (adopted rs table))
        else rows ++ (early unions).flatMap (adopted rs table)) ++ (late unions).flatMap (adopted rs table) := by
  induction unions using List.reverseRecOn with
  | nil => simp [early, late]
  | append_singleton unions u ih =>
    rw [List.foldl_append, List.foldl_cons, List.foldl_nil, ih, mergeOne]
    cases hu : u.distinct with
    | false =>
      have he : early (unions ++ [u]) = early unions := List.rdropWhile_concat_pos _ _ _ (by simp [hu])
      have hl : late (unions ++ [u]) = late unions ++ [u] := List.rtakeWhile_concat_pos _ _ _ (by simp [hu])
      rw [he, hl, List.any_append, List.flatMap_append]
      simp [hu]
    | true =>
      have he : early (unions ++ [u]) = unions ++ [u] := List.rdropWhile_concat_neg _ _ _ (by simp [hu])
      have hl : late (unions ++ [u]) = [] := List.rtakeWhile_concat_neg _ _ _ (by simp [hu])
      have hall : (unions ++ [u]).flatMap (adopted rs table) =
          (early unions).flatMap (adopted rs table) ++ ((late unions).flatMap (adopted rs table) ++
            adopted rs table u) := by
        conv_lhs => rw [← early_append_late unions]
        simp
      have hany : (unions ++ [u]).any (·.distinct) = true := by simp [hu]
      rw [he, hl, hall, if_pos rfl, if_pos hany, List.flatMap_nil, List.append_nil, List.append_assoc]
      -- with a distinct union before, the rows merged so far have no repetitions already
      cases unions.any (·.distinct) with
      | false => simp
      | true => simp [← distinct_eq_firsts, distinct_distinct_append]

end Rows

namespace Select

open Rows

def merged (rs : Results) (p : Plan) (primary : Table) (sets : RowSets) : List Row :=
  (Dict.find? primary.name
    (dropRepetitions p (addUnions rs p primary (Dict.mapValues (project rs p) sets)))).getD []

def projected (rs : Results) (p : Plan) (primary : Table) (sets : RowSets) : List Row :=
  project rs p ((Dict.find? primary.name sets).getD [])

variable {rs : Results} {p : Plan} {primary : Table} {sets : RowSets}

lemma merged_eq (hd : p.distinct = false) : merged rs p primary sets =
    if p.unions.any (·.distinct) then
      firsts (projected rs p primary sets ++ p.unions.flatMap (adopted rs primary))
    else projected rs p primary sets ++ p.unions.flatMap (adopted rs primary) := by
  have hrows : (Dict.find? primary.name (Dict.mapValues (project rs p) sets)).getD [] =
      projected rs p primary sets := by
    rw [Dict.find?_mapValues, projected]
    cases Dict.find? primary.name sets <;> rfl
  rw [merged, dropRepetitions, hd, if_neg Bool.false_ne_true, addUnions]
  split
  · next hu =>
    rw [hrows, List.isEmpty_iff.mp hu]
    simp
  · rw [Dict.find?_insert_self, Option.getD_some, hrows, foldl_union, hd, distinct_eq_firsts]
    simp

theorem merged_eq_foldl_iff (hd : p.distinct = false) (rs : Results) (primary : Table) (sets : RowSets) :
    merged rs p primary sets =
      (if p.unions.any (·.distinct) then
        firsts (projected rs p primary sets ++ p.unions.flatMap (adopted rs primary))
      else projected rs p primary sets ++ p.unions.flatMap (adopted rs primary)) ∧
    (merged rs p primary sets = p.unions.foldl (mergeOne rs primary) (projected rs p primary sets) ↔
      (p.unions.any (·.distinct) = true →
        Novel (projected rs p primary sets ++ (early p.unions).flatMap (adopted rs primary))
          ((late p.unions).flatMap (adopted rs primary)))) := by
  refine ⟨merged_eq hd, ?_⟩
  have hall : p.unions.flatMap (adopted rs primary) =
      (early p.unions).flatMap (adopted rs primary) ++ (late p.unions).flatMap (adopted rs primary) := by
    rw [← List.flatMap_append, early_append_late]
  rw [merged_eq hd, foldl_mergeOne, hall, ← List.append_assoc]
  cases p.unions.any (·.distinct) with
  | false => simp
  | true =>
    rw [if_pos rfl, if_pos rfl, ← distinct_eq_firsts, ← distinct_eq_firsts, distinct_append_eq_iff]
    simp

def named (name : String) : Dict Value := [("name", .string name)]

def people (names : List String) : Value := .object [("people", .array (names.map fun name => .object (named name)))]

def namesWith (names more : List String) : Scheme :=
  [⟨.select, [.value (.string "name")]⟩, ⟨.fromTables, [.value (.string "users")]⟩,
    ⟨.union, [.output (.known (people names))]⟩, ⟨.unionAll, [.output (.known (people more))]⟩]

def namesPlan (names more : List String) : Plan :=
  { Plan.empty with
    command := some .select
    columns := [.ofTable (.named "users") "name"]
    tables := [.named "users"]
    unions := [⟨.known (people names), true⟩, ⟨.known (people more), false⟩] }

def annAlone : RowSets := [("users", [.ofValue (.named "users") "u1" (.object (named "Ann"))])]

theorem merged_eq_foldl_iff_novel :
    Plan.ofScheme [] (namesWith ["Ann", "Dave"] ["Eve"]) = .ok (namesPlan ["Ann", "Dave"] ["Eve"]) ∧
    (namesPlan ["Ann", "Dave"] ["Eve"]).distinct = false ∧
    merged [] (namesPlan ["Ann", "Dave"] ["Eve"]) (.named "users") annAlone =
      (namesPlan ["Ann", "Dave"] ["Eve"]).unions.foldl (mergeOne [] (.named "users"))
        (projected [] (namesPlan ["Ann", "Dave"] ["Eve"]) (.named "users") annAlone) := by
  have hd : (namesPlan ["Ann", "Dave"] ["Eve"]).distinct = false := rfl
  refine ⟨rfl, hd, (merged_eq_foldl_iff hd [] (.named "users") annAlone).2.mpr fun _ => ⟨?_, ?_⟩⟩
  · decide +kernel
  · decide +kernel

/-- Dave comes by a distinct union and, after it, by one that keeps repetitions, and is dropped nevertheless. -/
theorem merged_not_foldl :
    Plan.ofScheme [] (namesWith ["Dave"] ["Dave"]) = .ok (namesPlan ["Dave"] ["Dave"]) ∧
    (namesPlan ["Dave"] ["Dave"]).distinct = false ∧
    (merged [] (namesPlan ["Dave"] ["Dave"]) (.named "users") annAlone).map Row.content =
      [named "Ann", named "Dave"] ∧
    ((namesPlan ["Dave"] ["Dave"]).unions.foldl (mergeOne [] (.named "users"))
      (projected [] (namesPlan ["Dave"] ["Dave"]) (.named "users") annAlone)).map Row.content =
      [named "Ann", named "Dave", named "Dave"] := by
  refine ⟨rfl, rfl, ?_, ?_⟩
  · rfl
  · rfl

end Select

end DocQuery
