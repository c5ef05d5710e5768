import Mathlib.Logic.Function.Basic
import Tabular.Proofs.Query.Partition

/-! Groups, row by row.

A partition is made in one pass over the rows. The pass keeps the slot of each key that it has seen,
and each row goes to the end of the group in the slot of its key, or makes a group behind the
others. So the groups come in the order of their first rows, each has the rows of its key as they
stood, and no row is lost or comes twice.
-/

set_option autoImplicit false

namespace Tabular.Group

def push (row : Row) (group : Group) : Group := ⟨group.key, group.first, group.others ++ [row]⟩

/-- The groups of the rows so far, with the slot of each key among them. -/
structure Indexed where
  groups : List Group
  slot? : String → Option Nat
  slot?_eq_some_iff : ∀ key slot, slot? key = some slot ↔ groups[slot]?.map Group.key = some key

namespace Indexed

def empty : Indexed := ⟨[], fun _ => none, by simp⟩

variable {key : String} {row : Row}

theorem map_key_modify (groups : List Group) (slot other : Nat) :
    (groups.modify slot (push row))[other]?.map Group.key = groups[other]?.map Group.key := by
  rw [List.getElem?_modify, Option.map_eq_map, Option.map_map]
  congr 1
  funext group
  by_cases same : slot = other <;> simp [same, push]

theorem update_slot?_iff (indexed : Indexed) (unseen : indexed.slot? key = none)
    (other : String) (slot : Nat) :
    Function.update indexed.slot? key (some indexed.groups.length) other = some slot ↔
      (indexed.groups ++ [⟨key, row, []⟩])[slot]?.map Group.key = some other := by
  have behind : (indexed.groups ++ [⟨key, row, []⟩])[slot]?.map Group.key = some other ↔
      indexed.groups[slot]?.map Group.key = some other ∨
        slot = indexed.groups.length ∧ key = other := by
    grind
  rw [behind, ← indexed.slot?_eq_some_iff, Function.update_apply]
  by_cases same : other = key
  · simp [same, unseen, eq_comm]
  · simp [same, Ne.symm same]

theorem exists_slot?_iff (indexed : Indexed) (key : String) :
    (∃ slot, indexed.slot? key = some slot) ↔ key ∈ indexed.groups.map Group.key := by
  rw [List.mem_iff_getElem?]
  simp only [indexed.slot?_eq_some_iff, List.getElem?_map]

theorem modify_eq_map {indexed : Indexed} {slot : Nat} (known : indexed.slot? key = some slot) :
    indexed.groups.modify slot (push row) =
      indexed.groups.map fun group => if group.key = key then group.push row else group := by
  refine List.ext_getElem? fun place => ?_
  rw [List.getElem?_modify, List.getElem?_map]
  cases found : indexed.groups[place]? with
  | none => rfl
  | some group =>
    have here : slot = place ↔ group.key = key := by
      have read := indexed.slot?_eq_some_iff key place
      rwa [known, found, Option.map_some, Option.some.injEq, Option.some.injEq] at read
    simp only [Option.map_eq_map, Option.map_some, here]

def add (key : String) (row : Row) (indexed : Indexed) : Indexed :=
  -- The slot is one of a group, so the group there is the one that the row joins.
  match known : indexed.slot? key with
  | some slot => {
      groups := indexed.groups.modify slot (push row)
      slot? := indexed.slot?
      slot?_eq_some_iff := fun other place => by
        rw [map_key_modify, indexed.slot?_eq_some_iff] }
  | none => {
      groups := indexed.groups ++ [⟨key, row, []⟩]
      slot? := Function.update indexed.slot? key (some indexed.groups.length)
      slot?_eq_some_iff := indexed.update_slot?_iff known }

end Indexed

variable {columns : List String} {row : Row} {rows : List Row} {key : String}

theorem classes_injective {groups others : List Group} (same : classes groups = classes others) :
    groups = others := by
  refine (List.map_inj_right ?_).mp same
  rintro ⟨key, first, rows⟩ ⟨otherKey, otherFirst, otherRows⟩ equal
  obtain ⟨rfl, whole⟩ := Prod.mk.inj equal
  obtain ⟨rfl, rfl⟩ := List.cons.inj whole
  rfl

theorem map_key_partition (columns : List String) (rows : List Row) :
    (partition columns rows).map Group.key = firstSeen (rows.map (keyOf columns)) := by
  have keys : (classes (partition columns rows)).map Prod.fst =
      (partition columns rows).map Group.key := by
    rw [classes, List.map_map]
    rfl
  rw [← keys, classes_partition, List.map_map]
  exact List.map_id _

theorem classOf_concat_self :
    classOf columns (rows ++ [row]) (keyOf columns row) =
      (keyOf columns row, (classOf columns rows (keyOf columns row)).2 ++ [row]) := by
  simp [classOf]

theorem classOf_concat_other (other : key ≠ keyOf columns row) :
    classOf columns (rows ++ [row]) key = classOf columns rows key := by
  simp [classOf, Ne.symm other]

theorem classes_map_push (groups : List Group) (key : String) (row : Row) :
    classes (groups.map fun group => if group.key = key then group.push row else group) =
      (classes groups).map fun kept => if kept.1 = key then (kept.1, kept.2 ++ [row]) else kept := by
  rw [classes, classes, List.map_map, List.map_map]
  refine List.map_congr_left fun group _ => ?_
  by_cases same : group.key = key <;> simp [same, push, Group.rows]

theorem partition_concat_known (known : keyOf columns row ∈ rows.map (keyOf columns)) :
    partition columns (rows ++ [row]) = (partition columns rows).map fun group =>
      if group.key = keyOf columns row then group.push row else group := by
  have seen : firstSeen ((rows ++ [row]).map (keyOf columns)) =
      firstSeen (rows.map (keyOf columns)) := by
    rw [List.map_append, List.map_singleton, firstSeen_append_cons known, List.append_nil]
  refine classes_injective ?_
  rw [classes_partition, seen, classes_map_push, classes_partition, List.map_map]
  refine List.map_congr_left fun key _ => ?_
  rw [Function.comp_apply]
  by_cases same : key = keyOf columns row
  · rw [same, classOf_concat_self]
    exact (if_pos rfl).symm
  · rw [classOf_concat_other same]
    exact (if_neg same).symm

theorem partition_concat_new (new : keyOf columns row ∉ rows.map (keyOf columns)) :
    partition columns (rows ++ [row]) =
      partition columns rows ++ [⟨keyOf columns row, row, []⟩] := by
  have absent : keyOf columns row ∉ firstSeen (rows.map (keyOf columns)) :=
    fun seen => new (mem_firstSeen.mp seen)
  have seen : firstSeen ((rows ++ [row]).map (keyOf columns)) =
      firstSeen (rows.map (keyOf columns)) ++ [keyOf columns row] := by
    rw [List.map_append, List.map_singleton, firstSeen_append]
    congr 1
    exact List.filter_eq_self.mpr (by simpa using new)
  have alone : (classOf columns rows (keyOf columns row)).2 = [] := by
    refine List.filter_eq_nil_iff.mpr fun other member same => new ?_
    rw [← beq_iff_eq.mp same]
    exact List.mem_map_of_mem member
  have others : (firstSeen (rows.map (keyOf columns))).map (classOf columns (rows ++ [row])) =
      (firstSeen (rows.map (keyOf columns))).map (classOf columns rows) :=
    List.map_congr_left fun _ member => classOf_concat_other fun same => absent (same ▸ member)
  refine classes_injective ?_
  rw [classes_partition, seen, List.map_append, others, List.map_singleton, classOf_concat_self,
    alone, classes, List.map_append, ← classes, classes_partition]
  rfl

theorem Indexed.groups_add {indexed : Indexed} (grouped : indexed.groups = partition columns rows)
    (row : Row) :
    (indexed.add (keyOf columns row) row).groups = partition columns (rows ++ [row]) := by
  have known_iff : (∃ slot, indexed.slot? (keyOf columns row) = some slot) ↔
      keyOf columns row ∈ rows.map (keyOf columns) := by
    rw [exists_slot?_iff, grouped, map_key_partition, mem_firstSeen]
  unfold add
  split
  next slot known =>
    rw [partition_concat_known (known_iff.mp ⟨slot, known⟩), ← grouped]
    exact modify_eq_map known
  next unseen =>
    have new : keyOf columns row ∉ rows.map (keyOf columns) := fun member => by
      obtain ⟨slot, known⟩ := known_iff.mpr member
      rw [unseen] at known
      cases known
    rw [partition_concat_new new, ← grouped]

/-- One by one, further rows make the groups of all rows. -/
theorem Indexed.groups_foldl {indexed : Indexed} (grouped : indexed.groups = partition columns rows)
    (others : List Row) :
    (others.foldl (fun indexed row => indexed.add (keyOf columns row) row) indexed).groups =
      partition columns (rows ++ others) := by
  induction others generalizing rows indexed with
  | nil => rw [List.append_nil, List.foldl_nil, grouped]
  | cons row others ih =>
    rw [List.foldl_cons, ih (groups_add grouped row), List.append_assoc, List.singleton_append]

/-- The groups of a partition have distinct keys and come in the order of the first rows with these
keys. A group has the rows of its key, all of them and as they stood, and the first of these stands
for it. Together the groups have every row once, and one pass over the rows that looks up the slot
of each key makes them. -/
theorem partition_exact (columns : List String) (rows : List Row) :
    let groups := partition columns rows
    let keys := rows.map (keyOf columns)
    (groups.map Group.key).Nodup ∧
    (groups.Pairwise fun earlier later => keys.idxOf earlier.key < keys.idxOf later.key) ∧
    (∀ group ∈ groups,
      (group.rows = rows.filter fun row => keyOf columns row == group.key) ∧
      group.rows.head? = some group.first ∧
      (rows.find? fun row => keyOf columns row == group.key) = some group.first) ∧
    (groups.flatMap Group.rows).Perm rows ∧
    (rows.foldl (fun indexed row => indexed.add (keyOf columns row) row) Indexed.empty).groups =
      groups := by
  intro groups keys
  have listed : groups.map Group.key = firstSeen keys := map_key_partition columns rows
  refine ⟨?_, ?_, fun group member => ?_, perm_flatMap_partition columns rows, ?_⟩
  · rw [listed]
    exact nodup_firstSeen keys
  · have ordered := firstSeen_pairwise_idxOf keys
    rw [← listed, List.pairwise_map] at ordered
    exact ordered
  · have whole := rows_eq_of_mem_partition member
    refine ⟨whole, rfl, ?_⟩
    rw [← List.head?_filter, ← whole]
    rfl
  · have start : Indexed.empty.groups = partition columns [] := rfl
    exact Indexed.groups_foldl start rows

/-- A missing city is displayed as a text may be. -/
theorem partition_exact_null_text :
    let missing := Row.ofList [("shop", .text "East")]
    let other := Row.ofList [("city", .text "Ulm")]
    let word := Row.ofList [("city", .text "null")]
    let group : Group := ⟨"null", missing, [word]⟩
    group ∈ partition ["city"] [missing, other, word] ∧
      ([missing, other, word].find? fun row => keyOf ["city"] row == "null") = some missing ∧
      group.rows = [missing, other, word].filter fun row => keyOf ["city"] row == "null" := by
  intro missing other word group
  have member : group ∈ partition ["city"] [missing, other, word] := by decide
  obtain ⟨whole, -, found⟩ :=
    (partition_exact ["city"] [missing, other, word]).2.2.1 group member
  exact ⟨member, found, whole⟩

end Tabular.Group
