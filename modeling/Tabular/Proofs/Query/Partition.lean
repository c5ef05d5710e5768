import Tabular.Proofs.Row.FirstSeen
import Tabular.Query.Grouping

/-! Partitions: which rows a group has.

There is one group for each key of the rows, in the order in which the keys are first seen. A
group has the rows of its key, in their order, so two rows share a group when they share a key,
and together the groups have every row once.
-/

set_option autoImplicit false

namespace Tabular.Group

def classOf (columns : List String) (rows : List Row) (key : String) : String × List Row :=
  (key, rows.filter fun row => keyOf columns row == key)

/-- The groups seen as their keys and rows. -/
def classes (groups : List Group) : List (String × List Row) :=
  groups.map fun group => (group.key, group.rows)

variable {columns : List String} {row : Row} {rows : List Row} {key : String}

theorem classOf_cons_self :
    classOf columns (row :: rows) (keyOf columns row) =
      (keyOf columns row, row :: (classOf columns rows (keyOf columns row)).2) := by
  simp [classOf]

theorem classOf_cons_other (other : key ≠ keyOf columns row) :
    classOf columns (row :: rows) key = classOf columns rows key := by
  simp [classOf, Ne.symm other]

theorem classes_filter (groups : List Group) (keep : String → Bool) :
    classes (groups.filter fun group => keep group.key) =
      (classes groups).filter fun kept => keep kept.1 := by
  simp only [classes, List.filter_map]
  rfl

theorem classes_addFirst {groups : List Group}
    (grouped : classes groups =
      (firstSeen (rows.map (keyOf columns))).map (classOf columns rows)) :
    classes (addFirst (keyOf columns row) row groups) =
      (keyOf columns row, row :: (classOf columns rows (keyOf columns row)).2) ::
        (classes groups).filter fun kept => kept.1 != keyOf columns row := by
  unfold addFirst
  cases found : groups.find? fun group => group.key == keyOf columns row with
  | some group =>
    have accepted := List.find?_some found
    have same : group.key = keyOf columns row := beq_iff_eq.mp accepted
    have member : (group.key, group.rows) ∈ classes groups :=
      List.mem_map_of_mem (List.mem_of_find?_eq_some found)
    rw [grouped, List.mem_map] at member
    obtain ⟨key, -, classed⟩ := member
    obtain ⟨rfl, whole⟩ := Prod.mk.inj classed
    rw [← classes_filter groups (· != keyOf columns row), ← same, classOf, whole]
    rfl
  | none =>
    -- No row has the key yet.
    have absent : ∀ kept ∈ classes groups, (kept.1 != keyOf columns row) = true := by
      intro kept member
      obtain ⟨group, inside, rfl⟩ := List.mem_map.mp member
      simpa using List.find?_eq_none.mp found group inside
    have unseen : ∀ other ∈ rows, ¬(keyOf columns other == keyOf columns row) = true := by
      intro other member same
      have seen : classOf columns rows (keyOf columns other) ∈ classes groups := by
        rw [grouped]
        exact List.mem_map_of_mem (mem_firstSeen.mpr (List.mem_map_of_mem member))
      exact bne_iff_ne.mp (absent _ seen) (beq_iff_eq.mp same)
    rw [List.filter_eq_self.mpr absent, classOf, List.filter_eq_nil_iff.mpr unseen]
    rfl

/-- The partition has one group for each key, with all rows of the key. -/
theorem classes_partition (columns : List String) (rows : List Row) :
    classes (partition columns rows) =
      (firstSeen (rows.map (keyOf columns))).map (classOf columns rows) := by
  induction rows with
  | nil => rfl
  | cons row rows ih =>
    have others : ∀ key ∈ (firstSeen (rows.map (keyOf columns))).filter (· != keyOf columns row),
        classOf columns rows key = classOf columns (row :: rows) key := by
      intro key member
      exact (classOf_cons_other (bne_iff_ne.mp (List.mem_filter.mp member).2)).symm
    calc classes (partition columns (row :: rows))
      _ = classes (addFirst (keyOf columns row) row (partition columns rows)) := rfl
      _ = (keyOf columns row, row :: (classOf columns rows (keyOf columns row)).2) ::
          ((firstSeen (rows.map (keyOf columns))).filter (· != keyOf columns row)).map
            (classOf columns rows) := by
        rw [classes_addFirst ih, ih, List.filter_map]
        rfl
      _ = (firstSeen ((row :: rows).map (keyOf columns))).map (classOf columns (row :: rows)) := by
        rw [List.map_congr_left others, ← classOf_cons_self]
        rfl

theorem length_addFirst_le (key : String) (row : Row) (groups : List Group) :
    (addFirst key row groups).length ≤ groups.length + 1 := by
  unfold addFirst
  split
  · exact Nat.succ_le_succ (List.length_filter_le _ _)
  · exact Nat.le_refl _

theorem length_partition_le (columns : List String) (rows : List Row) :
    (partition columns rows).length ≤ rows.length := by
  induction rows with
  | nil => exact Nat.le_refl _
  | cons row rows ih =>
    exact Nat.le_trans (length_addFirst_le _ row (partition columns rows)) (Nat.succ_le_succ ih)

theorem rows_eq_of_mem_partition {group : Group} (member : group ∈ partition columns rows) :
    group.rows = rows.filter fun row => keyOf columns row == group.key := by
  have classed : (group.key, group.rows) ∈ classes (partition columns rows) :=
    List.mem_map_of_mem member
  rw [classes_partition, List.mem_map] at classed
  obtain ⟨key, -, same⟩ := classed
  obtain ⟨rfl, whole⟩ := Prod.mk.inj same
  exact whole.symm

theorem mem_rows_iff {group : Group} (member : group ∈ partition columns rows) {row : Row} :
    row ∈ group.rows ↔ row ∈ rows ∧ keyOf columns row = group.key := by
  rw [rows_eq_of_mem_partition member, List.mem_filter, beq_iff_eq]

theorem shares_group_iff {other : Row} (member : row ∈ rows) (otherMember : other ∈ rows) :
    (∃ group ∈ partition columns rows, row ∈ group.rows ∧ other ∈ group.rows) ↔
      keyOf columns row = keyOf columns other := by
  constructor
  · rintro ⟨group, inside, first, second⟩
    rw [mem_rows_iff inside] at first second
    exact first.2.trans second.2.symm
  · intro same
    have classed : classOf columns rows (keyOf columns row) ∈ classes (partition columns rows) := by
      rw [classes_partition]
      exact List.mem_map_of_mem (mem_firstSeen.mpr (List.mem_map_of_mem member))
    obtain ⟨group, inside, shown⟩ := List.mem_map.mp classed
    obtain ⟨-, whole⟩ := Prod.mk.inj shown
    refine ⟨group, inside, ?_, ?_⟩
    · rw [whole]
      exact List.mem_filter.mpr ⟨member, beq_self_eq_true _⟩
    · rw [whole]
      exact List.mem_filter.mpr ⟨otherMember, beq_iff_eq.mpr same.symm⟩

theorem perm_flatMap_filter {α β : Type} [DecidableEq β] (key : α → β) {keys : List β}
    (distinct : keys.Nodup) {items : List α} (covered : ∀ item ∈ items, key item ∈ keys) :
    (keys.flatMap fun shared => items.filter fun item => key item == shared).Perm items := by
  induction keys generalizing items with
  | nil =>
    cases items with
    | nil => exact .nil
    | cons item items => cases covered item List.mem_cons_self
  | cons first rest ih =>
    obtain ⟨absent, distinct⟩ := List.nodup_cons.mp distinct
    let others := items.filter fun item => !(key item == first)
    have covers : ∀ item ∈ others, key item ∈ rest := by
      intro item member
      obtain ⟨inside, other⟩ := List.mem_filter.mp member
      exact (List.mem_cons.mp (covered item inside)).resolve_left (by simpa using other)
    -- The keys that are left tell the others apart as they tell all items apart.
    have left : ∀ shared ∈ rest, (items.filter fun item => key item == shared) =
        others.filter fun item => key item == shared := by
      intro shared member
      have different : shared ≠ first := fun same => absent (same ▸ member)
      rw [List.filter_filter]
      refine List.filter_congr fun item _ => ?_
      by_cases same : key item = shared
      · simp [same, different]
      · simp [same]
    rw [List.flatMap_cons, List.flatMap_def, List.map_congr_left left, ← List.flatMap_def]
    exact ((ih distinct covers).append_left _).trans (List.filter_append_perm _ items)

/-- The groups have every row once. -/
theorem perm_flatMap_partition (columns : List String) (rows : List Row) :
    ((partition columns rows).flatMap Group.rows).Perm rows := by
  have grouped : (partition columns rows).flatMap Group.rows =
      (classes (partition columns rows)).flatMap Prod.snd := by
    rw [classes, List.flatMap_map]
  rw [grouped, classes_partition, List.flatMap_map]
  exact perm_flatMap_filter (keyOf columns) (nodup_firstSeen _) fun row member =>
    mem_firstSeen.mpr (List.mem_map_of_mem member)

end Tabular.Group
