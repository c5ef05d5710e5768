import Tabular.Proofs.Query.Comparison

/-! Reductions of numbers.

What an aggregation is given are the numbers that the rows of a group hold in a column, in the order
of the rows; rows without a numeric view there have none. What it makes of them is said here by the
aggregation alone: their sum, how many there are, their mean, and one that none of the others comes
before. The least and the greatest are found in one pass that chooses between two numbers at a time.
-/

set_option autoImplicit false

namespace Tabular

/-- The numbers that rows hold in a column. -/
inductive NumbersOf (column : String) : List Row → List Float → Prop where
  | nil : NumbersOf column [] []
  | numeric {row : Row} {rows : List Row} {numbers : List Float} :
      (row.value column).IsNumeric → NumbersOf column rows numbers →
      NumbersOf column (row :: rows) ((row.value column).toNumber :: numbers)
  | other {row : Row} {rows : List Row} {numbers : List Float} :
      ¬(row.value column).IsNumeric → NumbersOf column rows numbers →
      NumbersOf column (row :: rows) numbers

/-- What an aggregation makes of numbers. Without any of them it is zero. -/
inductive Reduces (numbers : List Float) : Aggregation → Float → Prop where
  | sum : Reduces numbers .sum (numbers.foldl (· + ·) (Number.ofNat 0))
  | count : Reduces numbers .count (Number.ofNat numbers.length)
  | avg : numbers ≠ [] →
      Reduces numbers .avg
        (numbers.foldl (· + ·) (Number.ofNat 0) / Number.ofNat numbers.length)
  | min {least : Float} : least ∈ numbers → (∀ x ∈ numbers, least ≤ x) →
      Reduces numbers .min least
  | max {greatest : Float} : greatest ∈ numbers → (∀ x ∈ numbers, x ≤ greatest) →
      Reduces numbers .max greatest
  | nothing {aggregation : Aggregation} : numbers = [] → aggregation ≠ .none →
      Reduces numbers aggregation (Number.ofNat 0)

namespace Aggregation

/-! ## Choices -/

structure Chooses (precedes : Float → Float → Prop) (choose : Float → Float → Float) : Prop where
  either {x y : Float} : x.isNaN = false → y.isNaN = false → choose x y = x ∨ choose x y = y
  first {x y : Float} : x.isNaN = false → y.isNaN = false → precedes (choose x y) x
  second {x y : Float} : x.isNaN = false → y.isNaN = false → precedes (choose x y) y
  self {x : Float} : x.isNaN = false → precedes x x
  trans {x y z : Float} : precedes x y → precedes y z → precedes x z
  level {x y : Float} : precedes x y → precedes y x → (x == y) = true

variable {precedes : Float → Float → Prop} {choose : Float → Float → Float}

theorem chooses_of_test (before : Float → Float → Prop) [DecidableRel before]
    (chosen : ∀ x y, x.isNaN = false → y.isNaN = false →
      choose x y = if before y x then y else x)
    (passed : ∀ {x y}, x.isNaN = false → y.isNaN = false → before y x → precedes y x)
    (failed : ∀ {x y}, x.isNaN = false → y.isNaN = false → ¬before y x → precedes x y)
    (self : ∀ {x}, x.isNaN = false → precedes x x)
    (trans : ∀ {x y z}, precedes x y → precedes y z → precedes x z)
    (level : ∀ {x y}, precedes x y → precedes y x → (x == y) = true) : Chooses precedes choose where
  either {x y} number other := by
    rw [chosen x y number other]
    exact (ite_eq_or_eq _ _ _).symm
  first {x y} number other := by
    rw [chosen x y number other]
    split_ifs with test
    · exact passed number other test
    · exact self number
  second {x y} number other := by
    rw [chosen x y number other]
    split_ifs with test
    · exact self other
    · exact failed number other test
  self := self
  trans := trans
  level := level

theorem chooses_lesser : Chooses (· ≤ ·) lesser := by
  refine chooses_of_test (· < ·) (fun x y number other => ?_)
    (fun number other => Number.atMost_of_lt other number)
    (fun number other => Number.atMost_of_not_lt other number)
    Number.atMost_self Number.atMost_trans fun below above => ?_
  · simp only [lesser, number, other, Bool.false_eq_true, if_false]
  · exact (Number.beq_iff_le_and_le _ _).mpr ⟨above, below⟩

theorem chooses_greater : Chooses (· ≥ ·) greater := by
  refine chooses_of_test (· > ·) (fun x y number other => ?_)
    (fun number other => Number.atMost_of_lt number other)
    (fun number other => Number.atMost_of_not_lt number other)
    Number.atMost_self (fun above below => Number.atMost_trans below above) fun above below => ?_
  · simp only [greater, number, other, Bool.false_eq_true, if_false, gt_iff_lt]
  · exact (Number.beq_iff_le_and_le _ _).mpr ⟨above, below⟩

/-- Choosing from the left leaves one of the numbers, and none of them comes before it. -/
theorem Chooses.foldl (chooses : Chooses precedes choose) {first : Float} {rest : List Float}
    (numbers : ∀ x ∈ first :: rest, x.isNaN = false) :
    rest.foldl choose first ∈ first :: rest ∧
      ∀ x ∈ first :: rest, precedes (rest.foldl choose first) x := by
  induction rest generalizing first with
  | nil => simpa using chooses.self (numbers first List.mem_cons_self)
  | cons second rest ih =>
    obtain ⟨number, others⟩ := List.forall_mem_cons.mp numbers
    obtain ⟨other, later⟩ := List.forall_mem_cons.mp others
    have chosen := chooses.either number other
    have real : (choose first second).isNaN = false := by
      rcases chosen with same | same <;> rw [same] <;> assumption
    -- The pass goes on as if the number chosen here had been the first.
    obtain ⟨member, outermost⟩ := ih (List.forall_mem_cons.mpr ⟨real, later⟩)
    obtain ⟨here, behind⟩ := List.forall_mem_cons.mp outermost
    rw [List.foldl_cons]
    constructor
    · rcases List.mem_cons.mp member with same | inside
      · rw [same]
        rcases chosen with same | same <;> simp [same]
      · exact List.mem_cons_of_mem _ (List.mem_cons_of_mem _ inside)
    · rw [List.forall_mem_cons, List.forall_mem_cons]
      exact ⟨chooses.trans here (chooses.first number other),
        chooses.trans here (chooses.second number other), behind⟩

theorem mem_numbersIn {rows : List Row} {column : String} {x : Float} :
    x ∈ numbersIn rows column ↔
      ∃ row ∈ rows, (row.value column).IsNumeric ∧ (row.value column).toNumber = x := by
  simp only [numbersIn, List.mem_filter, List.mem_map, Bool.not_eq_true', Value.IsNumeric]
  constructor
  · rintro ⟨⟨row, member, rfl⟩, number⟩
    exact ⟨row, member, number, rfl⟩
  · rintro ⟨row, member, number, rfl⟩
    exact ⟨⟨row, member, rfl⟩, number⟩

theorem isNaN_of_mem_numbersIn {rows : List Row} {column : String} {x : Float}
    (member : x ∈ numbersIn rows column) : x.isNaN = false := by
  obtain ⟨row, -, numeric, rfl⟩ := mem_numbersIn.mp member
  exact numeric

theorem numbersOf_numbersIn (rows : List Row) (column : String) :
    NumbersOf column rows (numbersIn rows column) := by
  induction rows with
  | nil => exact .nil
  | cons row rows ih =>
    by_cases numeric : (row.value column).IsNumeric
    · have kept : numbersIn (row :: rows) column =
          (row.value column).toNumber :: numbersIn rows column :=
        List.filter_cons_of_pos (by simpa [Value.IsNumeric] using numeric)
      rw [kept]
      exact .numeric numeric ih
    · have dropped : numbersIn (row :: rows) column = numbersIn rows column :=
        List.filter_cons_of_neg (by simpa [Value.IsNumeric] using numeric)
      rw [dropped]
      exact .other numeric ih

theorem combine_chosen {precedes : Float → Float → Prop} {choose : Float → Float → Float}
    (chooses : Chooses precedes choose) {numbers : List Float} (some : numbers ≠ [])
    (real : ∀ x ∈ numbers, x.isNaN = false) :
    combine choose numbers ∈ numbers ∧ ∀ x ∈ numbers, precedes (combine choose numbers) x := by
  cases numbers with
  | nil => exact absurd rfl some
  | cons first rest => exact chooses.foldl real

theorem reduces_of_reduce {aggregation : Aggregation} {numbers : List Float} {number : Float}
    (real : ∀ x ∈ numbers, x.isNaN = false)
    (reduced : aggregation.reduce numbers = some number) : Reduces numbers aggregation number := by
  have reduces : aggregation ≠ .none := by
    rintro rfl
    cases reduced
  by_cases empty : numbers = []
  · obtain rfl : number = Number.ofNat 0 := by
      subst empty
      cases aggregation <;> first | exact absurd rfl reduces | exact (Option.some.inj reduced).symm
    exact .nothing empty reduces
  · cases aggregation with
    | none => exact absurd rfl reduces
    | sum => exact Option.some.inj reduced ▸ .sum
    | count => exact Option.some.inj reduced ▸ .count
    | avg =>
      rw [reduce, if_neg (by simpa using empty)] at reduced
      exact Option.some.inj reduced ▸ .avg empty
    | min =>
      obtain ⟨member, least⟩ := combine_chosen chooses_lesser empty real
      exact Option.some.inj reduced ▸ .min member least
    | max =>
      obtain ⟨member, greatest⟩ := combine_chosen chooses_greater empty real
      exact Option.some.inj reduced ▸ .max member greatest

end Aggregation

end Tabular
