import Tabular.Proofs.Sql.Condition
import Tabular.Proofs.Sql.Selected
import Tabular.Proofs.Sql.Statement
import Tabular.Proofs.Text.Digits
import Tabular.Proofs.Text.Split

/-! Reading a written statement gives back its clauses.

A keyword is mentioned in a written statement only where its clause starts, so each clause is
found in its own place. The search for a clause passes over whatever is written before it.
-/

set_option autoImplicit false

namespace Tabular.Sql

open Text

section Mentions

variable (keyword : Keyword)

theorem isAsciiDigit_of_mem_written {numeral : Numeral} {c : Char} (member : c ∈ numeral.written) :
    isAsciiDigit c = true := by
  rcases List.mem_append.mp member with zero | digit
  · rw [List.eq_of_mem_replicate zero]
    rfl
  · exact isAsciiDigit_of_mem_toDigits digit

theorem mentions_numeral (numeral : Numeral) :
    mentions keyword.letters numeral.written = false :=
  mentions_digits keyword fun _ digit => isAsciiDigit_of_mem_written digit

theorem mentions_blanks (gap : Nat) (rest : List Char) :
    mentions keyword.letters (blanks gap ++ rest) = mentions keyword.letters rest := by
  induction gap with
  | zero => rfl
  | succ gap ih =>
    rw [blanks, List.replicate_succ, List.cons_append, mentions_cons_mark keyword (by decide)]
    exact ih

theorem mentions_label (label : Option Name) :
    mentions keyword.letters (labelWritten label) = false := by
  cases label with
  | none => exact mentions_nil (letters_ne_nil keyword)
  | some label =>
    simp (disch := decide) only [labelWritten, mentions_cons_mark, mentions_mark_cons,
      mentions_filler, label.free.mentions_eq_false, Bool.or_self]

theorem mentions_item (item : Item) : mentions keyword.letters item.written = false := by
  cases item with
  | column name => exact name.free.mentions_eq_false keyword
  | call made =>
    have spelled : mentions keyword.letters made.spelled = false := by
      rw [mentions_congr (made.spells.trans (map_toLower_name made.function).symm),
        mentions_function]
    simp (disch := decide) only [Item.written, mentions_mark_cons, spelled,
      made.column.free.mentions_eq_false, mentions_label, Bool.or_self]

theorem itemsWritten_cons_cons (gap : Nat) (first second : Item) (items : List Item) :
    itemsWritten gap (first :: second :: items) =
      first.written ++ ',' :: (blanks gap ++ itemsWritten gap (second :: items)) := by
  unfold itemsWritten
  rw [List.map_cons, List.map_cons, List.intercalate_cons_cons, List.append_assoc]
  rfl

theorem mentions_items (gap : Nat) (items : List Item) :
    mentions keyword.letters (itemsWritten gap items) = false := by
  induction items with
  | nil => exact mentions_nil (letters_ne_nil keyword)
  | cons item items ih =>
    have here := mentions_item keyword item
    cases items with
    | nil => rwa [itemsWritten, List.map_cons, List.map_nil, List.intercalate_singleton]
    | cons second items =>
      rw [itemsWritten_cons_cons, mentions_mark_cons keyword (by decide), here, mentions_blanks, ih]
      rfl

theorem mentions_table (table : Table) : mentions keyword.letters table.written = false := by
  unfold Table.written
  split
  · rw [mentions_cons_mark keyword (by decide), mentions_concat_mark keyword (by decide),
      table.free.mentions_eq_false]
  · exact table.free.mentions_eq_false keyword

theorem operator_mem_marks (comparison : Comparison) : comparison.operator ∈ marks := by
  have all : ∀ operator ∈ ['=', '>', '<'], operator ∈ marks := by decide
  exact all comparison.operator comparison.known

theorem mentions_body (part : Part) : mentions keyword.letters part.body = false := by
  cases part with
  | condition comparison =>
    have operator := mentions_cons_mark keyword (operator_mem_marks comparison)
    have nothing := mentions_nil (letters_ne_nil keyword)
    simp (disch := decide) only [Part.body, mentions_mark_cons, operator, mentions_cons_mark,
      comparison.column.free.mentions_eq_false, comparison.literal.free.mentions_eq_false, nothing,
      Bool.or_self]
  | grouping column =>
    simp (disch := decide) only [Part.body, mentions_mark_cons, mentions_filler,
      column.free.mentions_eq_false, Bool.or_self]
  | limit count => exact mentions_numeral keyword count

theorem mentions_part {keyword : Keyword} {part : Part} (different : part.keyword ≠ keyword) :
    mentions keyword.letters part.written = false := by
  rw [Part.written, mentions_mark_cons keyword (by decide),
    mentions_other_keyword keyword different, mentions_body]
  rfl

theorem partsWritten_cons (part : Part) (parts : List Part) :
    partsWritten (part :: parts) = ' ' :: (part.written ++ partsWritten parts) := rfl

theorem mentions_append_parts {keyword : Keyword} {text : List Char}
    (unmentioned : mentions keyword.letters text = false) {parts : List Part}
    (different : ∀ part ∈ parts, part.keyword ≠ keyword) :
    mentions keyword.letters (text ++ partsWritten parts) = false := by
  -- The written clauses join the text one after the other, each behind a blank.
  induction parts generalizing text with
  | nil => rwa [partsWritten, List.flatMap_nil, List.append_nil]
  | cons part parts ih =>
    obtain ⟨here, later⟩ := List.forall_mem_cons.mp different
    have longer : mentions keyword.letters (text ++ ' ' :: part.written) = false := by
      rw [mentions_mark_cons keyword (by decide), unmentioned, mentions_part here]
      rfl
    have whole := ih longer later
    rwa [List.append_assoc, List.cons_append, ← partsWritten_cons] at whole

theorem mentions_opening {keyword : Keyword} (statement : Statement)
    (notSelect : .select ≠ keyword) (notSource : .source ≠ keyword) :
    mentions keyword.letters statement.opening = false := by
  simp (disch := decide) only [Statement.opening, mentions_mark_cons,
    mentions_other_keyword keyword notSelect, mentions_other_keyword keyword notSource,
    mentions_items, mentions_table, Bool.or_self]

end Mentions

section Arrangement

variable {statement : Statement}

def Statement.part? (statement : Statement) : Keyword → Option Part
  | .condition => statement.comparison.map .condition
  | .grouping => statement.grouping.map .grouping
  | .limit => statement.limit.map .limit
  | _ => none

theorem mem_parts {part : Part} :
    part ∈ statement.parts ↔ statement.part? part.keyword = some part := by
  rw [statement.arranged.mem_iff]
  cases part <;> simp [Statement.part?, Part.keyword]

theorem distinct_keywords (statement : Statement) : (statement.parts.map Part.keyword).Nodup := by
  rw [(statement.arranged.map Part.keyword).nodup_iff]
  cases statement.comparison <;> cases statement.grouping <;> cases statement.limit <;>
    simp [Part.keyword]

theorem opening_ne_keyword (part : Part) : .select ≠ part.keyword ∧ .source ≠ part.keyword := by
  cases part <;> simp [Part.keyword]

theorem mentions_written_of_none {keyword : Keyword} (notSelect : .select ≠ keyword)
    (notSource : .source ≠ keyword) (absent : statement.part? keyword = none) :
    mentions keyword.letters statement.written = false := by
  refine mentions_append_parts (mentions_opening statement notSelect notSource) ?_
  intro part member same
  rw [mem_parts, same, absent] at member
  cases member

/-- A clause stands behind a blank, and its keyword is not mentioned before. -/
theorem written_at (part : Part) (present : statement.part? part.keyword = some part) :
    ∃ passed after, mentions part.keyword.letters passed = false ∧
      statement.written = passed ++
        ' ' :: (part.keyword.letters ++ ' ' :: (part.body ++ partsWritten after)) := by
  obtain ⟨before, after, split⟩ := List.append_of_mem (mem_parts.mpr present)
  have distinct := distinct_keywords statement
  rw [split, List.map_append, List.map_cons] at distinct
  -- Keywords occur once, so the clauses written before have other keywords.
  have earlier : ∀ other ∈ before, other.keyword ≠ part.keyword := fun other member =>
    (List.nodup_append.mp distinct).2.2 other.keyword (List.mem_map_of_mem member)
      part.keyword List.mem_cons_self
  obtain ⟨notSelect, notSource⟩ := opening_ne_keyword part
  have opening := mentions_opening statement notSelect notSource
  refine ⟨statement.opening ++ partsWritten before, after, ?_, ?_⟩
  · exact mentions_append_parts opening earlier
  · rw [Statement.written, split, partsWritten, List.flatMap_append, ← List.append_assoc,
      List.flatMap_cons, Part.written]
    simp only [List.append_assoc, List.cons_append]
    rfl

theorem condition_append (comparison : Comparison) (rest : List Char) :
    (Part.condition comparison).body ++ rest =
      comparison.column.chars ++ ' ' :: comparison.operator :: ' ' :: '\'' ::
        (comparison.literal.chars ++ '\'' :: rest) := by
  simp [Part.body]

theorem grouping_append (column : Name) (rest : List Char) :
    (Part.grouping column).body ++ rest = "BY".toList ++ ' ' :: (column.chars ++ rest) := by
  rw [Part.body, List.append_assoc]
  rfl

theorem stops_parts {accepts : Char → Bool} (refused : accepts ' ' = false) (parts : List Part) :
    Stops accepts (partsWritten parts) := by
  cases parts with
  | nil => exact stops_nil accepts
  | cons part parts => exact stops_cons refused _

end Arrangement

section Items

theorem isWord_of_mem_name {name : Name} {c : Char} (member : c ∈ name.chars) : isWord c = true :=
  isWord_of_isNameChar (name.plain c member)

theorem trimmed_name (name : Name) : Trimmed name.chars :=
  trimmed_of_isWord name.nonempty fun _ member => isWord_of_mem_name member

theorem spelled_ne_nil (made : Call) : made.spelled ≠ [] := by
  intro empty
  have spells := made.spells
  rw [empty] at spells
  revert spells
  cases made.function <;> decide

theorem trimmed_item (item : Item) : Trimmed item.written := by
  cases item with
  | column name => exact trimmed_name name
  | call made =>
    have nonempty := spelled_ne_nil made
    have starts : Stops isBlank made.spelled := by
      obtain ⟨first, others, spelled⟩ := List.exists_cons_of_ne_nil nonempty
      rw [spelled]
      exact stops_cons
        (isBlank_spelled made.spells first (spelled ▸ List.mem_cons_self)) others
    have closing : Trimmed [')'] :=
      ⟨List.cons_ne_nil _ _, stops_cons (by decide) [], stops_cons (by decide) []⟩
    have call := trimmed_append nonempty starts closing ('(' :: made.column.chars)
    cases labelled : made.label with
    | none =>
      rw [List.append_assoc] at call
      rwa [Item.written, labelled, labelWritten]
    | some label =>
      have whole := trimmed_append call.nonempty call.starts (trimmed_name label)
        (' ' :: ("AS".toList ++ [' ']))
      rw [Item.written, labelled, labelWritten]
      simp only [List.append_assoc, List.cons_append, List.nil_append] at whole
      exact whole

theorem trimmed_items {items : List Item} (nonempty : items ≠ []) (gap : Nat) :
    Trimmed (itemsWritten gap items) := by
  -- Only the first item decides how the list starts, and only the last how it ends.
  induction items with
  | nil => exact absurd rfl nonempty
  | cons item items ih =>
    cases items with
    | nil =>
      rw [itemsWritten, List.map_cons, List.map_nil, List.intercalate_singleton]
      exact trimmed_item item
    | cons second items =>
      have first := trimmed_item item
      have whole := trimmed_append first.nonempty first.starts (ih (List.cons_ne_nil _ _))
        (',' :: blanks gap)
      rwa [List.append_assoc, List.cons_append, ← itemsWritten_cons_cons] at whole

theorem not_mem_name {mark : Char} (foreign : isNameChar mark = false) (name : Name) :
    mark ∉ name.chars := by
  intro member
  rw [name.plain mark member] at foreign
  cases foreign

theorem comma_not_mem_label (label : Option Name) : ',' ∉ labelWritten label := by
  cases label with
  | none => exact List.not_mem_nil
  | some label =>
    have inName := not_mem_name (by decide : isNameChar ',' = false) label
    simp [labelWritten, inName]

theorem comma_not_mem_item (item : Item) : ',' ∉ item.written := by
  cases item with
  | column name => exact not_mem_name (by decide) name
  | call made =>
    have inName := not_mem_name (by decide : isNameChar ',' = false) made.column
    have inSpelled : ',' ∉ made.spelled := not_mem_spelled made.spells (by decide)
    simp [Item.written, inSpelled, inName, comma_not_mem_label]

theorem aggregateOf_item (item : Item) : aggregateOf item.written = item.aggregate? := by
  cases item with
  | column name =>
    refine aggregateOf_plain fun c member => beq_eq_false_iff_ne.mpr ?_
    rintro rfl
    exact not_mem_name (by decide) name member
  | call made =>
    have wordChars : ∀ c ∈ made.column.chars, isWord c = true :=
      fun _ member => isWord_of_mem_name member
    cases labelled : made.label with
    | none =>
      rw [Item.written, labelled, labelWritten,
        aggregateOf_unlabelled made.real made.spells made.column.nonempty wordChars]
      simp only [Item.aggregate?, labelled]
      rfl
    | some label =>
      have labelChars : ∀ c ∈ label.chars, isWord c = true :=
        fun _ member => isWord_of_mem_name member
      rw [Item.written, labelled, labelWritten, aggregateOf_labelled made.real made.spells
        made.column.nonempty wordChars label.nonempty labelChars]
      simp only [Item.aggregate?, labelled]
      rfl

theorem aggregateOf_blanks (gap : Nat) (part : List Char) :
    aggregateOf (blanks gap ++ part) = aggregateOf part := by
  induction gap with
  | zero => rfl
  | succ gap ih =>
    rw [blanks, List.replicate_succ, List.cons_append, aggregateOf_cons_blank]
    exact ih

theorem aggregates_items {items : List Item} (nonempty : items ≠ []) (gap : Nat) :
    (splitAt ',' (itemsWritten gap items)).filterMap aggregateOf =
      items.filterMap Item.aggregate? := by
  obtain ⟨first, others, rfl⟩ := List.exists_cons_of_ne_nil nonempty
  have free : ∀ part ∈ others.map Item.written, ',' ∉ part := by
    intro part member
    obtain ⟨item, _, rfl⟩ := List.mem_map.mp member
    exact comma_not_mem_item item
  have apart : ',' ∉ blanks gap := by
    simp [blanks]
  rw [itemsWritten, List.map_cons, splitAt_joined apart (comma_not_mem_item first) free,
    List.filterMap_cons, List.filterMap_cons, aggregateOf_item, List.filterMap_map,
    List.filterMap_map]
  have each : (aggregateOf ∘ fun part => blanks gap ++ part) ∘ Item.written = Item.aggregate? := by
    funext item
    exact (aggregateOf_blanks gap item.written).trans (aggregateOf_item item)
  rw [each]

end Items

section Reading

variable (statement : Statement)

theorem digitsValue_written (numeral : Numeral) :
    digitsValue numeral.written 0 = numeral.value := by
  rw [Numeral.written, digitsValue_append, digitsValue_zeros, Nat.zero_mul, digitsValue_toDigits]

theorem findLimit_written : findLimit statement.written = statement.limit.map Numeral.value := by
  cases limited : statement.limit with
  | none =>
    have unmentioned : mentions Keyword.limit.letters statement.written = false :=
      mentions_written_of_none (by decide) (by decide) (by simp [Statement.part?, limited])
    rw [letters_limit] at unmentioned
    exact findLimit_eq_none unmentioned
  | some count =>
    have present : statement.part? .limit = some (.limit count) := by
      simp [Statement.part?, limited]
    obtain ⟨passed, after, unmentioned, split⟩ := written_at (.limit count) present
    have digits : count.written ≠ [] :=
      List.append_ne_nil_of_right_ne_nil _ Nat.toDigits_ne_nil
    simp only [Part.keyword, Part.body, letters_limit] at unmentioned split
    rw [split, findLimit_digits unmentioned digits
        (fun _ digit => isAsciiDigit_of_mem_written digit) (stops_parts (by decide) after),
      digitsValue_written, if_pos count.bounded]
    rfl

theorem findGroupBy_written : findGroupBy statement.written = statement.grouping.map Name.text := by
  cases grouped : statement.grouping with
  | none =>
    have unmentioned : mentions Keyword.grouping.letters statement.written = false :=
      mentions_written_of_none (by decide) (by decide) (by simp [Statement.part?, grouped])
    rw [letters_grouping] at unmentioned
    exact findGroupBy_eq_none unmentioned
  | some column =>
    have present : statement.part? .grouping = some (.grouping column) := by
      simp [Statement.part?, grouped]
    obtain ⟨passed, after, unmentioned, split⟩ := written_at (.grouping column) present
    rw [grouping_append] at split
    simp only [Part.keyword, letters_grouping] at unmentioned split
    rw [split]
    exact findGroupBy_column unmentioned column.nonempty
      (fun _ member => isWord_of_mem_name member) (stops_parts (by decide) after)

theorem mentionsClause_of_free {text : List Char} (free : KeywordFree text) :
    mentionsClause text = false := by
  have group := free.mentions_eq_false .grouping
  have order := free.mentions_eq_false .ordering
  have limit := free.mentions_eq_false .limit
  rw [letters_grouping] at group
  rw [letters_ordering] at order
  rw [letters_limit] at limit
  simp only [mentionsClause, group, order, limit, Bool.or_self]

theorem findCondition_written :
    findCondition statement.written = statement.comparison.map Comparison.condition := by
  cases compared : statement.comparison with
  | none =>
    have unmentioned : mentions Keyword.condition.letters statement.written = false :=
      mentions_written_of_none (by decide) (by decide) (by simp [Statement.part?, compared])
    rw [letters_condition] at unmentioned
    exact findCondition_eq_none unmentioned
  | some comparison =>
    have present : statement.part? .condition = some (.condition comparison) := by
      simp [Statement.part?, compared]
    obtain ⟨passed, after, unmentioned, split⟩ := written_at (.condition comparison) present
    have operates : isOperatorChar comparison.operator = true := by
      have all : ∀ operator ∈ ['=', '>', '<'], isOperatorChar operator = true := by decide
      exact all comparison.operator comparison.known
    have unquoted : ∀ c ∈ comparison.literal.chars, (!isQuote c) = true := by
      intro c member
      rw [comparison.literal.unquoted c member]
      rfl
    have wholeLiteral := mentionsClause_of_free comparison.literal.free
    obtain ⟨first, others, name⟩ := List.exists_cons_of_ne_nil comparison.column.nonempty
    have wordChars : ∀ c ∈ first :: others, isWord c = true := by
      intro c member
      exact isWord_of_mem_name (name ▸ member)
    have wholeName : mentionsClause others = false := by
      have free : KeywordFree (first :: others) := name ▸ comparison.column.free
      exact mentionsClause_of_free fun keyword member => mentions_tail (free keyword member)
    rw [condition_append, name] at split
    simp only [Part.keyword, letters_condition] at unmentioned split
    rw [split, findCondition_comparison unmentioned wordChars operates
      comparison.literal.nonempty unquoted, wholeName, wholeLiteral, ← name]
    simp only [Option.map_some, Comparison.condition, Name.text, trim, String.toList_ofList]
    rfl

theorem findSource_written :
    findSource statement.written = some (String.ofList statement.table.chars) := by
  have unmentioned : mentions Keyword.source.letters
      (Keyword.select.letters ++ ' ' :: itemsWritten statement.gap statement.items) = false := by
    simp (disch := decide) only [mentions_mark_cons, mentions_other_keyword, mentions_items,
      Bool.or_self]
  have split : statement.written =
      Keyword.select.letters ++ ' ' :: itemsWritten statement.gap statement.items ++ ' ' ::
        (Keyword.source.letters ++ ' ' ::
          (statement.table.written ++ partsWritten statement.parts)) := by
    simp only [Statement.written, Statement.opening, List.append_assoc, List.cons_append]
  -- Without its quotes the table is the same capture.
  rw [letters_source] at unmentioned split
  rw [split, Table.written]
  by_cases quoted : statement.table.quoted = true
  · have closed : '"' :: (statement.table.chars ++ ['"']) ++ partsWritten statement.parts =
        '"' :: (statement.table.chars ++ '"' :: partsWritten statement.parts) := by
      rw [List.cons_append, List.append_assoc]
      rfl
    rw [if_pos quoted, closed]
    exact findSource_quoted unmentioned statement.table.nonempty statement.table.accepted
  · rw [if_neg quoted]
    exact findSource_bare unmentioned statement.table.nonempty statement.table.accepted
      (stops_parts (by decide) _)

theorem findAggregates_written :
    findAggregates statement.written = statement.items.filterMap Item.aggregate? := by
  have unmentioned := mentions_items .source statement.gap statement.items
  have split : statement.written = Keyword.select.letters ++ ' ' ::
      (itemsWritten statement.gap statement.items ++ ' ' :: (Keyword.source.letters ++
        (' ' :: statement.table.written ++ partsWritten statement.parts))) := by
    simp only [Statement.written, Statement.opening, List.append_assoc, List.cons_append]
  rw [letters_source] at unmentioned split
  rw [letters_select] at split
  have captured := find_selectPattern (trimmed_items statement.nonempty statement.gap) unmentioned
    (' ' :: statement.table.written ++ partsWritten statement.parts)
  rw [← split] at captured
  simp only [findAggregates, captured, aggregates_items statement.nonempty]

end Reading

/-- Reading a written statement gives its table, and each of its clauses and aggregates, in
whatever order the clauses are written. -/
theorem ofStatement_text (statement : Statement) :
    Clauses.ofStatement statement.text = statement.clauses := by
  simp only [Clauses.ofStatement, Statement.text, String.toList_ofList, Statement.clauses,
    findSource_written, findLimit_written, findCondition_written, findGroupBy_written,
    findAggregates_written]

unseal Keyword.letters in
set_option maxRecDepth 4000 in
def limitFirst : Statement :=
  let region : Name := ⟨"region".toList, by decide, by decide, by decide⟩
  let revenue : Name := ⟨"revenue".toList, by decide, by decide, by decide⟩
  let total : Name := ⟨"total".toList, by decide, by decide, by decide⟩
  let comparison : Comparison :=
    ⟨revenue, '>', by decide, ⟨" 10".toList, by decide, by decide, by decide⟩⟩
  let count : Numeral := ⟨1, 5, by decide⟩
  { items := [.column region, .call ⟨.sum, by decide, "Sum".toList, by decide, revenue, some total⟩]
    nonempty := List.cons_ne_nil _ _
    gap := 1
    table := ⟨"sales".toList, by decide, by decide, by decide, true⟩
    comparison := some comparison
    grouping := some region
    limit := some count
    parts := [.limit count, .condition comparison, .grouping region]
    arranged := by decide }

unseal Keyword.letters in
set_option maxRecDepth 4000 in
theorem ofStatement_limitFirst :
    Clauses.ofStatement ("SELECT region, Sum(revenue) AS total FROM \"sales\" " ++
        "LIMIT 05 WHERE revenue > ' 10' GROUP BY region") =
      ⟨some "sales", some 5, some ⟨"revenue", ">", "10"⟩, some "region",
        [⟨.sum, "revenue", some "total"⟩]⟩ := by
  have text : limitFirst.text = "SELECT region, Sum(revenue) AS total FROM \"sales\" " ++
      "LIMIT 05 WHERE revenue > ' 10' GROUP BY region" := by
    decide
  have clauses : limitFirst.clauses = ⟨some "sales", some 5, some ⟨"revenue", ">", "10"⟩,
      some "region", [⟨.sum, "revenue", some "total"⟩]⟩ := by
    decide
  have read := ofStatement_text limitFirst
  rwa [text, clauses] at read

end Tabular.Sql
