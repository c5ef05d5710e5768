import Tabular.Proofs.Sql.Selected
import Tabular.Proofs.Sql.Spaced
import Tabular.Proofs.Text.Split

/-! A statement of columns and calls alone, whatever words its names mention.

A name that starts with FROM ends the list where a blank stands in front of it, and one that ends
with FROM is taken for the word itself where a blank stands behind it. Nothing else in a name
disturbs what is read.
-/

set_option autoImplicit false

namespace Tabular.Sql

open Text
open Text.Pattern

structure PlainName where
  chars : List Char
  nonempty : chars ≠ []
  plain : ∀ c ∈ chars, isNameChar c = true

structure PlainCall where
  function : Aggregation
  real : function ≠ .none
  spelled : List Char
  spells : spelled.map Char.toLower = function.name.toList
  column : PlainName
  label : Option PlainName

inductive Selected where
  | column (name : PlainName)
  | call (made : PlainCall)

section Writing

def PlainName.text (name : PlainName) : String := String.ofList name.chars

namespace Selected

def head : Selected → List Char
  | .column name => name.chars
  | .call made => made.spelled ++ '(' :: (made.column.chars ++ [')'])

def label? : Selected → Option PlainName
  | .column _ => none
  | .call made => made.label

def lastWord (item : Selected) : List Char :=
  match item.label? with
  | none => item.head
  | some label => label.chars

def written (item : Selected) : List Char :=
  match item.label? with
  | none => item.head
  | some label => item.head ++ ' ' :: ("AS".toList ++ ' ' :: label.chars)

def aggregate? : Selected → Option Aggregate
  | .column _ => none
  | .call made => some ⟨made.function, made.column.text, made.label.map PlainName.text⟩

end Selected

def listWritten (items : List Selected) : List Char :=
  [',', ' '].intercalate (items.map Selected.written)

def selection (items : List Selected) (table : PlainName) : List Char :=
  "SELECT".toList ++ ' ' :: (listWritten items ++ ' ' :: ("FROM".toList ++ ' ' :: table.chars))

theorem listWritten_cons_cons (first next : Selected) (others : List Selected) :
    listWritten (first :: next :: others) =
      first.written ++ ',' :: ' ' :: listWritten (next :: others) := by
  unfold listWritten
  rw [List.map_cons, List.map_cons, List.intercalate_cons_cons, List.append_assoc]
  rfl

namespace Selected

variable {item : Selected} {label : PlainName}

theorem written_of_none (unlabelled : item.label? = none) : item.written = item.head := by
  rw [written, unlabelled]

theorem written_of_some (labelled : item.label? = some label) :
    item.written = item.head ++ ' ' :: ("AS".toList ++ ' ' :: label.chars) := by
  rw [written, labelled]

end Selected

end Writing

section Words

variable {text : List Char} {c : Char}

theorem startsFrom_append_cons {separator : Char} (separates : Separates separator "FROM".toList)
    (text rest : List Char) : StartsFrom (text ++ separator :: rest) ↔ StartsFrom text := by
  rw [← startsWord_from_iff, ← startsWord_from_iff, startsWord_append_cons separates]

theorem not_endsFrom_concat (other : c.toLower ≠ 'm') (text : List Char) :
    ¬EndsFrom (text ++ [c]) := by
  intro ended
  have last := ended.getLast (by simp)
  simp only [List.map_append, List.map_singleton, List.getLast_append_singleton] at last
  exact other (last.symm.trans (by decide))

theorem isWord_of_mem_plainName {name : PlainName} (member : c ∈ name.chars) : isWord c = true :=
  isWord_of_isNameChar (name.plain c member)

theorem unblank_plainName (name : PlainName) : ∀ c ∈ name.chars, isBlank c = false :=
  fun _ member => isBlank_eq_false_of_isWord (isWord_of_mem_plainName member)

theorem not_mem_plainName {mark : Char} (foreign : isNameChar mark = false) (name : PlainName) :
    mark ∉ name.chars := fun member =>
  Bool.false_ne_true (foreign.symm.trans (name.plain mark member))

end Words

section Items

variable {item : Selected} {label : PlainName}

theorem unblank_head (item : Selected) : ∀ c ∈ item.head, isBlank c = false := by
  cases item with
  | column name => exact unblank_plainName name
  | call made =>
    refine List.forall_mem_append.mpr ⟨isBlank_spelled made.spells, ?_⟩
    refine List.forall_mem_cons.mpr ⟨by decide, List.forall_mem_append.mpr ⟨?_, by decide⟩⟩
    exact unblank_plainName made.column

theorem comma_not_mem_head (item : Selected) : ',' ∉ item.head := by
  cases item with
  | column name => exact not_mem_plainName (by decide) name
  | call made =>
    have inName := not_mem_plainName (by decide : isNameChar ',' = false) made.column
    have inSpelled : ',' ∉ made.spelled := not_mem_spelled made.spells (by decide)
    simp [Selected.head, inSpelled, inName]

theorem comma_not_mem_written (item : Selected) : ',' ∉ item.written := by
  have inHead := comma_not_mem_head item
  cases labelled : item.label? with
  | none => rwa [Selected.written_of_none labelled]
  | some label =>
    have inLabel := not_mem_plainName (by decide : isNameChar ',' = false) label
    rw [Selected.written_of_some labelled]
    simp [inHead, inLabel]

theorem exists_column_of_startsFrom (starts : StartsFrom item.head) :
    ∃ name, item = .column name := by
  cases item with
  | column name => exact ⟨name, rfl⟩
  | call made =>
    have unstarted : startsWord "FROM".toList made.function.name.toList = false := by
      cases made.function <;> decide
    rw [Selected.head, startsFrom_append_cons (by decide), ← startsWord_from_iff,
      startsWord_congr (made.spells.trans (map_toLower_name made.function).symm), unstarted] at starts
    cases starts

theorem not_endsFrom_head (labelled : item.label? = some label) : ¬EndsFrom item.head := by
  cases item with
  | column name => cases labelled
  | call made =>
    rw [Selected.head, ← List.cons_append, ← List.append_assoc]
    exact not_endsFrom_concat (by decide) _

theorem aggregateOf_written (item : Selected) : aggregateOf item.written = item.aggregate? := by
  cases item with
  | column name =>
    refine aggregateOf_plain fun c member => beq_eq_false_iff_ne.mpr ?_
    rintro rfl
    exact not_mem_plainName (by decide) name member
  | call made =>
    have wordChars : ∀ c ∈ made.column.chars, isWord c = true :=
      fun _ member => isWord_of_mem_plainName member
    cases labelled : made.label with
    | none =>
      have text : (Selected.call made).written =
          made.spelled ++ '(' :: (made.column.chars ++ [')']) := by
        simp only [Selected.written, Selected.label?, labelled, Selected.head]
      rw [text, Selected.aggregate?, labelled]
      exact aggregateOf_unlabelled made.real made.spells made.column.nonempty wordChars
    | some label =>
      have text : (Selected.call made).written =
          made.spelled ++ '(' :: (made.column.chars ++
            ')' :: ' ' :: ("AS".toList ++ ' ' :: label.chars)) := by
        simp only [Selected.written, Selected.label?, labelled, Selected.head, List.append_assoc,
          List.cons_append, List.nil_append]
      rw [text, Selected.aggregate?, labelled]
      exact aggregateOf_labelled made.real made.spells made.column.nonempty wordChars
        label.nonempty fun _ member => isWord_of_mem_plainName member

theorem aggregateOf_cut (item : Selected) (labelled : item.label? = some label) :
    aggregateOf (item.head ++ ' ' :: "AS".toList) =
      item.aggregate?.map fun aggregate => { aggregate with label := none } := by
  cases item with
  | column name => cases labelled
  | call made =>
    have wordChars : ∀ c ∈ made.column.chars, isWord c = true :=
      fun _ member => isWord_of_mem_plainName member
    have unlabelled : labelPattern.findFrom (some ')') (' ' :: "AS".toList) = none := by decide
    have text : (Selected.call made).head ++ ' ' :: "AS".toList =
        made.spelled ++ '(' :: (made.column.chars ++ ')' :: ' ' :: "AS".toList) := by
      simp only [Selected.head, List.append_assoc, List.cons_append, List.nil_append]
    rw [text, aggregateOf_call made.real made.spells made.column.nonempty wordChars, unlabelled]
    rfl

end Items

section Parts

variable {part text : List Char}

def partsRead (text : List Char) : List Aggregate := (splitAt ',' text).filterMap aggregateOf

theorem partsRead_single (free : ',' ∉ part) : partsRead part = (aggregateOf part).toList := by
  rw [partsRead, splitAt_eq_splitOn, List.splitOn_eq_singleton free, List.filterMap_cons]
  cases aggregateOf part <;> rfl

theorem partsRead_cons_blank (text : List Char) : partsRead (' ' :: text) = partsRead text := by
  rw [partsRead, partsRead, splitAt]
  cases splitAt ',' text with
  | nil => rfl
  | cons part parts =>
    change ((' ' :: part) :: parts).filterMap aggregateOf = _
    rw [List.filterMap_cons, List.filterMap_cons, aggregateOf_cons_blank]

theorem partsRead_append (free : ',' ∉ part) (text : List Char) :
    partsRead (part ++ ',' :: text) = (aggregateOf part).toList ++ partsRead text := by
  rw [partsRead, splitAt_eq_splitOn, List.splitOn_append_cons_self_of_not_mem free,
    ← splitAt_eq_splitOn, List.filterMap_cons, partsRead]
  cases aggregateOf part <;> rfl

theorem aggregateOf_nil : aggregateOf [] = none := by decide

end Parts

section Aggregates

namespace Selected

/-- Whether the list ends at the label of an item. -/
def endsAtLabel (item : Selected) : Bool :=
  item.label?.any fun label => decide (StartsFrom label.chars)

/-- What is read of an item, with its label unless the list ends there. -/
def read? (item : Selected) : Option Aggregate :=
  if item.endsAtLabel then item.aggregate?.map fun aggregate => { aggregate with label := none }
  else item.aggregate?

def reads : Selected → List Selected → List Aggregate
  | item, [] => item.read?.toList
  | item, next :: others =>
    item.read?.toList ++
      if item.endsAtLabel || decide (StartsFrom next.head) then [] else reads next others

end Selected

variable {item : Selected} {label : PlainName} {run tail rest : List Char}

theorem endsAtLabel_of_none (unlabelled : item.label? = none) : item.endsAtLabel = false := by
  rw [Selected.endsAtLabel, unlabelled]
  rfl

theorem endsAtLabel_of_some (labelled : item.label? = some label) :
    item.endsAtLabel = decide (StartsFrom label.chars) := by
  rw [Selected.endsAtLabel, labelled]
  rfl

theorem untilFrom_commas (unblank : ∀ c ∈ run, isBlank c = false) (commas : ∀ c ∈ tail, c = ',')
    (stops : Stops isBlank rest) :
    untilFrom (run ++ (tail ++ ' ' :: rest)) =
      if StartsFrom rest then some (run ++ tail)
      else (untilFrom rest).map (run ++ tail ++ ' ' :: ·) := by
  have comma : isBlank ',' = false := by decide
  rw [← List.append_assoc]
  exact untilFrom_append
    (List.forall_mem_append.mpr ⟨unblank, fun c member => commas c member ▸ comma⟩) stops

theorem startsFrom_label (label : PlainName) (commas : ∀ c ∈ tail, c = ',') :
    StartsFrom (label.chars ++ (tail ++ ' ' :: rest)) ↔ StartsFrom label.chars := by
  cases tail with
  | nil => exact startsFrom_append_cons (by decide) _ _
  | cons c tail =>
    rw [commas c List.mem_cons_self]
    exact startsFrom_append_cons (by decide) _ _

theorem untilFrom_head (item : Selected) (label : PlainName) (commas : ∀ c ∈ tail, c = ',') :
    untilFrom
        (item.head ++ ' ' :: ("AS".toList ++ ' ' :: (label.chars ++ (tail ++ ' ' :: rest)))) =
      if StartsFrom label.chars then some (item.head ++ ' ' :: "AS".toList)
      else (untilFrom (label.chars ++ (tail ++ ' ' :: rest))).map fun part =>
        item.head ++ ' ' :: ("AS".toList ++ ' ' :: part) := by
  have labelStops : Stops isBlank (label.chars ++ (tail ++ ' ' :: rest)) :=
    stops_isBlank label.nonempty (fun _ member => isWord_of_mem_plainName member) _
  have asStops : Stops isBlank ("AS".toList ++ ' ' :: (label.chars ++ (tail ++ ' ' :: rest))) :=
    stops_isBlank (by decide) (by decide) _
  have asGoesOn : ¬StartsFrom ("AS".toList ++ ' ' :: (label.chars ++ (tail ++ ' ' :: rest))) := by
    rw [startsFrom_append_cons (by decide)]
    decide
  rw [untilFrom_append (unblank_head item) asStops, if_neg asGoesOn,
    untilFrom_append (by decide) labelStops]
  simp only [startsFrom_label label commas]
  split_ifs
  · rfl
  · rw [Option.map_map]
    rfl

/-- The list goes on behind an item, unless it ends at the label or at what comes next. -/
theorem untilFrom_written (item : Selected) (commas : ∀ c ∈ tail, c = ',')
    (stops : Stops isBlank rest) :
    untilFrom (item.written ++ (tail ++ ' ' :: rest)) =
      if item.endsAtLabel then some (item.head ++ ' ' :: "AS".toList)
      else if StartsFrom rest then some (item.written ++ tail)
      else (untilFrom rest).map (item.written ++ tail ++ ' ' :: ·) := by
  cases labelled : item.label? with
  | none =>
    rw [endsAtLabel_of_none labelled, if_neg Bool.false_ne_true, Selected.written_of_none labelled]
    exact untilFrom_commas (unblank_head item) commas stops
  | some label =>
    have behind : item.written ++ (tail ++ ' ' :: rest) =
        item.head ++ ' ' :: ("AS".toList ++ ' ' :: (label.chars ++ (tail ++ ' ' :: rest))) := by
      rw [Selected.written_of_some labelled]
      simp only [List.append_assoc, List.cons_append]
    rw [behind, untilFrom_head item label commas, endsAtLabel_of_some labelled,
      Selected.written_of_some labelled]
    simp only [decide_eq_true_eq]
    by_cases atLabel : StartsFrom label.chars
    · rw [if_pos atLabel, if_pos atLabel]
    · rw [if_neg atLabel, if_neg atLabel,
        untilFrom_commas (unblank_plainName label) commas stops]
      -- What has been passed so far is put in front of either result.
      split_ifs with ended
      · simp only [Option.map_some, List.append_assoc, List.cons_append]
      · rw [Option.map_map]
        congr 1
        funext part
        simp only [Function.comp_apply, List.append_assoc, List.cons_append]

theorem comma_not_mem_cut (item : Selected) : ',' ∉ item.head ++ ' ' :: "AS".toList := by
  have apart : ',' ∉ ' ' :: "AS".toList := by decide
  exact fun member => (List.mem_append.mp member).elim (comma_not_mem_head item) apart

theorem partsRead_cut (ends : item.endsAtLabel = true) :
    partsRead (item.head ++ ' ' :: "AS".toList) = item.read?.toList := by
  obtain ⟨label, labelled, -⟩ := (Option.any_eq_true ..).mp ends
  rw [partsRead_single (comma_not_mem_cut item), aggregateOf_cut item labelled, Selected.read?,
    if_pos ends]

theorem read?_of_goesOn (goesOn : item.endsAtLabel = false) : item.read? = item.aggregate? := by
  rw [Selected.read?, goesOn, if_neg Bool.false_ne_true]

theorem head_ne_nil (item : Selected) : item.head ≠ [] := by
  cases item with
  | column name => exact name.nonempty
  | call made => exact List.append_ne_nil_of_right_ne_nil _ (List.cons_ne_nil _ _)

theorem exists_head_append (item : Selected) (others : List Selected) (rest : List Char) :
    ∃ separator more, separator ∈ [' ', ','] ∧
      listWritten (item :: others) ++ ' ' :: rest = item.head ++ separator :: more := by
  have behind : ∃ separator more, separator ∈ [' ', ','] ∧
      listWritten (item :: others) ++ ' ' :: rest = item.written ++ separator :: more := by
    cases others with
    | nil =>
      refine ⟨' ', rest, by decide, ?_⟩
      rw [listWritten, List.map_cons, List.map_nil, List.intercalate_singleton]
    | cons next others =>
      refine ⟨',', ' ' :: (listWritten (next :: others) ++ ' ' :: rest), by decide, ?_⟩
      rw [listWritten_cons_cons, List.append_assoc]
      rfl
  obtain ⟨separator, more, known, text⟩ := behind
  cases labelled : item.label? with
  | none => exact ⟨separator, more, known, by rw [text, Selected.written_of_none labelled]⟩
  | some label =>
    refine ⟨' ', "AS".toList ++ ' ' :: (label.chars ++ separator :: more), by decide, ?_⟩
    rw [text, Selected.written_of_some labelled]
    simp only [List.append_assoc, List.cons_append]

theorem startsFrom_list (item : Selected) (others : List Selected) (rest : List Char) :
    StartsFrom (listWritten (item :: others) ++ ' ' :: rest) ↔ StartsFrom item.head := by
  obtain ⟨separator, more, known, text⟩ := exists_head_append item others rest
  have separates : ∀ separator ∈ [' ', ','], Separates separator "FROM".toList := by decide
  rw [text]
  exact startsFrom_append_cons (separates separator known) _ _

theorem stops_list (item : Selected) (others : List Selected) (rest : List Char) :
    Stops isBlank (listWritten (item :: others) ++ ' ' :: rest) := by
  obtain ⟨separator, more, -, text⟩ := exists_head_append item others rest
  obtain ⟨c, left, head⟩ := List.exists_cons_of_ne_nil (head_ne_nil item)
  rw [text, head]
  exact stops_cons (unblank_head item c (head ▸ List.mem_cons_self)) _

theorem exists_untilFrom (item : Selected) (others : List Selected) (rest : List Char) :
    ∃ part, untilFrom (listWritten (item :: others) ++ ' ' :: ("FROM".toList ++ ' ' :: rest)) =
      some part ∧ partsRead part = item.reads others := by
  induction others generalizing item with
  | nil =>
    have stops : Stops isBlank ("FROM".toList ++ ' ' :: rest) :=
      stops_isBlank (by decide) (by decide) _
    have ended : StartsFrom ("FROM".toList ++ ' ' :: rest) := by
      rw [startsFrom_append_cons (by decide)]
      decide
    have found := untilFrom_written item (List.forall_mem_nil _) stops
    rw [List.nil_append, List.append_nil, if_pos ended] at found
    rw [listWritten, List.map_cons, List.map_nil, List.intercalate_singleton, found]
    cases ends : item.endsAtLabel with
    | true => exact ⟨_, rfl, partsRead_cut ends⟩
    | false =>
      refine ⟨_, rfl, ?_⟩
      rw [partsRead_single (comma_not_mem_written item), aggregateOf_written, Selected.reads,
        read?_of_goesOn ends]
  | cons next others ih =>
    have stops := stops_list next others ("FROM".toList ++ ' ' :: rest)
    have comma : ∀ c ∈ [','], c = ',' := by decide
    have found := untilFrom_written item comma stops
    simp only [startsFrom_list] at found
    have text : listWritten (item :: next :: others) ++ ' ' :: ("FROM".toList ++ ' ' :: rest) =
        item.written ++ ([','] ++
          ' ' :: (listWritten (next :: others) ++ ' ' :: ("FROM".toList ++ ' ' :: rest))) := by
      rw [listWritten_cons_cons, List.append_assoc]
      rfl
    rw [text, found, Selected.reads]
    cases ends : item.endsAtLabel with
    | true =>
      refine ⟨_, rfl, ?_⟩
      rw [partsRead_cut ends, Bool.true_or, if_pos rfl, List.append_nil]
    | false =>
      have here := aggregateOf_written item
      rw [← read?_of_goesOn ends] at here
      -- The comma in front of a name that starts with FROM leaves an empty part behind.
      by_cases starts : StartsFrom next.head
      · refine ⟨_, by rw [if_neg Bool.false_ne_true, if_pos starts], ?_⟩
        rw [partsRead_append (comma_not_mem_written item), here,
          partsRead_single List.not_mem_nil, aggregateOf_nil, decide_eq_true starts,
          Bool.false_or, if_pos rfl]
        rfl
      · obtain ⟨part, behind, read⟩ := ih next
        refine ⟨_, by rw [if_neg Bool.false_ne_true, if_neg starts, behind, Option.map_some], ?_⟩
        rw [List.append_assoc, List.singleton_append,
          partsRead_append (comma_not_mem_written item), partsRead_cons_blank, here, read,
          decide_eq_false starts, Bool.false_or, if_neg Bool.false_ne_true]

theorem findAggregates_selection (item : Selected) (others : List Selected) (table : PlainName) :
    findAggregates (selection (item :: others) table) = item.reads others := by
  obtain ⟨part, found, read⟩ := exists_untilFrom item others table.chars
  have list := find_selectPattern_untilFrom (by simp) (stops_list item others _) found
  unfold findAggregates selection
  rw [list]
  exact read

end Aggregates

section Intact

/-- No aggregate is lost behind a name that starts with FROM. -/
structure Intact (item : Selected) (others : List Selected) : Prop where
  labels : ∀ each ∈ item :: others, ∀ label ∈ each.label?, ¬StartsFrom label.chars
  columns : ∀ before name after, others = before ++ .column name :: after →
    StartsFrom name.chars → ∀ later ∈ after, later.aggregate? = none

variable {item next : Selected} {others : List Selected}

theorem label?_of_aggregate? (plain : item.aggregate? = none) : item.label? = none := by
  cases item with
  | column name => rfl
  | call made => cases plain

theorem endsAtLabel_eq_false_iff :
    item.endsAtLabel = false ↔ ∀ label ∈ item.label?, ¬StartsFrom label.chars := by
  unfold Selected.endsAtLabel
  cases item.label? with
  | none => exact iff_of_true rfl nofun
  | some label => simp

theorem reads_ne_of_endsAtLabel (ends : item.endsAtLabel = true) (others : List Selected) :
    item.reads others ≠ (item :: others).filterMap Selected.aggregate? := by
  obtain ⟨label, labelled, -⟩ := (Option.any_eq_true ..).mp ends
  have all : item.reads others = item.read?.toList := by
    cases others with
    | nil => rfl
    | cons next others =>
      rw [Selected.reads, ends, Bool.true_or, if_pos rfl, List.append_nil]
  cases item with
  | column name => cases labelled
  | call made =>
    have made_label : made.label = some label := labelled
    rw [all, Selected.read?, if_pos ends]
    intro same
    have first := congrArg List.head? same
    simp [Selected.aggregate?, made_label] at first

theorem intact_nil_iff : Intact item [] ↔ item.endsAtLabel = false := by
  rw [endsAtLabel_eq_false_iff]
  constructor
  · exact fun intact => intact.labels item List.mem_cons_self
  · refine fun unended => ⟨List.forall_mem_singleton.mpr unended, ?_⟩
    intro before name after split
    exact absurd split (List.append_ne_nil_of_right_ne_nil _ (List.cons_ne_nil _ _)).symm

theorem intact_cons_of_startsFrom (starts : StartsFrom next.head) :
    Intact item (next :: others) ↔
      item.endsAtLabel = false ∧ others.filterMap Selected.aggregate? = [] := by
  obtain ⟨name, rfl⟩ := exists_column_of_startsFrom starts
  rw [endsAtLabel_eq_false_iff, List.filterMap_eq_nil_iff]
  constructor
  · intro intact
    exact ⟨intact.labels item List.mem_cons_self, intact.columns [] name others rfl starts⟩
  · rintro ⟨unended, plain⟩
    refine ⟨List.forall_mem_cons.mpr ⟨unended, List.forall_mem_cons.mpr ⟨nofun, ?_⟩⟩, ?_⟩
    · intro other member
      rw [label?_of_aggregate? (plain other member)]
      exact nofun
    · -- Another name may start with FROM as well, with no more behind it than behind the first.
      intro before named after split _ other member
      refine plain other ?_
      cases before with
      | nil =>
        obtain ⟨-, rfl⟩ := List.cons.inj split
        exact member
      | cons first before =>
        obtain ⟨-, rfl⟩ := List.cons.inj split
        exact List.mem_append_right _ (List.mem_cons_of_mem _ member)

theorem intact_cons_of_not (goesOn : ¬StartsFrom next.head) :
    Intact item (next :: others) ↔ item.endsAtLabel = false ∧ Intact next others := by
  rw [endsAtLabel_eq_false_iff]
  constructor
  · rintro ⟨labels, columns⟩
    obtain ⟨unended, labels⟩ := List.forall_mem_cons.mp labels
    refine ⟨unended, labels, fun before name after split => ?_⟩
    exact columns (next :: before) name after (by rw [split, List.cons_append])
  · rintro ⟨unended, labels, columns⟩
    refine ⟨List.forall_mem_cons.mpr ⟨unended, labels⟩, fun before name after split starts => ?_⟩
    cases before with
    | nil =>
      obtain ⟨rfl, -⟩ := List.cons.inj split
      exact absurd starts goesOn
    | cons first before =>
      obtain ⟨-, rest⟩ := List.cons.inj split
      exact columns before name after rest starts

theorem filterMap_cons_toList (item : Selected) (others : List Selected) :
    (item :: others).filterMap Selected.aggregate? =
      item.aggregate?.toList ++ others.filterMap Selected.aggregate? := by
  rw [List.filterMap_cons]
  cases item.aggregate? <;> rfl

/-- What is read is all there is exactly when no aggregate is lost. -/
theorem reads_eq_iff :
    item.reads others = (item :: others).filterMap Selected.aggregate? ↔ Intact item others := by
  induction others generalizing item with
  | nil =>
    rw [intact_nil_iff]
    cases ends : item.endsAtLabel with
    | true => exact iff_of_false (reads_ne_of_endsAtLabel ends []) Bool.noConfusion
    | false =>
      rw [Selected.reads, read?_of_goesOn ends, filterMap_cons_toList, List.filterMap_nil,
        List.append_nil]
      exact iff_of_true rfl rfl
  | cons next others ih =>
    -- The list ends at the label, in front of the next item, or behind that one.
    cases ends : item.endsAtLabel with
    | true =>
      refine iff_of_false (reads_ne_of_endsAtLabel ends _) fun intact => ?_
      have unended := endsAtLabel_eq_false_iff.mpr (intact.labels item List.mem_cons_self)
      rw [ends] at unended
      cases unended
    | false =>
      rw [Selected.reads, read?_of_goesOn ends, filterMap_cons_toList, List.append_cancel_left_eq,
        ends, Bool.false_or]
      by_cases starts : StartsFrom next.head
      · obtain ⟨name, rfl⟩ := exists_column_of_startsFrom starts
        rw [decide_eq_true starts, if_pos rfl, intact_cons_of_startsFrom starts, and_iff_right ends,
          filterMap_cons_toList]
        exact eq_comm
      · rw [decide_eq_false starts, if_neg Bool.false_ne_true, intact_cons_of_not starts,
          and_iff_right ends]
        exact ih

end Intact

section Source

variable {item : Selected}

theorem unblank_lastWord (item : Selected) : ∀ c ∈ item.lastWord, isBlank c = false := by
  unfold Selected.lastWord
  cases item.label? with
  | none => exact unblank_head item
  | some label => exact unblank_plainName label

theorem exists_findFrom_written (item : Selected) (before : Option Char) (rest : List Char) :
    ∃ other, sourcePattern.findFrom before (item.written ++ rest) =
      sourcePattern.findFrom other (item.lastWord ++ rest) := by
  cases labelled : item.label? with
  | none => exact ⟨before, by rw [Selected.written, Selected.lastWord, labelled]⟩
  | some label =>
    have unended : ¬EndsFrom "AS".toList := by decide
    refine ⟨some ' ', ?_⟩
    rw [Selected.written_of_some labelled, Selected.lastWord, labelled]
    simp only [List.append_assoc, List.cons_append]
    rw [findFrom_sourcePattern_passes (unblank_head item) (not_endsFrom_head labelled),
      findFrom_sourcePattern_passes (by decide) unended]

theorem exists_findFrom_list (item : Selected) (others : List Selected) (before : Option Char)
    (rest : List Char) :
    ∃ other, sourcePattern.findFrom before (listWritten (item :: others) ++ ' ' :: rest) =
      sourcePattern.findFrom other
        (((item :: others).getLast (List.cons_ne_nil _ _)).lastWord ++ ' ' :: rest) := by
  -- What stands in front of the first item changes with each step, and makes no difference.
  induction others generalizing item before with
  | nil =>
    rw [listWritten, List.map_cons, List.map_nil, List.intercalate_singleton]
    exact exists_findFrom_written item before (' ' :: rest)
  | cons next others ih =>
    obtain ⟨other, found⟩ := exists_findFrom_written item before
      ([','] ++ ' ' :: (listWritten (next :: others) ++ ' ' :: rest))
    have text : listWritten (item :: next :: others) ++ ' ' :: rest =
        item.written ++ ([','] ++ ' ' :: (listWritten (next :: others) ++ ' ' :: rest)) := by
      rw [listWritten_cons_cons, List.append_assoc]
      rfl
    have unblank : ∀ c ∈ item.lastWord ++ [','], isBlank c = false :=
      List.forall_mem_append.mpr ⟨unblank_lastWord item, by decide⟩
    rw [text, found, ← List.append_assoc,
      findFrom_sourcePattern_passes unblank (not_endsFrom_concat (by decide) _),
      List.getLast_cons (List.cons_ne_nil _ _)]
    exact ih next (some ' ')

theorem isTableChar_plainName (name : PlainName) : ∀ c ∈ name.chars, isTableChar c = true :=
  isTableChar_of_unquoted (not_mem_plainName (by decide) name) (unblank_plainName name)

theorem findSource_selection (item : Selected) (others : List Selected) (table : PlainName) :
    findSource (selection (item :: others) table) =
      if EndsFrom ((item :: others).getLast (List.cons_ne_nil _ _)).lastWord then some "FROM"
      else some table.text := by
  have select : ¬EndsFrom "SELECT".toList := by decide
  have source : EndsFrom "FROM".toList := by decide
  obtain ⟨before, found⟩ := exists_findFrom_list item others (some ' ')
    ("FROM".toList ++ ' ' :: table.chars)
  have searched : sourcePattern.find (selection (item :: others) table) =
      sourcePattern.findFrom before (((item :: others).getLast (List.cons_ne_nil _ _)).lastWord ++
        ' ' :: ("FROM".toList ++ ' ' :: table.chars)) := by
    unfold find selection
    rw [findFrom_sourcePattern_passes (by decide) select, found]
  have unblank := unblank_lastWord ((item :: others).getLast (List.cons_ne_nil _ _))
  unfold findSource
  rw [searched]
  split_ifs with ended
  · have spaced : Stops isTableChar (' ' :: table.chars) := stops_cons (by decide) _
    rw [findFrom_sourcePattern_ended unblank ended (by decide) (by decide) spaced]
    rfl
  · have word : ∀ c ∈ "FROM".toList, isBlank c = false := by decide
    have captured := findFrom_sourcePattern_ended word source table.nonempty
      (isTableChar_plainName table) (stops_nil _) (some ' ')
    rw [List.append_nil] at captured
    rw [findFrom_sourcePattern_passes unblank ended, captured]
    rfl

end Source

/-- The table and the aggregates of a selection are read back exactly when no aggregate is lost
behind a name that starts with FROM, and the last word of the list does not end with FROM, or else
the table has that name. -/
theorem selection_read_iff (item : Selected) (others : List Selected) (table : PlainName) :
    let clauses := Clauses.ofStatement (String.ofList (selection (item :: others) table))
    (clauses.source = some table.text ∧
      clauses.aggregates = (item :: others).filterMap Selected.aggregate?) ↔
    (EndsFrom ((item :: others).getLast (List.cons_ne_nil _ _)).lastWord →
        table.text = "FROM") ∧ Intact item others := by
  simp only [Clauses.ofStatement, String.toList_ofList, findSource_selection,
    findAggregates_selection, reads_eq_iff]
  refine and_congr_left fun _ => ?_
  split_ifs with ended
  · rw [Option.some.injEq, forall_prop_of_true ended]
    exact eq_comm
  · exact iff_of_true rfl fun ends => absurd ends ended

set_option maxRecDepth 4000 in
/-- The aggregate behind a column that starts with FROM is lost. -/
example : (Clauses.ofStatement "SELECT city, from_date, SUM(revenue) FROM sales").aggregates = [] :=
  by decide

/-- Behind a column that ends with FROM the word FROM is taken for the table. -/
theorem selection_not_read_valid_from :
    ¬∀ (item : Selected) (others : List Selected) (table : PlainName),
      let clauses := Clauses.ofStatement (String.ofList (selection (item :: others) table))
      clauses.source = some table.text ∧
        clauses.aggregates = (item :: others).filterMap Selected.aggregate? := by
  intro read
  have source := (read (.column ⟨"valid_from".toList, by decide, by decide⟩) []
    ⟨"sales".toList, by decide, by decide⟩).1
  revert source
  decide

end Tabular.Sql
