import LiveHighlight.Toml.Document

/-!
No table of a document has two entries of one key, whether it is written inline, under headers or
by dotted keys.
-/

namespace LiveHighlight.Toml

inductive Value.HasDistinctKeys : Value → Prop
  | string (text : String) : HasDistinctKeys (.string text)
  | integer (number : Int) : HasDistinctKeys (.integer number)
  | float (text : String) : HasDistinctKeys (.float text)
  | boolean (isTrue : Bool) : HasDistinctKeys (.boolean isTrue)
  | moment (text : String) : HasDistinctKeys (.moment text)
  | array {items : List Value} (each : ∀ item ∈ items, item.HasDistinctKeys) :
      HasDistinctKeys (.array items)
  | table {entries : List (String × Value)} (keys : (entries.map Prod.fst).Nodup)
      (each : ∀ entry ∈ entries, entry.2.HasDistinctKeys) : HasDistinctKeys (.table entries)

inductive Node.HasDistinctKeys : Node → Prop
  | value {value : Value} (distinct : value.HasDistinctKeys) : HasDistinctKeys (.value value)
  | table {origin : Origin} {entries : Entries} (keys : (entries.map Prod.fst).Nodup)
      (each : ∀ entry ∈ entries, entry.2.HasDistinctKeys) : HasDistinctKeys (.table origin entries)
  | tables {elements : List Entries} (keys : ∀ element ∈ elements, (element.map Prod.fst).Nodup)
      (each : ∀ element ∈ elements, ∀ entry ∈ element, entry.2.HasDistinctKeys) :
      HasDistinctKeys (.tables elements)

/-- Whether neither these entries nor a table within them have two entries of one key. -/
structure Entries.AreDistinct (entries : Entries) : Prop where
  keys : (entries.map Prod.fst).Nodup
  each : ∀ entry ∈ entries, entry.2.HasDistinctKeys

/-! ### Tables as they are put together -/

namespace Entries

theorem areDistinct_nil : AreDistinct [] :=
  ⟨List.nodup_nil, by simp⟩

theorem key_notMem_of_lookup {entries : Entries} {key : String}
    (absent : (entries.lookup key).isSome = false) : key ∉ entries.map Prod.fst := by
  rw [Option.isSome_eq_false_iff, Option.isNone_iff_eq_none, List.lookup_eq_none_iff] at absent
  intro member
  obtain ⟨entry, belongs, rfl⟩ := List.mem_map.mp member
  simpa using absent entry belongs

theorem keys_put {entries : Entries} {key : String} (node : Node)
    (present : (entries.lookup key).isSome = true) :
    (entries.put key node).map Prod.fst = entries.map Prod.fst := by
  rw [put, if_pos present, List.map_map]
  apply List.map_congr_left
  intro entry _
  simp only [Function.comp_apply]
  split
  next same => exact same.symm
  next => rfl

namespace AreDistinct

variable {entries : Entries}

theorem lookup (distinct : entries.AreDistinct) {key : String} {node : Node}
    (found : entries.lookup key = some node) : node.HasDistinctKeys := by
  obtain ⟨before, after, rfl, _⟩ := List.lookup_eq_some_iff.mp found
  exact distinct.each (key, node) (by simp)

theorem put (distinct : entries.AreDistinct) {node : Node} (inner : node.HasDistinctKeys)
    (key : String) : (entries.put key node).AreDistinct := by
  by_cases present : (entries.lookup key).isSome = true
  · refine ⟨by rw [keys_put node present]; exact distinct.keys, ?_⟩
    intro entry member
    rw [Entries.put, if_pos present] at member
    obtain ⟨earlier, belongs, rfl⟩ := List.mem_map.mp member
    split
    · exact inner
    · exact distinct.each earlier belongs
  · have absent := key_notMem_of_lookup (Bool.eq_false_iff.mpr present)
    rw [Entries.put, if_neg present]
    refine ⟨?_, ?_⟩
    · rw [List.map_append, List.map_singleton, List.nodup_append]
      refine ⟨distinct.keys, by simp, ?_⟩
      rintro earlier member later last rfl
      rw [List.mem_singleton.mp last] at member
      exact absent member
    · intro entry member
      rcases List.mem_append.mp member with member | member
      · exact distinct.each entry member
      · rw [List.mem_singleton.mp member]
        exact inner

theorem table (distinct : entries.AreDistinct) (origin : Origin) :
    (Node.table origin entries).HasDistinctKeys :=
  .table distinct.keys distinct.each

theorem of_table {origin : Origin} (distinct : (Node.table origin entries).HasDistinctKeys) :
    entries.AreDistinct := by
  cases distinct with
  | table keys each => exact ⟨keys, each⟩

theorem tables {element : Entries} {others : List Entries} (distinct : element.AreDistinct)
    (rest : (Node.tables others).HasDistinctKeys) :
    (Node.tables (element :: others)).HasDistinctKeys := by
  cases rest with
  | tables keys each =>
      exact .tables (List.forall_mem_cons.mpr ⟨distinct.keys, keys⟩)
        (List.forall_mem_cons.mpr ⟨distinct.each, each⟩)

theorem of_tables {element : Entries} {others : List Entries}
    (distinct : (Node.tables (element :: others)).HasDistinctKeys) :
    element.AreDistinct ∧ (Node.tables others).HasDistinctKeys := by
  cases distinct with
  | tables keys each =>
      obtain ⟨first, keys⟩ := List.forall_mem_cons.mp keys
      obtain ⟨firstEach, each⟩ := List.forall_mem_cons.mp each
      exact ⟨⟨first, firstEach⟩, .tables keys each⟩

theorem set? {value : Value} (inner : value.HasDistinctKeys) {keys : List String}
    {changed : Entries} (distinct : entries.AreDistinct)
    (set : Entries.set? value keys entries = some changed) : changed.AreDistinct := by
  fun_induction Entries.set? value keys entries generalizing changed with
  | case1 | case2 | case5 | case7 => simp at set
  | case3 key entries absent =>
      rw [← Option.some.inj set]
      exact distinct.put (.value inner) key
  | case4 key later entries _ absent ih =>
      obtain ⟨found, read, rfl⟩ := Option.map_eq_some_iff.mp set
      exact distinct.put ((ih areDistinct_nil read).table _) key
  | case6 key later entries _ origin found present _ ih =>
      obtain ⟨changedInner, read, rfl⟩ := Option.map_eq_some_iff.mp set
      exact distinct.put ((ih (of_table (distinct.lookup present)) read).table _) key

theorem within? {change : Entries → Option Entries}
    (keeps : ∀ before after, before.AreDistinct → change before = some after → after.AreDistinct)
    {path : List String} {changed : Entries} (distinct : entries.AreDistinct)
    (within : Entries.within? change path entries = some changed) : changed.AreDistinct := by
  fun_induction Entries.within? change path entries generalizing changed with
  | case1 entries => exact keeps entries changed distinct within
  | case2 key later entries absent ih =>
      obtain ⟨found, read, rfl⟩ := Option.map_eq_some_iff.mp within
      exact distinct.put ((ih areDistinct_nil read).table _) key
  | case3 key later entries origin found present ih =>
      obtain ⟨changedInner, read, rfl⟩ := Option.map_eq_some_iff.mp within
      exact distinct.put ((ih (of_table (distinct.lookup present)) read).table _) key
  | case4 key later entries latest earlier present ih =>
      obtain ⟨latestChanged, read, rfl⟩ := Option.map_eq_some_iff.mp within
      obtain ⟨last, others⟩ := of_tables (distinct.lookup present)
      exact distinct.put ((ih last read).tables others) key
  | case5 => simp at within

theorem openTable? {key : String} {changed : Entries} (distinct : entries.AreDistinct)
    (opened : Entries.openTable? key entries = some changed) : changed.AreDistinct := by
  unfold Entries.openTable? at opened
  split at opened
  next absent =>
    rw [← Option.some.inj opened]
    exact distinct.put (areDistinct_nil.table _) key
  next inner present =>
    rw [← Option.some.inj opened]
    exact distinct.put ((of_table (distinct.lookup present)).table _) key
  next => simp at opened

theorem openElement? {key : String} {changed : Entries} (distinct : entries.AreDistinct)
    (opened : Entries.openElement? key entries = some changed) : changed.AreDistinct := by
  unfold Entries.openElement? at opened
  split at opened
  next absent =>
    rw [← Option.some.inj opened]
    exact distinct.put (areDistinct_nil.tables (.tables (by simp) (by simp))) key
  next elements present =>
    rw [← Option.some.inj opened]
    exact distinct.put (areDistinct_nil.tables (distinct.lookup present)) key
  next => simp at opened

end AreDistinct
end Entries

/-! ### Their values -/

theorem entryValues_eq (entries : Entries) :
    entryValues entries = entries.map fun entry => (entry.1, entry.2.toValue) := by
  induction entries with
  | nil => rfl
  | cons entry later ih => rw [entryValues, ih, List.map_cons]

theorem elementValues_eq (elements : List Entries) (behind : List Value) :
    elementValues elements behind =
      (elements.map fun element => Value.table (entryValues element)).reverse ++ behind := by
  induction elements generalizing behind with
  | nil => rfl
  | cons element earlier ih => rw [elementValues, ih, List.map_cons]; simp

theorem table_entryValues {entries : Entries} (keys : (entries.map Prod.fst).Nodup)
    (each : ∀ entry ∈ entries, entry.2.toValue.HasDistinctKeys) :
    (Value.table (entryValues entries)).HasDistinctKeys := by
  rw [entryValues_eq]
  refine .table ?_ ?_
  · rwa [List.map_map]
  · intro entry member
    obtain ⟨node, belongs, rfl⟩ := List.mem_map.mp member
    exact each node belongs

theorem Node.HasDistinctKeys.toValue {node : Node} (distinct : node.HasDistinctKeys) :
    node.toValue.HasDistinctKeys := by
  induction distinct with
  | value distinct => exact distinct
  | table keys each ih => exact table_entryValues keys ih
  | tables keys each ih =>
      rw [Node.toValue, elementValues_eq, List.append_nil]
      refine .array fun item member => ?_
      obtain ⟨element, belongs, rfl⟩ := List.mem_map.mp (List.mem_reverse.mp member)
      exact table_entryValues (keys element belongs) (ih element belongs)

theorem Entries.AreDistinct.values {entries : Entries} (distinct : entries.AreDistinct) :
    (Value.table (entryValues entries)).HasDistinctKeys :=
  (distinct.table .header).toValue

/-! ### What is read -/

theorem hasDistinctKeys_of_number? {word : List Char} {value : Value}
    (read : number? word = some value) : value.HasDistinctKeys := by
  unfold number? at read
  split at read
  next number _ => exact Option.some.inj read ▸ .integer number
  next =>
    split at read
    next => exact Option.some.inj read ▸ .float _
    next => simp at read

theorem hasDistinctKeys_of_moment? {word : List Char} {value : Value}
    (read : moment? word = some value) : value.HasDistinctKeys := by
  unfold moment? at read
  split at read
  next => exact Option.some.inj read ▸ .moment _
  next => simp at read

theorem hasDistinctKeys_of_valueOfWord? {word : List Char} {value : Value}
    (read : valueOfWord? word = some value) : value.HasDistinctKeys := by
  unfold valueOfWord? at read
  split at read
  next => exact Option.some.inj read ▸ .boolean true
  next =>
    split at read
    next => exact Option.some.inj read ▸ .boolean false
    next =>
      rcases Option.or_eq_some_iff.mp read with read | ⟨_, read⟩
      · exact hasDistinctKeys_of_number? read
      · exact hasDistinctKeys_of_moment? read

/-- What a bound of reading is good for: values, items and inline tables without repeated keys. -/
structure ReadsDistinct (fuel : Nat) : Prop where
  value : ∀ {text value rest}, value? fuel text = some (value, rest) → value.HasDistinctKeys
  items : ∀ {text items rest}, items? fuel text = some (items, rest) →
    ∀ item ∈ items, item.HasDistinctKeys
  inlineEntries : ∀ {entries text found rest}, Entries.AreDistinct entries →
    inlineEntries? fuel entries text = some (found, rest) → found.AreDistinct

namespace ReadsDistinct

variable {fuel : Nat}

theorem value_succ (reads : ReadsDistinct fuel) {text : List Char} {value : Value}
    {rest : List Char} (read : value? (fuel + 1) text = some (value, rest)) :
    value.HasDistinctKeys := by
  unfold value? at read
  split at read
  next behind =>
    obtain ⟨⟨items, _⟩, found, same⟩ := Option.map_eq_some_iff.mp read
    obtain ⟨rfl, rfl⟩ := Prod.mk.inj same
    exact .array (reads.items found)
  next behind =>
    obtain ⟨⟨entries, _⟩, found, same⟩ := Option.map_eq_some_iff.mp read
    obtain ⟨rfl, rfl⟩ := Prod.mk.inj same
    exact (reads.inlineEntries Entries.areDistinct_nil found).values
  next =>
    split at read
    · obtain ⟨⟨chars, _⟩, found, same⟩ := Option.map_eq_some_iff.mp read
      obtain ⟨rfl, rfl⟩ := Prod.mk.inj same
      exact .string _
    · obtain ⟨found, word, same⟩ := Option.map_eq_some_iff.mp read
      obtain ⟨rfl, rfl⟩ := Prod.mk.inj same
      exact hasDistinctKeys_of_valueOfWord? word

theorem items_succ (reads : ReadsDistinct fuel) {text : List Char} {items : List Value}
    {rest : List Char} (read : items? (fuel + 1) text = some (items, rest)) :
    ∀ item ∈ items, item.HasDistinctKeys := by
  unfold items? at read
  split at read
  next =>
    obtain ⟨rfl, rfl⟩ := Prod.mk.inj (Option.some.inj read)
    simp
  next =>
    obtain ⟨⟨item, behind⟩, found, read⟩ := Option.bind_eq_some_iff.mp read
    have first := reads.value found
    dsimp only at read
    split at read
    next =>
      obtain ⟨⟨later, _⟩, foundLater, same⟩ := Option.bind_eq_some_iff.mp read
      obtain ⟨rfl, rfl⟩ := Prod.mk.inj (Option.some.inj same)
      exact List.forall_mem_cons.mpr ⟨first, reads.items foundLater⟩
    next =>
      obtain ⟨rfl, rfl⟩ := Prod.mk.inj (Option.some.inj read)
      exact List.forall_mem_singleton.mpr first
    next => simp at read

theorem inlineEntries_succ (reads : ReadsDistinct fuel) {entries found : Entries}
    {text rest : List Char} (distinct : entries.AreDistinct)
    (read : inlineEntries? (fuel + 1) entries text = some (found, rest)) : found.AreDistinct := by
  unfold inlineEntries? at read
  split at read
  next =>
    obtain ⟨rfl, rfl⟩ := Prod.mk.inj (Option.some.inj read)
    exact distinct
  next =>
    simp only [bind, Option.bind_eq_some_iff] at read
    obtain ⟨⟨keys, _⟩, _, _, _, ⟨value, _⟩, foundValue, changed, set, read⟩ := read
    have extended := distinct.set? (reads.value foundValue) set
    split at read
    next => exact reads.inlineEntries extended read
    next =>
      obtain ⟨rfl, rfl⟩ := Prod.mk.inj (Option.some.inj read)
      exact extended
    next => simp at read

end ReadsDistinct

theorem readsDistinct (fuel : Nat) : ReadsDistinct fuel := by
  induction fuel with
  | zero => exact ⟨by simp [value?], by simp [items?], by simp [inlineEntries?]⟩
  | succ fuel ih => exact ⟨ih.value_succ, ih.items_succ, ih.inlineEntries_succ⟩

namespace Draft

variable {draft changed : Draft}

theorem distinct_of_openWith? {path : List String} {change : String → Entries → Option Entries}
    (keeps : ∀ key before after, Entries.AreDistinct before → change key before = some after →
      Entries.AreDistinct after)
    (distinct : draft.entries.AreDistinct) (opened : draft.openWith? path change = some changed) :
    changed.entries.AreDistinct := by
  simp only [openWith?, bind, Option.bind_eq_some_iff, pure, Option.some.injEq] at opened
  obtain ⟨key, _, entries, within, rfl⟩ := opened
  exact distinct.within? (keeps key) within

theorem distinct_of_set? {keys : List String} {value : Value} (inner : value.HasDistinctKeys)
    (distinct : draft.entries.AreDistinct) (set : draft.set? keys value = some changed) :
    changed.entries.AreDistinct := by
  simp only [set?, bind, Option.bind_eq_some_iff, pure, Option.some.injEq] at set
  obtain ⟨entries, within, rfl⟩ := set
  exact distinct.within? (fun _ _ before => before.set? inner) within

theorem distinct_of_statement? {fuel : Nat} {text rest : List Char}
    (distinct : draft.entries.AreDistinct)
    (read : draft.statement? fuel text = some (changed, rest)) : changed.entries.AreDistinct := by
  unfold statement? at read
  split at read
  all_goals
    simp only [bind, Option.bind_eq_some_iff, pure, Option.some.injEq, Prod.mk.injEq] at read
  · obtain ⟨_, _, _, _, _, _, _, opened, rfl, _⟩ := read
    exact distinct_of_openWith? (fun _ _ _ before => before.openElement?) distinct opened
  · obtain ⟨_, _, _, _, _, opened, rfl, _⟩ := read
    exact distinct_of_openWith? (fun _ _ _ before => before.openTable?) distinct opened
  · obtain ⟨_, _, _, _, _, found, _, set, rfl, _⟩ := read
    exact distinct_of_set? ((readsDistinct fuel).value found) distinct set

theorem distinct_of_statements? {fuel : Nat} {text : List Char}
    (distinct : draft.entries.AreDistinct)
    (read : statements? fuel draft text = some changed) : changed.entries.AreDistinct := by
  fun_induction statements? fuel draft text with
  | case1 => simp at read
  | case2 => exact Option.some.inj read ▸ distinct
  | case3 fuel draft text more ih =>
      simp only [bind, Option.bind_eq_some_iff] at read
      obtain ⟨⟨next, rest⟩, statement, behind, _, later⟩ := read
      exact ih _ _ (distinct_of_statement? distinct statement) later

end Draft

theorem hasDistinctKeys_of_read? {text : String} {entries : List (String × Value)}
    (read : read? text = some entries) : (Value.table entries).HasDistinctKeys := by
  obtain ⟨draft, statements, rfl⟩ := Option.map_eq_some_iff.mp read
  exact (Draft.distinct_of_statements? Entries.areDistinct_nil statements).values

end LiveHighlight.Toml
