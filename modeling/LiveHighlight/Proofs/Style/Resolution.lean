import LiveHighlight.Style.Palette
import Mathlib.Data.List.Induction

/-!
Which entry of a style table a capture selects.

A kind's ancestors are its name and whatever stands in front of a dot in it. The longest ancestor
that is listed decides, by the last place at which it is listed.
-/

namespace LiveHighlight.StyleTable

/-- Whether a text is a kind's name or stands in front of a dot in it. -/
def IsAncestor (ancestor kind : List Char) : Prop :=
  ancestor = kind ∨ ancestor ++ ['.'] <+: kind

/-- The last of the places at which a name is listed. -/
@[mk_iff]
structure IsLastPosition (names : List String) (name : String) (position : Nat) : Prop where
  listed : names[position]? = some name
  last : ∀ other, names[other]? = some name → other ≤ position

structure IsNearest (names : List String) (kind nearest : List Char) : Prop where
  ancestor : IsAncestor nearest kind
  listed : String.ofList nearest ∈ names
  longest : ∀ other, IsAncestor other kind → String.ofList other ∈ names →
    other.length ≤ nearest.length

/-! ### Ancestors -/

theorem mem_dottedStarts_iff (kind start : List Char) :
    start ∈ dottedStarts kind ↔ start ++ ['.'] <+: kind := by
  induction kind generalizing start with
  | nil => simp [dottedStarts]
  | cons c rest ih =>
      cases start with
      | nil => by_cases dot : c = '.' <;> simp [dottedStarts, dot, eq_comm]
      | cons first later =>
          by_cases dot : c = '.' <;> simp [dottedStarts, dot, ih, eq_comm, and_comm]

theorem pairwise_dottedStarts (kind : List Char) :
    (dottedStarts kind).Pairwise fun shorter longer => shorter.length < longer.length := by
  induction kind with
  | nil => simp [dottedStarts]
  | cons c rest ih =>
      have later : ((dottedStarts rest).map (c :: ·)).Pairwise
          fun shorter longer => shorter.length < longer.length := by
        simpa [List.pairwise_map] using ih
      by_cases dot : c = '.'
      · simpa [dottedStarts, dot] using later
      · simpa [dottedStarts, dot] using later

theorem mem_ancestors_iff (kind ancestor : List Char) :
    ancestor ∈ ancestors kind ↔ IsAncestor ancestor kind := by
  simp [ancestors, mem_dottedStarts_iff, IsAncestor]

theorem pairwise_ancestors (kind : List Char) :
    (ancestors kind).Pairwise fun longer shorter => shorter.length < longer.length := by
  rw [ancestors, List.pairwise_cons, List.pairwise_reverse]
  refine ⟨?_, pairwise_dottedStarts kind⟩
  intro start member
  rw [List.mem_reverse, mem_dottedStarts_iff] at member
  have bound := member.length_le
  simp only [List.length_append, List.length_singleton] at bound
  omega

theorem IsAncestor.length_le {ancestor kind : List Char} (isAncestor : IsAncestor ancestor kind) :
    ancestor.length ≤ kind.length := by
  rcases isAncestor with rfl | before
  · exact Nat.le_refl _
  · have bound := before.length_le
    simp only [List.length_append] at bound
    omega

theorem IsNearest.self {names : List String} {kind : List Char}
    (listed : String.ofList kind ∈ names) : IsNearest names kind kind :=
  ⟨.inl rfl, listed, fun _ isAncestor _ => isAncestor.length_le⟩

/-! ### Positions -/

theorem isLastPosition_concat_self (names : List String) (name : String) (position : Nat) :
    IsLastPosition (names ++ [name]) name position ↔ position = names.length := by
  constructor
  · intro found
    have lower := found.last names.length List.getElem?_concat_length
    have upper := (List.getElem?_eq_some_iff.mp found.listed).1
    simp only [List.length_append, List.length_singleton] at upper
    omega
  · rintro rfl
    refine ⟨List.getElem?_concat_length, ?_⟩
    intro other listed
    have upper := (List.getElem?_eq_some_iff.mp listed).1
    simp only [List.length_append, List.length_singleton] at upper
    omega

theorem getElem?_concat_of_ne {names : List String} {name added : String} (different : added ≠ name)
    (position : Nat) : (names ++ [added])[position]? = some name ↔ names[position]? = some name := by
  rcases Nat.lt_or_ge position names.length with before | behind
  · rw [List.getElem?_append_left before]
  · rw [List.getElem?_append_right behind, List.getElem?_eq_none behind]
    cases position - names.length <;> simp [different]

theorem isLastPosition_concat_of_ne {names : List String} {name added : String}
    (different : added ≠ name) (position : Nat) :
    IsLastPosition (names ++ [added]) name position ↔ IsLastPosition names name position := by
  simp only [isLastPosition_iff, getElem?_concat_of_ne different]

theorem find?_reverse_zipIdx_eq_some_iff (names : List String) (name : String) (position : Nat) :
    (names.zipIdx.reverse.find? (·.1 == name)).map (·.2) = some position ↔
      IsLastPosition names name position := by
  -- the search begins at the end, so that the name added last is looked at first
  induction names using List.reverseRecOn with
  | nil =>
      constructor
      · intro found
        simp at found
      · intro found
        simpa using found.listed
  | append_singleton earlier added ih =>
      rw [List.zipIdx_append, List.reverse_append]
      by_cases same : added = name
      · subst same
        simp [isLastPosition_concat_self, eq_comm]
      · rw [isLastPosition_concat_of_ne same, ← ih]
        simp [same]

theorem exists_isLastPosition {names : List String} {name : String} (listed : name ∈ names) :
    ∃ position, IsLastPosition names name position := by
  induction names using List.reverseRecOn with
  | nil => simp at listed
  | append_singleton earlier added ih =>
      by_cases same : added = name
      · exact ⟨earlier.length, same ▸ (isLastPosition_concat_self earlier added _).mpr rfl⟩
      · have before : name ∈ earlier := by simpa [Ne.symm same] using listed
        obtain ⟨position, found⟩ := ih before
        exact ⟨position, (isLastPosition_concat_of_ne same position).mpr found⟩

theorem position?_eq_some_iff (table : StyleTable) (name : String) (position : Nat) :
    table.position? name = some position ↔ IsLastPosition table.names name position :=
  find?_reverse_zipIdx_eq_some_iff table.names name position

theorem position?_eq_none_iff (table : StyleTable) (name : String) :
    table.position? name = none ↔ name ∉ table.names := by
  simp only [Option.eq_none_iff_forall_ne_some, ne_eq, position?_eq_some_iff]
  constructor
  · intro nowhere listed
    obtain ⟨position, found⟩ := exists_isLastPosition listed
    exact nowhere position found
  · intro unlisted position found
    exact unlisted (List.mem_of_getElem? found.listed)

/-! ### Resolving -/

theorem findSome?_ancestors_eq_some_iff (table : StyleTable) (kind : List Char) (position : Nat) :
    ((ancestors kind).findSome? fun ancestor => table.position? (String.ofList ancestor)) =
        some position ↔
      ∃ nearest, IsNearest table.names kind nearest ∧
        IsLastPosition table.names (String.ofList nearest) position := by
  have ordered := pairwise_ancestors kind
  rw [List.findSome?_eq_some_iff]
  constructor
  · rintro ⟨longer, nearest, shorter, all, found, unlisted⟩
    have listed := (table.position?_eq_some_iff _ _).mp found
    have ancestor : IsAncestor nearest kind :=
      (mem_ancestors_iff kind nearest).mp (by simp [all])
    refine ⟨nearest, ⟨ancestor, List.mem_of_getElem? listed.listed, ?_⟩, listed⟩
    intro other otherAncestor otherListed
    have member := (mem_ancestors_iff kind other).mpr otherAncestor
    rw [all, List.pairwise_append, List.pairwise_cons] at ordered
    rw [all, List.mem_append, List.mem_cons] at member
    rcases member with before | rfl | behind
    · exact absurd otherListed ((table.position?_eq_none_iff _).mp (unlisted other before))
    · exact Nat.le_refl _
    · exact Nat.le_of_lt (ordered.2.1.1 other behind)
  · rintro ⟨nearest, decisive, listed⟩
    obtain ⟨longer, shorter, all⟩ :=
      List.append_of_mem ((mem_ancestors_iff kind nearest).mpr decisive.ancestor)
    refine ⟨longer, nearest, shorter, all, (table.position?_eq_some_iff _ _).mpr listed, ?_⟩
    intro other before
    rw [position?_eq_none_iff]
    intro otherListed
    have otherAncestor : IsAncestor other kind :=
      (mem_ancestors_iff kind other).mp (by simp [all, before])
    have bound := decisive.longest other otherAncestor otherListed
    rw [all, List.pairwise_append] at ordered
    have longerThan := ordered.2.2 other before nearest List.mem_cons_self
    omega

theorem IsLastPosition.lt_size {table : StyleTable} {name : String} {position : Nat}
    (listed : IsLastPosition table.names name position) : position < table.size :=
  (List.getElem?_eq_some_iff.mp listed.listed).1

theorem toNat_resolve (table : StyleTable) (capture : String) :
    (table.resolve capture).map UInt8.toNat =
      ((ancestors (withoutAt capture.toList)).findSome? fun ancestor =>
        table.position? (String.ofList ancestor)).filter (· ≠ 0) := by
  rw [resolve]
  cases found : (ancestors (withoutAt capture.toList)).findSome? fun ancestor =>
      table.position? (String.ofList ancestor) with
  | none => rfl
  | some position =>
      obtain ⟨nearest, _, listed⟩ := (table.findSome?_ancestors_eq_some_iff _ position).mp found
      have bound := listed.lt_size
      have size := table.length_le
      have number : position % 256 = position :=
        Nat.mod_eq_of_lt (Nat.lt_of_lt_of_le bound size)
      by_cases unstyled : position = 0
      · simp [unstyled, Option.filter_some]
      · simp [unstyled, number, Option.filter_some]

theorem resolve_of_nearest {table : StyleTable} {capture : String} {nearest : List Char}
    {position : Nat} (decisive : IsNearest table.names (withoutAt capture.toList) nearest)
    (listed : IsLastPosition table.names (String.ofList nearest) position) :
    (table.resolve capture).map UInt8.toNat = if position = 0 then none else some position := by
  rw [toNat_resolve, (table.findSome?_ancestors_eq_some_iff _ position).mpr
    ⟨nearest, decisive, listed⟩, Option.filter_some]
  simp

theorem nearest_of_resolve {table : StyleTable} {capture : String} {style : StyleId}
    (resolved : table.resolve capture = some style) :
    style.toNat ≠ 0 ∧ ∃ nearest, IsNearest table.names (withoutAt capture.toList) nearest ∧
      IsLastPosition table.names (String.ofList nearest) style.toNat := by
  have number := table.toNat_resolve capture
  rw [resolved, Option.map_some, eq_comm, Option.filter_eq_some_iff] at number
  exact ⟨by simpa using number.2, (table.findSome?_ancestors_eq_some_iff _ _).mp number.1⟩

/-- A capture takes the number of its longest listed ancestor, which is the last place at which
that is listed. It has no style if this is 0 or if no ancestor is listed. -/
theorem nearest_entry_decides (table : StyleTable) (capture : String) :
    (∀ nearest, IsNearest table.names (withoutAt capture.toList) nearest →
        ∃ position, IsLastPosition table.names (String.ofList nearest) position ∧
          (table.resolve capture).map UInt8.toNat =
            if position = 0 then none else some position) ∧
      ((¬∃ nearest, IsNearest table.names (withoutAt capture.toList) nearest) →
        table.resolve capture = none) ∧
      ∀ style, table.resolve capture = some style →
        1 ≤ style.toNat ∧ style.toNat ≤ table.size - 1 ∧ table.size ≤ 256 ∧
          ∃ ancestor, table.name? style = some (String.ofList ancestor) ∧
            IsAncestor ancestor (withoutAt capture.toList) := by
  refine ⟨?_, ?_, ?_⟩
  · intro nearest decisive
    obtain ⟨position, listed⟩ := exists_isLastPosition decisive.listed
    exact ⟨position, listed, resolve_of_nearest decisive listed⟩
  · intro unlisted
    rw [Option.eq_none_iff_forall_ne_some]
    intro style resolved
    obtain ⟨_, nearest, decisive, _⟩ := nearest_of_resolve resolved
    exact unlisted ⟨nearest, decisive⟩
  · intro style resolved
    obtain ⟨styled, nearest, decisive, listed⟩ := nearest_of_resolve resolved
    have bound := listed.lt_size
    exact ⟨by omega, by omega, table.length_le, nearest, listed.listed, decisive.ancestor⟩

def repeatedEntries : StyleTable :=
  ⟨["default", "a.", "keyword", "a", "a."], by decide⟩

theorem isNearest_repeatedEntries :
    IsNearest repeatedEntries.names "a..b".toList "a.".toList := by
  refine ⟨.inr (by decide), by decide, ?_⟩
  intro other isAncestor
  have shorter : ∀ ancestor ∈ ancestors "a..b".toList,
      String.ofList ancestor ∈ repeatedEntries.names → ancestor.length ≤ "a.".toList.length := by
    decide
  exact shorter other ((mem_ancestors_iff _ _).mpr isAncestor)

theorem nearest_entry_decides_repeatedEntries :
    IsNearest repeatedEntries.names "a..b".toList "a.".toList ∧
      (∃ position, IsLastPosition repeatedEntries.names "a." position ∧
        (repeatedEntries.resolve "@a..b").map UInt8.toNat =
          if position = 0 then none else some position) ∧
      repeatedEntries.resolve "@a..b" = some 4 ∧
      (∃ ancestor, repeatedEntries.name? 4 = some (String.ofList ancestor) ∧
        IsAncestor ancestor "a..b".toList) ∧
      repeatedEntries.resolve ".a" = none := by
  have selected : repeatedEntries.resolve "@a..b" = some 4 := by decide
  have decides := nearest_entry_decides repeatedEntries "@a..b"
  have unlisted : ∀ ancestor ∈ ancestors ".a".toList,
      String.ofList ancestor ∉ repeatedEntries.names := by decide
  have unresolved : repeatedEntries.resolve ".a" = none := by
    apply (nearest_entry_decides repeatedEntries ".a").2.1
    rintro ⟨nearest, decisive⟩
    exact unlisted nearest ((mem_ancestors_iff _ _).mpr decisive.ancestor) decisive.listed
  exact ⟨isNearest_repeatedEntries, decides.1 _ isNearest_repeatedEntries, selected,
    (decides.2.2 4 selected).2.2.2, unresolved⟩

/-! ### Every entry -/

theorem withoutAt_of_head? {kind : List Char} (unmarked : kind.head? ≠ some '@') :
    withoutAt kind = kind := by
  cases kind with
  | nil => rfl
  | cons c rest =>
      simp only [List.head?_cons, ne_eq, Option.some.injEq] at unmarked
      simp [withoutAt, unmarked]

theorem resolve_of_listed {table : StyleTable} {capture name : String} {position : Nat}
    (same : withoutAt capture.toList = name.toList)
    (listed : IsLastPosition table.names name position) (styled : position ≠ 0) :
    (table.resolve capture).map UInt8.toNat = some position := by
  have whole : String.ofList (withoutAt capture.toList) = name := by
    rw [same, String.ofList_toList]
  have member : name ∈ table.names := List.mem_of_getElem? listed.listed
  rw [resolve_of_nearest (.self (whole ▸ member)) (whole ▸ listed), if_neg styled]

theorem resolve_marked_ne {table : StyleTable} {name : String} {position : Nat}
    (marked : name.toList.head? = some '@') (listed : IsLastPosition table.names name position) :
    (table.resolve name).map UInt8.toNat ≠ some position := by
  intro selects
  obtain ⟨style, resolved, rfl⟩ := Option.map_eq_some_iff.mp selects
  obtain ⟨_, nearest, decisive, found⟩ := nearest_of_resolve resolved
  have same : String.ofList nearest = name :=
    Option.some.inj (found.listed.symm.trans listed.listed)
  obtain ⟨kind, spelled⟩ := List.head?_eq_some_iff.mp marked
  have bound := decisive.ancestor.length_le
  rw [← same, String.toList_ofList] at spelled
  rw [← same, String.toList_ofList, spelled] at bound
  simp only [withoutAt, List.length_cons] at bound
  omega

/-- Each entry of a table but the first is selected by its own name behind a mark, and by its own
name just if that begins with no mark. -/
theorem unmarked_entries_select_themselves (names : List String) (fits : names.length ≤ 256)
    (name : String) (position : Nat) (listed : IsLastPosition names name position)
    (styled : position ≠ 0) :
    ∃ table, ofNames names = .ok table ∧
      (∀ text, Palette.entries text = names → Palette.parse text = .ok table) ∧
      ((table.resolve name).map UInt8.toNat = some position ↔ name.toList.head? ≠ some '@') ∧
      (table.resolve ("@" ++ name)).map UInt8.toNat = some position := by
  have built : ofNames names = .ok ⟨names, fits⟩ := ofNames_eq_ok_iff.mpr rfl
  refine ⟨⟨names, fits⟩, built, ?_, ?_, ?_⟩
  · rintro text rfl
    exact built
  · constructor
    · intro selects marked
      exact resolve_marked_ne marked listed selects
    · intro unmarked
      exact resolve_of_listed (withoutAt_of_head? unmarked) listed styled
  · exact resolve_of_listed (by rw [String.toList_append]; rfl) listed styled

theorem isLastPosition_repeatedEntries : IsLastPosition repeatedEntries.names "a." 4 :=
  (isLastPosition_concat_self ["default", "a.", "keyword", "a"] "a." 4).mpr rfl

theorem unmarked_entries_select_themselves_repeatedEntries :
    IsLastPosition repeatedEntries.names "a." 4 ∧
      ∃ table, Palette.parse "default\na. 00ff00\nkeyword\na\na.\n" = .ok table ∧
        (table.resolve "a.").map UInt8.toNat = some 4 ∧
        (table.resolve "@a.").map UInt8.toNat = some 4 := by
  obtain ⟨table, _, parsed, selects, marked⟩ := unmarked_entries_select_themselves
    repeatedEntries.names (by decide) "a." 4 isLastPosition_repeatedEntries (by decide)
  exact ⟨isLastPosition_repeatedEntries, table, parsed _ (by decide), selects.mpr (by decide),
    marked⟩

/-- An entry with a mark in front is not selected by its name. -/
theorem marked_entry_missed :
    IsLastPosition ["default", "@note"] "@note" 1 ∧
      Palette.parse "default\n@note\n" = .ok ⟨["default", "@note"], by decide⟩ ∧
      (⟨["default", "@note"], by decide⟩ : StyleTable).resolve "@note" = none := by
  have listed : IsLastPosition (["default"] ++ ["@note"]) "@note" 1 :=
    (isLastPosition_concat_self ["default"] "@note" 1).mpr rfl
  have parsed : Palette.entries "default\n@note\n" = ["default", "@note"] := by decide
  exact ⟨listed, ofNames_eq_ok_iff.mpr parsed.symm, by decide⟩

end LiveHighlight.StyleTable
