import LiveHighlight.Files.Tree
import LiveHighlight.Proofs.Text.Numeral

/-!
Where a path leads.

A path that goes on by plain names leads to a place below the one where it was, so that paths which
go on by different names lead to different places.
-/

namespace LiveHighlight

/-! ### Segments -/

namespace Path

structure IsName (name : String) : Prop where
  whole : '/' ∉ name.toList
  nonempty : name ≠ ""
  notHere : name ≠ "."
  notUp : name ≠ ".."

instance (name : String) : Decidable (IsName name) :=
  decidable_of_iff ('/' ∉ name.toList ∧ name ≠ "" ∧ name ≠ "." ∧ name ≠ "..")
    ⟨fun ⟨whole, nonempty, notHere, notUp⟩ => ⟨whole, nonempty, notHere, notUp⟩,
      fun ⟨whole, nonempty, notHere, notUp⟩ => ⟨whole, nonempty, notHere, notUp⟩⟩

theorem isName_toString (number : UInt32) : IsName (toString number) := by
  have digits : ∀ c ∈ (toString number).toList, c.isDigit = true :=
    fun c => Text.isDigit_of_mem_toString
  refine ⟨fun slash => absurd (digits _ slash) (by decide), ?_, ?_, ?_⟩
  · intro empty
    have nil : (toString number).toList = [] := by rw [empty]; rfl
    rw [Text.toList_toString] at nil
    exact Nat.toDigits_ne_nil nil
  · intro dot
    exact absurd (digits '.' (by rw [dot]; decide)) (by decide)
  · intro dots
    exact absurd (digits '.' (by rw [dots]; decide)) (by decide)

theorem segments_eq {first : Char} (rest : List Char) (solid : first ≠ '/') :
    segments (first :: rest) = match segments rest with
      | [] => [[first]]
      | segment :: later => (first :: segment) :: later := by
  cases parts : segments rest <;> simp [segments, parts]

theorem segments_cons {first : Char} (rest : List Char) (solid : first ≠ '/') :
    ∃ segment later, segments rest = segment :: later ∧
      segments (first :: rest) = (first :: segment) :: later := by
  induction rest generalizing first with
  | nil => exact ⟨[], [], rfl, segments_eq [] solid⟩
  | cons second later ih =>
      by_cases slash : second = '/'
      · subst slash
        exact ⟨[], segments later, rfl, segments_eq _ solid⟩
      · obtain ⟨segment, more, _, parts⟩ := ih slash
        exact ⟨_, _, parts, by rw [segments_eq _ solid, parts]⟩

theorem segments_ne_nil (text : List Char) : segments text ≠ [] := by
  cases text with
  | nil => simp [segments]
  | cons first rest =>
      by_cases slash : first = '/'
      · subst slash
        simp [segments]
      · obtain ⟨_, _, _, all⟩ := segments_cons rest slash
        simp [all]

theorem segments_of_whole {text : List Char} (whole : '/' ∉ text) : segments text = [text] := by
  induction text with
  | nil => rfl
  | cons first rest ih =>
      simp only [List.mem_cons, not_or] at whole
      obtain ⟨segment, later, parts, all⟩ := segments_cons rest (Ne.symm whole.1)
      rw [ih whole.2] at parts
      cases parts
      exact all

theorem segments_append_slash (text rest : List Char) :
    segments (text ++ '/' :: rest) = segments text ++ segments rest := by
  induction text with
  | nil => rfl
  | cons first later ih =>
      by_cases slash : first = '/'
      · subst slash
        simp only [List.cons_append, segments, ih]
      · obtain ⟨segment, more, parts, all⟩ := segments_cons later slash
        obtain ⟨segment', more', parts', all'⟩ := segments_cons (later ++ '/' :: rest) slash
        rw [ih, parts, List.cons_append] at parts'
        cases parts'
        rw [List.cons_append, all, all', List.cons_append]

theorem toList_join {base name : String} (nonempty : base ≠ "") (isName : IsName name) :
    ∃ stem, (base.toList = stem ∨ base.toList = stem ++ ['/']) ∧
      (join base name).toList = stem ++ '/' :: name.toList := by
  have relative : isAbsolute name = false := by
    cases text : name.toList with
    | nil => simp [isAbsolute, text]
    | cons first rest =>
        have whole := isName.whole
        rw [text, List.mem_cons, not_or] at whole
        simp [isAbsolute, text, Ne.symm whole.1]
  have notEmpty : base.isEmpty = false := by simpa using nonempty
  unfold join
  simp only [relative, notEmpty, Bool.or_self, Bool.false_eq_true, if_false]
  split
  next slash =>
    obtain ⟨stem, ends⟩ := List.getLast?_eq_some_iff.mp (by simpa using slash)
    exact ⟨stem, .inr ends, by simp [ends]⟩
  next => exact ⟨base.toList, .inl rfl, by simp⟩

end Path

/-! ### Ways -/

namespace FileTree

open LiveHighlight.Path (IsName)

def place (tree : FileTree) (path : String) : Except FileError Place :=
  match tree.way? path with
  | none => .error .missing
  | some (start, segments) => tree.follow start segments

theorem find_eq (tree : FileTree) (path : String) :
    tree.find path = (tree.place path).bind fun place =>
      match tree.node? place with
      | some node => .ok node
      | none => .error .missing := by
  unfold find place
  cases tree.way? path with
  | none => rfl
  | some way => rfl

theorem find_eq_ok_iff {tree : FileTree} {path : String} {node : FileNode} :
    tree.find path = .ok node ↔
      ∃ place, tree.place path = .ok place ∧ tree.node? place = some node := by
  rw [find_eq]
  cases tree.place path with
  | error error => simp [Except.bind]
  | ok place =>
      simp only [Except.bind, Except.ok.injEq, exists_eq_left']
      cases tree.node? place <;> simp

theorem isSome_way?_of_place {tree : FileTree} {path : String} {place : Place}
    (leads : tree.place path = .ok place) : (tree.way? path).isSome = true := by
  unfold FileTree.place at leads
  split at leads
  next => cases leads
  next known => simp [known]

theorem way?_congr {tree other : FileTree} (root : other.root = tree.root)
    (here : other.here = tree.here) (path : String) : other.way? path = tree.way? path := by
  simp only [way?, root, here]

/-- A tree under a path without a slash at its end. Where paths may also lead into it from a place
within, that path is absolute. -/
structure IsRooted (tree : FileTree) : Prop where
  noSlash : tree.root.toList.getLast? ≠ some '/'
  apart : tree.here = none ∨ tree.root = "" ∨ Path.isAbsolute tree.root = true

theorem stripStart?_eq_some_iff {start text rest : List Char} :
    stripStart? start text = some rest ↔ text = start ++ rest := by
  induction start generalizing text with
  | nil => simp [stripStart?, eq_comm]
  | cons expected later ih =>
      cases text with
      | nil => simp [stripStart?]
      | cons first behind =>
          by_cases same : first = expected
          · simp [stripStart?, same, ih]
          · simp [stripStart?, same]

def segmentNames (text : List Char) : List String :=
  (Path.segments text).map String.ofList

theorem segmentNames_append {text : List Char} {name : String} (isName : IsName name) :
    segmentNames (text ++ '/' :: name.toList) = segmentNames text ++ [name] := by
  simp [segmentNames, Path.segments_append_slash, Path.segments_of_whole isName.whole]

theorem segmentNames_name {name : String} (isName : IsName name) :
    segmentNames name.toList = [name] := by
  simp [segmentNames, Path.segments_of_whole isName.whole]

theorem segmentNames_slash (text : List Char) :
    segmentNames (text ++ ['/']) = segmentNames text ++ [""] := by
  simp [segmentNames, Path.segments_append_slash, Path.segments]

theorem way?_cases {tree : FileTree} {path : String} {way : Place × List String}
    (leads : tree.way? path = some way) :
    (path.toList = tree.root.toList ∧ way = ([], [])) ∨
      (∃ rest, path.toList = tree.root.toList ++ '/' :: rest ∧ way = ([], segmentNames rest)) ∨
      (Path.isAbsolute path = false ∧ ∃ here, tree.here = some here ∧
        way = (here, segmentNames path.toList)) := by
  unfold way? at leads
  split at leads
  next => cases leads
  next =>
    split at leads
    next strips =>
      cases leads
      rw [stripStart?_eq_some_iff] at strips
      exact .inl ⟨by simpa using strips, rfl⟩
    next rest strips =>
      cases leads
      exact .inr (.inl ⟨rest, stripStart?_eq_some_iff.mp strips, rfl⟩)
    next =>
      split at leads
      next => cases leads
      next relative =>
        obtain ⟨here, within, rfl⟩ := Option.map_eq_some_iff.mp leads
        exact .inr (.inr ⟨by simpa using relative, here, within, rfl⟩)

theorem way?_of_root {tree : FileTree} {path : String} {rest : List Char} (nonempty : path ≠ "")
    (text : path.toList = tree.root.toList ++ '/' :: rest) :
    tree.way? path = some ([], segmentNames rest) := by
  have notEmpty : path.isEmpty = false := by simpa using nonempty
  have strips := stripStart?_eq_some_iff.mpr text
  simp [way?, notEmpty, strips, segmentNames]

theorem way?_of_here {tree : FileTree} (rooted : tree.IsRooted) {path : String} {here : Place}
    (nonempty : path ≠ "") (relative : Path.isAbsolute path = false)
    (within : tree.here = some here) :
    tree.way? path = some (here, segmentNames path.toList) := by
  have notEmpty : path.isEmpty = false := by simpa using nonempty
  have outside : ∀ rest, path.toList = tree.root.toList ++ rest →
      rest ≠ [] ∧ ∀ behind, rest ≠ '/' :: behind := by
    intro rest text
    have first : path.toList.head? ≠ some '/' := by simpa [Path.isAbsolute] using relative
    have solid : path.toList ≠ [] := by simpa using nonempty
    rcases rooted.apart with none | whole | absolute
    · cases none.symm.trans within
    · have same : path.toList = rest := by simpa [whole] using text
      rw [same] at first solid
      exact ⟨solid, fun behind begins => first (by rw [begins]; rfl)⟩
    · have begins : tree.root.toList.head? = some '/' := by simpa [Path.isAbsolute] using absolute
      rw [text, List.head?_append, begins] at first
      exact absurd rfl first
  unfold way?
  simp only [notEmpty, Bool.false_eq_true, if_false]
  split
  next strips =>
    exact absurd rfl (outside _ (stripStart?_eq_some_iff.mp strips)).1
  next rest strips =>
    exact absurd rfl ((outside _ (stripStart?_eq_some_iff.mp strips)).2 rest)
  next => simp [relative, within, segmentNames]

theorem isAbsolute_join {base name : String} (nonempty : base ≠ "") (isName : IsName name) :
    Path.isAbsolute (Path.join base name) = Path.isAbsolute base := by
  obtain ⟨stem, ends, joined⟩ := Path.toList_join nonempty isName
  have solid : base.toList ≠ [] := by simpa using nonempty
  unfold Path.isAbsolute
  rw [joined]
  cases stem with
  | nil =>
      rcases ends with whole | slash
      · exact absurd whole solid
      · simp [slash]
  | cons first later => rcases ends with whole | slash <;> simp_all

theorem way?_join {tree : FileTree} (rooted : tree.IsRooted) {base name : String} {start : Place}
    {segments : List String} (leads : tree.way? base = some (start, segments))
    (isName : IsName name) :
    ∃ steps, tree.way? (Path.join base name) = some (start, steps ++ [name]) ∧
      (segments = steps ∨ segments = steps ++ [""]) := by
  have nonempty : base ≠ "" := by
    rintro rfl
    simp [way?] at leads
  obtain ⟨stem, ends, joined⟩ := Path.toList_join nonempty isName
  have solid : Path.join base name ≠ "" := by
    rw [← String.toList_inj.ne, joined]
    simp
  rcases way?_cases leads with ⟨text, way⟩ | ⟨rest, text, way⟩ | ⟨relative, here, within, way⟩
  · cases way
    rcases ends with whole | slash
    · refine ⟨[], ?_, .inl rfl⟩
      rw [way?_of_root solid (by rw [joined, ← text, whole]), segmentNames_name isName]
      rfl
    · rw [slash] at text
      exact absurd (by rw [← text]; simp) rooted.noSlash
  · cases way
    rcases ends with whole | slash
    · refine ⟨segmentNames rest, ?_, .inl rfl⟩
      rw [way?_of_root solid (by rw [joined, ← whole, text, List.append_assoc, List.cons_append]),
        segmentNames_append isName]
    · rcases rest.eq_nil_or_concat with rfl | ⟨before, last, rfl⟩
      · have same : stem = tree.root.toList := by
          rw [slash] at text
          exact (List.append_inj' text rfl).1
        refine ⟨[], ?_, .inr rfl⟩
        rw [way?_of_root solid (by rw [joined, same]), segmentNames_name isName]
        rfl
      · rw [slash, List.concat_eq_append, ← List.cons_append, ← List.append_assoc] at text
        obtain ⟨same, final⟩ := List.append_inj' text rfl
        cases final
        refine ⟨segmentNames before, ?_, .inr ?_⟩
        · rw [way?_of_root solid (by rw [joined, same, List.append_assoc, List.cons_append]),
            segmentNames_append isName]
        · rw [List.concat_eq_append, segmentNames_slash]
  · cases way
    have relativeToo := (isAbsolute_join nonempty isName).trans relative
    refine ⟨segmentNames stem, ?_, ?_⟩
    · rw [way?_of_here rooted solid relativeToo within, joined, segmentNames_append isName]
    · rcases ends with whole | slash
      · exact .inl (by rw [whole])
      · exact .inr (by rw [slash, segmentNames_slash])

/-! ### Following a way -/

theorem follow_append (tree : FileTree) (first second : List String) :
    ∀ here, tree.follow here (first ++ second) =
      (tree.follow here first).bind (tree.follow · second) := by
  induction first with
  | nil => intro here; rfl
  | cons segment later ih =>
      intro here
      simp only [List.cons_append, follow]
      split
      next => rfl
      next => rfl
      next =>
        split
        next => exact ih here
        next =>
          split
          next =>
            split
            next => rfl
            next => exact ih _
          next =>
            split
            next => rfl
            next => exact ih _

theorem follow_name_eq_ok_iff {tree : FileTree} {base place : Place} {name : String}
    (isName : IsName name) :
    tree.follow base [name] = .ok place ↔
      tree.node? base = some .directory ∧ (tree.node? (base ++ [name])).isSome = true ∧
        place = base ++ [name] := by
  simp only [follow, isName.nonempty, isName.notHere, isName.notUp, decide_false, Bool.or_self,
    Bool.false_eq_true, if_false]
  split
  next missing => simp [missing]
  next blocked => simp [blocked]
  next directory =>
    cases tree.node? (base ++ [name]) <;> simp [directory, eq_comm]

theorem follow_stay_eq_ok_iff {tree : FileTree} {base place : Place} :
    tree.follow base [""] = .ok place ↔ tree.node? base = some .directory ∧ place = base := by
  simp only [follow]
  split
  next missing => simp [missing]
  next blocked => simp [blocked]
  next directory =>
    simp only [decide_true, Bool.true_or, if_true, Except.ok.injEq, directory, true_and]
    exact eq_comm

theorem place_join_eq_ok_iff {tree : FileTree} (rooted : tree.IsRooted) {base name : String}
    (known : (tree.way? base).isSome = true) (isName : IsName name) {place : Place} :
    tree.place (Path.join base name) = .ok place ↔
      ∃ above, tree.place base = .ok above ∧ tree.node? above = some .directory ∧
        (tree.node? (above ++ [name])).isSome = true ∧ place = above ++ [name] := by
  obtain ⟨⟨start, segments⟩, leads⟩ := Option.isSome_iff_exists.mp known
  obtain ⟨steps, further, same⟩ := way?_join rooted leads isName
  unfold FileTree.place
  simp only [leads, further, follow_append]
  cases reached : tree.follow start steps with
  | error error =>
      rcases same with rfl | rfl
      · simp [reached, Except.bind]
      · simp [follow_append, reached, Except.bind]
  | ok above =>
      simp only [Except.bind, follow_name_eq_ok_iff isName]
      rcases same with rfl | rfl
      · simp only [reached, Except.ok.injEq, exists_eq_left']
      · simp only [follow_append, reached, Except.bind, follow_stay_eq_ok_iff]
        constructor
        · rintro ⟨directory, rest⟩
          exact ⟨above, ⟨directory, rfl⟩, directory, rest⟩
        · rintro ⟨_, ⟨directory, rfl⟩, _, rest⟩
          exact ⟨directory, rest⟩

theorem isSome_way?_join {tree : FileTree} (rooted : tree.IsRooted) {base name : String}
    (known : (tree.way? base).isSome = true) (isName : IsName name) :
    (tree.way? (Path.join base name)).isSome = true := by
  obtain ⟨_, leads⟩ := Option.isSome_iff_exists.mp known
  obtain ⟨_, further, _⟩ := way?_join rooted leads isName
  rw [further]
  rfl

theorem place_joinAll {tree : FileTree} (rooted : tree.IsRooted) {names : List String}
    (areNames : ∀ name ∈ names, IsName name) :
    ∀ {base : String} {place : Place}, (tree.way? base).isSome = true →
      tree.place (Path.joinAll base names) = .ok place →
        ∃ above, tree.place base = .ok above ∧ place = above ++ names := by
  induction names with
  | nil =>
      intro base place _ reached
      exact ⟨place, reached, by simp⟩
  | cons name later ih =>
      intro base place known reached
      have isName := areNames name (by simp)
      obtain ⟨between, at_name, rfl⟩ := ih (fun other member => areNames other (by simp [member]))
        (isSome_way?_join rooted known isName) reached
      obtain ⟨above, at_base, _, _, rfl⟩ := (place_join_eq_ok_iff rooted known isName).mp at_name
      exact ⟨above, at_base, by simp⟩

theorem isSome_way?_of_root {tree : FileTree} {path : String} (nonempty : path ≠ "")
    (text : path.toList = tree.root.toList ∨
      ∃ rest, path.toList = tree.root.toList ++ '/' :: rest) :
    (tree.way? path).isSome = true := by
  rcases text with whole | ⟨rest, longer⟩
  · have notEmpty : path.isEmpty = false := by simpa using nonempty
    have strips : stripStart? tree.root.toList path.toList = some [] :=
      stripStart?_eq_some_iff.mpr (by rw [whole, List.append_nil])
    simp [way?, notEmpty, strips]
  · rw [way?_of_root nonempty longer]
    rfl

theorem isSome_way?_of_join {tree : FileTree} (rooted : tree.IsRooted) {base name : String}
    (nonempty : base ≠ "") (isName : IsName name) {way : Place × List String}
    (leads : tree.way? (Path.join base name) = some way) (below : way ≠ ([], [])) :
    (tree.way? base).isSome = true := by
  obtain ⟨stem, ends, joined⟩ := Path.toList_join nonempty isName
  rcases way?_cases leads with ⟨_, rfl⟩ | ⟨rest, text, _⟩ | ⟨relative, here, within, _⟩
  · exact absurd rfl below
  · have inside : stem = tree.root.toList ∨ ∃ rest, stem = tree.root.toList ++ '/' :: rest := by
      rw [joined, List.append_eq_append_iff] at text
      -- the last slash is the one before the name, so the path of the tree ends before it
      rcases text with ⟨between, root, split⟩ | ⟨between, root, split⟩
      · cases between with
        | nil => exact .inl (by simpa using root.symm)
        | cons slash later =>
            injection split with _ parts
            exact absurd (by rw [parts]; simp) isName.whole
      · cases between with
        | nil => exact .inl (by simpa using root)
        | cons slash later =>
            injection split with same _
            exact .inr ⟨later, by rw [root, same]⟩
    refine isSome_way?_of_root nonempty ?_
    rcases ends with whole | slash
    · rw [whole]
      exact inside
    · rw [slash]
      rcases inside with same | ⟨later, longer⟩
      · exact .inr ⟨[], by rw [same]⟩
      · exact .inr ⟨later ++ ['/'], by rw [longer, List.append_assoc, List.cons_append]⟩
  · have relativeToo := (isAbsolute_join nonempty isName).symm.trans relative
    rw [way?_of_here rooted nonempty relativeToo within]
    rfl

theorem place_of_join {tree : FileTree} (rooted : tree.IsRooted) {base name : String}
    (nonempty : base ≠ "") (isName : IsName name) {place : Place}
    (leads : tree.place (Path.join base name) = .ok place) (below : place ≠ []) :
    ∃ above, tree.place base = .ok above ∧ tree.node? above = some .directory ∧
      place = above ++ [name] := by
  obtain ⟨way, found⟩ := Option.isSome_iff_exists.mp (isSome_way?_of_place leads)
  have notWhole : way ≠ ([], []) := by
    rintro rfl
    rw [FileTree.place, found] at leads
    exact below (Except.ok.inj leads).symm
  have known := isSome_way?_of_join rooted nonempty isName found notWhole
  obtain ⟨above, reached, directory, _, same⟩ := (place_join_eq_ok_iff rooted known isName).mp leads
  exact ⟨above, reached, directory, same⟩

/-! ### Missing places -/

/-- Nothing is at a path, and the tree itself is not reached through it. -/
structure IsMissing (tree : FileTree) (path : String) : Prop where
  notFound : tree.find path = .error .missing
  apart : ¬path.toList <+: tree.root.toList

theorem find_of_noWay {tree : FileTree} {path : String} (nowhere : tree.way? path = none) :
    tree.find path = .error .missing := by
  rw [find_eq, FileTree.place, nowhere]
  rfl

theorem find_of_way {tree : FileTree} {path : String} {start : Place} {segments : List String}
    (leads : tree.way? path = some (start, segments)) :
    tree.find path = (tree.follow start segments).bind fun place =>
      match tree.node? place with
      | some node => .ok node
      | none => .error .missing := by
  rw [find_eq, FileTree.place, leads]

theorem toList_of_way_root {tree : FileTree} {path : String}
    (leads : tree.way? path = some ([], [])) : path.toList = tree.root.toList := by
  have someSegment (text : List Char) : [] ≠ segmentNames text :=
    fun none => Path.segments_ne_nil text (List.map_eq_nil_iff.mp none.symm)
  rcases way?_cases leads with ⟨text, _⟩ | ⟨rest, _, way⟩ | ⟨_, here, _, way⟩
  · exact text
  · exact absurd (congrArg Prod.snd way) (someSegment rest)
  · exact absurd (congrArg Prod.snd way) (someSegment path.toList)

theorem find_join_of_missing {tree : FileTree} (rooted : tree.IsRooted) {base name : String}
    (known : (tree.way? base).isSome = true) (isName : IsName name)
    (missing : tree.find base = .error .missing) :
    tree.find (Path.join base name) = .error .missing := by
  obtain ⟨⟨start, segments⟩, leads⟩ := Option.isSome_iff_exists.mp known
  obtain ⟨steps, further, same⟩ := way?_join rooted leads isName
  rw [find_of_way leads] at missing
  rw [find_of_way further, follow_append]
  cases reached : tree.follow start steps with
  | error error =>
      rcases same with rfl | rfl
      · simpa [reached, Except.bind] using missing
      · simpa [follow_append, reached, Except.bind] using missing
  | ok place =>
      -- a path that ends in a slash takes one more step, which stays in a directory
      cases node : tree.node? place with
      | none => simp [Except.bind, follow, node]
      | some found =>
          rcases same with rfl | rfl
          · simp [reached, Except.bind, node] at missing
          · cases found <;> simp [follow_append, reached, Except.bind, follow, node] at missing

theorem IsMissing.join {tree : FileTree} (rooted : tree.IsRooted) {base name : String}
    (missing : tree.IsMissing base) (isName : IsName name) :
    tree.IsMissing (Path.join base name) := by
  have nonempty : base ≠ "" := by
    rintro rfl
    exact missing.apart List.nil_prefix
  obtain ⟨stem, ends, joined⟩ := Path.toList_join nonempty isName
  have starts : base.toList <+: (Path.join base name).toList := by
    rcases ends with whole | slash
    · exact ⟨'/' :: name.toList, by rw [joined, whole]⟩
    · exact ⟨name.toList, by simp [joined, slash]⟩
  refine ⟨?_, fun above => missing.apart (starts.trans above)⟩
  cases leads : tree.way? (Path.join base name) with
  | none => exact find_of_noWay leads
  | some way =>
      have below : way ≠ ([], []) := by
        rintro rfl
        exact missing.apart (toList_of_way_root leads ▸ starts)
      have known := isSome_way?_of_join rooted nonempty isName leads below
      exact find_join_of_missing rooted known isName missing.notFound

end FileTree
end LiveHighlight
