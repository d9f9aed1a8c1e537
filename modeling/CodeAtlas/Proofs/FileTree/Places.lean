import CodeAtlas.FileTree
/-!
  Places in a tree.

  A place is named without dots: `at?` goes down one name after the other.  A path may have two dots and leads to
  such a place by `walk`.  A tree that was changed in one directory still has all its other directories, so paths
  lead to the same places in it as before (`Kept.walk`).

    1. The descent of the program carries the directories above with it, to be able to go up again.  They are those
       above the place (`Above`), so the descent is told by the place alone (`descend_eq_walk`).
    2. A look-up is a walk from the top and then what is at the place (`find_eq_ok_iff`), and what is in a directory is
       found by one more step (`find_child`).
    3. Changes are made in the entries of one directory (`modify`).  What was at any other place is there afterwards,
       and directories stay directories (`kept_modify`).
-/
namespace CodeAtlas.FileTree

variable {t t' : FileTree}

/-! ## What is at a place -/

/-- The tree at a place. -/
def at? : List String → FileTree → Option FileTree
  | [], t => some t
  | name :: rest, t => (OrderedMap.lookup name t.entries).bind (at? rest)

theorem at?_append (place rest : List String) (t : FileTree) :
    at? (place ++ rest) t = (at? place t).bind (at? rest) := by
  induction place generalizing t with
  | nil => rfl
  | cons name place ih =>
    rw [List.cons_append, at?, at?]
    cases OrderedMap.lookup name t.entries with
    | none => rfl
    | some x => exact ih x

/-- The last step is a look-up in the directory before it. -/
theorem at?_concat (place : List String) (name : String) (t : FileTree) :
    at? (place ++ [name]) t = (at? place t).bind fun x => OrderedMap.lookup name x.entries := by
  rw [at?_append]
  congr 1
  funext x
  show (OrderedMap.lookup name x.entries).bind some = _
  exact Option.bind_fun_some _

/-- What is below something that is there is below a directory. -/
theorem exists_directory_of_at? {name : String} {rest : List String} {x : FileTree}
    (h : at? (name :: rest) t = some x) : ∃ es, t = directory es := by
  cases t with
  | file content => nomatch h
  | directory es => exact ⟨es, rfl⟩

/-! ## Where a path leads -/

/-- The place that some names lead to from another one. -/
def walk (t : FileTree) (place : List String) : List String → Except Fault (List String)
  | [] => .ok place
  | name :: rest =>
    match at? place t with
    | some (directory es) =>
      if name = ".." then walk t place.dropLast rest
      else if Path.isLongName name then .error .nameTooLong
      else if (OrderedMap.lookup name es).isSome then walk t (place ++ [name]) rest
      else .error .fileMissing
    | _ => .error .notDirectory

/-- The place that directories above each other lead to; the nearest one comes first. -/
def namesOf (above : List (String × FileTree)) : List String := above.reverse.map (·.1)

/-- Directories of a tree, each of which holds the one before it. -/
def Above (t : FileTree) (here : FileTree) : List (String × FileTree) → Prop
  | [] => here = t
  | (name, up) :: above => OrderedMap.lookup name up.entries = some here ∧ Above t up above

/-- The directories above lead down to where they belong. -/
theorem Above.at? {here : FileTree} {above : List (String × FileTree)} (h : Above t here above) :
    FileTree.at? (namesOf above) t = some here := by
  induction above generalizing here with
  | nil => exact congrArg some (Eq.symm h)
  | cons entry above ih =>
    obtain ⟨name, up⟩ := entry
    obtain ⟨hhere, habove⟩ := h
    rw [namesOf, List.reverse_cons, List.map_append, List.map_singleton, ← namesOf, at?_concat, ih habove]
    exact hhere

/-- One step down, or up. -/
theorem descend_cons (above : List (String × FileTree)) (es : List (String × FileTree)) (name : String)
    (rest : List String) : descend above (directory es) (name :: rest) =
      if name = ".." then
        match above with
        | [] => descend [] (directory es) rest
        | (_, up) :: above => descend above up rest
      else if Path.isLongName name then .error .nameTooLong
      else
        match OrderedMap.lookup name es with
        | none => .error .fileMissing
        | some x => descend ((name, directory es) :: above) x rest :=
  descend.eq_def above (directory es) (name :: rest)

/-- A descent goes through directories above each other, to the place where the names lead. -/
theorem descend_eq_walk {here : FileTree} {above : List (String × FileTree)} (h : Above t here above)
    (names : List String) :
    (∃ above' here', descend above here names = .ok (above', here') ∧ Above t here' above' ∧
        walk t (namesOf above) names = .ok (namesOf above')) ∨
      ∃ f, descend above here names = .error f ∧ walk t (namesOf above) names = .error f := by
  induction names generalizing here above with
  | nil => exact .inl ⟨above, here, rfl, h, rfl⟩
  | cons name rest ih =>
    rw [walk, h.at?]
    cases here with
    | file content => exact .inr ⟨.notDirectory, rfl, rfl⟩
    | directory es =>
      rw [descend_cons]
      simp only
      split
      · -- two dots at the top lead nowhere else
        cases above with
        | nil => exact ih h
        | cons entry above =>
          obtain ⟨up, dir⟩ := entry
          have hdrop : (namesOf ((up, dir) :: above)).dropLast = namesOf above := by
            rw [namesOf, List.reverse_cons, List.map_append, List.map_singleton, List.dropLast_concat, namesOf]
          rw [hdrop]
          exact ih h.2
      · split
        · exact .inr ⟨.nameTooLong, rfl, rfl⟩
        -- a step down adds one directory above, and its name to the place
        · cases hname : OrderedMap.lookup name es with
          | none => exact .inr ⟨.fileMissing, rfl, by simp⟩
          | some x =>
            have hnames : namesOf ((name, directory es) :: above) = namesOf above ++ [name] := by
              rw [namesOf, List.reverse_cons, List.map_append, List.map_singleton, namesOf]
            have hx : Above t x ((name, directory es) :: above) := ⟨hname, h⟩
            rw [Option.isSome_some, if_pos rfl, ← hnames]
            exact ih hx

/-- A descent can be interrupted and taken up again with the directories above. -/
theorem descend_append (above : List (String × FileTree)) (here : FileTree) (names more : List String) :
    descend above here (names ++ more) = descend above here names >>= fun r => descend r.1 r.2 more := by
  induction names generalizing above here with
  | nil => rfl
  | cons name rest ih =>
    rw [List.cons_append]
    cases here with
    | file content => rfl
    | directory es =>
      rw [descend_cons, descend_cons]
      split
      · cases above with
        | nil => exact ih [] _
        | cons entry above => exact ih above entry.2
      · split
        · rfl
        · cases OrderedMap.lookup name es with
          | none => rfl
          | some x => exact ih _ x

/-- Where a descent from the top ends. -/
theorem descend_eq_ok_iff {names : List String} {x : FileTree} :
    (∃ above, descend [] t names = .ok (above, x)) ↔
      ∃ place, walk t [] names = .ok place ∧ at? place t = some x := by
  have htop : Above t t [] := rfl
  rcases descend_eq_walk htop names with ⟨above, here, hdescend, habove, hwalk⟩ | ⟨f, hdescend, hwalk⟩
  · constructor
    · rintro ⟨above', h⟩
      rw [hdescend] at h
      cases h
      exact ⟨namesOf above, hwalk, habove.at?⟩
    · rintro ⟨place, hplace, hx⟩
      rw [show walk t [] names = .ok (namesOf above) from hwalk] at hplace
      cases hplace
      rw [habove.at?] at hx
      cases hx
      exact ⟨above, hdescend⟩
  · constructor
    · rintro ⟨above, h⟩
      rw [hdescend] at h
      nomatch h
    · rintro ⟨place, hplace, -⟩
      rw [show walk t [] names = .error f from hwalk] at hplace
      nomatch hplace

/-- What a path leads to. -/
theorem find_eq_ok_iff {p : Path} {x : FileTree} :
    t.find p = .ok x ↔ p.checkBytes = .ok () ∧ p.isLong = false ∧
      ∃ place, walk t [] p.parts = .ok place ∧ at? place t = some x := by
  rw [← descend_eq_ok_iff, find, Fault.map_eq_ok_iff, follow]
  constructor
  · rintro ⟨⟨above, here⟩, hfollow, rfl⟩
    obtain ⟨⟨⟩, hbytes, hfollow⟩ := Fault.bind_eq_ok_iff.1 hfollow
    split at hfollow
    · nomatch hfollow
    · next hlong => exact ⟨hbytes, Bool.eq_false_iff.2 hlong, above, hfollow⟩
  · rintro ⟨hbytes, hlong, above, hdescend⟩
    refine ⟨(above, x), ?_, rfl⟩
    rw [hbytes, hlong]
    exact hdescend

/-- So can a walk, and here the place is all that there is to take up. -/
theorem walk_append (t : FileTree) (place names more : List String) :
    walk t place (names ++ more) = walk t place names >>= fun place' => walk t place' more := by
  induction names generalizing place with
  | nil => rfl
  | cons name rest ih =>
    rw [List.cons_append, walk, walk]
    cases at? place t with
    | none => rfl
    | some here =>
      cases here with
      | file content => rfl
      | directory es =>
        simp only
        split
        · exact ih _
        · split
          · rfl
          · split
            · exact ih _
            · rfl

/-- The first step on the way to a directory: up, or down to a directory in the one that is there. -/
theorem walk_cons_cases {place place' rest : List String} {name : String} {es : List (String × FileTree)}
    (hwalk : walk t place (name :: rest) = .ok place') (hdir : at? place' t = some (directory es)) :
    ∃ es₀, at? place t = some (directory es₀) ∧
      (name = ".." ∧ walk t place.dropLast rest = .ok place' ∨
        name ≠ ".." ∧ Path.isLongName name = false ∧
          ∃ sub, OrderedMap.lookup name es₀ = some (directory sub) ∧ walk t (place ++ [name]) rest = .ok place') := by
  rw [walk] at hwalk
  split at hwalk
  · next es₀ hhere =>
    refine ⟨es₀, hhere, ?_⟩
    split at hwalk
    · next hdots => exact .inl ⟨hdots, hwalk⟩
    · next hdots =>
      split at hwalk
      · nomatch hwalk
      · next hlong =>
        split at hwalk
        · next hname =>
          obtain ⟨x, hx⟩ := Option.isSome_iff_exists.1 hname
          have hnext : at? (place ++ [name]) t = some x := by
            rw [at?_concat, hhere]
            exact hx
          -- the last of the names is a directory, and more names can only follow one
          have hsub : ∃ sub, x = directory sub := by
            cases rest with
            | nil =>
              cases hwalk
              exact ⟨es, Option.some.inj (hnext.symm.trans hdir)⟩
            | cons next rest =>
              rw [walk, hnext] at hwalk
              cases x with
              | file content => nomatch hwalk
              | directory sub => exact ⟨sub, rfl⟩
          obtain ⟨sub, rfl⟩ := hsub
          exact .inr ⟨hdots, Bool.eq_false_iff.2 hlong, sub, hx, hwalk⟩
        · nomatch hwalk
  · nomatch hwalk

/-- What is found under a name is in a directory. -/
theorem exists_directory_of_find_child {p : Path} {name : String} {x : FileTree} (h : t.find (p.child name) = .ok x) :
    ∃ place es, walk t [] p.parts = .ok place ∧ at? place t = some (directory es) := by
  obtain ⟨-, -, place', hwalk, -⟩ := find_eq_ok_iff.1 h
  rw [show (p.child name).parts = p.parts ++ [name] from rfl, walk_append] at hwalk
  obtain ⟨place, hplace, hlast⟩ := Fault.bind_eq_ok_iff.1 hwalk
  rw [walk] at hlast
  split at hlast
  · next es hdir => exact ⟨place, es, hplace, hdir⟩
  · nomatch hlast

/-- What is under a name in a file or a directory. -/
def entry (name : String) : FileTree → Except Fault FileTree
  | file _ => .error .notDirectory
  | directory es =>
    if Path.isLongName name then .error .nameTooLong else (OrderedMap.lookup name es).elim (.error .fileMissing) .ok

/-- What a path leads to that ends in a name below a place. -/
theorem find_below {p : Path} {name : String} {place : List String} {here : FileTree}
    (hplace : walk t [] p.parts = .ok place) (hhere : at? place t = some here) (hdots : name ≠ "..") :
    t.find (p.child name) = (p.child name).checkBytes >>= fun _ =>
      if (p.child name).isLong then .error .nameTooLong else here.entry name := by
  obtain ⟨above, hdescend⟩ := descend_eq_ok_iff.2 ⟨place, hplace, hhere⟩
  have hchild : (descend [] t (p.child name).parts).map (·.2) = here.entry name := by
    rw [show (p.child name).parts = p.parts ++ [name] from rfl, descend_append, hdescend]
    show (descend above here [name]).map (·.2) = _
    cases here with
    | file content => rfl
    | directory es =>
      rw [descend_cons, if_neg hdots, entry]
      split
      · rfl
      · cases OrderedMap.lookup name es <;> rfl
  unfold find follow
  cases (p.child name).checkBytes with
  | error f => rfl
  | ok _ =>
    show Except.map _ (if _ then _ else _) = if _ then _ else _
    split
    · rfl
    · exact hchild

/-- What a path leads to that ends in a name of a directory. -/
theorem find_child {p : Path} {name : String} {place : List String} {es : List (String × FileTree)}
    (hplace : walk t [] p.parts = .ok place) (hdir : at? place t = some (directory es)) (hdots : name ≠ "..")
    (hshort : Path.isLongName name = false) :
    t.find (p.child name) = (p.child name).checkBytes >>= fun _ =>
      if (p.child name).isLong then .error .nameTooLong
      else (OrderedMap.lookup name es).elim (.error .fileMissing) .ok := by
  rw [find_below hplace hdir hdots, entry, hshort, if_neg Bool.false_ne_true]

/-! ## Changes in one directory -/

/-- All directories that were there are there. -/
def Kept (t t' : FileTree) : Prop :=
  ∀ place es, at? place t = some (directory es) → ∃ es', at? place t' = some (directory es')

/-- Names that lead to a directory still lead there. -/
theorem Kept.walk (h : Kept t t') {names place place' : List String} {es : List (String × FileTree)}
    (hwalk : FileTree.walk t place names = .ok place') (hdir : at? place' t = some (directory es)) :
    FileTree.walk t' place names = .ok place' := by
  induction names generalizing place with
  | nil => exact hwalk
  | cons name rest ih =>
    obtain ⟨es₀, hhere, hstep⟩ := walk_cons_cases hwalk hdir
    obtain ⟨es₀', hhere'⟩ := h place es₀ hhere
    rw [FileTree.walk, hhere']
    simp only
    rcases hstep with ⟨hdots, hrest⟩ | ⟨hdots, hshort, sub, hname, hrest⟩
    · rw [if_pos hdots]
      exact ih hrest
    · have hnext : at? (place ++ [name]) t = some (directory sub) := by
        rw [at?_concat, hhere]
        exact hname
      obtain ⟨sub', hnext'⟩ := h _ sub hnext
      rw [at?_concat, hhere'] at hnext'
      have hname' : (OrderedMap.lookup name es₀').isSome = true := Option.isSome_of_mem hnext'
      rw [if_neg hdots, hshort, if_neg Bool.false_ne_true, if_pos hname']
      exact ih hrest

variable {change : List (String × FileTree) → List (String × FileTree)} {place : List String}
  {es : List (String × FileTree)}

/-- A change is a change of the entries of a directory. -/
theorem at?_modify (h : at? place t = some (directory es))
    (change : List (String × FileTree) → List (String × FileTree)) :
    at? place (modify change place t) = some (directory (change es)) := by
  induction place generalizing t with
  | nil =>
    cases h
    rfl
  | cons name rest ih =>
    obtain ⟨es₀, rfl⟩ := exists_directory_of_at? h
    obtain ⟨x, hx, hrest⟩ := Option.bind_eq_some_iff.1 h
    replace hx : OrderedMap.lookup name es₀ = some x := hx
    rw [modify, hx]
    show (OrderedMap.lookup name (OrderedMap.put name (modify change rest x) es₀)).bind (at? rest) = _
    rw [OrderedMap.lookup_put, if_pos rfl]
    exact ih hrest

/-- A directory that keeps the directories in it can be changed. -/
theorem kept_modify (h : at? place t = some (directory es))
    (hkeep : ∀ name sub, OrderedMap.lookup name es = some (directory sub) →
      OrderedMap.lookup name (change es) = some (directory sub)) : Kept t (modify change place t) := by
  induction place generalizing t with
  | nil =>
    cases h
    rintro (_ | ⟨name, rest⟩) es₁ hdir
    · exact ⟨change es, rfl⟩
    · obtain ⟨x, hx, hrest⟩ := Option.bind_eq_some_iff.1 hdir
      -- what is on the way to a directory is a directory itself
      have hsub : ∃ sub, x = directory sub := by
        cases rest with
        | nil => exact ⟨es₁, Option.some.inj hrest⟩
        | cons next rest => exact exists_directory_of_at? hrest
      obtain ⟨sub, rfl⟩ := hsub
      refine ⟨es₁, ?_⟩
      show (OrderedMap.lookup name (change es)).bind (at? rest) = _
      rw [hkeep name sub hx]
      exact hrest
  | cons name rest ih =>
    obtain ⟨es₀, rfl⟩ := exists_directory_of_at? h
    obtain ⟨x, hx, hrest⟩ := Option.bind_eq_some_iff.1 h
    replace hx : OrderedMap.lookup name es₀ = some x := hx
    rw [modify, hx]
    rintro (_ | ⟨name', rest'⟩) es₁ hdir
    · exact ⟨_, rfl⟩
    · obtain ⟨x', hx', hrest'⟩ := Option.bind_eq_some_iff.1 hdir
      replace hx' : OrderedMap.lookup name' es₀ = some x' := hx'
      show ∃ es', (OrderedMap.lookup name' (OrderedMap.put name (modify change rest x) es₀)).bind (at? rest') = _
      rw [OrderedMap.lookup_put]
      split
      · next heq =>
        cases heq
        rw [hx] at hx'
        cases hx'
        exact ih hrest rest' es₁ hrest'
      · rw [hx']
        exact ⟨es₁, hrest'⟩

end CodeAtlas.FileTree
