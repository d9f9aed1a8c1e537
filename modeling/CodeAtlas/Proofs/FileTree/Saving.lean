import CodeAtlas.FileTree.Disk
import CodeAtlas.Proofs.FileTree.Names
import CodeAtlas.Proofs.FileTree.Places
/-!
  What saving does to a tree.

  An action is run one step after the other; each step has one lemma that says what it answers and what it leaves.
  A directory that is there is found again when it is made (`on_makeDirectories`), and then saving changes the entries
  of this one directory (`of_save_ok`, `on_save`): the new text stands under its name, and all other entries are what
  they were (`lookup_savedEntries`).

    1. **Steps**: an action of several steps succeeds exactly if each of them does on what the ones before it have left
       (`on_bind_ok_iff`).  A clean-up is run in the other case only, so success does not know of it
       (`on_cleanUp_ok_iff`).
    2. **Directories**: names that lead to a directory are followed, and nothing is made on the way.
    3. **Three changes**: a temporary file is made, it is written to, and it is renamed.  Its name is free, so the first
       two touch nothing that was there, and all three together put the text under its name (`savedEntries`).

  What is left behind when a step fails is not asked here.
-/
namespace CodeAtlas

namespace OrderedMap

variable {α β : Type} [DecidableEq α]

/-- Of two values for one key the last one counts, and the key stays where it was. -/
theorem put_put (key : α) (value value' : β) (entries : List (α × β)) :
    put key value (put key value' entries) = put key value entries := by
  induction entries with
  | nil => simp [put]
  | cons entry rest ih =>
    obtain ⟨k, v⟩ := entry
    by_cases h : k = key
    · simp [put, h]
    · simp [put, h, ih]

/-- Without the entries of one key, all other keys have what they had. -/
theorem lookup_filter_ne (key k : α) (entries : List (α × β)) :
    lookup k (entries.filter fun e => e.1 ≠ key) = if k = key then none else lookup k entries := by
  induction entries with
  | nil => simp [lookup]
  | cons entry rest ih =>
    obtain ⟨k', v⟩ := entry
    rw [List.filter_cons]
    by_cases h : k' = key
    · rw [if_neg (by simpa using h), ih]
      by_cases hk : k = key
      · rw [if_pos hk, if_pos hk]
      · rw [if_neg hk, if_neg hk, lookup, if_neg fun heq => hk (heq.symm.trans h)]
    · rw [if_pos (by simpa using h), lookup, lookup, ih]
      by_cases hk : k' = k
      · rw [if_pos hk, if_pos hk, if_neg fun heq => h (hk.trans heq)]
      · rw [if_neg hk, if_neg hk]

end OrderedMap

namespace FileTree

/-- Two changes of one directory. -/
theorem modify_modify (change change' : List (String × FileTree) → List (String × FileTree)) (place : List String)
    (t : FileTree) : modify change place (modify change' place t) = modify (fun es => change (change' es)) place t := by
  induction place generalizing t with
  | nil => cases t <;> rfl
  | cons name rest ih =>
    cases t with
    | file content => rfl
    | directory es =>
      have hstep : ∀ change : List (String × FileTree) → List (String × FileTree),
          modify change (name :: rest) (directory es) = (OrderedMap.lookup name es).elim (directory es) fun x =>
            directory (OrderedMap.put name (modify change rest x) es) := by
        intro change
        rw [modify]
        cases OrderedMap.lookup name es <;> rfl
      rw [hstep, hstep]
      cases hname : OrderedMap.lookup name es with
      | none =>
        show modify change (name :: rest) (directory es) = _
        rw [hstep, hname]
        rfl
      | some x =>
        show modify change (name :: rest) (directory (OrderedMap.put name (modify change' rest x) es)) = _
        rw [modify, OrderedMap.lookup_put, if_pos rfl]
        show directory (OrderedMap.put name (modify change rest (modify change' rest x)) (OrderedMap.put name _ es)) = _
        rw [OrderedMap.put_put, ih]
        rfl

/-- A change is told by what it does to the entries that are there. -/
theorem modify_congr {change change' : List (String × FileTree) → List (String × FileTree)} {place : List String}
    {t : FileTree} {es : List (String × FileTree)} (hdir : at? place t = some (directory es))
    (h : change es = change' es) : modify change place t = modify change' place t := by
  induction place generalizing t with
  | nil =>
    cases hdir
    exact congrArg directory h
  | cons name rest ih =>
    obtain ⟨es₀, rfl⟩ := exists_directory_of_at? hdir
    obtain ⟨x, hx, hrest⟩ := Option.bind_eq_some_iff.1 hdir
    replace hx : OrderedMap.lookup name es₀ = some x := hx
    rw [modify, modify, hx]
    simp only
    rw [ih hrest]

end FileTree

namespace Disk

/-- The directory that an effect changes. -/
def Effect.place : Effect → List String
  | makeDirectory place _ => place
  | create place _ => place
  | write place _ => place
  | rename place _ _ => place
  | remove place _ => place

/-- A directory that can be written to: no change in it is refused. -/
def Writable (disk : Disk) (place : List String) : Prop := ∀ effect, effect.place = place → disk.refuses effect = none

end Disk

namespace Disk.Action

open FileTree

variable {α β : Type} {disk disk' : Disk}

/-! ## Steps -/

/-- A fault leaves the disk as it is. -/
theorem on_throw (f : Fault) (disk : Disk) : (throw f : Action α).on disk = (.error f, disk) := rfl

theorem on_get (disk : Disk) : (get : Action Disk).on disk = (.ok disk, disk) := rfl

/-- The second step goes on with the disk that the first one has left; a fault ends both. -/
theorem on_bind (x : Action α) (f : α → Action β) (disk : Disk) :
    (x >>= f).on disk =
      match x.on disk with
      | (.ok a, disk) => (f a).on disk
      | (.error e, disk) => (.error e, disk) := by
  unfold on
  rw [ExceptT.run_bind, StateT.run_bind]
  rcases x.run.run disk with ⟨_ | _, disk⟩ <;> rfl

/-- Behind a step that is known to succeed the second one is all that is left to run. -/
theorem on_bind_of_ok {x : Action α} {f : α → Action β} {a : α} (h : x.on disk = (.ok a, disk')) :
    (x >>= f).on disk = (f a).on disk' := by
  rw [on_bind, h]

/-- Two steps succeed exactly if the first one does and then the second one does on what is left. -/
theorem on_bind_ok_iff {x : Action α} {f : α → Action β} {b : β} :
    (x >>= f).on disk = (.ok b, disk') ↔ ∃ a d, x.on disk = (.ok a, d) ∧ (f a).on d = (.ok b, disk') := by
  rw [on_bind]
  rcases x.on disk with ⟨e | a, d⟩
  · exact ⟨fun h => (nomatch h), fun ⟨_, _, h, _⟩ => nomatch h⟩
  · constructor
    · exact fun h => ⟨a, d, rfl, h⟩
    · rintro ⟨_, _, ⟨⟩, h⟩
      exact h

/-- A question is asked of the tree and leaves it alone. -/
theorem on_ask (question : FileTree → Except Fault α) (disk : Disk) :
    (ask question).on disk = (question disk.tree, disk) := by
  unfold ask
  rw [on_bind, on_get]
  simp only
  cases question disk.tree <;> rfl

/-- So the answer to a question is all that is left of it. -/
theorem on_ask_bind_of_ok {question : FileTree → Except Fault α} {f : α → Action β} {a : α}
    (h : question disk.tree = .ok a) : (ask question >>= f).on disk = (f a).on disk :=
  on_bind_of_ok (by rw [on_ask, h])

/-- What follows a question that was answered goes on with the answer on the same disk. -/
theorem on_ask_bind_ok_iff {question : FileTree → Except Fault α} {f : α → Action β} {b : β} :
    (ask question >>= f).on disk = (.ok b, disk') ↔
      ∃ a, question disk.tree = .ok a ∧ (f a).on disk = (.ok b, disk') := by
  rw [on_bind, on_ask]
  cases question disk.tree with
  | error g =>
    constructor
    · intro h
      nomatch h
    · rintro ⟨a, ha, -⟩
      nomatch ha
  | ok a =>
    constructor
    · intro h
      exact ⟨a, rfl, h⟩
    · rintro ⟨_, ⟨⟩, h⟩
      exact h

/-- A change is refused, or impossible, or made. -/
theorem on_change_cases (effect : Effect) (update : FileTree → Except Fault FileTree) (disk : Disk) :
    (∃ f, (change effect update).on disk = (.error f, disk) ∧
        (disk.refuses effect = some f ∨ update disk.tree = .error f)) ∨
      ∃ tree, (change effect update).on disk = (.ok (), { disk with tree }) ∧
        disk.refuses effect = none ∧ update disk.tree = .ok tree := by
  unfold change
  rw [on_bind, on_get]
  simp only
  cases disk.refuses effect with
  | some f => exact .inl ⟨f, rfl, .inl rfl⟩
  | none =>
    cases update disk.tree with
    | error f => exact .inl ⟨f, rfl, .inr rfl⟩
    | ok tree => exact .inr ⟨tree, rfl, rfl, rfl⟩

/-- A change succeeds exactly if the device does not refuse it and it is possible. -/
theorem on_change_ok_iff {effect : Effect} {update : FileTree → Except Fault FileTree} :
    (change effect update).on disk = (.ok (), disk') ↔
      disk.refuses effect = none ∧ ∃ tree, update disk.tree = .ok tree ∧ disk' = { disk with tree } := by
  rcases on_change_cases effect update disk with ⟨f, hend, hcause⟩ | ⟨tree, hend, hsound, htree⟩
  · rw [hend]
    refine iff_of_false (fun h => nomatch h) ?_
    rintro ⟨hsound, tree, htree, -⟩
    rcases hcause with hrefused | hfault
    · nomatch hsound.symm.trans hrefused
    · nomatch htree.symm.trans hfault
  · rw [hend]
    constructor
    · intro h
      cases h
      exact ⟨hsound, tree, htree, rfl⟩
    · rintro ⟨-, tree', htree', rfl⟩
      cases htree.symm.trans htree'
      rfl

/-- Where a fault is handled, the handler goes on with the disk that the fault has left. -/
theorem on_tryCatch (x : Action α) (handle : Fault → Action α) (disk : Disk) :
    (tryCatch x handle : Action α).on disk =
      match x.on disk with
      | (.ok a, disk) => (.ok a, disk)
      | (.error f, disk) => (handle f).on disk := by
  show (ExceptT.tryCatch x handle).run.run disk = _
  unfold ExceptT.tryCatch
  rw [ExceptT.run_mk, StateT.run_bind, show StateT.run x disk = x.on disk from rfl]
  rcases x.on disk with ⟨_ | _, disk⟩ <;> rfl

/-- Steps with a clean-up succeed exactly if they succeed without it: after it there is a fault in any case, the one
    that it was called for or its own. -/
theorem on_cleanUp_ok_iff {x : Action α} {cleanUp : Fault → Action Unit} {a : α} :
    (tryCatch x fun f => do cleanUp f; throw f : Action α).on disk = (.ok a, disk') ↔
      x.on disk = (.ok a, disk') := by
  rw [on_tryCatch]
  rcases x.on disk with ⟨f | a, d⟩
  · refine iff_of_false ?_ fun h => nomatch h
    intro h
    obtain ⟨-, d', -, hthrow⟩ := on_bind_ok_iff.1 h
    nomatch hthrow
  · exact Iff.rfl

/-! ## Directories that are there -/

/-- A path that can be followed as far as its text goes. -/
def Followable (p : Path) : Prop := p.checkBytes = .ok () ∧ p.isLong = false

/-- A path without bytes, or with too many, is not the path of a missing file. -/
theorem checkBytes_ne_fileMissing (p : Path) : p.checkBytes ≠ .error .fileMissing := by
  unfold Path.checkBytes
  simp only
  split
  · exact fun h => nomatch h
  · split <;> exact fun h => nomatch h

/-- Names that lead only down. -/
def Plain (place : List String) : Prop := ∀ name ∈ place, name ≠ ".." ∧ Path.isLongName name = false

/-- The path from the top to a place that a clean path leads to can be followed. -/
theorem followable_of_sublist {p : Path} {parts : List String} (hclean : p.Clean)
    (hroom : 1 + Path.weight p.parts < Path.sizeLimit) (hsub : parts.Sublist p.parts) :
    Followable { anchor := "/", parts } := by
  have hslash : Path.nameSize "/" = 1 := by decide
  refine Path.Clean.follows (hclean.of_sublist (.inr (.inl rfl)) hsub ?_)
  show Path.nameSize "/" + Path.weight p.parts < Path.sizeLimit
  rw [hslash]
  exact hroom

theorem plain_nil : Plain [] := fun _ h => absurd h List.not_mem_nil

/-- Names that lead only down, and to something, are followed to the place that they spell. -/
theorem walk_plain {t : FileTree} {place names : List String} {x : FileTree} (hplain : Plain names)
    (h : at? (place ++ names) t = some x) : FileTree.walk t place names = .ok (place ++ names) := by
  induction names generalizing place with
  | nil => rw [List.append_nil]; rfl
  | cons name rest ih =>
    obtain ⟨⟨hdots, hshort⟩, hrest⟩ := List.forall_mem_cons.1 hplain
    rw [at?_append] at h
    obtain ⟨here, hhere, hbelow⟩ := Option.bind_eq_some_iff.1 h
    obtain ⟨es, rfl⟩ := exists_directory_of_at? hbelow
    obtain ⟨y, hy, -⟩ := Option.bind_eq_some_iff.1 hbelow
    have hname : (OrderedMap.lookup name es).isSome = true := Option.isSome_of_mem hy
    rw [FileTree.walk, hhere]
    simp only
    rw [if_neg hdots, hshort, if_neg Bool.false_ne_true, if_pos hname]
    have hnext : at? (place ++ [name] ++ rest) t = some x := by
      rw [← List.append_cons, at?_append, hhere]
      exact hbelow
    rw [ih hrest hnext, ← List.append_cons]

/-- What is found in a directory at a plain place, where the path has bytes. -/
theorem find_place {t : FileTree} {place : List String} {name : String} {es : List (String × FileTree)} {x : FileTree}
    (hplain : Plain (place ++ [name])) (hdir : at? place t = some (directory es))
    (hname : OrderedMap.lookup name es = some x) :
    (Followable { anchor := "/", parts := place ++ [name] } →
        t.find { anchor := "/", parts := place ++ [name] } = .ok x) ∧
      (¬ Followable { anchor := "/", parts := place ++ [name] } →
        ∃ f, f ≠ .fileMissing ∧ t.find { anchor := "/", parts := place ++ [name] } = .error f) := by
  obtain ⟨hplace, hlast⟩ := List.forall_mem_append.1 hplain
  obtain ⟨hdots, hshort⟩ := hlast name (List.mem_singleton_self name)
  have hwalk : FileTree.walk t [] place = .ok place := @walk_plain t [] place _ hplace hdir
  have hfind := find_child (p := { anchor := "/", parts := place }) hwalk hdir hdots hshort
  rw [show Path.child { anchor := "/", parts := place } name = { anchor := "/", parts := place ++ [name] } from rfl,
    hname] at hfind
  rw [hfind]
  constructor
  · rintro ⟨hbytes, hlong⟩
    rw [hbytes, hlong]
    rfl
  · intro hnot
    cases hbytes : Path.checkBytes { anchor := "/", parts := place ++ [name] } with
    | error f =>
      refine ⟨f, ?_, rfl⟩
      rintro rfl
      exact checkBytes_ne_fileMissing _ hbytes
    | ok u =>
      have hlong : Path.isLong { anchor := "/", parts := place ++ [name] } = true := by
        rw [← Bool.not_eq_false]
        exact fun hlong => hnot ⟨hbytes, hlong⟩
      refine ⟨.nameTooLong, by simp, ?_⟩
      rw [hlong]
      rfl

/-- Names lead from a plain place to a plain place, made of the same names. -/
theorem plain_walk {t : FileTree} {place names place' : List String} {es : List (String × FileTree)}
    (hplain : Plain place) (hwalk : FileTree.walk t place names = .ok place')
    (hdir : at? place' t = some (directory es)) : Plain place' ∧ place'.Sublist (place ++ names) := by
  induction names generalizing place with
  | nil =>
    cases hwalk
    rw [List.append_nil]
    exact ⟨hplain, List.Sublist.refl _⟩
  | cons name rest ih =>
    obtain ⟨es₀, -, ⟨-, hrest⟩ | ⟨hdots, hshort, sub, -, hrest⟩⟩ := walk_cons_cases hwalk hdir
    -- two dots leave a shorter place
    · obtain ⟨hplace', hsub⟩ := ih (fun n hn => hplain n (List.dropLast_subset place hn)) hrest
      refine ⟨hplace', hsub.trans ?_⟩
      exact (List.dropLast_sublist place).append (List.sublist_cons_self name rest)
    · have hplain' := List.forall_mem_append.2 ⟨hplain, List.forall_mem_singleton.2 ⟨hdots, hshort⟩⟩
      obtain ⟨hplace', hsub⟩ := ih hplain' hrest
      rw [← List.append_cons] at hsub
      exact ⟨hplace', hsub⟩

/-- Names that lead to a directory are found on the way, and nothing is made. -/
theorem on_makeBelow (made : Bool) {place names place' : List String} {es : List (String × FileTree)}
    (hplain : Plain place) (hwalk : FileTree.walk disk.tree place names = .ok place')
    (hdir : at? place' disk.tree = some (directory es)) :
    (makeBelow made place names).on disk = (.ok place', disk) ∨
      ∃ f parts, parts.Sublist (place ++ names) ∧ ¬ Followable { anchor := "/", parts } ∧
        (makeBelow made place names).on disk = (.error f, disk) := by
  induction names generalizing place with
  | nil =>
    cases hwalk
    exact .inl rfl
  | cons name rest ih =>
    rw [makeBelow]
    obtain ⟨es₀, hhere, ⟨hdots, hrest⟩ | ⟨hdots, hshort, sub, hname, hrest⟩⟩ := walk_cons_cases hwalk hdir
    · rw [if_pos hdots]
      refine (ih (fun n hn => hplain n (List.dropLast_subset place hn)) hrest).imp_right ?_
      rintro ⟨f, parts, hparts, hnot⟩
      refine ⟨f, parts, hparts.trans ?_, hnot⟩
      exact (List.dropLast_sublist place).append (List.sublist_cons_self name rest)
    · rw [if_neg hdots]
      have hplain' : Plain (place ++ [name]) :=
        List.forall_mem_append.2 ⟨hplain, List.forall_mem_singleton.2 ⟨hdots, hshort⟩⟩
      have hend := ih hplain' hrest
      rw [← List.append_cons] at hend
      obtain ⟨hfound, hlost⟩ := find_place hplain' hhere hname
      show ((get >>= _ : Action _).on disk = _) ∨ ∃ f parts, _ ∧ _ ∧ (get >>= _ : Action _).on disk = _
      rw [on_bind, on_get]
      by_cases hfollow : Followable { anchor := "/", parts := place ++ [name] }
      · simp only [hfound hfollow]
        exact hend
      · obtain ⟨f, hf, hfind⟩ := hlost hfollow
        simp only [hfind]
        refine .inr ⟨f, place ++ [name], ?_, hfollow, on_throw f disk⟩
        exact (List.Sublist.refl place).append (List.singleton_sublist.2 List.mem_cons_self)

section

variable {path : Path} {place : List String} {es : List (String × FileTree)}

/-- A directory that is there is found where its path leads, if its names can be followed. -/
theorem on_makeDirectories (hwalk : FileTree.walk disk.tree [] path.parts = .ok place)
    (hdir : at? place disk.tree = some (directory es)) (hclean : path.Clean)
    (hroom : 1 + Path.weight path.parts < Path.sizeLimit) : (makeDirectories path).on disk = (.ok place, disk) := by
  obtain ⟨hbytes, hlong⟩ := hclean.follows
  have hbelow : (makeBelow false [] path.parts).on disk = (.ok place, disk) := by
    rcases on_makeBelow false plain_nil hwalk hdir with hend | ⟨f, parts, hparts, hnot, -⟩
    · exact hend
    · exact absurd (followable_of_sublist hclean hroom hparts) hnot
  unfold makeDirectories
  rw [on_ask_bind_of_ok hbytes]
  simp only [hlong, Bool.false_eq_true, if_false]
  exact hbelow

/-- If making a directory that is there succeeds, it is found where its path leads. -/
theorem of_makeDirectories_ok {place' : List String} (h : (makeDirectories path).on disk = (.ok place', disk'))
    (hwalk : FileTree.walk disk.tree [] path.parts = .ok place) (hdir : at? place disk.tree = some (directory es)) :
    place' = place ∧ disk' = disk := by
  unfold makeDirectories at h
  obtain ⟨-, -, h⟩ := on_ask_bind_ok_iff.1 h
  split at h
  · nomatch h
  · rcases on_makeBelow false plain_nil hwalk hdir with hend | ⟨f, parts, -, -, hend⟩
    · rw [hend] at h
      cases h
      exact ⟨rfl, rfl⟩
    · rw [hend] at h
      nomatch h

end

/-! ## Saving in a directory that is there -/

/-- The change of a renaming. -/
def moved (place : List String) (source target : String) (t : FileTree) : Except Fault FileTree :=
  let es := entriesAt place t
  match OrderedMap.lookup source es, OrderedMap.lookup target es with
  | none, _ => .error .fileMissing
  | some _, some (.directory _) => .error .isDirectory
  | some x, _ => .ok ((t.remove place source).put place target x)

/-- The tree with a text in the temporary file. -/
def written (place : List String) (temporary : String) (bytes : ByteArray) (t : FileTree) : FileTree :=
  (t.put place temporary (.file .empty)).put place temporary (.file bytes)

/-- **Saving succeeds exactly if each of its steps does.** -/
theorem on_save_ok_iff {path : Path} {text : Except Fault String} :
    (save path text).on disk = (.ok (), disk') ↔ ∃ place d s bytes t temporary,
      (makeDirectories path.parent).on disk = (.ok place, d) ∧
      temporary = freshName path.name (entriesAt place d.tree) ∧ text = .ok s ∧ Text.utf8? s = some bytes ∧
      (∀ effect ∈ [.create place temporary, .write place temporary, .rename place temporary path.name],
        d.refuses effect = none) ∧
      moved place temporary path.name (written place temporary bytes d.tree) = .ok t ∧
      disk' = { d with tree := t } := by
  unfold save
  rw [on_bind_ok_iff]
  constructor
  · rintro ⟨place, d, hmake, h⟩
    obtain ⟨_, ⟨⟩, h⟩ := on_ask_bind_ok_iff.1 h
    obtain ⟨⟨⟩, d₁, hstep, h⟩ := on_bind_ok_iff.1 h
    obtain ⟨hcreate, t₁, ⟨⟩, rfl⟩ := on_change_ok_iff.1 hstep
    -- all went well, so nothing was cleaned up
    replace h := on_cleanUp_ok_iff.1 h
    obtain ⟨s, htext, h⟩ := on_ask_bind_ok_iff.1 h
    cases hbytes : Text.utf8? s with
    | none =>
      rw [hbytes] at h
      nomatch h
    | some bytes =>
      rw [hbytes] at h
      obtain ⟨⟨⟩, d₁, hstep, h⟩ := on_bind_ok_iff.1 h
      obtain ⟨hwrite, t₂, ⟨⟩, rfl⟩ := on_change_ok_iff.1 hstep
      obtain ⟨hrename, t, hmoved, rfl⟩ := on_change_ok_iff.1 h
      refine ⟨place, d, s, bytes, t, _, hmake, rfl, htext, hbytes, ?_, hmoved, rfl⟩
      simp only [List.forall_mem_cons]
      exact ⟨hcreate, hwrite, hrename, fun _ h => absurd h List.not_mem_nil⟩
  · rintro ⟨place, d, s, bytes, t, temporary, hmake, htemporary, rfl, hbytes, hsound, hmoved, rfl⟩
    simp only [List.forall_mem_cons] at hsound
    obtain ⟨hcreate, hwrite, hrename, -⟩ := hsound
    refine ⟨place, d, hmake, on_ask_bind_ok_iff.2 ⟨temporary, congrArg _ htemporary.symm, ?_⟩⟩
    refine on_bind_ok_iff.2 ⟨(), _, on_change_ok_iff.2 ⟨hcreate, _, rfl, rfl⟩, on_cleanUp_ok_iff.2 ?_⟩
    refine on_ask_bind_ok_iff.2 ⟨s, rfl, ?_⟩
    rw [hbytes]
    refine on_bind_ok_iff.2 ⟨(), _, on_change_ok_iff.2 ⟨hwrite, _, rfl, rfl⟩, ?_⟩
    exact on_change_ok_iff.2 ⟨hrename, t, hmoved, rfl⟩

/-! ## The entries of the directory -/

/-- No number is greater than the greatest of all. -/
theorem le_foldl_max (ns : List Nat) (start : Nat) : start ≤ ns.foldl max start ∧ ∀ n ∈ ns, n ≤ ns.foldl max start := by
  induction ns generalizing start with
  | nil => exact ⟨Nat.le_refl _, fun _ h => nomatch h⟩
  | cons n rest ih =>
    obtain ⟨hstart, hrest⟩ := ih (max start n)
    rw [List.foldl_cons]
    refine ⟨by omega, List.forall_mem_cons.2 ⟨by omega, hrest⟩⟩

/-- No entry has the temporary name. -/
theorem lookup_freshName (name : String) (es : List (String × FileTree)) :
    OrderedMap.lookup (freshName name es) es = none := by
  rw [← Option.not_isSome_iff_eq_none, OrderedMap.lookup_isSome_iff]
  intro hmem
  obtain ⟨e, he, heq⟩ := List.mem_map.1 hmem
  have hle := (le_foldl_max (es.map fun e => e.1.length) 0).2 _ (List.mem_map_of_mem he)
  have hlength := congrArg String.length heq
  rw [freshName] at hlength
  simp only [String.length_append, String.length_ofList, List.length_replicate] at hlength
  have hdot : ".".length = 1 := rfl
  omega

/-- The temporary name is longer than the one it is made for. -/
theorem freshName_ne (name : String) (es : List (String × FileTree)) : name ≠ freshName name es := by
  intro heq
  have hlength := congrArg String.length heq
  rw [freshName] at hlength
  simp only [String.length_append, String.length_ofList, List.length_replicate] at hlength
  have hdot : ".".length = 1 := rfl
  omega

/-- The entries of a directory after a text was saved in it. -/
def savedEntries (name : String) (bytes : ByteArray) (es : List (String × FileTree)) : List (String × FileTree) :=
  let temporary := freshName name es
  let filled := OrderedMap.put temporary (.file bytes) (OrderedMap.put temporary (.file .empty) es)
  OrderedMap.put name (.file bytes) (filled.filter fun e => e.1 ≠ temporary)

/-- **The new text is there, and all other entries are what they were.** -/
theorem lookup_savedEntries (name n : String) (bytes : ByteArray) (es : List (String × FileTree)) :
    OrderedMap.lookup n (savedEntries name bytes es) =
      if name = n then some (.file bytes) else OrderedMap.lookup n es := by
  unfold savedEntries
  simp only
  rw [OrderedMap.lookup_put, OrderedMap.lookup_filter_ne, OrderedMap.lookup_put, OrderedMap.lookup_put]
  by_cases hname : name = n
  · rw [if_pos hname, if_pos hname]
  · rw [if_neg hname, if_neg hname]
    by_cases hfresh : n = freshName name es
    · rw [if_pos hfresh, hfresh, lookup_freshName]
    · rw [if_neg hfresh, if_neg (Ne.symm hfresh), if_neg (Ne.symm hfresh)]

/-- Directories among the entries stay, unless one is in the place of the text. -/
theorem savedEntries_keeps {name : String} {es : List (String × FileTree)} (bytes : ByteArray)
    (hfree : ∀ sub, OrderedMap.lookup name es ≠ some (directory sub)) (n : String) (sub : List (String × FileTree))
    (h : OrderedMap.lookup n es = some (directory sub)) :
    OrderedMap.lookup n (savedEntries name bytes es) = some (directory sub) := by
  rw [lookup_savedEntries, if_neg, h]
  rintro rfl
  exact hfree sub h

variable {t t' : FileTree} {place : List String} {es : List (String × FileTree)}

/-- The entries at a plain place are those of the directory there, if the path to it can be followed. -/
theorem entriesAt_eq (hplain : Plain place) (hdir : at? place t = some (directory es))
    (hfollow : Followable { anchor := "/", parts := place }) : entriesAt place t = es := by
  have hfind : t.find { anchor := "/", parts := place } = .ok (directory es) :=
    find_eq_ok_iff.2 ⟨hfollow.1, hfollow.2, place, @walk_plain t [] place _ hplain hdir, hdir⟩
  unfold entriesAt
  rw [hfind]
  rfl

/-- A path that cannot be followed shows no entries. -/
theorem entriesAt_eq_nil (hnot : ¬ Followable { anchor := "/", parts := place }) : entriesAt place t = [] := by
  unfold entriesAt
  split
  · next dir hfind =>
    obtain ⟨hbytes, hlong, -⟩ := find_eq_ok_iff.1 hfind
    exact absurd ⟨hbytes, hlong⟩ hnot
  · rfl

/-- The new text takes its place, if that is not the place of a directory. -/
theorem moved_written_eq_ok_iff {name temporary : String} {bytes : ByteArray} (hplain : Plain place)
    (hdir : at? place t = some (directory es)) (htemporary : temporary = freshName name (entriesAt place t)) :
    moved place temporary name (written place temporary bytes t) = .ok t' ↔
      Followable { anchor := "/", parts := place } ∧ (∀ sub, OrderedMap.lookup name es ≠ some (directory sub)) ∧
        t' = modify (savedEntries name bytes) place t := by
  have hwritten : written place temporary bytes t = modify (fun es => OrderedMap.put temporary (.file bytes)
      (OrderedMap.put temporary (.file .empty) es)) place t := modify_modify _ _ place t
  have hdir' := at?_modify hdir fun es => OrderedMap.put temporary (.file bytes)
    (OrderedMap.put temporary (.file .empty) es)
  rw [hwritten]
  unfold moved
  by_cases hfollow : Followable { anchor := "/", parts := place }
  · rw [entriesAt_eq hplain hdir hfollow] at htemporary
    subst htemporary
    -- the temporary name is another one, so under the target there is still what was there
    have htarget : OrderedMap.lookup name (OrderedMap.put (freshName name es) (.file bytes)
        (OrderedMap.put (freshName name es) (.file .empty) es)) = OrderedMap.lookup name es := by
      rw [OrderedMap.lookup_put, if_neg (freshName_ne name es).symm, OrderedMap.lookup_put,
        if_neg (freshName_ne name es).symm]
    have hresult : (FileTree.remove (modify (fun es' => OrderedMap.put (freshName name es) (.file bytes)
        (OrderedMap.put (freshName name es) (.file .empty) es')) place t) place (freshName name es)).put place name
          (.file bytes) = modify (savedEntries name bytes) place t := by
      unfold FileTree.remove FileTree.put
      rw [modify_modify, modify_modify]
      exact modify_congr hdir rfl
    simp only [entriesAt_eq hplain hdir' hfollow]
    rw [htarget, OrderedMap.lookup_put, if_pos rfl]
    cases hname : OrderedMap.lookup name es with
    | none =>
      show Except.ok _ = Except.ok t' ↔ _
      rw [hresult, Except.ok.injEq, eq_comm]
      exact ⟨fun heq => ⟨hfollow, by simp, heq⟩, fun h => h.2.2⟩
    | some x =>
      cases x with
      | directory sub => exact iff_of_false (by simp) fun h => h.2.1 sub rfl
      | file content =>
        show Except.ok _ = Except.ok t' ↔ _
        rw [hresult, Except.ok.injEq, eq_comm]
        exact ⟨fun heq => ⟨hfollow, by simp, heq⟩, fun h => h.2.2⟩
  -- a place whose path is too long looks empty, and there is no file to be renamed
  · simp only [entriesAt_eq_nil hfollow]
    exact iff_of_false (by simp [OrderedMap.lookup]) fun h => hfollow h.1

variable {path : Path} {text : Except Fault String}

/-- What was saved has changed nothing but the entries of its directory. -/
theorem of_save_ok (h : (save path text).on disk = (.ok (), disk'))
    (hwalk : FileTree.walk disk.tree [] path.parent.parts = .ok place)
    (hdir : at? place disk.tree = some (directory es)) :
    ∃ s bytes, text = .ok s ∧ Text.utf8? s = some bytes ∧
      (∀ sub, OrderedMap.lookup path.name es ≠ some (directory sub)) ∧
      disk' = { disk with tree := modify (savedEntries path.name bytes) place disk.tree } := by
  obtain ⟨place', d, s, bytes, t, temporary, hmake, htemporary, htext, hbytes, -, hmoved, rfl⟩ := on_save_ok_iff.1 h
  obtain ⟨rfl, rfl⟩ := of_makeDirectories_ok hmake hwalk hdir
  obtain ⟨hplain, -⟩ := plain_walk plain_nil hwalk hdir
  obtain ⟨-, hfree, rfl⟩ := (moved_written_eq_ok_iff hplain hdir htemporary).1 hmoved
  exact ⟨s, bytes, htext, hbytes, hfree, rfl⟩

/-- **A text is saved** in a directory that is there and can be written to, unless another directory has its name. -/
theorem on_save {s : String} {bytes : ByteArray} (hbytes : Text.utf8? s = some bytes)
    (hwalk : FileTree.walk disk.tree [] path.parent.parts = .ok place)
    (hdir : at? place disk.tree = some (directory es)) (hwritable : disk.Writable place) (hclean : path.parent.Clean)
    (hroom : 1 + Path.weight path.parent.parts < Path.sizeLimit)
    (hfree : ∀ sub, OrderedMap.lookup path.name es ≠ some (directory sub)) :
    (save path (.ok s)).on disk =
      (.ok (), { disk with tree := modify (savedEntries path.name bytes) place disk.tree }) := by
  obtain ⟨hplain, hsub⟩ := plain_walk plain_nil hwalk hdir
  have hfollow := followable_of_sublist hclean hroom hsub
  have hmade := on_makeDirectories hwalk hdir hclean hroom
  refine on_save_ok_iff.2 ⟨place, disk, s, bytes, _, _, hmade, rfl, rfl, hbytes, fun effect heffect => ?_,
    (moved_written_eq_ok_iff hplain hdir rfl).2 ⟨hfollow, hfree, rfl⟩, rfl⟩
  refine hwritable effect ?_
  simp only [List.mem_cons, List.not_mem_nil, or_false] at heffect
  rcases heffect with rfl | rfl | rfl <;> rfl

end Disk.Action

end CodeAtlas
