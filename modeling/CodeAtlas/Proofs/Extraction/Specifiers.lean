import CodeAtlas.Extraction.Script
import CodeAtlas.Proofs.Extraction.Reading
import Mathlib.Data.List.Infix
/-!
  Relative specifiers and the modules of files agree.

  A specifier is a text with steps between slashes.  `follow` says where the steps lead from the directory of the
  importing file, below the source root: a name goes down, two dots go up, and nothing else matters.  So a file or a
  directory has many specifiers, of which `relative` is the shortest one.

    1. The components that the resolution normalizes are those that `follow` arrives at (`normalizeOnto_of_follow`), so
       a specifier that leads somewhere is resolved to the module name of this place (`resolveSpecifier_of_leads`).
    2. At most one extension fits at the end of a text, so a path and the same without its extension have one module
       name (`withoutExtension_append`), and an index has that of its directory (`withoutIndex_join_index`).
    3. Hence all specifiers of a file are resolved to its module (`resolves_namedFrom`).  The resolution knows texts and
       no disk: a directory that looks like an index is taken for one, also when the specifier is two dots.
-/
namespace CodeAtlas

/-! ## Places below the source root -/

namespace Path

/-- A name that an entry of a directory can have.  A disk knows no others. -/
def IsEntry (name : String) : Prop := name ∉ ["", ".", ".."] ∧ '/' ∉ name.toList ∧ '\x00' ∉ name.toList

instance (name : String) : Decidable (IsEntry name) :=
  inferInstanceAs (Decidable (name ∉ ["", ".", ".."] ∧ '/' ∉ name.toList ∧ '\x00' ∉ name.toList))

/-- Where some steps lead from a place below the source root, as long as they stay below it. -/
def follow : List String → List String → Option (List String)
  | place, [] => some place
  | place, step :: rest =>
    if step = "" ∨ step = "." then follow place rest
    else if step = ".." then
      if place = [] then none else follow place.dropLast rest
    else follow (place ++ [step]) rest

/-- The steps of the shortest way from one place to another one: up as far as they part, and then down. -/
def stepsTo : List String → List String → List String
  | here :: rest, there :: others =>
    if here = there then stepsTo rest others
    else List.replicate (rest.length + 1) ".." ++ there :: others
  | here, there => List.replicate here.length ".." ++ there

/-- The relative path from one place to another one.  It starts with a dot. -/
def relative (place target : List String) : String :=
  match stepsTo place target with
  | ".." :: rest => Text.join "/" (".." :: rest)
  | steps => Text.join "/" ("." :: steps)

variable {place steps target : List String}

/-- The name of an entry is none of the three that do not lead down. -/
theorem IsEntry.ne_dots {name : String} (h : IsEntry name) : name ≠ "" ∧ name ≠ "." ∧ name ≠ ".." := by
  simpa using h.1

theorem follow_append (place before after : List String) :
    follow place (before ++ after) = (follow place before).bind fun p => follow p after := by
  induction before generalizing place with
  | nil => rfl
  | cons step rest ih =>
    rw [List.cons_append, follow, follow]
    split
    · exact ih place
    · split
      · split
        · rfl
        · exact ih _
      · exact ih _

/-- Names go down. -/
theorem follow_names (place : List String) {names : List String} (h : ∀ name ∈ names, IsEntry name) :
    follow place names = some (place ++ names) := by
  induction names generalizing place with
  | nil => rw [List.append_nil, follow]
  | cons name rest ih =>
    obtain ⟨hname, hrest⟩ := List.forall_mem_cons.1 h
    obtain ⟨hempty, hdot, hdots⟩ := hname.ne_dots
    rw [follow, if_neg (not_or.2 ⟨hempty, hdot⟩), if_neg hdots, ih _ hrest, List.append_assoc,
      List.singleton_append]

/-- The last name is where the steps before it lead, and then down. -/
theorem follow_concat (place init : List String) {name : String} (h : name ∉ ["", ".", ".."]) :
    follow place (init ++ [name]) = (follow place init).map (· ++ [name]) := by
  obtain ⟨hempty, hdot, hdots⟩ : name ≠ "" ∧ name ≠ "." ∧ name ≠ ".." := by simpa using h
  rw [follow_append]
  cases follow place init with
  | none => rfl
  | some p =>
    rw [Option.bind_some, Option.map_some, follow, if_neg (not_or.2 ⟨hempty, hdot⟩), if_neg hdots, follow]

/-- As many pairs of dots as names lead back. -/
theorem follow_up (place names : List String) :
    follow (place ++ names) (List.replicate names.length "..") = some place := by
  induction names using List.reverseRecOn with
  | nil => rw [List.append_nil]; rfl
  | append_singleton rest last ih =>
    rw [List.length_append, List.length_singleton, List.replicate_succ, follow, if_neg (by decide), if_pos rfl,
      if_neg (by simp), ← List.append_assoc, List.dropLast_concat]
    exact ih

/-- The shortest way leads there. -/
theorem follow_stepsTo (common : List String) (h : ∀ name ∈ target, IsEntry name) :
    follow (common ++ place) (stepsTo place target) = some (common ++ target) := by
  fun_induction stepsTo place target generalizing common with
  -- the two places have their first directory in common, so it belongs to what is common to them
  | case1 rest there others ih =>
    rw [← List.singleton_append, ← List.append_assoc, ih _ (List.forall_mem_cons.1 h).2, List.append_assoc,
      List.singleton_append]
  | case2 here rest there others hne =>
    have hup := follow_up common (here :: rest)
    rw [List.length_cons] at hup
    rw [follow_append, hup, Option.bind_some, follow_names _ h]
  | case3 here there hother =>
    rw [follow_append, follow_up, Option.bind_some, follow_names _ h]

/-- The steps that are left out are those that lead nowhere. -/
theorem normalizeOnto_of_follow (hplace : ".." ∉ place) (h : follow place steps = some target) :
    normalizeOnto false place.reverse (steps.filter fun s => s ≠ "" && s ≠ ".") = target := by
  induction steps generalizing place with
  | nil =>
    cases h
    rw [List.filter_nil, normalizeOnto, List.reverse_reverse]
  | cons step rest ih =>
    rw [follow] at h
    split at h
    -- an empty step or a single dot, which is filtered out
    · next hnone =>
      rw [List.filter_cons_of_neg (by rcases hnone with rfl | rfl <;> decide)]
      exact ih hplace h
    · next hsome =>
      rw [not_or] at hsome
      rw [List.filter_cons_of_pos (by simp [hsome])]
      split at h
      -- two dots take the last name away, and there is one because the steps lead somewhere
      · next hdots =>
        subst hdots
        split at h
        · nomatch h
        · next hne =>
          obtain ⟨init, last, rfl⟩ := (List.eq_nil_or_concat' place).resolve_left hne
          rw [List.mem_append, not_or, List.mem_singleton] at hplace
          rw [List.dropLast_concat] at h
          rw [List.reverse_append, List.reverse_singleton, List.singleton_append, normalizeOnto]
          · exact ih hplace.1 h
          · exact fun heq => hplace.2 heq.symm
      · next hname =>
        have hnext : ".." ∉ place ++ [step] := by
          rw [List.mem_append, not_or, List.mem_singleton]
          exact ⟨hplace, fun heq => hname heq.symm⟩
        have hrest := ih hnext h
        rw [List.reverse_append, List.reverse_singleton, List.singleton_append] at hrest
        rw [normalizeOnto]
        · exact hrest
        · exact hname

/-- Names that are no dots are kept, each behind the others. -/
theorem normalizeOnto_append {names : List String} (h : ".." ∉ names) (absolute : Bool) (done steps : List String) :
    normalizeOnto absolute done (names ++ steps) = normalizeOnto absolute (names.reverse ++ done) steps := by
  induction names generalizing done with
  | nil => rfl
  | cons name rest ih =>
    rw [List.mem_cons, not_or] at h
    rw [List.cons_append, normalizeOnto, ih h.2, List.reverse_cons, List.append_assoc, List.singleton_append]
    exact fun heq => h.1 heq.symm

/-- Entries are the pieces of their text. -/
theorem split_join_entries (hne : target ≠ []) (h : ∀ name ∈ target, IsEntry name) :
    Text.split '/' (Text.join "/" target) = target :=
  Text.split_join hne fun name hname => (h name hname).2.1

/-- The text of a relative path of entries has none of the two special forms. -/
theorem text_entries (hne : target ≠ []) (h : ∀ name ∈ target, IsEntry name) :
    text ⟨"", target⟩ = Text.join "/" target ∧ Text.join "/" target ≠ "" ∧ Text.join "/" target ≠ "." := by
  have hpieces := split_join_entries hne h
  have hempty : Text.join "/" target ≠ "" := by
    intro heq
    rw [heq, show Text.split '/' "" = [""] by decide] at hpieces
    exact (h "" (hpieces ▸ List.mem_singleton_self "")).ne_dots.1 rfl
  have hdot : Text.join "/" target ≠ "." := by
    intro heq
    rw [heq, show Text.split '/' "." = ["."] by decide] at hpieces
    exact (h "." (hpieces ▸ List.mem_singleton_self ".")).ne_dots.2.1 rfl
  refine ⟨?_, hempty, hdot⟩
  unfold text
  simp only [String.empty_append, if_neg hempty]

/-! ## Specifiers as texts -/

/-- A specifier starts with a dot and leads somewhere. -/
def Leads (specifier : String) (place target : List String) : Prop :=
  Text.startsWith "." specifier = true ∧ follow place (Text.split '/' specifier) = some target

instance (specifier : String) (place target : List String) : Decidable (Leads specifier place target) :=
  inferInstanceAs (Decidable (_ ∧ _))

/-- The first character is that of the first part. -/
theorem startsWith_append {s : String} (hne : s ≠ "") (t : String) :
    Text.startsWith "." (s ++ t) = Text.startsWith "." s := by
  unfold Text.startsWith
  rw [String.toList_append]
  cases hs : s.toList with
  | nil => exact absurd (String.toList_eq_nil_iff.1 hs) hne
  | cons c rest => rfl

/-- The first character of joined steps is that of the first step. -/
theorem startsWith_join {first : String} (hne : first ≠ "") (rest : List String) :
    Text.startsWith "." (Text.join "/" (first :: rest)) = Text.startsWith "." first := by
  cases rest with
  | nil => rfl
  | cons next others =>
    show Text.startsWith "." (first ++ "/" ++ Text.join "/" (next :: others)) = _
    rw [String.append_assoc, startsWith_append hne]

/-- The steps of the shortest way are two dots or names of the target. -/
theorem mem_stepsTo {step : String} (h : step ∈ stepsTo place target) : step = ".." ∨ step ∈ target := by
  fun_induction stepsTo place target with
  | case1 rest there others ih => exact (ih h).imp_right (List.mem_cons_of_mem there)
  | case2 here rest there others hne => exact (List.mem_append.1 h).imp_left List.eq_of_mem_replicate
  | case3 here there hother => exact (List.mem_append.1 h).imp_left List.eq_of_mem_replicate

/-- The relative path takes the shortest way. -/
theorem exists_relative_eq (place target : List String) : ∃ first rest,
    relative place target = Text.join "/" (first :: rest) ∧ (first = "." ∨ first = "..") ∧
      (∀ step ∈ rest, step ∈ stepsTo place target) ∧
      follow place (first :: rest) = follow place (stepsTo place target) := by
  unfold relative
  split
  · next rest hsteps =>
    rw [hsteps]
    exact ⟨"..", rest, rfl, .inr rfl, fun step hstep => List.mem_cons_of_mem _ hstep, rfl⟩
  · exact ⟨".", _, rfl, .inl rfl, fun step hstep => hstep, by rw [follow, if_pos (.inr rfl)]⟩

/-- **The relative path leads there.** -/
theorem leads_relative (place : List String) (h : ∀ name ∈ target, IsEntry name) :
    Leads (relative place target) place target := by
  obtain ⟨first, rest, hrelative, hfirst, hrest, hfollow⟩ := exists_relative_eq place target
  have hslash : ∀ step ∈ first :: rest, '/' ∉ step.toList := by
    intro step hstep
    rcases List.mem_cons.1 hstep with rfl | hstep
    · rcases hfirst with rfl | rfl <;> decide
    · rcases mem_stepsTo (hrest step hstep) with rfl | hname
      · decide
      · exact (h step hname).2.1
  rw [hrelative]
  constructor
  · rw [startsWith_join (by rcases hfirst with rfl | rfl <;> decide)]
    rcases hfirst with rfl | rfl <;> decide
  · have hsplit : Text.split '/' (Text.join "/" (first :: rest)) = first :: rest :=
      Text.split_join (List.cons_ne_nil first rest) hslash
    rw [hsplit, hfollow]
    exact follow_stepsTo [] h

/-- The components of a text that starts with a dot. -/
theorem ofString_of_startsWith {s : String} (h : Text.startsWith "." s = true) :
    ofString s = ⟨"", (Text.split '/' s).filter fun p => p ≠ "" && p ≠ "."⟩ := by
  unfold Text.startsWith at h
  rw [List.isPrefixOf_iff_prefix] at h
  obtain ⟨rest, hrest⟩ := h
  unfold ofString
  rw [← hrest]
  congr 1

/-- **A specifier that leads somewhere is normalized to this place.** -/
theorem normalize_join_of_leads {specifier : String} (hplace : ∀ name ∈ place, IsEntry name)
    (h : Leads specifier place target) :
    ((⟨"", place⟩ : Path).join (ofString specifier)).normalize = ⟨"", target⟩ := by
  have hdots : ".." ∉ place := fun hmem => (hplace _ hmem).ne_dots.2.2 rfl
  have hparts := normalizeOnto_of_follow hdots h.2
  rw [ofString_of_startsWith h.1]
  show (⟨"", normalizeOnto false [] (place ++ _)⟩ : Path) = _
  rw [normalizeOnto_append hdots, List.append_nil]
  exact congrArg (Path.mk "") hparts

/-- There is no null character in the names of entries. -/
theorem untilNull_entries (h : ∀ name ∈ target, IsEntry name) : untilNull target = target :=
  untilNull_eq_self fun name hname => by simpa using (h name hname).2.2

end Path

/-! ## Names of modules -/

namespace Script

open CodeAtlas.Path

/-- The name of a module without an extension.  An index stands for its directory. -/
def withoutIndex (path : String) : String :=
  if path = "index" then "" else (Text.beforeEnd? "/index" path).getD path

/-- No extension is the end of another one. -/
theorem eq_of_suffix_extension :
    ∀ e ∈ moduleExtensions, ∀ e' ∈ moduleExtensions, e.toList <:+ e'.toList → e = e' := by
  decide +kernel

/-- So a text ends in one extension at most. -/
theorem eq_of_ends {e e' path : String} (he : e ∈ moduleExtensions) (he' : e' ∈ moduleExtensions)
    (h : Text.endsWith e path = true) (h' : Text.endsWith e' path = true) : e = e' := by
  rw [Text.endsWith_iff] at h h'
  rcases List.suffix_or_suffix_of_suffix h h' with hsuffix | hsuffix
  · exact eq_of_suffix_extension e he e' he' hsuffix
  · exact (eq_of_suffix_extension e' he' e he hsuffix).symm

/-- **One extension is taken away.** -/
theorem withoutExtension_append {e : String} (he : e ∈ moduleExtensions) (path : String) :
    withoutExtension (path ++ e) = withoutIndex path := by
  have hfound : moduleExtensions.findSome? (fun e' => Text.beforeEnd? e' (path ++ e)) = some path := by
    cases hsome : moduleExtensions.findSome? (fun e' => Text.beforeEnd? e' (path ++ e)) with
    | none =>
      have hnone := List.findSome?_eq_none_iff.1 hsome e he
      rw [Text.beforeEnd?_append] at hnone
      nomatch hnone
    | some found =>
      obtain ⟨e', he', hbefore⟩ := List.exists_of_findSome?_eq_some hsome
      obtain rfl : e' = e := eq_of_ends he' he (Text.endsWith_of_beforeEnd? hbefore) (Text.endsWith_append path e)
      rw [← hbefore, Text.beforeEnd?_append]
  unfold withoutExtension
  rw [hfound]
  rfl

/-- A text does not end in an extension. -/
def IsBare (path : String) : Prop := ∀ e ∈ moduleExtensions, Text.endsWith e path = false

instance (path : String) : Decidable (IsBare path) :=
  inferInstanceAs (Decidable (∀ e ∈ moduleExtensions, Text.endsWith e path = false))

/-- A text looks like a directory: neither like a file nor like an index. -/
def LooksLikeDirectory (path : String) : Prop := IsBare path ∧ (Text.split '/' path).getLast? ≠ some "index"

instance (path : String) : Decidable (LooksLikeDirectory path) :=
  inferInstanceAs (Decidable (_ ∧ _))

/-- Whether a text ends in an extension is seen at its last piece. -/
theorem isBare_iff_of_getLast? {path piece : String} (h : (Text.split '/' path).getLast? = some piece) :
    IsBare path ↔ IsBare piece := by
  have hslash : ∀ e ∈ moduleExtensions, '/' ∉ e.toList := by decide +kernel
  exact forall₂_congr fun e he => by rw [Text.endsWith_eq_of_getLast? (hslash e he) h]

/-- A path without an extension is left as it is. -/
theorem withoutExtension_of_bare {path : String} (h : IsBare path) :
    withoutExtension path = withoutIndex path := by
  have hnone : moduleExtensions.findSome? (fun e => Text.beforeEnd? e path) = none :=
    List.findSome?_eq_none_iff.2 fun e he => Text.beforeEnd?_eq_none_iff.2 (h e he)
  unfold withoutExtension
  rw [hnone]
  rfl

/-- An index stands for its directory. -/
theorem withoutIndex_join_index {directory : List String} :
    withoutIndex (Text.join "/" (directory ++ ["index"])) = Text.join "/" directory := by
  cases directory with
  | nil => rfl
  | cons first rest =>
    have hjoin : Text.join "/" (first :: rest ++ ["index"]) = Text.join "/" (first :: rest) ++ "/index" := by
      rw [Text.join_append_singleton "/" (List.cons_ne_nil first rest), String.append_assoc]
      rfl
    unfold withoutIndex
    rw [hjoin, if_neg, Text.beforeEnd?_append]
    · rfl
    · intro heq
      have hslash := congrArg (fun s => '/' ∈ s.toList) heq
      simp at hslash

/-- Any other path stands for itself. -/
theorem withoutIndex_eq_self {path : String} (h : (Text.split '/' path).getLast? ≠ some "index") :
    withoutIndex path = path := by
  unfold withoutIndex
  rw [if_neg, Text.beforeEnd?_eq_none_iff.2]
  · rfl
  · exact Bool.eq_false_iff.2 fun hend => h (Text.getLast?_split_of_endsWith (by decide) hend)
  · intro heq
    rw [heq] at h
    exact h (by decide)

/-- The module name of a place below the source root. -/
def placeName (root : Path) (place : List String) : String :=
  if place = [] then root.name else moduleName (Text.join "/" place) root

variable {root : Path} {place target : List String} {specifier : String}

/-- The module of a file below the root is named after its way from there. -/
theorem modulePath_of_entries (root : Path) (hne : target ≠ []) (h : ∀ name ∈ target, IsEntry name) :
    modulePath { root with parts := root.parts ++ target } root = .ok (moduleName (Text.join "/" target) root) := by
  unfold modulePath
  rw [below?_append]
  simp only
  rw [(text_entries hne h).1]

/-- **A specifier is resolved to the module name of the place that it leads to.** -/
theorem resolveSpecifier_of_leads (root : Path) (file : String) (hplace : ∀ name ∈ place, IsEntry name)
    (htarget : ∀ name ∈ target, IsEntry name) (h : Leads specifier place target) :
    resolveSpecifier specifier { root with parts := root.parts ++ (place ++ [file]) } root =
      .ok (placeName root target) := by
  unfold resolveSpecifier placeName
  rw [h.1, Bool.not_true, if_neg Bool.false_ne_true, parent_append root (by simp), List.dropLast_concat, below?_append]
  simp only [normalize_join_of_leads hplace h, untilNull_entries htarget]
  rw [if_neg]
  · by_cases hne : target = []
    · subst hne
      rfl
    · obtain ⟨htext, -, hdot⟩ := text_entries hne htarget
      rw [htext, if_neg hdot, if_neg hne]
  · intro hhead
    exact (htarget _ (List.mem_of_mem_head? hhead)).ne_dots.2.2 rfl

/-! ## Files and their specifiers -/

/-- A file below the source root that is a module. -/
structure ModuleFile where
  directory : List String
  stem : String
  extension : String
  extension_mem : extension ∈ moduleExtensions
  stem_notMem : stem ∉ ["", ".", ".."]
  entries : ∀ name ∈ directory ++ [stem ++ extension], IsEntry name

namespace ModuleFile

/-- The components of a file below the source root. -/
def location (f : ModuleFile) : List String := f.directory ++ [f.stem ++ f.extension]

/-- The path of a file below a source root. -/
def path (f : ModuleFile) (root : Path) : Path := { root with parts := root.parts ++ f.location }

/-- A specifier names a file from a directory: it leads to the file, or it would with the extension of the file at its
    end and has none of its own, or it leads to the directory of an index.  A directory that looks like a file or like
    an index is taken for one, whatever the specifier looks like. -/
inductive NamedFrom (f : ModuleFile) (here : List String) (specifier : String) : Prop
  | whole (h : Leads specifier here f.location)
  | bare (h : Leads (specifier ++ f.extension) here f.location) (hbare : IsBare specifier)
  | index (hstem : f.stem = "index") (h : Leads specifier here f.directory)
      (hlooks : LooksLikeDirectory (Text.join "/" f.directory))

variable {f : ModuleFile}

theorem entry_directory (f : ModuleFile) : ∀ name ∈ f.directory, IsEntry name :=
  (List.forall_mem_append.1 f.entries).1

/-- What is left of the name of a file is a name. -/
theorem entry_stem (f : ModuleFile) : ∀ name ∈ f.directory ++ [f.stem], IsEntry name := by
  obtain ⟨hdirectory, hname⟩ := List.forall_mem_append.1 f.entries
  obtain ⟨-, hslash, hnull⟩ := List.forall_mem_singleton.1 hname
  rw [String.toList_append, List.mem_append, not_or] at hslash hnull
  exact List.forall_mem_append.2 ⟨hdirectory, List.forall_mem_singleton.2 ⟨f.stem_notMem, hslash.1, hnull.1⟩⟩

/-- The extension stands at the end of the whole path. -/
theorem join_location (f : ModuleFile) :
    Text.join "/" f.location = Text.join "/" (f.directory ++ [f.stem]) ++ f.extension := by
  unfold location
  by_cases hempty : f.directory = []
  · rw [hempty]
    rfl
  · rw [Text.join_append_singleton "/" hempty, Text.join_append_singleton "/" hempty]
    simp only [String.append_assoc]

/-- The module name of a file is that of its path without the extension. -/
theorem moduleName_location (f : ModuleFile) (root : Path) :
    moduleName (Text.join "/" f.location) root =
      if withoutIndex (Text.join "/" (f.directory ++ [f.stem])) = "" then root.name
      else withoutIndex (Text.join "/" (f.directory ++ [f.stem])) := by
  unfold moduleName
  rw [join_location, withoutExtension_append f.extension_mem]

/-- A specifier that leads to a file with the extension at its end leads to what is left of the name without it. -/
theorem leads_of_append {here : List String} {specifier : String}
    (h : Leads (specifier ++ f.extension) here f.location) :
    Leads specifier here (f.directory ++ [f.stem]) ∧ (Text.split '/' specifier).getLast? = some f.stem := by
  have hextension : '/' ∉ f.extension.toList ∧ 2 < f.extension.length := by
    have hall : ∀ e ∈ moduleExtensions, '/' ∉ e.toList ∧ 2 < e.length := by decide +kernel
    exact hall _ f.extension_mem
  obtain ⟨init, last, hsplit, hboth⟩ := Text.exists_split_append '/' specifier hextension.1
  have hname : last ++ f.extension ∉ ["", ".", ".."] := by
    intro hmem
    have hlength : (last ++ f.extension).length ≤ 2 := by
      have hall : ∀ s ∈ ["", ".", ".."], s.length ≤ 2 := by decide
      exact hall _ hmem
    rw [String.length_append] at hlength
    omega
  obtain ⟨hdot, hfollow⟩ := h
  rw [hboth, follow_concat here init hname, Option.map_eq_some_iff] at hfollow
  obtain ⟨p, hinit, hplace⟩ := hfollow
  obtain ⟨rfl, hlast⟩ := List.append_inj' hplace rfl
  obtain rfl : last = f.stem := by simpa using hlast
  have hne : specifier ≠ "" := by
    rintro rfl
    have hpieces : [""] = init ++ [f.stem] := hsplit
    have hstem : f.stem ∈ [""] := hpieces ▸ List.mem_append_right init (List.mem_singleton_self _)
    exact f.stem_notMem (List.mem_singleton.1 hstem ▸ List.mem_cons_self)
  rw [startsWith_append hne] at hdot
  refine ⟨⟨hdot, ?_⟩, ?_⟩
  · rw [hsplit, follow_concat here init f.stem_notMem, hinit, Option.map_some]
  · rw [hsplit, List.getLast?_concat]

/-- **Every specifier that names a file leads to a place with the module name of the file.** -/
theorem placeName_of_namedFrom {here : List String} {specifier : String} (h : f.NamedFrom here specifier)
    (root : Path) : ∃ target, Leads specifier here target ∧ (∀ name ∈ target, IsEntry name) ∧
      placeName root target = moduleName (Text.join "/" f.location) root := by
  cases h with
  | whole h => exact ⟨_, h, f.entries, if_neg (by simp [location])⟩
  | bare h hbare =>
    obtain ⟨hleads, hlast⟩ := leads_of_append h
    have hpiece : (Text.split '/' (Text.join "/" (f.directory ++ [f.stem]))).getLast? = some f.stem := by
      rw [split_join_entries (by simp) f.entry_stem, List.getLast?_concat]
    rw [isBare_iff_of_getLast? hlast, ← isBare_iff_of_getLast? hpiece] at hbare
    refine ⟨_, hleads, f.entry_stem, ?_⟩
    rw [moduleName_location, placeName, if_neg (by simp), moduleName, withoutExtension_of_bare hbare]
  | index hstem h hlooks =>
    refine ⟨_, h, f.entry_directory, ?_⟩
    rw [moduleName_location, hstem, withoutIndex_join_index]
    unfold placeName
    by_cases hempty : f.directory = []
    · rw [hempty]
      rfl
    · rw [if_neg hempty, moduleName, withoutExtension_of_bare hlooks.1, withoutIndex_eq_self hlooks.2]

/-- **Specifiers and modules agree**: from any directory, every specifier that names a file is resolved to the module of
    the file, and the relative path to any place is a specifier that leads there. -/
theorem resolves_namedFrom (f : ModuleFile) (root : Path) {here : List String} (importer : String)
    (hhere : ∀ name ∈ here, IsEntry name) : ∃ name, modulePath (f.path root) root = .ok name ∧
      (∀ specifier, f.NamedFrom here specifier →
        resolveSpecifier specifier { root with parts := root.parts ++ (here ++ [importer]) } root = .ok name) ∧
      ∀ target, (∀ entry ∈ target, IsEntry entry) → Leads (relative here target) here target := by
  have hmodule : modulePath (f.path root) root = .ok (moduleName (Text.join "/" f.location) root) :=
    modulePath_of_entries root (by simp [location]) f.entries
  refine ⟨_, hmodule, fun specifier h => ?_, fun target htarget => leads_relative here htarget⟩
  obtain ⟨target, hleads, htarget, hname⟩ := placeName_of_namedFrom h root
  rw [resolveSpecifier_of_leads root importer hhere htarget hleads, hname]

/-- The index of a directory. -/
def libraryIndex : ModuleFile := ⟨["lib"], "index", ".ts", by decide, by decide, by decide +kernel⟩

/-- It is named by its directory, which is reached by a detour. -/
theorem resolves_libraryIndex : (∀ name ∈ ["a", "b"], IsEntry name) ∧
    libraryIndex.NamedFrom ["a", "b"] "../../lib//x/./.." ∧
      modulePath (libraryIndex.path ⟨"/", ["src"]⟩) ⟨"/", ["src"]⟩ = .ok "lib" ∧
      resolveSpecifier "../../lib//x/./.." ⟨"/", ["src", "a", "b", "c.ts"]⟩ ⟨"/", ["src"]⟩ = .ok "lib" := by
  have hhere : ∀ name ∈ ["a", "b"], IsEntry name := by decide +kernel
  have hnamed : libraryIndex.NamedFrom ["a", "b"] "../../lib//x/./.." :=
    .index rfl (by decide +kernel) (by decide +kernel)
  have hmodule : modulePath (libraryIndex.path ⟨"/", ["src"]⟩) ⟨"/", ["src"]⟩ = .ok "lib" := by decide +kernel
  obtain ⟨name, hname, hresolves, -⟩ := resolves_namedFrom libraryIndex ⟨"/", ["src"]⟩ "c.ts" hhere
  obtain rfl : name = "lib" := Except.ok.inj (hname.symm.trans hmodule)
  exact ⟨hhere, hnamed, hmodule, hresolves _ hnamed⟩

/-- The index of a directory that looks like an index itself. -/
def indexOfIndex : ModuleFile := ⟨["index"], "index", ".ts", by decide, by decide, by decide +kernel⟩

/-- **The looks of the specifier do not decide**: two dots look like a directory, and what they lead to may not. -/
theorem not_resolves_indexOfIndex : ¬ ∀ (f : ModuleFile) (root : Path) (here : List String) (importer : String),
    (∀ name ∈ here, IsEntry name) → f.stem = "index" → LooksLikeDirectory (relative here f.directory) →
      resolveSpecifier (relative here f.directory) { root with parts := root.parts ++ (here ++ [importer]) } root =
        modulePath (f.path root) root := by
  intro h
  have hhere : ∀ name ∈ ["index", "a"], IsEntry name := by decide +kernel
  have hmodule : modulePath (indexOfIndex.path ⟨"/", ["src"]⟩) ⟨"/", ["src"]⟩ = .ok "index" := by decide +kernel
  have hrelative : relative ["index", "a"] indexOfIndex.directory = ".." := rfl
  have hclaimed := h indexOfIndex ⟨"/", ["src"]⟩ ["index", "a"] "b.ts" hhere rfl
  rw [hrelative, hmodule] at hclaimed
  have hresolved := resolveSpecifier_of_leads ⟨"/", ["src"]⟩ "b.ts" hhere indexOfIndex.entry_directory
    (leads_relative ["index", "a"] indexOfIndex.entry_directory)
  have hname : placeName ⟨"/", ["src"]⟩ indexOfIndex.directory = "src" := by decide +kernel
  rw [hrelative, hname] at hresolved
  exact absurd (Except.ok.inj (hresolved.symm.trans (hclaimed (by decide +kernel)))) (by decide)

end ModuleFile

end Script

end CodeAtlas
