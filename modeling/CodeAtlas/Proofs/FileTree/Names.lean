import CodeAtlas.FileTree.Name
/-!
  Paths that can be followed, name by name.

  Whether a path has bytes, and how many, is asked of its text as a whole.  A text in front of another one could
  end in a mark, which takes the next character with it.  But a slash behind a mark would be the null character.  So
  if a path has bytes, its names have bytes of their own, and the path has theirs and those of the slashes.

  1. **Texts** (`Closed`): a text that nothing after it can change stands for its own code points.  Texts without marks
     are closed, and so is each text in front of a slash in a path that has bytes (`closed_of_next`).
  2. **Sizes** (`weight`): the bytes of the code points are added up, with one for each slash.
  3. **Paths**: what can be followed is stated of the names one by one, so that the way to a place in the tree can be
     taken by induction on them.
-/
namespace CodeAtlas

namespace Text

/-! ## Texts one after the other -/

/-- What was collected before stays in front.  A mark takes two characters, so the induction is on the equations of the
    function and not on the list. -/
theorem codePointsOnto_eq_append : ∀ (acc : List Nat) (cs : List Char),
    codePointsOnto acc cs = acc.reverse ++ codePointsOnto [] cs
  | acc, [] => by simp [codePointsOnto]
  | acc, [c] => by simp [codePointsOnto]
  | acc, c :: d :: rest => by
    rw [codePointsOnto, codePointsOnto]
    split
    · rw [codePointsOnto_eq_append (_ :: acc) rest, codePointsOnto_eq_append [_] rest]
      simp
    · rw [codePointsOnto_eq_append (_ :: acc) (d :: rest), codePointsOnto_eq_append [_] (d :: rest)]
      simp

theorem codePoints_nil : codePoints [] = [] := rfl

/-- A character other than a mark stands for itself. -/
theorem codePoints_cons {c : Char} (h : c ≠ mark) (cs : List Char) :
    codePoints (c :: cs) = c.toNat :: codePoints cs := by
  cases cs with
  | nil => rfl
  | cons d rest =>
    unfold codePoints
    rw [codePointsOnto, if_neg h]
    exact codePointsOnto_eq_append [c.toNat] (d :: rest)

/-- A mark and the character behind it stand for one code point together. -/
theorem codePoints_mark_cons (d : Char) (cs : List Char) :
    codePoints (mark :: d :: cs) = (if d = mark then mark.toNat else d.toNat - halfOffset) :: codePoints cs := by
  unfold codePoints
  rw [codePointsOnto, if_pos rfl]
  exact codePointsOnto_eq_append [_] cs

/-- A text stands for the same, whatever comes after it. -/
def Closed (a : List Char) : Prop := ∀ b, codePoints (a ++ b) = codePoints a ++ codePoints b

/-- Without marks every character stands for itself. -/
theorem codePoints_eq_map {a : List Char} (h : mark ∉ a) (b : List Char) :
    codePoints (a ++ b) = a.map Char.toNat ++ codePoints b := by
  induction a with
  | nil => rfl
  | cons c rest ih =>
    rw [List.cons_append, codePoints_cons (List.ne_of_not_mem_cons h).symm, ih (List.not_mem_of_not_mem_cons h),
      List.map_cons, List.cons_append]

/-- So it is to the end of the text. -/
theorem codePoints_eq_map_toNat {a : List Char} (h : mark ∉ a) : codePoints a = a.map Char.toNat := by
  have hboth := codePoints_eq_map h []
  rwa [List.append_nil, codePoints_nil, List.append_nil] at hboth

theorem closed_of_not_mem {a : List Char} (h : mark ∉ a) : Closed a := fun b => by
  rw [codePoints_eq_map h, codePoints_eq_map_toNat h]

/-- A mark at the end would make a null character of what comes next. -/
theorem closed_of_next {c : Char} (hc : c.toNat ≤ halfOffset) :
    ∀ {a b : List Char}, 0 ∉ codePoints (a ++ c :: b) → Closed a
  | [], _, _ => fun _ => rfl
  | [d], b, h => by
    by_cases hd : d = mark
    · subst hd
      have hother : c ≠ mark := by
        rintro rfl
        exact absurd hc (by decide)
      rw [List.singleton_append, codePoints_mark_cons, if_neg hother, Nat.sub_eq_zero_of_le hc] at h
      exact absurd List.mem_cons_self h
    · exact closed_of_not_mem (by simpa using Ne.symm hd)
  | d :: e :: rest, b, h => by
    by_cases hd : d = mark
    · subst hd
      rw [List.cons_append, List.cons_append, codePoints_mark_cons] at h
      have hrest := closed_of_next hc (List.not_mem_of_not_mem_cons h)
      intro b'
      rw [List.cons_append, List.cons_append, codePoints_mark_cons, codePoints_mark_cons, hrest, List.cons_append]
    · rw [List.cons_append, codePoints_cons hd] at h
      have hrest := closed_of_next hc (List.not_mem_of_not_mem_cons h)
      intro b'
      rw [List.cons_append, codePoints_cons hd, codePoints_cons hd, hrest, List.cons_append]

end Text

namespace Path

open Text

/-! ## The bytes of a path -/

/-- A code point that can be in a name. -/
def IsNamePoint (n : Nat) : Prop := n ≠ 0 ∧ (isHalf n && !isByteHalf n) = false

/-- A path has bytes exactly if each of its code points has. -/
theorem checkBytes_eq_ok_iff (p : Path) : p.checkBytes = .ok () ↔ ∀ n ∈ codePoints p.text.toList, IsNamePoint n := by
  unfold checkBytes
  simp only
  split
  · next hhalf =>
    obtain ⟨n, hn, hbad⟩ := List.any_eq_true.1 hhalf
    refine iff_of_false (fun h => nomatch h) fun h => ?_
    rw [(h n hn).2] at hbad
    nomatch hbad
  · next hhalf =>
    split
    · next hzero => exact iff_of_false (fun h => nomatch h) fun h => (h 0 (List.contains_iff_mem.1 hzero)).1 rfl
    · next hzero =>
      refine iff_of_true rfl fun n hn => ⟨?_, ?_⟩
      · rintro rfl
        exact hzero (List.contains_iff_mem.2 hn)
      · exact Bool.eq_false_iff.2 fun hbad => hhalf (List.any_eq_true.2 ⟨n, hn, hbad⟩)

/-- The number of bytes of some code points in names. -/
def pointsSize : List Nat → Nat
  | [] => 0
  | n :: ns => pointSize n + pointsSize ns

theorem pointsSize_append (ms ns : List Nat) : pointsSize (ms ++ ns) = pointsSize ms + pointsSize ns := by
  induction ms with
  | nil => exact (Nat.zero_add _).symm
  | cons m rest ih => rw [List.cons_append, pointsSize, pointsSize, ih, Nat.add_assoc]

/-- The size of a name is that of its code points. -/
theorem nameSize_eq (name : String) : nameSize name = pointsSize (codePoints name.toList) := by
  unfold nameSize
  induction codePoints name.toList with
  | nil => rfl
  | cons n rest ih => rw [List.foldr_cons, ih, pointsSize]

/-! ## The text of a path -/

/-- Names with a slash behind each of them. -/
def slashed (parts : List String) : List Char := parts.flatMap fun part => part.toList ++ ['/']

theorem slashed_cons (part : String) (parts : List String) :
    slashed (part :: parts) = part.toList ++ '/' :: slashed parts := by
  unfold slashed
  rw [List.flatMap_cons, List.append_assoc, List.singleton_append]

/-- The last name has no slash behind it. -/
theorem toList_join_concat (parts : List String) (name : String) :
    (Text.join "/" (parts ++ [name])).toList = slashed parts ++ name.toList := by
  induction parts with
  | nil => rfl
  | cons part rest ih =>
    have hjoin : Text.join "/" (part :: rest ++ [name]) = part ++ "/" ++ Text.join "/" (rest ++ [name]) := by
      cases rest <;> rfl
    rw [hjoin, String.toList_append, String.toList_append, ih, slashed_cons, List.append_assoc, List.append_assoc]
    rfl

/-- The text of a path to something in a directory. -/
theorem toList_text_child (p : Path) {name : String} (hname : name ≠ "") :
    (p.child name).text.toList = p.anchor.toList ++ slashed p.parts ++ name.toList := by
  have hlist : (p.anchor ++ Text.join "/" (p.parts ++ [name])).toList =
      p.anchor.toList ++ slashed p.parts ++ name.toList := by
    rw [String.toList_append, toList_join_concat, List.append_assoc]
  have hne : p.anchor ++ Text.join "/" (p.parts ++ [name]) ≠ "" := by
    intro heq
    rw [heq] at hlist
    obtain ⟨-, -, hnil⟩ : p.anchor = "" ∧ slashed p.parts = [] ∧ name = "" := by simpa using hlist.symm
    exact hname hnil
  have htext : (p.child name).text = p.anchor ++ Text.join "/" (p.parts ++ [name]) := if_neg hne
  rw [htext, hlist]

/-- The code points of some names and slashes. -/
def slashedPoints (parts : List String) : List Nat := parts.flatMap fun part => codePoints part.toList ++ ['/'.toNat]

/-- The first name and its slash, as code points. -/
theorem slashedPoints_cons (part : String) (parts : List String) :
    slashedPoints (part :: parts) = codePoints part.toList ++ '/'.toNat :: slashedPoints parts := by
  unfold slashedPoints
  rw [List.flatMap_cons, List.append_assoc, List.singleton_append]

theorem codePoints_slash (cs : List Char) : codePoints ('/' :: cs) = '/'.toNat :: codePoints cs :=
  codePoints_cons (by decide) cs

/-- In a text without null characters each name ends before its slash. -/
theorem closed_of_mem_slashed {parts : List String} {rest : List Char} (h : 0 ∉ codePoints (slashed parts ++ rest)) :
    ∀ part ∈ parts, Closed part.toList := by
  induction parts with
  | nil => exact fun _ h => nomatch h
  | cons part parts ih =>
    rw [slashed_cons, List.append_assoc, List.cons_append] at h
    have hclosed : Closed part.toList := closed_of_next (by decide) h
    rw [hclosed, codePoints_slash] at h
    refine List.forall_mem_cons.2 ⟨hclosed, ih fun hzero => h ?_⟩
    exact List.mem_append_right _ (List.mem_cons_of_mem _ hzero)

/-- If no name can take the slash behind it, they stand for their own code points. -/
theorem codePoints_slashed {parts : List String} (h : ∀ part ∈ parts, Closed part.toList) (rest : List Char) :
    codePoints (slashed parts ++ rest) = slashedPoints parts ++ codePoints rest := by
  induction parts with
  | nil => rfl
  | cons part parts ih =>
    obtain ⟨hpart, hparts⟩ := List.forall_mem_cons.1 h
    rw [slashed_cons, List.append_assoc, List.cons_append, hpart, codePoints_slash, ih hparts, slashedPoints_cons,
      List.append_assoc, List.cons_append]

/-! ## Paths that can be followed -/

/-- The size of some names with a slash behind each of them. -/
def weight : List String → Nat
  | [] => 0
  | part :: parts => nameSize part + 1 + weight parts

/-- One more name weighs its bytes and a slash. -/
theorem weight_concat (parts : List String) (last : String) :
    weight (parts ++ [last]) = weight parts + (nameSize last + 1) := by
  induction parts with
  | nil => exact (Nat.zero_add _).symm
  | cons part rest ih =>
    rw [List.cons_append, weight, weight, ih]
    omega

/-- The weight of names is the size of their text. -/
theorem pointsSize_slashedPoints (parts : List String) : pointsSize (slashedPoints parts) = weight parts := by
  induction parts with
  | nil => rfl
  | cons part rest ih =>
    have hslash : pointsSize ('/'.toNat :: slashedPoints rest) = 1 + pointsSize (slashedPoints rest) :=
      pointsSize_append ['/'.toNat] _
    rw [slashedPoints_cons, pointsSize_append, hslash, ih, ← nameSize_eq, weight, Nat.add_assoc]

/-- What can stand in front of the names. -/
def IsAnchor (anchor : String) : Prop := anchor = "" ∨ anchor = "/" ∨ anchor = "//"

/-- Whatever is read as a path has such an anchor. -/
theorem isAnchor_ofString (s : String) : IsAnchor (ofString s).anchor := by
  show IsAnchor (anchorOf _)
  unfold anchorOf
  split
  · exact .inl rfl
  · exact .inr (.inr rfl)
  · exact .inr (.inl rfl)

theorem IsAnchor.closed {anchor : String} (h : IsAnchor anchor) : Closed anchor.toList := by
  rcases h with rfl | rfl | rfl <;> exact closed_of_not_mem (by decide)

theorem IsAnchor.points {anchor : String} (h : IsAnchor anchor) : ∀ n ∈ codePoints anchor.toList, IsNamePoint n := by
  have hslash : IsNamePoint '/'.toNat := ⟨by decide, by decide⟩
  rcases h with rfl | rfl | rfl
  · exact fun n hn => nomatch hn
  · exact List.forall_mem_singleton.2 hslash
  · exact List.forall_mem_cons.2 ⟨hslash, List.forall_mem_singleton.2 hslash⟩

/-- An anchor and names that make a path with bytes, and not with too many. -/
structure Clean (p : Path) : Prop where
  anchor : IsAnchor p.anchor
  closed : ∀ part ∈ p.parts, Closed part.toList
  points : ∀ part ∈ p.parts, ∀ n ∈ codePoints part.toList, IsNamePoint n
  size : nameSize p.anchor + weight p.parts < sizeLimit

theorem weight_le_of_sublist {parts parts' : List String} (h : parts'.Sublist parts) :
    weight parts' ≤ weight parts := by
  induction h with
  | slnil => exact Nat.le_refl _
  | cons part _ ih => rw [weight]; omega
  | cons_cons part _ ih => rw [weight, weight]; omega

/-- A path that can be followed can be followed name by name. -/
theorem clean_of_child {p : Path} {name : String} (hanchor : IsAnchor p.anchor) (hname : name ≠ "")
    (hbytes : (p.child name).checkBytes = .ok ()) (hshort : (p.child name).isLong = false) :
    p.Clean ∧ nameSize p.anchor + weight p.parts + nameSize name < sizeLimit := by
  rw [checkBytes_eq_ok_iff, toList_text_child p hname, List.append_assoc, hanchor.closed] at hbytes
  have hzero : 0 ∉ codePoints (slashed p.parts ++ name.toList) := fun hzero =>
    (hbytes 0 (List.mem_append_right _ hzero)).1 rfl
  have hclosed := closed_of_mem_slashed hzero
  rw [codePoints_slashed hclosed] at hbytes
  rw [isLong, decide_eq_false_iff_not, Nat.not_le, nameSize_eq, toList_text_child p hname, List.append_assoc,
    hanchor.closed, codePoints_slashed hclosed, pointsSize_append, pointsSize_append, pointsSize_slashedPoints,
    ← nameSize_eq, ← nameSize_eq, ← Nat.add_assoc] at hshort
  refine ⟨⟨hanchor, hclosed, fun part hpart n hn => ?_, by omega⟩, hshort⟩
  refine hbytes n (List.mem_append_right _ (List.mem_append_left _ ?_))
  exact List.mem_flatMap.2 ⟨part, hpart, List.mem_append_left _ hn⟩

/-- The last name has no slash behind it. -/
theorem Clean.join {p : Path} (h : p.Clean) :
    (∀ n ∈ codePoints (Text.join "/" p.parts).toList, IsNamePoint n) ∧
      pointsSize (codePoints (Text.join "/" p.parts).toList) ≤ weight p.parts := by
  rcases List.eq_nil_or_concat p.parts with hnil | ⟨parts, last, hparts⟩
  · rw [hnil]
    exact ⟨fun n hn => (nomatch hn), Nat.zero_le _⟩
  · have hclosed := h.closed
    have hpoints := h.points
    rw [List.concat_eq_append] at hparts
    rw [hparts, List.forall_mem_append] at hclosed hpoints
    rw [hparts, toList_join_concat, codePoints_slashed hclosed.1, pointsSize_append, pointsSize_slashedPoints,
      ← nameSize_eq]
    constructor
    · intro n hn
      rcases List.mem_append.1 hn with hn | hn
      · obtain ⟨part, hpart, hn⟩ := List.mem_flatMap.1 hn
        rcases List.mem_append.1 hn with hn | hn
        · exact hpoints.1 part hpart n hn
        · rw [List.mem_singleton.1 hn]
          exact ⟨by decide, by decide⟩
      · exact hpoints.2 last (List.mem_singleton_self last) n hn
    · rw [weight_concat]
      omega

/-- The same the other way round. -/
theorem Clean.follows {p : Path} (h : p.Clean) : p.checkBytes = .ok () ∧ p.isLong = false := by
  have htext : p.text =
      (if p.anchor ++ Text.join "/" p.parts = "" then "." else p.anchor ++ Text.join "/" p.parts) := rfl
  rw [checkBytes_eq_ok_iff, isLong, decide_eq_false_iff_not, Nat.not_le, nameSize_eq, htext]
  split
  · exact ⟨List.forall_mem_singleton.2 ⟨by decide, by decide⟩, by decide⟩
  · obtain ⟨hpoints, hweight⟩ := h.join
    rw [String.toList_append, h.anchor.closed, pointsSize_append, ← nameSize_eq]
    refine ⟨List.forall_mem_append.2 ⟨h.anchor.points, hpoints⟩, ?_⟩
    have hsize := h.size
    omega

/-- A path of fewer names can be followed as well. -/
theorem Clean.of_sublist {p q : Path} (h : p.Clean) (hanchor : IsAnchor q.anchor) (hparts : q.parts.Sublist p.parts)
    (hsize : nameSize q.anchor + weight p.parts < sizeLimit) : q.Clean where
  anchor := hanchor
  closed part hpart := h.closed part (hparts.subset hpart)
  points part hpart := h.points part (hparts.subset hpart)
  size := by
    have hweight := weight_le_of_sublist hparts
    omega

/-! ## Names in one directory -/

/-- A name of characters that take one byte each. -/
def IsPlainName (name : String) : Prop := name ≠ "" ∧ ∀ c ∈ name.toList, c.toNat ≠ 0 ∧ c.toNat < 0x80

instance (name : String) : Decidable (IsPlainName name) :=
  have : Decidable (∀ c ∈ name.toList, c.toNat ≠ 0 ∧ c.toNat < 0x80) := List.decidableBAll _ _
  inferInstanceAs (Decidable (name ≠ "" ∧ _))

/-- If a path to one such name has bytes, a path to another one has. -/
theorem checkBytes_child_congr {p : Path} {name name' : String} (hname : IsPlainName name) (hname' : IsPlainName name')
    (h : (p.child name).checkBytes = .ok ()) : (p.child name').checkBytes = .ok () := by
  rw [checkBytes_eq_ok_iff, toList_text_child p hname.1] at h
  rw [checkBytes_eq_ok_iff, toList_text_child p hname'.1]
  have hfront : Closed (p.anchor.toList ++ slashed p.parts) := by
    cases hlist : name.toList with
    | nil => exact absurd (String.toList_eq_nil_iff.1 hlist) hname.1
    | cons c cs =>
      rw [hlist] at h
      have hc := (hname.2 c (by rw [hlist]; exact List.mem_cons_self)).2
      exact closed_of_next (by unfold halfOffset; omega) fun hzero => (h 0 hzero).1 rfl
  rw [hfront, List.forall_mem_append] at h ⊢
  have hmark : mark ∉ name'.toList := by
    intro hmem
    exact absurd (hname'.2 mark hmem).2 (by decide)
  refine ⟨h.1, fun n hn => ?_⟩
  rw [codePoints_eq_map_toNat hmark] at hn
  obtain ⟨c, hc, rfl⟩ := List.mem_map.1 hn
  obtain ⟨hzero, hsmall⟩ := hname'.2 c hc
  refine ⟨hzero, ?_⟩
  rw [Bool.and_eq_false_iff]
  left
  simp only [isHalf, Bool.and_eq_false_iff, decide_eq_false_iff_not]
  omega

end Path

end CodeAtlas
