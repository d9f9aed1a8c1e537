import CodeAtlas.Text.Blank
/-!
  Cutting and joining texts.

  Qualified names are cut at dots, paths at slashes, comments at line ends.  Everything is a function on
  `List Char`, where induction on the text is at hand, with a wrapper on `String` under the same name.

  The two cuts that matter are dual: `cutFirst?` takes the leftmost occurrence of a separator and
  `cutLast?` the rightmost one.
-/
namespace CodeAtlas.Text

namespace Chars

/-- What stands before and after the first `c`. -/
def cutFirst? (c : Char) : List Char → Option (List Char × List Char)
  | [] => none
  | d :: rest =>
    if d = c then some ([], rest)
    else (cutFirst? c rest).map fun (a, b) => (d :: a, b)

/-- The first cut is the one that is seen. -/
theorem cutFirst?_append_cons {c : Char} {a : List Char} (h : c ∉ a) (b : List Char) :
    cutFirst? c (a ++ c :: b) = some (a, b) := by
  induction a with
  | nil => simp [cutFirst?]
  | cons d rest ih =>
    rw [List.mem_cons, not_or] at h
    simp [cutFirst?, Ne.symm h.1, ih h.2]

/-- Without the separator there is nothing to cut. -/
theorem cutFirst?_eq_none {c : Char} {a : List Char} (h : c ∉ a) : cutFirst? c a = none := by
  induction a with
  | nil => rfl
  | cons d rest ih =>
    rw [List.mem_cons, not_or] at h
    simp [cutFirst?, ih h.2, Ne.symm h.1]

/-- What stands before and after the last `c`. -/
def cutLast? (c : Char) : List Char → Option (List Char × List Char)
  | [] => none
  | d :: rest =>
    match cutLast? c rest with
    | some (a, b) => some (d :: a, b)
    | none => if d = c then some ([], rest) else none

theorem cutLast?_eq_none {c : Char} {a : List Char} (h : c ∉ a) : cutLast? c a = none := by
  induction a with
  | nil => rfl
  | cons d rest ih =>
    rw [List.mem_cons, not_or] at h
    simp [cutLast?, ih h.2, Ne.symm h.1]

/-- So is the last one. -/
theorem cutLast?_append_cons {c : Char} (a : List Char) {b : List Char} (h : c ∉ b) :
    cutLast? c (a ++ c :: b) = some (a, b) := by
  induction a with
  | nil => simp [cutLast?, cutLast?_eq_none h]
  | cons d rest ih => simp [cutLast?, ih]

/-- What is cut is put together again. -/
theorem eq_of_cutLast? {c : Char} {s a b : List Char} (h : cutLast? c s = some (a, b)) : s = a ++ c :: b := by
  induction s generalizing a with
  | nil => nomatch h
  | cons d rest ih =>
    rw [cutLast?] at h
    split at h
    · next a' b' hrest =>
      cases h
      rw [ih hrest]
      rfl
    · split at h
      · next hd =>
        cases h
        rw [hd]
        rfl
      · nomatch h

theorem not_mem_of_cutLast?_eq_none {c : Char} {s : List Char} (h : cutLast? c s = none) : c ∉ s := by
  induction s with
  | nil => exact List.not_mem_nil
  | cons d rest ih =>
    rw [cutLast?] at h
    split at h
    · cases h
    · next hrest =>
      split at h
      · cases h
      · next hd => exact List.not_mem_cons_of_ne_of_not_mem (Ne.symm hd) (ih hrest)

/-- Behind the last one there is no other one. -/
theorem not_mem_of_cutLast?_eq_some {c : Char} {s a b : List Char} (h : cutLast? c s = some (a, b)) : c ∉ b := by
  induction s generalizing a with
  | nil => cases h
  | cons d rest ih =>
    rw [cutLast?] at h
    split at h
    · next a' b' hrest =>
      cases h
      exact ih hrest
    · next hrest =>
      split at h
      · cases h
        exact not_mem_of_cutLast?_eq_none hrest
      · cases h

/-- What stands after the rightmost occurrence of `sep`. -/
def afterLast? (sep : List Char) : List Char → Option (List Char)
  | [] => none
  | d :: rest =>
    match afterLast? sep rest with
    | some b => some b
    | none => if sep.isPrefixOf (d :: rest) then some ((d :: rest).drop sep.length) else none

/-- The pieces between the occurrences of `c`; there is always one more piece than there are `c`s. -/
def split (c : Char) : List Char → List (List Char)
  | [] => [[]]
  | d :: rest =>
    match split c rest with
    | [] => [[d]]
    | p :: ps => if d = c then [] :: p :: ps else (d :: p) :: ps

/-- There is always a last piece, be it empty. -/
theorem split_ne_nil (c : Char) (s : List Char) : split c s ≠ [] := by
  cases s with
  | nil => exact List.cons_ne_nil _ _
  | cons d rest =>
    rw [split]
    split
    · exact List.cons_ne_nil _ _
    · split <;> exact List.cons_ne_nil _ _

theorem split_of_not_mem {c : Char} {s : List Char} (h : c ∉ s) : split c s = [s] := by
  induction s with
  | nil => rfl
  | cons d rest ih =>
    rw [List.mem_cons, not_or] at h
    rw [split, ih h.2]
    exact if_neg (Ne.symm h.1)

/-- A last part without a separator is the last piece. -/
theorem split_append_cons {c : Char} (a : List Char) {b : List Char} (h : c ∉ b) :
    split c (a ++ c :: b) = split c a ++ [b] := by
  induction a with
  | nil =>
    have hb := split_of_not_mem h
    simp [split, hb]
  | cons d rest ih =>
    rw [List.cons_append, split, ih, split]
    cases hpieces : split c rest with
    | nil => exact absurd hpieces (split_ne_nil c rest)
    | cons p ps =>
      show (if d = c then _ else _) = (if d = c then _ else _) ++ [b]
      split <;> rfl

/-- A first part without a separator is the first piece. -/
theorem split_cons_append {c : Char} {a : List Char} (h : c ∉ a) (b : List Char) :
    split c (a ++ c :: b) = a :: split c b := by
  induction a with
  | nil =>
    rw [List.nil_append, split]
    cases hpieces : split c b with
    | nil => exact absurd hpieces (split_ne_nil c b)
    | cons p ps => exact if_pos rfl
  | cons d rest ih =>
    rw [List.mem_cons, not_or] at h
    rw [List.cons_append, split, ih h.2]
    exact if_neg (Ne.symm h.1)

/-- Whether `piece` occurs somewhere in the text. -/
def contains (piece : List Char) : List Char → Bool
  | [] => piece.isEmpty
  | d :: rest => piece.isPrefixOf (d :: rest) || contains piece rest

/-- A piece of one character occurs where the character does. -/
theorem contains_singleton (c : Char) (s : List Char) : contains [c] s = s.contains c := by
  induction s with
  | nil => rfl
  | cons d rest ih => rw [contains, ih, List.contains_cons, List.isPrefixOf, List.isPrefixOf, Bool.and_true]

end Chars

/-- What stands before and after the first `c`. -/
def cutFirst? (c : Char) (s : String) : Option (String × String) :=
  (Chars.cutFirst? c s.toList).map fun (a, b) => (String.ofList a, String.ofList b)

/-- What stands before and after the last `c`. -/
def cutLast? (c : Char) (s : String) : Option (String × String) :=
  (Chars.cutLast? c s.toList).map fun (a, b) => (String.ofList a, String.ofList b)

/-- The part after the last `c`, or all of a text without `c`. -/
def afterLast (c : Char) (s : String) : String :=
  match cutLast? c s with
  | some (_, b) => b
  | none => s

/-- The part before the last `c`, or all of a text without `c`. -/
def beforeLast (c : Char) (s : String) : String :=
  match cutLast? c s with
  | some (a, _) => a
  | none => s

/-- What was put in front of a last part is found again. -/
theorem beforeLast_append (outer : String) {name : String} (h : '.' ∉ name.toList) :
    beforeLast '.' (outer ++ "." ++ name) = outer := by
  have hlist : (outer ++ "." ++ name).toList = outer.toList ++ '.' :: name.toList := by simp
  unfold beforeLast cutLast?
  rw [hlist, Chars.cutLast?_append_cons outer.toList h]
  exact String.ofList_toList

/-- And so is the last part. -/
theorem afterLast_append (outer : String) {name : String} (h : '.' ∉ name.toList) :
    afterLast '.' (outer ++ "." ++ name) = name := by
  have hlist : (outer ++ "." ++ name).toList = outer.toList ++ '.' :: name.toList := by simp
  unfold afterLast cutLast?
  rw [hlist, Chars.cutLast?_append_cons outer.toList h]
  exact String.ofList_toList

/-- A name without a dot is its own last part. -/
theorem afterLast_eq_self {name : String} (h : '.' ∉ name.toList) : afterLast '.' name = name := by
  unfold afterLast cutLast?
  rw [Chars.cutLast?_eq_none h]
  rfl

/-- The part before the first `c`, or all of a text without `c`. -/
def beforeFirst (c : Char) (s : String) : String :=
  match cutFirst? c s with
  | some (a, _) => a
  | none => s

/-- The part after the last occurrence of a separator text, or all of a text without it. -/
def afterLastText (sep s : String) : String :=
  match Chars.afterLast? sep.toList s.toList with
  | some b => String.ofList b
  | none => s

/-- The pieces between the occurrences of `c`. -/
def split (c : Char) (s : String) : List String :=
  (Chars.split c s.toList).map String.ofList

/-- Whether a character occurs in a text. -/
def hasChar (c : Char) (s : String) : Bool := s.toList.contains c

/-- Asking a text for a character is asking its characters. -/
theorem hasChar_iff {c : Char} {s : String} : hasChar c s = true ↔ c ∈ s.toList := by
  rw [hasChar, List.contains_iff_mem]

/-- Whether one text occurs inside another one. -/
def hasPiece (piece s : String) : Bool := Chars.contains piece.toList s.toList

/-- Whether a text starts with another one. -/
def startsWith (start s : String) : Bool := start.toList.isPrefixOf s.toList

/-- Whether a text ends with another one. -/
def endsWith (ending s : String) : Bool := ending.toList.isSuffixOf s.toList

/-- A text ends with another one if this is a suffix of it. -/
theorem endsWith_iff {s e : String} : endsWith e s = true ↔ e.toList <:+ s.toList := by
  rw [endsWith, List.isSuffixOf_iff_suffix]

/-- A name that does not end in a dot has something after its last one. -/
theorem afterLast_ne_empty {name : String} (hname : name ≠ "") (hend : endsWith "." name = false) :
    afterLast '.' name ≠ "" := by
  intro hempty
  unfold afterLast cutLast? at hempty
  cases hcut : Chars.cutLast? '.' name.toList with
  | none =>
    rw [hcut] at hempty
    exact hname hempty
  | some cut =>
    obtain ⟨before, after⟩ := cut
    rw [hcut] at hempty
    have hafter : after = [] := by
      have hlist := congrArg String.toList (show String.ofList after = "" from hempty)
      rwa [String.toList_ofList] at hlist
    have hdot : endsWith "." name = true := by
      rw [endsWith_iff, Chars.eq_of_cutLast? hcut, hafter]
      exact List.suffix_append before _
    rw [hend] at hdot
    nomatch hdot

/-- A text without its first `n` characters. -/
def dropFirst (n : Nat) (s : String) : String := String.ofList (s.toList.drop n)

/-- A text without its last `n` characters. -/
def dropLast (n : Nat) (s : String) : String := String.ofList (s.toList.take (s.toList.length - n))

/-- The rest of a text that starts with `start`. -/
def afterStart? (start s : String) : Option String :=
  if startsWith start s then some (dropFirst start.toList.length s) else none

/-- What is left behind a start is all that is there besides. -/
theorem afterStart?_eq_some_iff {start s rest : String} : afterStart? start s = some rest ↔ s = start ++ rest := by
  unfold afterStart? startsWith dropFirst
  simp only [List.isPrefixOf_iff_prefix]
  constructor
  · intro h
    obtain ⟨⟨after, hafter⟩, h⟩ := Option.ite_none_right_eq_some.1 h
    rw [← hafter, List.drop_left, Option.some.injEq] at h
    rw [← String.toList_inj, ← hafter, String.toList_append, ← h, String.toList_ofList]
  · rintro rfl
    simp

/-- The rest of a text that ends with `ending`. -/
def beforeEnd? (ending s : String) : Option String :=
  if endsWith ending s then some (dropLast ending.toList.length s) else none

/-- The texts one after the other with a separator between them. -/
def join (sep : String) : List String → String
  | [] => ""
  | [s] => s
  | s :: rest => s ++ sep ++ join sep rest

/-- A text without a separator is its only piece. -/
theorem split_of_not_mem {c : Char} {s : String} (h : c ∉ s.toList) : split c s = [s] := by
  rw [split, Chars.split_of_not_mem h, List.map_singleton, String.ofList_toList]

/-- The last piece of a text is what stands behind its last separator. -/
theorem split_append {c : Char} (a : String) {b : String} (h : c ∉ b.toList) :
    split c (a ++ String.singleton c ++ b) = split c a ++ [b] := by
  have hlist : (a ++ String.singleton c ++ b).toList = a.toList ++ c :: b.toList := by simp
  rw [split, hlist, Chars.split_append_cons _ h, List.map_append, List.map_singleton, String.ofList_toList, split]

theorem not_mem_of_cutLast?_eq_none {c : Char} {s : String} (h : cutLast? c s = none) : c ∉ s.toList :=
  Chars.not_mem_of_cutLast?_eq_none (Option.map_eq_none_iff.1 h)

theorem split_eq_of_cutLast?_eq_none {c : Char} {s : String} (h : cutLast? c s = none) : split c s = [s] :=
  split_of_not_mem (not_mem_of_cutLast?_eq_none h)

/-- A cut at the last separator, with the pieces on both sides of it. -/
theorem cutLast?_eq_some {c : Char} {s before last : String} (h : cutLast? c s = some (before, last)) :
    s.toList = before.toList ++ c :: last.toList ∧ split c s = split c before ++ [last] := by
  obtain ⟨⟨a, b⟩, hcut, hparts⟩ := Option.map_eq_some_iff.1 h
  obtain ⟨rfl, rfl⟩ := Prod.mk.inj hparts
  have hs := Chars.eq_of_cutLast? hcut
  rw [String.toList_ofList, String.toList_ofList]
  refine ⟨hs, ?_⟩
  rw [split, split, String.toList_ofList, hs, Chars.split_append_cons a (Chars.not_mem_of_cutLast?_eq_some hcut),
    List.map_append, List.map_singleton]

theorem not_mem_of_cutLast?_eq_some {c : Char} {s before last : String} (h : cutLast? c s = some (before, last)) :
    c ∉ last.toList := by
  obtain ⟨⟨a, b⟩, hcut, hparts⟩ := Option.map_eq_some_iff.1 h
  obtain ⟨rfl, rfl⟩ := Prod.mk.inj hparts
  rw [String.toList_ofList]
  exact Chars.not_mem_of_cutLast?_eq_some hcut

theorem length_lt_of_cutLast? {c : Char} {s before last : String} (h : cutLast? c s = some (before, last)) :
    before.length < s.length := by
  have hs := congrArg List.length (cutLast?_eq_some h).1
  rw [List.length_append, List.length_cons, String.length_toList, String.length_toList] at hs
  omega

theorem join_append_singleton (sep : String) {pieces : List String} (h : pieces ≠ []) (last : String) :
    join sep (pieces ++ [last]) = join sep pieces ++ sep ++ last := by
  induction pieces with
  | nil => exact absurd rfl h
  | cons p rest ih =>
    cases rest with
    | nil => rfl
    | cons q others =>
      have hrest := ih (List.cons_ne_nil q others)
      show p ++ sep ++ join sep (q :: others ++ [last]) = p ++ sep ++ join sep (q :: others) ++ sep ++ last
      rw [hrest]
      simp only [String.append_assoc]

/-- Pieces that are joined already are joined with others as if they were apart. -/
theorem join_append_join (sep : String) (before : List String) {pieces : List String} (h : pieces ≠ []) :
    join sep (before ++ [join sep pieces]) = join sep (before ++ pieces) := by
  induction before with
  | nil => rfl
  | cons first rest ih =>
    have hcons {last : List String} (hlast : last ≠ []) :
        join sep (first :: (rest ++ last)) = first ++ sep ++ join sep (rest ++ last) := by
      obtain ⟨p, ps, hp⟩ := List.exists_cons_of_ne_nil (List.append_ne_nil_of_right_ne_nil rest hlast)
      rw [hp, join]
      exact List.cons_ne_nil p ps
    rw [List.cons_append, List.cons_append, hcons (List.cons_ne_nil _ _), hcons h, ih]

/-- A first piece that is not empty is seen in the whole. -/
theorem join_ne_empty (sep : String) {first : String} (h : first ≠ "") (rest : List String) :
    join sep (first :: rest) ≠ "" := by
  cases rest with
  | nil => exact h
  | cons second others =>
    intro hempty
    have hlength := congrArg String.length hempty
    rw [join, String.length_append, String.length_append] at hlength
    · exact h (String.length_eq_zero_iff.1 (by rw [String.length_empty] at hlength; omega))
    · exact List.cons_ne_nil second others

/-- The pieces of a text are joined to the text. -/
theorem join_split (c : Char) (s : String) : join (String.singleton c) (split c s) = s := by
  cases hcut : cutLast? c s with
  | none =>
    rw [split_eq_of_cutLast?_eq_none hcut]
    rfl
  | some parts =>
    obtain ⟨before, last⟩ := parts
    obtain ⟨hs, hsplit⟩ := cutLast?_eq_some hcut
    have hshorter := length_lt_of_cutLast? hcut
    have hne : split c before ≠ [] := fun h => Chars.split_ne_nil _ _ (List.map_eq_nil_iff.1 h)
    rw [hsplit, join_append_singleton _ hne, join_split c before]
    exact String.toList_inj.1 (by simp [hs])
termination_by s.length

/-- There is no separator in a piece. -/
theorem not_mem_of_mem_split {c : Char} {s piece : String} (h : piece ∈ split c s) : c ∉ piece.toList := by
  cases hcut : cutLast? c s with
  | none =>
    rw [split_eq_of_cutLast?_eq_none hcut, List.mem_singleton] at h
    exact h ▸ not_mem_of_cutLast?_eq_none hcut
  | some parts =>
    obtain ⟨before, last⟩ := parts
    have hshorter := length_lt_of_cutLast? hcut
    rw [(cutLast?_eq_some hcut).2, List.mem_append, List.mem_singleton] at h
    rcases h with h | rfl
    · exact not_mem_of_mem_split h
    · exact not_mem_of_cutLast?_eq_some hcut
termination_by s.length

/-- Pieces without the separator are found again. -/
theorem split_join {c : Char} {pieces : List String} (hne : pieces ≠ []) (h : ∀ p ∈ pieces, c ∉ p.toList) :
    split c (join (String.singleton c) pieces) = pieces := by
  induction pieces with
  | nil => exact absurd rfl hne
  | cons p rest ih =>
    have hp := h p List.mem_cons_self
    cases rest with
    | nil => exact split_of_not_mem hp
    | cons q others =>
      have hlist : (join (String.singleton c) (p :: q :: others)).toList =
          p.toList ++ c :: (join (String.singleton c) (q :: others)).toList := by simp [join]
      have hrest := ih (List.cons_ne_nil q others) fun r hr => h r (List.mem_cons_of_mem p hr)
      rw [split] at hrest
      rw [split, hlist, Chars.split_cons_append hp, List.map_cons, String.ofList_toList, hrest]

/-! ## The end of a text -/

/-- What is put at the end is put at the end of the last piece. -/
theorem exists_split_append (c : Char) (s : String) {e : String} (he : c ∉ e.toList) :
    ∃ init last, split c s = init ++ [last] ∧ split c (s ++ e) = init ++ [last ++ e] := by
  have happend : ∀ t : String, c ∉ t.toList → c ∉ (t ++ e).toList := by
    intro t ht
    rw [String.toList_append, List.mem_append, not_or]
    exact ⟨ht, he⟩
  cases hcut : cutLast? c s with
  | none =>
    have hs := not_mem_of_cutLast?_eq_none hcut
    exact ⟨[], s, split_of_not_mem hs, split_of_not_mem (happend s hs)⟩
  | some parts =>
    obtain ⟨before, last⟩ := parts
    obtain ⟨hs, hsplit⟩ := cutLast?_eq_some hcut
    have hboth : s ++ e = before ++ String.singleton c ++ (last ++ e) := String.toList_inj.1 (by simp [hs])
    rw [hboth]
    exact ⟨split c before, last, hsplit, split_append before (happend last (not_mem_of_cutLast?_eq_some hcut))⟩

/-- Whether a text ends in something without separators is seen at its last piece. -/
theorem endsWith_eq_of_getLast? {c : Char} {s piece e : String} (he : c ∉ e.toList)
    (h : (split c s).getLast? = some piece) : endsWith e s = endsWith e piece := by
  cases hcut : cutLast? c s with
  | none =>
    rw [split_eq_of_cutLast?_eq_none hcut, List.getLast?_singleton] at h
    rw [Option.some.inj h]
  | some parts =>
    obtain ⟨before, last⟩ := parts
    obtain ⟨hs, hsplit⟩ := cutLast?_eq_some hcut
    rw [hsplit, List.getLast?_concat] at h
    obtain rfl := Option.some.inj h
    rw [Bool.eq_iff_iff, endsWith_iff, endsWith_iff, hs]
    constructor
    · intro hend
      -- What is longer than the last piece has a separator.
      rcases List.suffix_or_suffix_of_suffix hend (List.suffix_append before.toList (c :: last.toList)) with hin | hin
      · rcases List.suffix_cons_iff.1 hin with heq | hin
        · exact absurd (heq ▸ List.mem_cons_self) he
        · exact hin
      · exact absurd (hin.subset List.mem_cons_self) he
    · intro hend
      exact hend.trans ((List.suffix_cons c last.toList).trans (List.suffix_append _ _))

/-- What ends in a separator and a piece has this last piece. -/
theorem getLast?_split_of_endsWith {c : Char} {s piece : String} (hpiece : c ∉ piece.toList)
    (h : endsWith (String.singleton c ++ piece) s = true) : (split c s).getLast? = some piece := by
  obtain ⟨before, hbefore⟩ := endsWith_iff.1 h
  rw [split, ← hbefore]
  simp [Chars.split_append_cons _ hpiece]

theorem endsWith_append (t e : String) : endsWith e (t ++ e) = true := by
  rw [endsWith_iff, String.toList_append]
  exact List.suffix_append _ _

/-- What is put behind a text can be taken away. -/
theorem beforeEnd?_append (t e : String) : beforeEnd? e (t ++ e) = some t := by
  unfold beforeEnd? dropLast
  rw [if_pos (endsWith_append t e)]
  simp

/-- It fails only where the text does not end so. -/
theorem beforeEnd?_eq_none_iff {t e : String} : beforeEnd? e t = none ↔ endsWith e t = false := by
  unfold beforeEnd?
  split <;> simp_all

theorem endsWith_of_beforeEnd? {s t e : String} (h : beforeEnd? e t = some s) : endsWith e t = true := by
  rw [← Bool.not_eq_false, ← beforeEnd?_eq_none_iff, h]
  exact Option.some_ne_none s

/-- One character for every occurrence of another one. -/
def replaceChar (a b : Char) (s : String) : String :=
  String.ofList (s.toList.map fun c => if c = a then b else c)

/-- The order of texts by code points, as a total comparison. -/
def le (a b : String) : Bool := !decide (b < a)

/-- The texts in order of code points; equal ones keep their places. -/
def sort (texts : List String) : List String := texts.mergeSort le

example : cutLast? '.' "a.b.c" = some ("a.b", "c") ∧ cutFirst? '.' "a.b.c" = some ("a", "b.c") := by
  decide +kernel
example : split '/' "a//b" = ["a", "", "b"] ∧ split '/' "" = [""] := by decide +kernel
example : afterLastText "::" "a:::b" = "b" ∧ beforeLast '.' "ab" = "ab" := by decide +kernel

end CodeAtlas.Text
