import CodeAtlas.Proofs.Text.Trimming
import CodeAtlas.Source
import Mathlib.Data.List.Forall2
/-!
  What a documentation comment says.

  The text of a comment is told by its lines: each one is freed of the white space around it and of the star in front
  of it (`Freed`), and the lines are put together again (`Says`).  This takes away and adds nothing.  So what is said is
  part of what stands between the delimiters, and no delimiter comes about at the seams, where there are line feeds
  (`not_infix_join`).

  The two delimiters are looked for independently.  In the shortest of all comments they share a star, and then a
  slash is left that nobody has written as a text: `documents_iff` is about this exception.

  1. **Lines**: cutting a text at its line feeds and joining the pieces, and what can be found in a joined text.
  2. **The star in front of a line** (`BehindStar`): at most one star goes, and at most one space behind it.
  3. **What a comment says** (`Says`): a relation, so that it can be compared with what the program gives (`says_iff`)
     and with what stands in the comment (`Says.sublist`, `Says.lacks`).
-/
namespace CodeAtlas.Text

/-! ## Lines -/

/-- The lines of a text. -/
structure HasLines (text : String) (lines : List String) : Prop where
  ne_nil : lines ≠ []
  single : ∀ line ∈ lines, '\n' ∉ line.toList
  joined : join "\n" lines = text

/-- Cutting at line feeds gives the lines, and there is one way to do it. -/
theorem split_eq_iff {text : String} {lines : List String} : split '\n' text = lines ↔ HasLines text lines := by
  constructor
  · rintro rfl
    exact ⟨fun h => Chars.split_ne_nil _ _ (List.map_eq_nil_iff.1 h), fun _ => not_mem_of_mem_split,
      join_split '\n' text⟩
  · rintro ⟨hne, hsingle, rfl⟩
    exact split_join hne hsingle

/-- The characters of joined texts, piece by piece. -/
theorem toList_join_cons (sep : String) (first : String) {rest : List String} (h : rest ≠ []) :
    (join sep (first :: rest)).toList = first.toList ++ (sep.toList ++ (join sep rest).toList) := by
  rw [join, String.toList_append, String.toList_append, List.append_assoc]
  exact h

theorem infix_join {line : String} {lines : List String} (sep : String) (h : line ∈ lines) :
    line.toList <:+: (join sep lines).toList := by
  induction lines with
  | nil => nomatch h
  | cons first rest ih =>
    cases rest with
    | nil => exact List.mem_singleton.1 h ▸ List.infix_rfl
    | cons second others =>
      rw [toList_join_cons sep first (List.cons_ne_nil _ _)]
      rcases List.mem_cons.1 h with rfl | h
      · exact (List.prefix_append _ _).isInfix
      · exact (ih h).trans ((List.suffix_append _ _).trans (List.suffix_append _ _)).isInfix

/-- What begins before a character that it does not have ends there. -/
theorem eq_nil_of_prefix_cons {c : Char} {d rest : List Char} (hc : c ∉ d) (h : d <+: c :: rest) : d = [] := by
  rcases List.prefix_cons_iff.1 h with hnil | ⟨init, rfl, -⟩
  · exact hnil
  · exact absurd List.mem_cons_self hc

/-- What is somewhere in a text does not reach over a character that it does not have. -/
theorem infix_of_infix_append_cons {c : Char} {d before after : List Char} (hc : c ∉ d)
    (h : d <:+: before ++ c :: after) : d <:+: before ∨ d <:+: after := by
  rcases List.infix_append_iff.1 h with h | h | ⟨left, right, rfl, hleft, hright⟩
  · exact .inl h
  · rcases List.infix_cons_iff.1 h with h | h
    · rw [eq_nil_of_prefix_cons hc h]
      exact .inl ⟨[], before, rfl⟩
    · exact .inr h
  · rw [List.mem_append, not_or] at hc
    rw [eq_nil_of_prefix_cons hc.2 hright, List.append_nil]
    exact .inl hleft.isInfix

/-- What has no line feed and is in no line is not in the text. -/
theorem not_infix_join {d : List Char} {lines : List String} (hd : '\n' ∉ d) (hne : lines ≠ [])
    (h : ∀ line ∈ lines, ¬ d <:+: line.toList) : ¬ d <:+: (join "\n" lines).toList := by
  induction lines with
  | nil => exact absurd rfl hne
  | cons first rest ih =>
    cases rest with
    | nil => exact h first List.mem_cons_self
    | cons second others =>
      rw [toList_join_cons _ first (List.cons_ne_nil _ _)]
      intro hin
      rcases infix_of_infix_append_cons hd hin with hfirst | hrest
      · exact h first List.mem_cons_self hfirst
      · exact ih (List.cons_ne_nil _ _) (fun line hline => h line (List.mem_cons_of_mem first hline)) hrest

/-- Taking characters out of the pieces takes them out of the whole. -/
theorem sublist_join {lines freed : List String} (sep : String)
    (h : List.Forall₂ (fun line rest => rest.toList.Sublist line.toList) lines freed) :
    (join sep freed).toList.Sublist (join sep lines).toList := by
  induction h with
  | nil => exact List.Sublist.refl _
  | @cons line rest lines freed hline hlines ih =>
    cases hlines with
    | nil => exact hline
    | cons hsecond hothers =>
      rw [toList_join_cons sep line (List.cons_ne_nil _ _), toList_join_cons sep rest (List.cons_ne_nil _ _)]
      exact hline.append ((List.Sublist.refl _).append ih)

/-! ## The star in front of a line -/

/-- What stands behind the star that a line starts with, where one space does not count, or all of another line. -/
inductive BehindStar : List Char → List Char → Prop
  | starSpace (rest : List Char) : BehindStar ('*' :: ' ' :: rest) rest
  | star {rest : List Char} (h : rest.head? ≠ some ' ') : BehindStar ('*' :: rest) rest
  | plain {line : List Char} (h : line.head? ≠ some '*') : BehindStar line line

theorem BehindStar.unique {line rest rest' : List Char} (h : BehindStar line rest) (h' : BehindStar line rest') :
    rest = rest' := by
  cases h <;> cases h' <;> simp_all

/-- Something may be missing in front, and nothing else. -/
theorem BehindStar.suffix {line rest : List Char} (h : BehindStar line rest) : rest <:+ line := by
  cases h with
  | starSpace => exact (List.suffix_cons _ _).trans (List.suffix_cons _ _)
  | star => exact List.suffix_cons _ _
  | plain => exact List.suffix_rfl

/-- What a line of a comment says. -/
def Freed (line rest : String) : Prop := ∃ core, TrimsTo isBlank line.toList core ∧ BehindStar core rest.toList

/-- The program asks for a star with a space before it asks for a star alone, so the cases come in the same order. -/
theorem behindStar_withoutGutter (line : String) : BehindStar (trim line).toList (withoutGutter line).toList := by
  simp only [withoutGutter]
  generalize trim line = core
  cases hspace : afterStart? "* " core with
  | some rest =>
    obtain rfl := afterStart?_eq_some_iff.1 hspace
    rw [String.toList_append]
    exact .starSpace rest.toList
  | none =>
    cases hstar : afterStart? "*" core with
    | some rest =>
      obtain rfl := afterStart?_eq_some_iff.1 hstar
      rw [String.toList_append]
      refine .star fun hhead : rest.toList.head? = some ' ' => ?_
      obtain ⟨others, hothers⟩ := List.head?_eq_some_iff.1 hhead
      have hboth : "*" ++ rest = "* " ++ String.ofList others := String.toList_inj.1 (by simp [hothers])
      rw [afterStart?_eq_some_iff.2 hboth] at hspace
      nomatch hspace
    | none =>
      refine .plain fun hhead => ?_
      obtain ⟨others, hothers⟩ := List.head?_eq_some_iff.1 hhead
      have hboth : core = "*" ++ String.ofList others := String.toList_inj.1 (by simp [hothers])
      rw [afterStart?_eq_some_iff.2 hboth] at hstar
      nomatch hstar

/-- A line is freed as the relation says. -/
theorem withoutGutter_eq_iff {line rest : String} : withoutGutter line = rest ↔ Freed line rest := by
  have hline := behindStar_withoutGutter line
  constructor
  · rintro rfl
    exact ⟨_, trim_eq_iff.1 rfl, hline⟩
  · rintro ⟨core, htrim, hbehind⟩
    have hcore : trim line = String.ofList core := trim_eq_iff.2 (by rwa [String.toList_ofList])
    rw [hcore, String.toList_ofList] at hline
    exact String.toList_inj.1 (hline.unique hbehind)

/-- What is left of a line stands in it without a gap. -/
theorem Freed.isInfix {line rest : String} (h : Freed line rest) : rest.toList <:+: line.toList := by
  obtain ⟨core, ⟨⟨before, after, hline, -⟩, -⟩, hbehind⟩ := h
  rw [hline]
  exact hbehind.suffix.isInfix.trans (List.infix_append before core after)

/-! ## What a comment says -/

/-- What is said between the delimiters of a comment: what its lines say, without white space around all of it. -/
def Says (body text : String) : Prop :=
  ∃ lines freed, HasLines body lines ∧ List.Forall₂ Freed lines freed ∧
    TrimsTo isBlank (join "\n" freed).toList text.toList

theorem forall₂_freed_iff {lines freed : List String} :
    List.Forall₂ Freed lines freed ↔ lines.map withoutGutter = freed := by
  have hfreed : Freed = fun line rest => withoutGutter line = rest := by
    funext line rest
    exact propext withoutGutter_eq_iff.symm
  rw [hfreed, ← List.forall₂_map_left_iff (R := (· = ·)), List.forall₂_eq_eq_eq]

/-- What is said is what the lines are put together to. -/
theorem says_iff {body text : String} :
    Says body text ↔ trim (join "\n" ((split '\n' body).map withoutGutter)) = text := by
  simp only [Says, ← split_eq_iff, ← trim_eq_iff, forall₂_freed_iff, exists_and_left, exists_eq_left']

/-- Nothing is said but what stands in the comment. -/
theorem Says.sublist {body text : String} (h : Says body text) : text.toList.Sublist body.toList := by
  obtain ⟨lines, freed, hlines, hfreed, ⟨before, after, htext, -⟩, -⟩ := h
  have hjoin := sublist_join "\n" (hfreed.imp fun _ _ hline => hline.isInfix.sublist)
  rw [hlines.joined, htext] at hjoin
  exact (List.infix_append before text.toList after).sublist.trans hjoin

/-- What has no line feed and is not in the comment is not said. -/
theorem Says.lacks {body text : String} {d : List Char} (h : Says body text) (hd : '\n' ∉ d)
    (hbody : ¬ d <:+: body.toList) : ¬ d <:+: text.toList := by
  obtain ⟨lines, freed, ⟨hne, -, rfl⟩, hfreed, ⟨before, after, htext, -⟩, -⟩ := h
  rw [forall₂_freed_iff] at hfreed
  have hjoin : ¬ d <:+: (join "\n" freed).toList := by
    rw [← hfreed]
    refine not_infix_join hd (mt List.map_eq_nil_iff.1 hne) fun rest hrest hin => ?_
    obtain ⟨line, hline, hrest⟩ := List.mem_map.1 hrest
    exact hbody (hin.trans ((withoutGutter_eq_iff.1 hrest).isInfix.trans (infix_join "\n" hline)))
  rw [htext] at hjoin
  exact fun hin => hjoin (hin.trans (List.infix_append before text.toList after))

/-! ## Documentation comments -/

/-- The block comment around a text. -/
def blockComment (b : String) : String := "/*" ++ b ++ "*/"

/-- The comment around a text is closed at its very end only. -/
def ClosedOnce (b : String) : Prop :=
  ∀ before after, (blockComment b).toList = before ++ "*/".toList ++ after → after = []

theorem toList_blockComment (b : String) : (blockComment b).toList = ("/*" ++ b ++ "*").toList ++ ['/'] := by
  simp [blockComment]

/-- Closed at its end only, a comment has no closing delimiter in all but its last character. -/
theorem closedOnce_iff {b : String} : ClosedOnce b ↔ ¬ "*/".toList <:+: ("/*" ++ b ++ "*").toList := by
  unfold ClosedOnce
  rw [toList_blockComment]
  constructor
  · rintro h ⟨before, after, hin⟩
    have hnil := h before (after ++ ['/']) (by rw [← hin, List.append_assoc])
    exact absurd hnil (List.append_ne_nil_of_right_ne_nil after (List.cons_ne_nil _ _))
  · intro h before after hsplit
    rcases List.eq_nil_or_concat after with hnil | ⟨init, last, rfl⟩
    · exact hnil
    · rw [List.concat_eq_append, ← List.append_assoc] at hsplit
      exact absurd ⟨before, init, (List.append_inj_left' hsplit rfl).symm⟩ h

/-- What is right to tell of the comment around a text: nothing unless the text starts with a star, and otherwise what
    is said behind this star, with nothing of the delimiters in it. -/
structure Documents (b : String) : Prop where
  plain : b.toList.head? ≠ some '*' → docComment? (blockComment b) = none
  text : ∀ body, b = "*" ++ body → ∃ text, docComment? (blockComment b) = some text ∧ Says body text ∧
    text.toList.Sublist body.toList ∧ ¬ "*/".toList <:+: text.toList

/-- There are slashes at both ends, so nothing is to be taken away there. -/
theorem trim_blockComment (b : String) : trim (blockComment b) = blockComment b := by
  have hslash : ∀ c ∈ some '/', isBlank c = false := fun c hc =>
    Option.mem_some.1 hc ▸ (by decide : isBlank '/' = false)
  have hfirst : (blockComment b).toList.head? = some '/' := by simp [blockComment]
  have hlast : (blockComment b).toList.getLast? = some '/' := by rw [toList_blockComment, List.getLast?_concat]
  refine trim_eq_iff.2 ⟨⟨[], [], ?_, ?_, ?_⟩, hfirst ▸ hslash, hlast ▸ hslash⟩
  · rw [List.nil_append, List.append_nil]
  · exact fun c hc => nomatch hc
  · exact fun c hc => nomatch hc

/-- Between a slash with two stars and a star with a slash there is a documentation comment. -/
theorem docComment?_blockComment (body : String) : docComment? (blockComment ("*" ++ body)) =
    some (trim (join "\n" ((split '\n' body).map withoutGutter))) := by
  have hopen : afterStart? "/**" (blockComment ("*" ++ body)) = some (body ++ "*/") := by
    rw [afterStart?_eq_some_iff]
    exact String.toList_inj.1 (by simp [blockComment])
  simp only [docComment?, trim_blockComment, hopen, beforeEnd?_append, Option.getD_some]

/-- With one star only, a comment documents nothing. -/
theorem docComment?_blockComment_eq_none {b : String} (hne : b ≠ "") (h : b.toList.head? ≠ some '*') :
    docComment? (blockComment b) = none := by
  have hopen : afterStart? "/**" (blockComment b) = none := by
    refine Option.eq_none_iff_forall_not_mem.2 fun rest hrest => ?_
    have hlist := congrArg String.toList (afterStart?_eq_some_iff.1 hrest)
    cases hb : b.toList with
    | nil => exact hne (String.toList_eq_nil_iff.1 hb)
    | cons c others =>
      -- the third character is the first one of the text
      have hstar : c = '*' := by
        simp only [blockComment, String.toList_append, hb] at hlist
        exact (List.cons.inj (List.cons.inj (List.cons.inj hlist).2).2).1
      exact h (by rw [hb, hstar, List.head?_cons])
  simp only [docComment?, trim_blockComment, hopen]

/-- The star that opens the shortest comment is taken for the second one, and closes nothing any more. -/
theorem docComment?_shortest : docComment? (blockComment "") = some "/" := by decide +kernel

/-- The empty text is the one that both delimiters share a star around. -/
theorem Documents.ne_empty {b : String} (h : Documents b) : b ≠ "" := by
  rintro rfl
  have hnone := h.plain (by decide)
  rw [docComment?_shortest] at hnone
  nomatch hnone

/-- **What is told of a comment that is closed once is right, unless there is nothing in the comment at all.** Plain
    comments tell nothing, and a documentation comment tells what its lines say, with no part of a delimiter in it. -/
theorem documents_iff {b : String} (h : ClosedOnce b) : Documents b ↔ b ≠ "" := by
  refine ⟨Documents.ne_empty, fun hne => ⟨docComment?_blockComment_eq_none hne, ?_⟩⟩
  rintro body rfl
  have hsays : Says body _ := says_iff.2 rfl
  refine ⟨_, docComment?_blockComment body, hsays, hsays.sublist, hsays.lacks (by decide) fun hbody => ?_⟩
  exact closedOnce_iff.1 h (hbody.trans ⟨"/**".toList, ['*'], by simp⟩)

/-- A comment of several lines, with stars, blanks and a carriage return, and a plain one with a slash and a star. -/
theorem documents_lines :
    ClosedOnce "*\r\n * Adds.\n *\n\t*  2 * x **\n ** / " ∧ ClosedOnce " / *" ∧
    Documents "*\r\n * Adds.\n *\n\t*  2 * x **\n ** / " ∧ Documents " / *" ∧
    docComment? (blockComment "*\r\n * Adds.\n *\n\t*  2 * x **\n ** / ") = some "Adds.\n\n 2 * x **\n* /" := by
  have hlines : ClosedOnce "*\r\n * Adds.\n *\n\t*  2 * x **\n ** / " := closedOnce_iff.2 (by decide +kernel)
  have hplain : ClosedOnce " / *" := closedOnce_iff.2 (by decide +kernel)
  exact ⟨hlines, hplain, (documents_iff hlines).2 (by decide), (documents_iff hplain).2 (by decide),
    by decide +kernel⟩

/-- The shortest comment is closed once, at its end, and is no documentation comment. -/
theorem not_documents_shortest :
    ClosedOnce "" ∧ docComment? (blockComment "") = some "/" ∧ ¬ Documents "" :=
  ⟨closedOnce_iff.2 (by decide), docComment?_shortest, fun h => h.ne_empty rfl⟩

end CodeAtlas.Text
