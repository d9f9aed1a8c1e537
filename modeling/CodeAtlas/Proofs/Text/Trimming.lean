import CodeAtlas.Text.Blank
import Mathlib.Data.List.TakeWhile
/-!
  What trimming leaves.

  A text trimmed of a class of characters is the part of it between two of other characters, with nothing but
  characters of the class around it.  There is only one such part (`trimWhile_eq_iff`), so that this tells
  everything about trimming.

  The program drops characters in front, turns the rest around and drops characters again.  So each of the two ends has
  its lemma: what is dropped at an end is of the class, and what is at the end then is not.  For a text of nothing but
  such characters the first of the two drops does everything.
-/
namespace CodeAtlas.Text

variable {p : Char → Bool} {cs core : List Char}

/-- `core` is in `cs`, between characters of a class only, and has none of them at its ends. -/
structure TrimsTo (p : Char → Bool) (cs core : List Char) : Prop where
  around : ∃ before after, cs = before ++ core ++ after ∧ (∀ c ∈ before, p c = true) ∧ ∀ c ∈ after, p c = true
  first : ∀ c ∈ core.head?, p c = false
  last : ∀ c ∈ core.getLast?, p c = false

theorem dropWhile_eq_self (h : ∀ c ∈ cs.head?, p c = false) : cs.dropWhile p = cs := by
  cases cs with
  | nil => rfl
  | cons c rest =>
    refine List.dropWhile_cons_of_neg ?_
    rw [h c rfl]
    exact Bool.false_ne_true

/-- What is in front after dropping is not of the class. -/
theorem not_of_mem_head?_dropWhile {c : Char} (h : c ∈ (cs.dropWhile p).head?) : p c = false := by
  have hhead := List.head?_dropWhile_not p cs
  rwa [h] at hhead

/-- What is of the class goes from the end, up to a character that is not. -/
theorem dropEndWhile_append (h : ∀ c ∈ cs, p c = true) (hlast : ∀ c ∈ core.getLast?, p c = false) :
    dropEndWhile p (core ++ cs) = core := by
  have hreverse : ∀ c ∈ core.reverse.head?, p c = false := by rwa [List.head?_reverse]
  rw [dropEndWhile, List.reverse_append, List.dropWhile_append_of_pos (fun c hc => h c (List.mem_reverse.1 hc)),
    dropWhile_eq_self hreverse, List.reverse_reverse]

theorem exists_eq_dropEndWhile_append (p : Char → Bool) (cs : List Char) :
    ∃ after, cs = dropEndWhile p cs ++ after ∧ ∀ c ∈ after, p c = true := by
  refine ⟨(cs.reverse.takeWhile p).reverse, ?_, fun c hc => List.mem_takeWhile_imp (List.mem_reverse.1 hc)⟩
  rw [dropEndWhile, ← List.reverse_append, List.takeWhile_append_dropWhile, List.reverse_reverse]

/-- What a text trims to is determined. -/
theorem TrimsTo.trimWhile_eq (h : TrimsTo p cs core) : trimWhile p cs = core := by
  obtain ⟨⟨before, after, rfl, hbefore, hafter⟩, hfirst, hlast⟩ := h
  rw [trimWhile, List.append_assoc, List.dropWhile_append_of_pos hbefore]
  cases core with
  | nil =>
    -- then all characters are of the class
    exact dropEndWhile_append (fun c hc => hafter c ((List.dropWhile_sublist p).subset hc)) hlast
  | cons c rest =>
    have hself : (c :: rest ++ after).dropWhile p = c :: rest ++ after := dropWhile_eq_self fun d hd => hfirst d hd
    rw [hself]
    exact dropEndWhile_append hafter hlast

theorem trimsTo_trimWhile (p : Char → Bool) (cs : List Char) : TrimsTo p cs (trimWhile p cs) := by
  obtain ⟨after, hafter, hclass⟩ := exists_eq_dropEndWhile_append p (cs.dropWhile p)
  refine ⟨⟨cs.takeWhile p, after, ?_, fun c hc => List.mem_takeWhile_imp hc, hclass⟩, ?_, ?_⟩
  · rw [trimWhile, List.append_assoc, ← hafter, List.takeWhile_append_dropWhile]
  · intro c hc
    -- the first character that is left is the first one after the class
    have hhead : c ∈ (cs.dropWhile p).head? := by
      rw [hafter, List.head?_append]
      rw [trimWhile, Option.mem_def] at hc
      rw [hc]
      rfl
    exact not_of_mem_head?_dropWhile hhead
  · intro c hc
    rw [trimWhile, dropEndWhile, List.getLast?_reverse] at hc
    exact not_of_mem_head?_dropWhile hc

/-- What trimming leaves is such a part, and there is no other one. -/
theorem trimWhile_eq_iff : trimWhile p cs = core ↔ TrimsTo p cs core :=
  ⟨fun h => h ▸ trimsTo_trimWhile p cs, TrimsTo.trimWhile_eq⟩

theorem trim_eq_iff {s t : String} : trim s = t ↔ TrimsTo isBlank s.toList t.toList := by
  rw [← trimWhile_eq_iff, trim, ← String.toList_inj, String.toList_ofList]

end CodeAtlas.Text
