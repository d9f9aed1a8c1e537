/-!
  Halves of surrogate pairs.

  A text that was written in UTF-16 units may hold one half of a pair alone.  That is no character, but texts
  that differ in such halves are different texts, and a half is written back as it was read.  So a text is kept
  in a form that has room for halves: the mark U+D7FF, which no script uses, and a private character behind it
  stand for a half, and the mark itself is written twice.  Every other character stands for itself.

  `ofCodePoints` makes this form, and `codePoints` says what it stands for.  Nothing is lost, and texts one
  after the other stand for what each of them stands for.  The mark is the last character before the halves and
  the private characters come after it, so that texts are ordered as their code points are.
-/
namespace CodeAtlas.Text

/-- Halves of surrogate pairs. -/
def isHalf (n : Nat) : Bool := 0xD800 ≤ n && n ≤ 0xDFFF

/-- The character in front of what stands for a half. -/
def mark : Char := '\uD7FF'

/-- How far the private characters are from the halves that they stand for. -/
def halfOffset : Nat := 0x800

/-- A code point in a text. -/
def ofCodePoint (n : Nat) : List Char :=
  if isHalf n then [mark, Char.ofNat (n + halfOffset)]
  else if n = mark.toNat then [mark, mark]
  else [Char.ofNat n]

/-- The text of some code points. -/
def ofCodePoints (ns : List Nat) : List Char := ns.flatMap ofCodePoint

/-- The code points of a text, after the ones before (reversed). -/
def codePointsOnto (acc : List Nat) : List Char → List Nat
  | [] => acc.reverse
  | [c] => (c.toNat :: acc).reverse
  | c :: d :: rest =>
    if c = mark then codePointsOnto ((if d = mark then mark.toNat else d.toNat - halfOffset) :: acc) rest
    else codePointsOnto (c.toNat :: acc) (d :: rest)

/-- The code points of a text. -/
def codePoints (cs : List Char) : List Nat := codePointsOnto [] cs

/-! ## Characters -/

/-- The text of some characters, none of which stands for a half. -/
def ofCharacters (cs : List Char) : List Char :=
  if cs.contains mark then cs.flatMap fun c => if c = mark then [mark, mark] else [c] else cs

/-- The characters of a text without halves. -/
def characters? (cs : List Char) : Option (List Char) :=
  if cs.contains mark then
    (codePoints cs).mapM fun n => if isHalf n then none else some (Char.ofNat n)
  else some cs

/-- The text of some bytes in UTF-8. -/
def ofUtf8? (bytes : ByteArray) : Option String :=
  (String.fromUTF8? bytes).map fun s => String.ofList (ofCharacters s.toList)

/-- The bytes of a text in UTF-8, unless there are halves in it. -/
def utf8? (s : String) : Option ByteArray := (characters? s.toList).map fun cs => (String.ofList cs).toUTF8

/-- The code points of a text, each as a text of its own. -/
def singles (s : String) : List String := (codePoints s.toList).map fun n => String.ofList (ofCodePoint n)

/-- A text without its last code points. -/
def dropLastCodePoints (n : Nat) (s : String) : String :=
  let points := codePoints s.toList
  String.ofList (ofCodePoints (points.take (points.length - n)))

/-- The character of a number that can be one has this number. -/
theorem toNat_ofNat {n : Nat} (h : n.isValidChar) : (Char.ofNat n).toNat = n := by
  rw [Char.ofNat, dif_pos h]
  rfl

/-! ## How much is in a text -/

/-- Marks are doubled, and other characters are not. -/
theorem count_ofCharacters {c : Char} (h : c ≠ mark) (cs : List Char) : (ofCharacters cs).count c = cs.count c := by
  have hdoubled : (cs.flatMap fun d => if d = mark then [mark, mark] else [d]).count c = cs.count c := by
    induction cs with
    | nil => rfl
    | cons d rest ih =>
      rw [List.flatMap_cons, List.count_append, ih]
      by_cases hd : d = mark
      · rw [if_pos hd, hd, List.count_cons_of_ne h.symm, List.count_cons_of_ne h.symm, List.count_nil,
          List.count_cons_of_ne h.symm, Nat.zero_add]
      · rw [if_neg hd, ← List.count_append, List.singleton_append]
  rw [ofCharacters]
  split
  · exact hdoubled
  · rfl

/-- A character takes at least one byte. -/
theorem length_le_utf8ByteSize (cs : List Char) : cs.length ≤ (String.ofList cs).utf8ByteSize := by
  induction cs with
  | nil => exact Nat.zero_le _
  | cons c rest ih =>
    rw [String.ofList_cons, String.utf8ByteSize_append, String.utf8ByteSize_singleton, List.length_cons]
    have := c.utf8Size_pos
    omega

/-- A character does not occur more often in a text than the text has bytes. -/
theorem count_le_of_ofUtf8? {c : Char} (h : c ≠ mark) {bytes : ByteArray} {s : String} (hs : ofUtf8? bytes = some s) :
    s.toList.count c ≤ bytes.size := by
  obtain ⟨u, hu, rfl⟩ := Option.map_eq_some_iff.1 hs
  have hbytes : bytes = u.toByteArray := by
    rw [String.fromUTF8?] at hu
    split at hu
    · cases hu; rfl
    · nomatch hu
  have hlength := length_le_utf8ByteSize u.toList
  rw [String.ofList_toList] at hlength
  calc (String.ofList (ofCharacters u.toList)).toList.count c
    _ = u.toList.count c := by rw [String.toList_ofList, count_ofCharacters h]
    _ ≤ u.toList.length := List.count_le_length
    _ ≤ u.utf8ByteSize := hlength
    _ = bytes.size := by rw [hbytes, String.size_toByteArray]

example : ofCodePoints [0x78, 0xD83D] = ['x', mark, '\uE03D'] ∧ codePoints ['x', mark, '\uE03D'] = [0x78, 0xD83D] := by
  decide +kernel
example : characters? [mark, mark] = some [mark] ∧ characters? [mark, '\uE000'] = none := by decide +kernel

end CodeAtlas.Text
