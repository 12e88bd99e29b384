/-! # Blank characters

The schema notation separates its parts by blanks: the characters that Unicode
gives the `White_Space` property. The class has 25 code points, among them the
no-break space U+00A0, the ideographic space U+3000, the next-line control U+0085
and the line and paragraph separators U+2028 and U+2029; the zero-width space
U+200B, the byte-order mark U+FEFF, the Mongolian vowel separator U+180E and the
information separators U+001C to U+001F are not in it.

`trimBlankChars` removes blanks at both ends of a text; a text whose ends are
not blank is left as it is (`trimBlankChars_eq_self`), also after blanks are
added around it (`trimBlankChars_pad`), and every text is its trim with blanks
around it (`exists_trimBlankChars_pad`). A trimmed text holds only characters of
the text and neither starts nor ends with a blank.
-/

namespace LoxSyntax

/-- Whether a character has the Unicode `White_Space` property. -/
def isBlank (c : Char) : Bool :=
  let n := c.toNat
  (0x09 ≤ n && n ≤ 0x0D) || n == 0x20 || n == 0x85 || n == 0xA0 || n == 0x1680 ||
    (0x2000 ≤ n && n ≤ 0x200A) || n == 0x2028 || n == 0x2029 || n == 0x202F ||
    n == 0x205F || n == 0x3000

/-- The characters of a text without its leading and trailing blanks. -/
def trimBlankChars (cs : List Char) : List Char :=
  ((cs.dropWhile isBlank).reverse.dropWhile isBlank).reverse

/-- Dropping a prefix of characters satisfying `p` keeps a list whose first
character does not satisfy it. -/
theorem dropWhile_eq_self_of_head_false {p : Char → Bool} {cs : List Char}
    (h : ∀ c ∈ cs.head?, p c = false) : cs.dropWhile p = cs := by
  cases cs with
  | nil => rfl
  | cons c rest =>
    have hc : p c = false := h c (by simp)
    simp [hc]

/-- After dropping the characters satisfying `p`, the first character does not satisfy it. -/
theorem head?_dropWhile_false {p : Char → Bool} {cs : List Char} {c : Char}
    (h : (cs.dropWhile p).head? = some c) : p c = false := by
  induction cs with
  | nil => simp at h
  | cons d rest ih =>
    by_cases hd : p d = true
    · simp only [List.dropWhile_cons, hd, if_true] at h
      exact ih h
    · simp only [List.dropWhile_cons, hd, Bool.false_eq_true, if_false, List.head?_cons,
        Option.some.injEq] at h
      subst h
      simpa using hd

/-- Trimming a text whose ends are not blank changes nothing. -/
theorem trimBlankChars_eq_self {cs : List Char} (hh : ∀ c ∈ cs.head?, isBlank c = false)
    (hl : ∀ c ∈ cs.getLast?, isBlank c = false) : trimBlankChars cs = cs := by
  unfold trimBlankChars
  rw [dropWhile_eq_self_of_head_false hh,
    dropWhile_eq_self_of_head_false (by simpa [List.head?_reverse] using hl), List.reverse_reverse]

/-- Trimming a text with blanks added at its ends gives the text back, when its own
ends are not blank. -/
theorem trimBlankChars_pad (pre : List Char) {cs : List Char} (post : List Char) (leading : ∀ c ∈ pre, isBlank c = true)
    (trailing : ∀ c ∈ post, isBlank c = true) (hh : ∀ c ∈ cs.head?, isBlank c = false)
    (hl : ∀ c ∈ cs.getLast?, isBlank c = false) : trimBlankChars (pre ++ cs ++ post) = cs := by
  cases cs with
  | nil =>
    have blank : ∀ c ∈ pre ++ post, isBlank c = true := fun c member =>
      (List.mem_append.mp member).elim (leading c) (trailing c)
    have dropped : (pre ++ post).dropWhile isBlank = [] := by
      simpa using @List.dropWhile_append_of_pos _ isBlank (pre ++ post) [] blank
    simp [trimBlankChars, dropped]
  | cons c rest =>
    have front : (pre ++ (c :: rest) ++ post).dropWhile isBlank = c :: rest ++ post := by
      rw [List.append_assoc, List.dropWhile_append_of_pos leading]
      simp [hh c (by simp)]
    have back : (post.reverse ++ (c :: rest).reverse).dropWhile isBlank = (c :: rest).reverse := by
      rw [List.dropWhile_append_of_pos (by simpa using trailing)]
      exact dropWhile_eq_self_of_head_false (by rw [List.head?_reverse]; exact hl)
    unfold trimBlankChars
    rw [front, List.reverse_append, back, List.reverse_reverse]

/-- A trimmed text starts the text left after its leading blanks. -/
theorem trimBlankChars_prefix_dropWhile (cs : List Char) :
    trimBlankChars cs <+: cs.dropWhile isBlank := by
  unfold trimBlankChars
  simpa using List.reverse_prefix.mpr
    (@List.dropWhile_suffix _ (cs.dropWhile isBlank).reverse isBlank)

/-- A trimmed text holds only characters of the text. -/
theorem trimBlankChars_subset (cs : List Char) : trimBlankChars cs ⊆ cs :=
  List.Subset.trans (trimBlankChars_prefix_dropWhile cs).subset (List.dropWhile_suffix _).subset

/-- A trimmed text does not start with a blank. -/
theorem head?_trimBlankChars {cs : List Char} {c : Char} (first : (trimBlankChars cs).head? = some c) :
    isBlank c = false := by
  apply @head?_dropWhile_false isBlank cs
  obtain ⟨rest, whole⟩ := trimBlankChars_prefix_dropWhile cs
  rw [← whole, List.head?_append, first]
  rfl

/-- A trimmed text does not end with a blank. -/
theorem getLast?_trimBlankChars {cs : List Char} {c : Char}
    (last : (trimBlankChars cs).getLast? = some c) : isBlank c = false := by
  unfold trimBlankChars at last
  rw [List.getLast?_reverse] at last
  exact head?_dropWhile_false last

/-- A text is its trim with blanks around it. -/
theorem exists_trimBlankChars_pad (cs : List Char) :
    ∃ pre post, (∀ c ∈ pre, isBlank c = true) ∧ cs = pre ++ trimBlankChars cs ++ post ∧
      (∀ c ∈ post, isBlank c = true) := by
  refine ⟨cs.takeWhile isBlank, ((cs.dropWhile isBlank).reverse.takeWhile isBlank).reverse,
    fun c member => List.all_eq_true.mp List.all_takeWhile c member, ?_,
    fun c member => List.all_eq_true.mp List.all_takeWhile c (List.mem_reverse.mp member)⟩
  -- the trailing blanks are the leading blanks of the reversed rest
  have back : cs.dropWhile isBlank =
      trimBlankChars cs ++ ((cs.dropWhile isBlank).reverse.takeWhile isBlank).reverse := by
    conv => lhs; rw [← List.reverse_reverse (cs.dropWhile isBlank),
      ← @List.takeWhile_append_dropWhile _ isBlank (cs.dropWhile isBlank).reverse]
    rw [List.reverse_append]
    rfl
  calc cs = cs.takeWhile isBlank ++ cs.dropWhile isBlank := List.takeWhile_append_dropWhile.symm
    _ = cs.takeWhile isBlank ++
        (trimBlankChars cs ++ ((cs.dropWhile isBlank).reverse.takeWhile isBlank).reverse) :=
      congrArg _ back
    _ = _ := (List.append_assoc _ _ _).symm

/-- A text that trims to nothing is blank throughout. -/
theorem blank_of_trimBlankChars_eq_nil {cs : List Char} (empty : trimBlankChars cs = []) :
    ∀ c ∈ cs, isBlank c = true := by
  obtain ⟨pre, post, leading, padded, trailing⟩ := exists_trimBlankChars_pad cs
  rw [empty, List.append_nil] at padded
  intro c member
  rw [padded] at member
  exact (List.mem_append.mp member).elim (leading c) (trailing c)

end LoxSyntax
