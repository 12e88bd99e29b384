/-! # Cutting a text at a character

`cutChars p cs` cuts `cs` at its first character satisfying `p`; that character
belongs to neither part. `cutChars_spec` says that nothing is lost and that the
first part holds no character satisfying `p`; conversely a list is cut right
after a first part free of such characters (`cutChars_append_cons`).

`splitChars sep cs` cuts a list at every `sep`; the pieces joined with `sep`
give the list back (`intercalate_splitChars`), so there is always at least one
piece, and two separators side by side leave an empty piece between them. No
piece holds the separator, and pieces free of it are split back out of their
join (`splitChars_intercalate`).
-/

namespace LoxSyntax

/-- Cuts a character list at its first character satisfying `p`, which belongs
to neither part; `none` when no character satisfies `p`. -/
def cutChars (p : Char → Bool) : List Char → Option (List Char × List Char)
  | [] => none
  | c :: cs =>
    if p c then some ([], cs)
    else (cutChars p cs).map fun (before, after) => (c :: before, after)

/-- The two parts and the character between them make up the list, and the
character is the first that satisfies `p`. -/
theorem cutChars_spec {p : Char → Bool} {cs before after : List Char}
    (h : cutChars p cs = some (before, after)) :
    ∃ b, p b = true ∧ cs = before ++ b :: after ∧ ∀ c ∈ before, p c = false := by
  induction cs generalizing before with
  | nil => simp [cutChars] at h
  | cons c cs ih =>
    by_cases hc : p c = true
    · simp only [cutChars, hc, if_true, Option.some.injEq, Prod.mk.injEq] at h
      obtain ⟨rfl, rfl⟩ := h
      exact ⟨c, hc, rfl, by simp⟩
    · simp only [cutChars, hc, Bool.false_eq_true, if_false, Option.map_eq_some_iff,
        Prod.exists, Prod.mk.injEq] at h
      obtain ⟨b, a, hs, rfl, rfl⟩ := h
      obtain ⟨x, hx, rfl, hb⟩ := ih hs
      refine ⟨x, hx, rfl, ?_⟩
      intro d hd
      simp only [List.mem_cons] at hd
      rcases hd with rfl | hd
      · simpa using hc
      · exact hb d hd

/-- A list in which no character satisfies `p` is not cut. -/
theorem cutChars_eq_none {p : Char → Bool} {cs : List Char} (h : ∀ c ∈ cs, p c = false) :
    cutChars p cs = none := by
  induction cs with
  | nil => rfl
  | cons c cs ih =>
    have hc : p c = false := h c (by simp)
    simp [cutChars, hc, ih fun d hd => h d (by simp [hd])]

/-- A list is cut at the first character satisfying `p`, after a part free of such characters. -/
theorem cutChars_append_cons {p : Char → Bool} {before after : List Char} {b : Char}
    (free : ∀ c ∈ before, p c = false) (cutter : p b = true) :
    cutChars p (before ++ b :: after) = some (before, after) := by
  induction before with
  | nil => simp [cutChars, cutter]
  | cons c before ih =>
    have kept : p c = false := free c (by simp)
    simp [cutChars, kept, ih fun d member => free d (by simp [member])]

/-- Cuts a character list at every `sep`, which belongs to no piece. -/
def splitChars (sep : Char) : List Char → List (List Char)
  | [] => [[]]
  | c :: cs =>
    if c == sep then [] :: splitChars sep cs
    else match splitChars sep cs with
      | [] => [[c]]
      | piece :: pieces => (c :: piece) :: pieces

/-- Splitting never gives an empty list of pieces. -/
theorem splitChars_ne_nil (sep : Char) (cs : List Char) : splitChars sep cs ≠ [] := by
  cases cs with
  | nil => simp [splitChars]
  | cons c cs =>
    unfold splitChars
    split
    · simp
    · split <;> simp

/-- Joining the pieces with the separator gives the list back. -/
theorem intercalate_splitChars (sep : Char) (cs : List Char) :
    [sep].intercalate (splitChars sep cs) = cs := by
  induction cs with
  | nil => simp [splitChars]
  | cons c cs ih =>
    cases hcs : splitChars sep cs with
    | nil => exact absurd hcs (splitChars_ne_nil sep cs)
    | cons piece pieces =>
      rw [hcs] at ih
      by_cases hc : c = sep
      · subst hc
        simp only [splitChars, beq_self_eq_true, if_true, hcs]
        cases pieces with
        | nil => simp_all
        | cons q qs => simp_all [List.intercalate_cons_cons]
      · simp only [splitChars, beq_iff_eq, hc, if_false, hcs]
        cases pieces with
        | nil => simp_all
        | cons q qs => simp_all [List.intercalate_cons_cons]

/-- No piece of a split holds the separator. -/
theorem not_mem_of_mem_splitChars {sep : Char} {cs piece : List Char}
    (member : piece ∈ splitChars sep cs) : sep ∉ piece := by
  induction cs generalizing piece with
  | nil => simp_all [splitChars]
  | cons c cs ih =>
    by_cases cutter : c = sep
    · simp only [splitChars, cutter, beq_self_eq_true, if_true, List.mem_cons] at member
      rcases member with rfl | member
      · simp
      · exact ih member
    · simp only [splitChars, beq_iff_eq, cutter, if_false] at member
      split at member
      · rename_i empty
        exact absurd empty (splitChars_ne_nil sep cs)
      · rename_i first rest pieces
        rcases List.mem_cons.mp member with rfl | member
        · simp only [List.mem_cons, not_or]
          exact ⟨Ne.symm cutter, ih (by simp [pieces])⟩
        · exact ih (by simp [pieces, member])

/-- A list without the separator is a single piece. -/
theorem splitChars_of_not_mem {sep : Char} {cs : List Char} (absent : sep ∉ cs) :
    splitChars sep cs = [cs] := by
  induction cs with
  | nil => rfl
  | cons c cs ih =>
    have kept : c ≠ sep := fun same => absent (same ▸ List.mem_cons_self)
    simp [splitChars, kept, ih fun member => absent (List.mem_cons_of_mem c member)]

/-- A first piece without the separator is split off at the separator after it. -/
theorem splitChars_append_cons {sep : Char} {piece rest : List Char} (absent : sep ∉ piece) :
    splitChars sep (piece ++ sep :: rest) = piece :: splitChars sep rest := by
  induction piece with
  | nil => simp [splitChars]
  | cons c piece ih =>
    have kept : c ≠ sep := fun same => absent (same ▸ List.mem_cons_self)
    simp [splitChars, kept, ih fun member => absent (List.mem_cons_of_mem c member)]

/-- Splitting pieces joined by the separator gives the pieces back, when there is at
least one and none holds the separator. -/
theorem splitChars_intercalate {sep : Char} {pieces : List (List Char)} (nonempty : pieces ≠ [])
    (absent : ∀ piece ∈ pieces, sep ∉ piece) : splitChars sep ([sep].intercalate pieces) = pieces := by
  induction pieces with
  | nil => exact absurd rfl nonempty
  | cons piece pieces ih =>
    cases pieces with
    | nil => simpa using splitChars_of_not_mem (absent piece (by simp))
    | cons next pieces =>
      rw [List.intercalate_cons_cons, List.append_assoc, List.singleton_append,
        splitChars_append_cons (absent piece (by simp)),
        ih (by simp) fun other member => absent other (by simp [member])]

end LoxSyntax
