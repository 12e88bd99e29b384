import Mathlib
import LoxSyntax.NodeModel.Naming
import LoxSyntax.Proofs.Schema.RoundTrip

/-! # Snake case

`snakeCase` reads a name once, left to right, looking at the character before and the
character after each one. It lowercases the ASCII capitals and puts an underscore before a
capital that has a predecessor which is a lowercase letter or a digit, or a capital followed by
a lowercase letter (`UnderscoreBefore`). The result is one piece per character of the name,
the character lowercased, after an underscore where one is put (`snakeCaseChars_eq_flatMap`).
Before it puts an underscore, `snakeCase` also checks that the text written so far does not
end in one; where an underscore is due that text ends in a lowercased letter or digit, so the
check never refuses one (`written_ne_underscore_of_breaksBefore`).

So the snake-case name holds no capital, and deleting the underscores from it gives the
lowercased name with its underscores deleted. An underscore is only put between two characters
that are not underscores, the second a letter: the snake-case name starts with, ends with and
doubles an underscore exactly when the name does, and an identifier stays one. The map is not
injective: `fooBar` and `foo_bar`, or `HTTPRequest` and `HttpRequest`, share a snake case.

Main statement: `snakeCase_spec`.
-/

namespace LoxSyntax.NodeModel

open LoxSyntax.Schema

/-! ## Lowercasing one character -/

/-- Lowercasing makes an underscore of the underscore only. -/
theorem toLower_eq_underscore_iff {c : Char} : c.toLower = '_' ↔ c = '_' := by
  by_cases upper : c.isUpper = true
  · -- a capital becomes a lowercase letter, and neither is an underscore
    have lower : c.toLower.isLower = true := by
      simp [Char.isLower_toLower_eq_isAlpha, Char.isAlpha, upper]
    constructor
    · intro same
      rw [same] at lower
      simp at lower
    · rintro rfl
      simp at upper
  · rw [Char.toLower_eq_of_not_isUpper upper]

/-- A character that may start an identifier still may when lowercased. -/
theorem isIdentStart_toLower {c : Char} (start : isIdentStart c = true) :
    isIdentStart c.toLower = true := by
  simp only [isIdentStart, Bool.or_eq_true, beq_iff_eq] at start ⊢
  rcases start with letter | rfl
  · exact .inl (by rwa [Char.isAlpha_toLower_eq_isAlpha])
  · exact .inr rfl

/-- A character that may stand in an identifier still may when lowercased. -/
theorem isIdentPart_toLower {c : Char} (part : isIdentPart c = true) :
    isIdentPart c.toLower = true := by
  simp only [isIdentPart, Char.isAlphanum, Bool.or_eq_true, beq_iff_eq] at part ⊢
  rcases part with (letter | digit) | rfl
  · exact .inl (.inl (by rwa [Char.isAlpha_toLower_eq_isAlpha]))
  · -- a digit is no capital, so it stays as it is
    have plain : ¬ c.isUpper = true := by
      simp only [Char.isDigit, Char.isUpper, Bool.and_eq_true, decide_eq_true_eq] at digit ⊢
      intro capital
      simp only [UInt32.le_iff_toNat_le] at digit capital
      simp at digit capital
      omega
    exact .inl (.inr (by rwa [Char.toLower_eq_of_not_isUpper plain]))
  · exact .inr rfl

/-! ## One character at a time -/

/-- Whether snake case puts an underscore before `c`, which follows `prev` and comes before
`next`. -/
def breaksBefore (prev : Option Char) (c : Char) (next : Option Char) : Bool :=
  c.isUpper && match prev with
    | some p => p.isLower || p.isDigit || (p.isUpper && (next.map Char.isLower).getD false)
    | none => false

/-- Snake case puts an underscore before position `i` of `cs`: an ASCII capital, after a
lowercase letter or a digit, or after a capital when a lowercase letter follows it. -/
def UnderscoreBefore (cs : List Char) (i : Nat) : Prop :=
  0 < i ∧ cs[i]?.any Char.isUpper = true ∧
    cs[i - 1]?.any (fun p => p.isLower || p.isDigit || (p.isUpper && cs[i + 1]?.any Char.isLower))
      = true

/-- Whether snake case puts an underscore before a position is decided by evaluation. -/
instance (cs : List Char) (i : Nat) : Decidable (UnderscoreBefore cs i) := instDecidableAnd

/-- No underscore is put after nothing. -/
@[simp] theorem breaksBefore_none (c : Char) (next : Option Char) :
    breaksBefore none c next = false := by
  simp [breaksBefore]

/-- No underscore is put after an underscore. -/
@[simp] theorem breaksBefore_underscore (c : Char) (next : Option Char) :
    breaksBefore (some '_') c next = false := by
  simp [breaksBefore]

/-- **The guard never fires.** Where an underscore is due, the text written so far, which
ends in the character before lowercased, does not end in an underscore. -/
theorem written_ne_underscore_of_breaksBefore {prev : Option Char} {c : Char}
    {next : Option Char} (broken : breaksBefore prev c next = true) :
    prev.map Char.toLower ≠ some '_' := by
  cases prev with
  | none => simp at broken
  | some p =>
    intro written
    have underscore : p = '_' := toLower_eq_underscore_iff.mp (Option.some.inj written)
    subst underscore
    simp at broken

/-- Each character gives an underscore, where one is put, and the character lowercased; the
text written so far ends in the character before, lowercased. -/
theorem snakeCaseChars_cons (prev : Option Char) (c : Char) (rest : List Char) :
    snakeCaseChars prev (prev.map Char.toLower) (c :: rest) =
      (if breaksBefore prev c rest.head? then ['_'] else []) ++
        c.toLower :: snakeCaseChars (some c) ((some c).map Char.toLower) rest := by
  by_cases upper : c.isUpper = true
  · -- the guard holds wherever an underscore is due, so it drops out
    have guard : (breaksBefore prev c rest.head? && prev.map Char.toLower != some '_') =
        breaksBefore prev c rest.head? := by
      cases broken : breaksBefore prev c rest.head?
      · rfl
      · simpa using written_ne_underscore_of_breaksBefore broken
    have unfolded : snakeCaseChars prev (prev.map Char.toLower) (c :: rest) =
        (if (breaksBefore prev c rest.head? && prev.map Char.toLower != some '_') then ['_']
          else []) ++ c.toLower :: snakeCaseChars (some c) (some c.toLower) rest := by
      cases prev <;> simp [snakeCaseChars, breaksBefore, upper]
    rw [unfolded, guard]
    rfl
  · simp [snakeCaseChars, breaksBefore, upper, Char.toLower_eq_of_not_isUpper upper]

/-- The index form of `breaksBefore`: the character before position `pre.length` of
`pre ++ c :: rest` is the last of `pre`, and the one after it the first of `rest`. -/
theorem underscoreBefore_iff_breaksBefore (pre : List Char) (c : Char) (rest : List Char) :
    UnderscoreBefore (pre ++ c :: rest) pre.length ↔
      breaksBefore pre.getLast? c rest.head? = true := by
  induction pre using List.reverseRecOn with
  | nil => simp [UnderscoreBefore]
  | append_singleton init p _ =>
    have before : (init ++ [p] ++ c :: rest)[init.length]? = some p := by simp
    have current : (init ++ [p] ++ c :: rest)[init.length + 1]? = some c := by simp
    have after : (init ++ [p] ++ c :: rest)[init.length + 1 + 1]? = rest.head? := by
      rw [List.getElem?_append_right (by simp)]
      cases rest <;> simp
    simp only [UnderscoreBefore, List.length_append, List.length_singleton, Nat.add_sub_cancel,
      before, current, after, List.getLast?_concat, breaksBefore]
    cases rest.head? <;> simp

/-- **Where underscores go.** Snake case is one piece per character: an underscore where
`UnderscoreBefore` puts one, then the character lowercased. Stated for the characters after
`pre`, which is what the reader has seen. -/
theorem snakeCaseChars_eq_flatMap (pre cs : List Char) :
    snakeCaseChars pre.getLast? (pre.getLast?.map Char.toLower) cs =
      (cs.zipIdx pre.length).flatMap fun (c, i) =>
      (if UnderscoreBefore (pre ++ cs) i then ['_'] else []) ++ [c.toLower] := by
  induction cs generalizing pre with
  | nil => rfl
  | cons c rest ih =>
    have next := ih (pre ++ [c])
    simp only [List.getLast?_concat, List.length_append, List.length_singleton,
      List.append_assoc, List.singleton_append] at next
    rw [snakeCaseChars_cons, next, List.zipIdx_cons, List.flatMap_cons]
    simp [underscoreBefore_iff_breaksBefore]

/-! ## What snake case keeps -/

/-- Snake case writes only underscores and lowercased characters of the name. -/
theorem mem_snakeCaseChars {prev : Option Char} {cs : List Char} {d : Char}
    (member : d ∈ snakeCaseChars prev (prev.map Char.toLower) cs) :
    d = '_' ∨ ∃ c ∈ cs, d = c.toLower := by
  induction cs generalizing prev with
  | nil => simp [snakeCaseChars] at member
  | cons c rest ih =>
    rw [snakeCaseChars_cons] at member
    rcases List.mem_append.mp member with inserted | member
    · split at inserted <;> simp_all
    · rcases List.mem_cons.mp member with rfl | later
      · exact .inr ⟨c, List.mem_cons_self, rfl⟩
      · rcases ih later with underscore | ⟨e, present, rfl⟩
        · exact .inl underscore
        · exact .inr ⟨e, List.mem_cons_of_mem c present, rfl⟩

/-- Snake case writes nothing only for the empty name. -/
theorem snakeCaseChars_eq_nil_iff {prev : Option Char} {cs : List Char} :
    snakeCaseChars prev (prev.map Char.toLower) cs = [] ↔ cs = [] := by
  cases cs with
  | nil => simp [snakeCaseChars]
  | cons c rest => simp [snakeCaseChars_cons]

/-- Without its underscores, the snake case of a name is the name lowercased without its
underscores. -/
theorem filter_snakeCaseChars (prev : Option Char) (cs : List Char) :
    (snakeCaseChars prev (prev.map Char.toLower) cs).filter (· != '_') =
      (cs.map Char.toLower).filter (· != '_') := by
  induction cs generalizing prev with
  | nil => simp [snakeCaseChars]
  | cons c rest ih =>
    have dropped :
        (if breaksBefore prev c rest.head? then ['_'] else []).filter (· != '_') = [] := by
      split <;> simp
    rw [snakeCaseChars_cons, List.filter_append, dropped, List.nil_append, List.map_cons,
      List.filter_cons, List.filter_cons, ih]

/-- With nothing before it, or an underscore, the result starts with the first character
lowercased. -/
theorem head?_snakeCaseChars {prev : Option Char}
    (unbroken : ∀ c next, breaksBefore prev c next = false) (cs : List Char) :
    (snakeCaseChars prev (prev.map Char.toLower) cs).head? = cs.head?.map Char.toLower := by
  cases cs with
  | nil => simp [snakeCaseChars]
  | cons c rest => simp [snakeCaseChars_cons, unbroken]

/-- The snake case of a name ends with its last character lowercased: underscores are only
put before characters. -/
theorem getLast?_snakeCaseChars (prev : Option Char) (cs : List Char) :
    (snakeCaseChars prev (prev.map Char.toLower) cs).getLast? = cs.getLast?.map Char.toLower := by
  induction cs generalizing prev with
  | nil => simp [snakeCaseChars]
  | cons c rest ih =>
    rw [snakeCaseChars_cons, List.getLast?_append, List.getLast?_cons, ih, List.getLast?_cons]
    cases rest.getLast? <;> simp

/-- A character other than an underscore does not start a pair of underscores. -/
theorem pairedUnderscores_infix_cons_of_ne {c : Char} (plain : c ≠ '_') (rest : List Char) :
    ['_', '_'] <:+: c :: rest ↔ ['_', '_'] <:+: rest := by
  rw [List.infix_cons_iff]
  simp [Ne.symm plain]

/-- An underscore starts a pair of underscores exactly when another follows it. -/
theorem pairedUnderscores_infix_underscore_cons (rest : List Char) :
    ['_', '_'] <:+: '_' :: rest ↔ rest.head? = some '_' ∨ ['_', '_'] <:+: rest := by
  rw [List.infix_cons_iff, List.cons_prefix_cons, List.singleton_prefix_iff_head?_eq_some]
  simp

/-- An underscore is put only between a character and a letter, neither an underscore, so no
pair of underscores is made or broken. -/
theorem pairedUnderscores_infix_snakeCaseChars (prev : Option Char) (cs : List Char) :
    ['_', '_'] <:+: snakeCaseChars prev (prev.map Char.toLower) cs ↔ ['_', '_'] <:+: cs := by
  induction cs generalizing prev with
  | nil => simp [snakeCaseChars]
  | cons c rest ih =>
    rw [snakeCaseChars_cons]
    by_cases underscore : c = '_'
    · subst underscore
      -- no underscore is put before an underscore, nor before the character after one
      have unbroken : breaksBefore prev '_' rest.head? = false := by simp [breaksBefore]
      rw [unbroken, if_neg (by simp), List.nil_append, Char.toLower_eq_of_not_isUpper (by simp),
        pairedUnderscores_infix_underscore_cons, pairedUnderscores_infix_underscore_cons, ih,
        head?_snakeCaseChars (fun _ _ => breaksBefore_underscore _ _)]
      cases rest.head? <;> simp [toLower_eq_underscore_iff]
    · have lowered : c.toLower ≠ '_' :=
        fun same => underscore (toLower_eq_underscore_iff.mp same)
      rw [pairedUnderscores_infix_cons_of_ne underscore, ← ih (some c)]
      split
      · rw [List.singleton_append, pairedUnderscores_infix_underscore_cons]
        simp [pairedUnderscores_infix_cons_of_ne lowered, lowered]
      · rw [List.nil_append, pairedUnderscores_infix_cons_of_ne lowered]

/-- The snake case of an identifier is an identifier: it starts with the first character
lowercased and holds only underscores and lowercased characters of the name. -/
theorem isIdentifierChars_snakeCaseChars {cs : List Char} (ident : isIdentifierChars cs = true) :
    isIdentifierChars (snakeCaseChars none none cs) = true := by
  cases cs with
  | nil => simp [isIdentifierChars] at ident
  | cons c rest =>
    obtain ⟨⟨start, parts⟩, lone⟩ := isIdentifierChars_cons.mp ident
    -- nothing is written before the first character
    have first : snakeCaseChars none none (c :: rest) =
        (if breaksBefore none c rest.head? then ['_'] else []) ++
          c.toLower :: snakeCaseChars (some c) ((some c).map Char.toLower) rest :=
      snakeCaseChars_cons none c rest
    rw [first, breaksBefore_none, if_neg (by simp), List.nil_append, isIdentifierChars_cons]
    refine ⟨⟨isIdentStart_toLower start, fun d member => ?_⟩, ?_⟩
    · rcases mem_snakeCaseChars member with rfl | ⟨e, present, rfl⟩
      · rfl
      · exact isIdentPart_toLower (parts e present)
    · rcases lone with plain | filled
      · exact .inl fun same => plain (toLower_eq_underscore_iff.mp same)
      · exact .inr fun empty => filled (snakeCaseChars_eq_nil_iff.mp empty)

/-- The characters of the snake case of a name, written from the start of the name. -/
theorem toList_snakeCase (s : String) :
    (snakeCase s).toList = snakeCaseChars none none s.toList := by
  simp [snakeCase]

/-- **Snake case.** The snake case of a name holds no ASCII capital, and deleting its
underscores gives the name lowercased with its underscores deleted: it is the name with each
character lowercased and an underscore put before exactly the positions `UnderscoreBefore`
names. It starts with, ends with and holds two adjacent underscores exactly when the name does,
and it is an identifier when the name is. -/
theorem snakeCase_spec (s : String) :
    (∀ c ∈ (snakeCase s).toList, c.isUpper = false) ∧
    (snakeCase s).toList.filter (· != '_') = (s.toList.map Char.toLower).filter (· != '_') ∧
    (snakeCase s).toList = s.toList.zipIdx.flatMap (fun (c, i) =>
      (if UnderscoreBefore s.toList i then ['_'] else []) ++ [c.toLower]) ∧
    ((snakeCase s).toList.head? = some '_' ↔ s.toList.head? = some '_') ∧
    ((snakeCase s).toList.getLast? = some '_' ↔ s.toList.getLast? = some '_') ∧
    (['_', '_'] <:+: (snakeCase s).toList ↔ ['_', '_'] <:+: s.toList) ∧
    (isIdentifier s = true → isIdentifier (snakeCase s) = true) := by
  have ident (named : isIdentifier s = true) : isIdentifier (snakeCase s) = true := by
    rw [isIdentifier, toList_snakeCase]
    exact isIdentifierChars_snakeCaseChars named
  rw [toList_snakeCase]
  refine ⟨fun c member => ?_, filter_snakeCaseChars none s.toList,
    snakeCaseChars_eq_flatMap [] s.toList, ?_, ?_,
    pairedUnderscores_infix_snakeCaseChars none s.toList, ident⟩
  · rcases mem_snakeCaseChars member with rfl | ⟨d, -, rfl⟩
    · rfl
    · exact Char.isUpper_toLower_eq_false d
  · have first : (snakeCaseChars none none s.toList).head? = s.toList.head?.map Char.toLower :=
      head?_snakeCaseChars (fun c next => breaksBefore_none c next) s.toList
    rw [first]
    cases s.toList.head? <;> simp [toLower_eq_underscore_iff]
  · have last : (snakeCaseChars none none s.toList).getLast? =
        s.toList.getLast?.map Char.toLower :=
      getLast?_snakeCaseChars none s.toList
    rw [last]
    cases s.toList.getLast? <;> simp [toLower_eq_underscore_iff]

/-- Two spellings of one name share a snake case: the map is not injective. -/
example : snakeCase "fooBar" = snakeCase "foo_bar" ∧
    snakeCase "HTTPRequest" = snakeCase "HttpRequest" ∧
    snakeCase "HTTPRequest" = "http_request" := by
  decide

end LoxSyntax.NodeModel
