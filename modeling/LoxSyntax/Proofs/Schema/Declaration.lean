import LoxSyntax.Proofs.NodeModel.CheckOrder
import LoxSyntax.Proofs.Schema.RoundTrip

/-! # Reading a declaration

A declaration line is read after trimming its blanks. The trimmed text `D` reads as a
variant (`Variant.Reads D v`) when it has a colon, the text before its first colon trims to
an identifier, the variant's name, and each comma-separated piece after that colon,
trimmed, reads as a field (`Field.Reads`): an identifier alone is a field without a declared
type, and a run of characters that are not blank, one blank and text that trims to an
identifier is a field of that declared type. The field names are distinct.

A line that does not read fails with the first failure of a flat scan, each failure
carrying `D` (`declarationFailures`): the colon, the name empty, the name not an
identifier, then for each piece in order: the piece empty, its name not an identifier, its
name used by an earlier piece. The name of a piece is what follows its first blank,
trimmed, or the whole piece. A trimmed piece with a blank ends after that blank with a
character that is not blank, so its name is never empty (`entryName_ne_nil`); the reader's
check of an empty name is a check of an empty piece.

`Variant.parse_spec`: a line reads exactly as the variant the reader returns, and the
reader otherwise fails with the first failure of the scan.
-/

namespace LoxSyntax.Schema

/-- How a trimmed field entry reads as a field. -/
inductive Field.Reads : List Char → Field → Prop
  /-- An identifier alone: a field without a declared type. -/
  | untyped {name : String} : isIdentifier name = true → Field.Reads name.toList ⟨none, name⟩
  /-- A declared type holding no blank, one blank, and text that trims to the name. -/
  | typed {type rest : List Char} {gap : Char} {name : String} :
      type ≠ [] → (∀ c ∈ type, isBlank c = false) → isBlank gap = true →
      trimBlankChars rest = name.toList → isIdentifier name = true →
      Field.Reads (type ++ gap :: rest) ⟨some (String.ofList type), name⟩

/-- How a trimmed declaration reads as a variant: the text before its first colon trims to
the variant's name, and the comma-separated pieces after it, trimmed, read as its fields. -/
structure Variant.Reads (chars : List Char) (v : Variant) : Prop where
  cut : ∃ rawName rest, chars = rawName ++ ':' :: rest ∧ ':' ∉ rawName ∧
    trimBlankChars rawName = v.name.toList ∧
    List.Forall₂ (fun piece f => Field.Reads (trimBlankChars piece) f) (splitChars ',' rest)
      v.fields
  name_isIdentifier : isIdentifier v.name = true
  names_nodup : (v.fields.map (·.name)).Nodup

/-- The name part of a trimmed field entry: what follows its first blank, trimmed, or the
whole entry when it has no blank. -/
def entryName (entry : List Char) : List Char :=
  match cutChars isBlank entry with
  | some (_, rest) => trimBlankChars rest
  | none => entry

/-- The name of a field piece. -/
def pieceName (piece : List Char) : String := String.ofList (entryName (trimBlankChars piece))

/-- The failures of a field piece of the declaration `d` whose name must avoid `taken`. -/
def entryFailures (d : String) (taken : List String) (piece : List Char) : List SchemaError :=
  if trimBlankChars piece = [] then [.emptyFieldName d]
  else if !isIdentifierChars (entryName (trimBlankChars piece)) then
    [.invalidIdentifier d (pieceName piece)]
  else if pieceName piece ∈ taken then [.duplicateField d (pieceName piece)]
  else []

/-- The failures of the field pieces of the declaration `d`, each name checked against
`taken` and the names of the pieces before it. -/
def entriesFailures (d : String) (taken : List String) (pieces : List (List Char)) :
    List SchemaError :=
  checkEach (fun earlier piece =>
    entryFailures d (taken ++ earlier.filterMap fun p => some (pieceName p)) piece) pieces

/-- The failures of reading a declaration line, in the order of the scan. -/
def declarationFailures (line : String) : List SchemaError :=
  let chars := trimBlankChars line.toList
  let d := String.ofList chars
  match cutChars (· == ':') chars with
  | none => [.missingSeparator d]
  | some (rawName, rest) =>
    (if trimBlankChars rawName = [] then [.emptyVariantName d]
      else if !isIdentifierChars (trimBlankChars rawName) then
        [.invalidIdentifier d (String.ofList (trimBlankChars rawName))]
      else []) ++
    entriesFailures d [] (splitChars ',' rest)

/-! ## Field entries -/

/-- A trimmed entry with a blank ends after it with a character that is not blank, so its
name part is not empty. -/
theorem entryName_ne_nil {piece : List Char} (filled : trimBlankChars piece ≠ []) :
    entryName (trimBlankChars piece) ≠ [] := by
  unfold entryName
  cases cut : cutChars isBlank (trimBlankChars piece) with
  | none => exact filled
  | some parts =>
    obtain ⟨type, rest⟩ := parts
    obtain ⟨gap, blank, split, -⟩ := cutChars_spec cut
    intro empty
    -- the last character of the entry is the gap or one of `rest`, all of them blank
    obtain ⟨c, last⟩ := Option.isSome_iff_exists.mp (List.getLast?_isSome.mpr filled)
    have tail : (gap :: rest).getLast? = some c := by
      rwa [split, List.getLast?_append_of_ne_nil _ (List.cons_ne_nil _ _)] at last
    have member := List.mem_of_getLast? tail
    have blankLast : isBlank c = true := by
      rcases List.mem_cons.mp member with rfl | member
      · exact blank
      · exact blank_of_trimBlankChars_eq_nil empty c member
    rw [getLast?_trimBlankChars last] at blankLast
    cases blankLast

/-- Reading a trimmed field entry: an empty entry, a name part that is not an identifier, or
the field with its declared type and its name. -/
theorem Field.parse_trimmed (d : String) (piece : List Char) :
    Field.parse d (trimBlankChars piece) =
      if trimBlankChars piece = [] then .error (.emptyFieldName d)
      else if isIdentifierChars (entryName (trimBlankChars piece)) then
        .ok ⟨(cutChars isBlank (trimBlankChars piece)).map (String.ofList ·.1),
          pieceName piece⟩
      else .error (.invalidIdentifier d (pieceName piece)) := by
  by_cases empty : trimBlankChars piece = []
  · simp [Field.parse, empty, cutChars]
  · -- a name part follows the first blank, and it is not empty
    have named := entryName_ne_nil empty
    unfold Field.parse pieceName
    unfold entryName at named ⊢
    cases cut : cutChars isBlank (trimBlankChars piece) with
    | none => simp [empty]
    | some parts =>
      simp only [cut] at named
      simp [empty, named]

/-- An entry that reads as a field is read as that field. -/
theorem Field.parse_of_reads {entry : List Char} {f : Field} (reads : Field.Reads entry f)
    (d : String) : Field.parse d entry = .ok f := by
  cases reads with
  | @untyped name ident =>
    obtain ⟨nonempty, plain⟩ := isIdentifier_plain ident
    have uncut : cutChars isBlank name.toList = none :=
      cutChars_eq_none fun c member => (plain c member).1
    have filled : name.toList.isEmpty = false := by simpa using nonempty
    have identChars : isIdentifierChars name.toList = true := ident
    simp [Field.parse, uncut, filled, identChars]
  | @typed type rest gap name typed plain blank named ident =>
    have cut : cutChars isBlank (type ++ gap :: rest) = some (type, rest) :=
      cutChars_append_cons plain blank
    have filled : name.toList.isEmpty = false := by
      simpa using (isIdentifier_plain ident).1
    have identChars : isIdentifierChars name.toList = true := ident
    simp [Field.parse, cut, named, filled, identChars]

/-- A trimmed entry reads as a field exactly when the reader returns that field. -/
theorem Field.parse_eq_ok_iff_reads {d : String} {piece : List Char} {f : Field} :
    Field.parse d (trimBlankChars piece) = .ok f ↔ Field.Reads (trimBlankChars piece) f := by
  constructor
  · intro parsed
    rw [Field.parse_trimmed] at parsed
    split at parsed
    · cases parsed
    · split at parsed
      · rename_i _ ident
        cases parsed
        unfold pieceName
        revert ident
        unfold entryName
        cases cut : cutChars isBlank (trimBlankChars piece) with
        | none =>
          intro ident
          have reads := @Field.Reads.untyped (String.ofList (trimBlankChars piece))
            (by simpa [isIdentifier] using ident)
          simpa using reads
        | some parts =>
          obtain ⟨type, rest⟩ := parts
          intro ident
          obtain ⟨gap, blank, split, plain⟩ := cutChars_spec cut
          -- a trimmed entry starts with a character that is not blank, so the type is not empty
          have typed : type ≠ [] := by
            rintro rfl
            have first : (trimBlankChars piece).head? = some gap := by simp [split]
            rw [head?_trimBlankChars first] at blank
            cases blank
          rw [split]
          exact .typed typed plain blank (by simp) (by simpa [isIdentifier] using ident)
      · cases parsed
  · intro reads
    exact Field.parse_of_reads reads d

/-! ## The entries in order -/

/-- The first field entry is checked against the names taken before it, the rest against its
name too. -/
theorem entriesFailures_cons (d : String) (taken : List String) (piece : List Char)
    (rest : List (List Char)) :
    entriesFailures d taken (piece :: rest) =
      entryFailures d taken piece ++ entriesFailures d (pieceName piece :: taken) rest := by
  have keys := checkEach_cons_keys (entryFailures d)
    (fun t t' p same => by simp only [entryFailures, same]) (fun p => some (pieceName p))
    taken piece rest
  simp only [Option.toList_some, List.singleton_append] at keys
  exact keys

/-- **Entries.** Reading the field entries fails with the first failure of their scan, the
names taken being those of the fields already read. -/
theorem Field.parseEntries_error? {d : String} :
    ∀ {seen : List Field} {taken : List String} {pieces : List (List Char)},
      (∀ s, s ∈ taken ↔ s ∈ seen.map (·.name)) →
      Except.error? (Field.parseEntries d seen pieces) = (entriesFailures d taken pieces).head?
  | _, _, [], _ => rfl
  | seen, taken, piece :: rest, same => by
    rw [entriesFailures_cons]
    simp only [Field.parseEntries]
    rw [Field.parse_trimmed]
    by_cases empty : trimBlankChars piece = []
    · rw [if_pos empty]
      simp [bind, Except.bind, entryFailures, empty]
    · by_cases ident : isIdentifierChars (entryName (trimBlankChars piece)) = true
      · rw [if_neg empty, if_pos ident]
        simp only [bind, Except.bind]
        by_cases used : pieceName piece ∈ taken
        · have repeated : (seen.any fun s => s.name == pieceName piece) = true := by
            simpa using (same _).mp used
          simp [repeated, entryFailures, empty, ident, used, throw, throwThe, MonadExceptOf.throw]
        · have fresh : (seen.any fun s => s.name == pieceName piece) = false := by
            simpa using fun s member named =>
              used ((same _).mpr (List.mem_map.mpr ⟨s, member, named⟩))
          -- the field passes its checks, and the rest are read with its name taken
          have passes : entryFailures d taken piece = [] := by
            simp [entryFailures, empty, ident, used]
          simp only [fresh, Bool.false_eq_true, if_false]
          generalize named : Field.mk ((cutChars isBlank (trimBlankChars piece)).map
            fun x => String.ofList x.1) (pieceName piece) = field
          have same' :
              ∀ s, s ∈ pieceName piece :: taken ↔ s ∈ (seen ++ [field]).map (·.name) := by
            intro s
            rw [List.map_append, List.mem_append, List.mem_cons, same s, ← named]
            simp [or_comm]
          rw [passes, List.nil_append, ← Field.parseEntries_error? same']
          cases Field.parseEntries d (seen ++ [field]) rest <;> rfl
      · rw [if_neg empty, if_neg ident]
        simp [bind, Except.bind, entryFailures, empty, ident]

/-! ## Declarations -/

/-- **Declarations.** Reading a declaration fails with the first failure of its scan. -/
theorem Variant.parse_error? (line : String) :
    Except.error? (Variant.parse line) = (declarationFailures line).head? := by
  unfold Variant.parse declarationFailures
  dsimp only
  cases cut : cutChars (· == ':') (trimBlankChars line.toList) with
  | none => rfl
  | some parts =>
    obtain ⟨rawName, rest⟩ := parts
    by_cases empty : trimBlankChars rawName = []
    · simp [empty]
    · by_cases ident : isIdentifierChars (trimBlankChars rawName) = true
      · -- the name passes, and the entries are read with no name taken
        simp [empty, ident]
        exact Field.parseEntries_error? (by simp)
      · simp [empty, ident]

/-- A line reads as a variant exactly when the reader returns that variant. -/
theorem Variant.parse_eq_ok_iff_reads {line : String} {v : Variant} :
    Variant.parse line = .ok v ↔ Variant.Reads (trimBlankChars line.toList) v := by
  constructor
  · intro parsed
    unfold Variant.parse at parsed
    dsimp only at parsed
    cases cut : cutChars (· == ':') (trimBlankChars line.toList) with
    | none => simp [cut] at parsed
    | some parts =>
      obtain ⟨rawName, rest⟩ := parts
      obtain ⟨colon, isColon, split, before⟩ := cutChars_spec cut
      obtain rfl : colon = ':' := by simpa using isColon
      by_cases empty : trimBlankChars rawName = []
      · simp [cut, empty] at parsed
      · by_cases ident : isIdentifierChars (trimBlankChars rawName) = true
        · simp [cut, empty, ident] at parsed
          obtain ⟨fields, entries, rfl⟩ := Except.map_eq_ok.mp parsed
          obtain ⟨related, nodup, -⟩ := Field.parseEntries_eq_ok_iff.mp entries
          have noColon : ':' ∉ rawName := fun member => by simpa using before ':' member
          refine ⟨⟨rawName, rest, split, noColon, by simp, ?_⟩,
            by simpa [isIdentifier] using ident, nodup⟩
          exact related.imp fun piece f read => Field.parse_eq_ok_iff_reads.mp read
        · simp [cut, empty, ident] at parsed
  · intro reads
    obtain ⟨rawName, rest, split, noColon, named, fields⟩ := reads.cut
    have cut : cutChars (· == ':') (trimBlankChars line.toList) = some (rawName, rest) := by
      rw [split]
      refine cutChars_append_cons (fun c member => ?_) (by simp)
      simpa using fun same : c = ':' => noColon (same ▸ member)
    have entries : Field.parseEntries (String.ofList (trimBlankChars line.toList)) []
        (splitChars ',' rest) = .ok v.fields :=
      Field.parseEntries_eq_ok_iff.mpr ⟨fields.imp fun piece f read =>
        Field.parse_eq_ok_iff_reads.mpr read, reads.names_nodup, by simp⟩
    have filled : v.name ≠ "" := fun empty =>
      (isIdentifier_plain reads.name_isIdentifier).1 (by simp [empty])
    have ident : isIdentifierChars v.name.toList = true := reads.name_isIdentifier
    unfold Variant.parse
    dsimp only
    simp [cut, named, filled, ident, entries]

/-- **Reading a declaration.** A line reads as a variant exactly when the reader returns that
variant; otherwise the reader fails with the first failure of the scan, which finds none
exactly when the line reads. -/
theorem Variant.parse_reads_first_failure (line : String) :
    (∀ v, Variant.parse line = .ok v ↔ Variant.Reads (trimBlankChars line.toList) v) ∧
    (∀ e, Variant.parse line = .error e ↔ (declarationFailures line).head? = some e) ∧
    ((∃ v, Variant.Reads (trimBlankChars line.toList) v) ↔ declarationFailures line = []) := by
  have first := Variant.parse_error? line
  refine ⟨fun v => Variant.parse_eq_ok_iff_reads, fun e => ?_, ?_⟩
  · rw [← first, Except.error?_eq_some]
  · simp only [← Variant.parse_eq_ok_iff_reads]
    rw [← Except.error?_eq_none, first, List.head?_eq_none_iff]

/-- A name part with a blank in it is reported before an empty piece after it, and only the
first colon separates the name: the second belongs to a field. -/
example :
    Except.error? (Variant.parse "Get : Expr the object, , x") =
        some (.invalidIdentifier "Get : Expr the object, , x" "the object") ∧
      Except.error? (Variant.parse "\u00a0Odd : Expr a:b") =
        some (.invalidIdentifier "Odd : Expr a:b" "a:b") := by
  decide +kernel

end LoxSyntax.Schema
