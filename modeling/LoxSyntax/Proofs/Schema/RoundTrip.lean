import Mathlib
import LoxSyntax.Proofs.Checks
import LoxSyntax.Schema.Parse

/-! # The compact notation as a normal form

A declaration is in *normal form* (`Variant.WellFormed`) when its name and field
names are identifiers, it has at least one field, no two fields share a name, and
every declared type is a non-empty run of characters that are neither blank nor a
comma. Every declaration that reads successfully is in normal form
(`Variant.wellFormed_of_parse`), and a declaration in normal form reads back from
its rendering (`Variant.parse_render`). So rendering is a normal form of the
notation: reading the rendering of a read declaration gives it back, and two read
declarations with one rendering are equal (`Variant.render_normal_form`).

Declared types may hold colons and characters such as the zero-width space: only
the first colon of a declaration separates its name, and only blanks, which such
characters are not, end a type.
-/

namespace LoxSyntax.Schema

/-! ## Identifier characters -/

/-- The identifier characters are the ASCII digits, capitals, underscore and small letters. -/
theorem isIdentPart_toNat {c : Char} (part : isIdentPart c = true) :
    (48 ≤ c.toNat ∧ c.toNat ≤ 57) ∨ (65 ≤ c.toNat ∧ c.toNat ≤ 90) ∨ c.toNat = 95 ∨
      (97 ≤ c.toNat ∧ c.toNat ≤ 122) := by
  simp only [isIdentPart, Char.isAlphanum, Char.isAlpha, Char.isUpper, Char.isLower, Char.isDigit,
    Bool.or_eq_true, Bool.and_eq_true, decide_eq_true_eq, beq_iff_eq, UInt32.le_iff_toNat_le,
    Char.toNat_val] at part
  rcases part with ((⟨low, high⟩ | ⟨low, high⟩) | ⟨low, high⟩) | rfl
  all_goals simp at *
  all_goals omega

/-- An identifier character separates nothing: it is not blank, a colon or a comma. -/
theorem isIdentPart_separators {c : Char} (part : isIdentPart c = true) :
    isBlank c = false ∧ c ≠ ':' ∧ c ≠ ',' := by
  have range := isIdentPart_toNat part
  refine ⟨?_, ?_, ?_⟩
  · simp only [isBlank, Bool.or_eq_false_iff, Bool.and_eq_false_iff, beq_eq_false_iff_ne, ne_eq,
      decide_eq_false_iff_not, Nat.not_le]
    omega
  · rintro rfl
    simp at range
  · rintro rfl
    simp at range

/-- A character that may start an identifier may stand in one. -/
theorem isIdentPart_of_isIdentStart {c : Char} (start : isIdentStart c = true) :
    isIdentPart c = true := by
  simp only [isIdentStart, Bool.or_eq_true] at start
  simp only [isIdentPart, Char.isAlphanum, Bool.or_eq_true]
  rcases start with letter | underscore
  · exact .inl (.inl letter)
  · exact .inr underscore

/-- Every character of an identifier may stand in one. -/
theorem isIdentPart_of_isIdentifierChars {cs : List Char} (ident : isIdentifierChars cs = true) :
    ∀ c ∈ cs, isIdentPart c = true := by
  cases cs with
  | nil => simp [isIdentifierChars] at ident
  | cons c rest =>
    simp only [isIdentifierChars, Bool.and_eq_true, List.all_eq_true] at ident
    intro d member
    rcases List.mem_cons.mp member with rfl | member
    · exact isIdentPart_of_isIdentStart ident.1.1
    · exact ident.1.2 d member

/-- An identifier is not empty. -/
theorem ne_nil_of_isIdentifierChars {cs : List Char} (ident : isIdentifierChars cs = true) :
    cs ≠ [] := by
  rintro rfl
  simp [isIdentifierChars] at ident

/-- An identifier starts with a character that may start one, goes on with characters that
may stand in one, and is not the lone underscore. -/
theorem isIdentifierChars_cons {c : Char} {cs : List Char} :
    isIdentifierChars (c :: cs) = true ↔
      (isIdentStart c = true ∧ ∀ d ∈ cs, isIdentPart d = true) ∧ (c ≠ '_' ∨ cs ≠ []) := by
  simp only [isIdentifierChars, Bool.and_eq_true, List.all_eq_true, Bool.not_eq_eq_eq_not,
    Bool.not_true, Bool.and_eq_false_iff, beq_eq_false_iff_ne, ne_eq, List.isEmpty_eq_false_iff]

/-- An identifier is a non-empty text of characters that separate nothing. -/
theorem isIdentifier_plain {name : String} (ident : isIdentifier name = true) :
    name.toList ≠ [] ∧ ∀ c ∈ name.toList, isBlank c = false ∧ c ≠ ':' ∧ c ≠ ',' :=
  ⟨ne_nil_of_isIdentifierChars ident,
    fun c member => isIdentPart_separators (isIdentPart_of_isIdentifierChars ident c member)⟩

/-! ## Joined lists -/

/-- The last element of a join of non-empty pieces is the last element of the last piece. -/
theorem getLast?_intercalate {α : Type} (sep : List α) :
    ∀ {pieces : List (List α)}, (∀ p ∈ pieces, p ≠ []) →
      (sep.intercalate pieces).getLast? = pieces.getLast?.bind List.getLast?
  | [], _ => rfl
  | [p], _ => by simp
  | p :: q :: rest, nonempty => by
    have tail := @getLast?_intercalate α sep (q :: rest) fun r member =>
      nonempty r (by simp [member])
    have lastPiece : (q :: rest).getLast (by simp) ≠ [] :=
      nonempty _ (List.mem_cons_of_mem p (List.getLast_mem _))
    obtain ⟨c, last⟩ : ∃ c, (q :: rest).getLast?.bind List.getLast? = some c := by
      rw [List.getLast?_eq_some_getLast (by simp), Option.bind_some]
      exact Option.isSome_iff_exists.mp (List.getLast?_isSome.mpr lastPiece)
    rw [List.intercalate_cons_cons, List.getLast?_append, tail, last, List.getLast?_cons_cons, last]
    rfl

/-- An element put before a join whose separator ends with it starts every piece instead. -/
theorem cons_intercalate {α : Type} (a : α) (sep : List α) :
    ∀ {pieces : List (List α)}, pieces ≠ [] →
      a :: (sep ++ [a]).intercalate pieces = sep.intercalate (pieces.map (a :: ·))
  | [], nonempty => absurd rfl nonempty
  | [p], _ => by simp
  | p :: q :: rest, _ => by
    rw [List.intercalate_cons_cons, List.map_cons, List.map_cons, List.intercalate_cons_cons,
      ← List.map_cons, ← @cons_intercalate α a sep (q :: rest) (by simp)]
    simp

/-! ## Fields -/

/-- A field in normal form: its name is an identifier, and its declared type, when
present, is not empty and holds neither a blank nor a comma. -/
structure Field.WellFormed (f : Field) : Prop where
  name_isIdentifier : isIdentifier f.name = true
  type_ne_nil : ∀ t, f.declaredType = some t → t.toList ≠ []
  type_plain : ∀ t, f.declaredType = some t → ∀ c ∈ t.toList, isBlank c = false ∧ c ≠ ','

/-- A field in normal form reads back from its rendering. -/
theorem Field.parse_render {f : Field} (hf : f.WellFormed) (declaration : String) :
    Field.parse declaration f.render.toList = .ok f := by
  obtain ⟨declared, name⟩ := f
  have ident : isIdentifierChars name.toList = true := hf.name_isIdentifier
  obtain ⟨nonempty, plain⟩ := isIdentifier_plain hf.name_isIdentifier
  have filled : name.toList.isEmpty = false := by simpa using nonempty
  cases declared with
  | none =>
    have uncut : cutChars isBlank name.toList = none := cutChars_eq_none fun c member =>
      (plain c member).1
    simp [Field.parse, Field.render, uncut, filled, ident, String.ofList_toList]
  | some t =>
    have cut : cutChars isBlank (t.toList ++ ' ' :: name.toList) = some (t.toList, name.toList) :=
      cutChars_append_cons (fun c member => (hf.type_plain t rfl c member).1) rfl
    have trimmed : trimBlankChars name.toList = name.toList :=
      trimBlankChars_eq_self (fun c first => (plain c (List.mem_of_mem_head? first)).1)
        (fun c last => (plain c (List.mem_of_mem_getLast? last)).1)
    simp [Field.parse, Field.render, String.toList_append, cut, trimmed, filled, ident,
      String.ofList_toList]

/-- The rendering of a field in normal form is not empty, neither starts nor ends with
a blank, and holds no comma. -/
theorem Field.WellFormed.render_plain {f : Field} (hf : f.WellFormed) :
    f.render.toList ≠ [] ∧ (∀ c ∈ f.render.toList.head?, isBlank c = false) ∧
      (∀ c ∈ f.render.toList.getLast?, isBlank c = false) ∧ ',' ∉ f.render.toList := by
  obtain ⟨nonempty, plain⟩ := isIdentifier_plain hf.name_isIdentifier
  obtain ⟨declared, name⟩ := f
  cases declared with
  | none =>
    exact ⟨nonempty, fun c first => (plain c (List.mem_of_mem_head? first)).1,
      fun c last => (plain c (List.mem_of_mem_getLast? last)).1, fun comma => (plain ',' comma).2.2 rfl⟩
  | some t =>
    have typeNonempty := hf.type_ne_nil t rfl
    have typePlain := hf.type_plain t rfl
    have chars : (Field.render ⟨some t, name⟩).toList = t.toList ++ ' ' :: name.toList := by
      simp [Field.render, String.toList_append]
    rw [chars]
    refine ⟨by simp, ?_, ?_, ?_⟩
    · -- the rendering starts with the type
      obtain ⟨x, xs, start⟩ := List.exists_cons_of_ne_nil typeNonempty
      intro c first
      rw [start, List.cons_append, List.head?_cons, Option.mem_some_iff] at first
      exact (typePlain c (start ▸ first ▸ List.mem_cons_self)).1
    · -- and ends with the name
      obtain ⟨last, ends⟩ := Option.isSome_iff_exists.mp (List.getLast?_isSome.mpr nonempty)
      have rendered : (t.toList ++ ' ' :: name.toList).getLast? = some last := by
        rw [← List.singleton_append, ← List.append_assoc, List.getLast?_append, ends]
        rfl
      intro c final
      rw [rendered, Option.mem_some_iff] at final
      exact (plain c (final ▸ List.mem_of_mem_getLast? ends)).1
    · simp only [List.mem_append, List.mem_cons, not_or]
      exact ⟨fun comma => (typePlain ',' comma).2 rfl, by decide, fun comma => (plain ',' comma).2.2 rfl⟩

/-- A field that reads from an entry without commas and not starting with a blank is
in normal form. -/
theorem Field.wellFormed_of_parse {declaration : String} {entry : List Char} {f : Field}
    (parsed : Field.parse declaration entry = .ok f) (noComma : ',' ∉ entry)
    (start : ∀ c ∈ entry.head?, isBlank c = false) : f.WellFormed := by
  unfold Field.parse at parsed
  cases cut : cutChars isBlank entry with
  | none =>
    simp only [cut] at parsed
    split at parsed
    · cases parsed
    · split at parsed
      · rename_i ident
        cases parsed
        exact ⟨by simpa [isIdentifier, String.toList_ofList] using ident, by simp, by simp⟩
      · cases parsed
  | some parts =>
    obtain ⟨ty, rest⟩ := parts
    obtain ⟨b, blank, rfl, typePlain⟩ := cutChars_spec cut
    simp only [cut] at parsed
    split at parsed
    · cases parsed
    · split at parsed
      · rename_i ident
        cases parsed
        refine ⟨by simpa [isIdentifier, String.toList_ofList] using ident, ?_, ?_⟩
        · -- an empty type would leave the entry starting with the blank after it
          rintro t ⟨⟩ empty
          rw [String.toList_ofList] at empty
          subst empty
          simp [start b (by simp)] at blank
        · rintro t ⟨⟩ c member
          rw [String.toList_ofList] at member
          exact ⟨typePlain c member, fun comma => noComma (comma ▸ List.mem_append_left _ member)⟩
      · cases parsed

/-- The field entries of a declaration read as `fields` exactly when each entry, trimmed,
reads as the field beside it and no field repeats a name of `seen` or of an earlier field. -/
theorem Field.parseEntries_eq_ok_iff {declaration : String} {seen : List Field}
    {entries : List (List Char)} {fields : List Field} :
    Field.parseEntries declaration seen entries = .ok fields ↔
      List.Forall₂ (fun entry f => Field.parse declaration (trimBlankChars entry) = .ok f)
        entries fields ∧
      (fields.map (·.name)).Nodup ∧ ∀ f ∈ fields, ∀ s ∈ seen, s.name ≠ f.name := by
  induction entries generalizing seen fields with
  | nil =>
    cases fields <;> simp [Field.parseEntries]
  | cons entry rest ih =>
    simp only [Field.parseEntries, Except.bind_eq_ok]
    constructor
    · rintro ⟨f, parsed, accepted⟩
      split at accepted
      · simp at accepted
      · rename_i fresh
        obtain ⟨more, parsedMore, same⟩ := Except.bind_eq_ok.mp accepted
        obtain ⟨related, nodup, unseen⟩ := ih.mp parsedMore
        simp only [Except.pure_eq_ok] at same
        subst same
        simp only [List.any_eq_true, beq_iff_eq, not_exists, not_and] at fresh
        refine ⟨.cons parsed related, ?_, ?_⟩
        · simp only [List.map_cons, List.nodup_cons, List.mem_map, not_exists, not_and]
          exact ⟨fun g member same => unseen g member f (by simp) same.symm, nodup⟩
        · intro g member s present
          rcases List.mem_cons.mp member with rfl | member
          · exact fresh s present
          · exact unseen g member s (by simp [present])
    · rintro ⟨related, nodup, unseen⟩
      cases related with
      | cons parsed related =>
        rename_i f more
        have fresh : (seen.any fun s => s.name == f.name) = false := by
          simpa using fun s present => unseen f (by simp) s present
        have later : ∀ g ∈ more, ∀ s ∈ seen ++ [f], s.name ≠ g.name := by
          intro g member s present
          rcases List.mem_append.mp present with present | present
          · exact unseen g (by simp [member]) s present
          · obtain rfl := List.mem_singleton.mp present
            exact fun same => (List.nodup_cons.mp nodup).1 (List.mem_map.mpr ⟨g, member, same.symm⟩)
        have parsedMore := ih.mpr ⟨related, (List.nodup_cons.mp nodup).2, later⟩
        refine ⟨f, parsed, ?_⟩
        simp [fresh, parsedMore]

/-! ## Declarations -/

/-- A declaration in normal form: an identifier name, at least one field, fields in
normal form with pairwise distinct names. -/
structure Variant.WellFormed (v : Variant) : Prop where
  name_isIdentifier : isIdentifier v.name = true
  fields_ne_nil : v.fields ≠ []
  fields_wellFormed : ∀ f ∈ v.fields, f.WellFormed
  names_nodup : (v.fields.map (·.name)).Nodup

/-- The rendering of a declaration with fields: the name, a blank and the colon, then
each rendered field after one blank, the fields separated by commas. -/
theorem Variant.toList_render {v : Variant} (nonempty : v.fields ≠ []) :
    v.render.toList = (v.name.toList ++ [' ', ':']) ++
      [','].intercalate (v.fields.map fun f => ' ' :: f.render.toList) := by
  have spaced := @cons_intercalate Char ' ' [','] (v.fields.map fun f => f.render.toList)
    (by simpa using nonempty)
  simp only [List.map_map, Function.comp_def] at spaced
  simp [Variant.render, String.toList_append, ← spaced, Function.comp_def]

/-- **Reading a rendering.** A declaration in normal form reads back from its rendering. -/
theorem Variant.parse_render {v : Variant} (hv : v.WellFormed) : Variant.parse v.render = .ok v := by
  obtain ⟨nameNonempty, namePlain⟩ := isIdentifier_plain hv.name_isIdentifier
  have fieldPlain : ∀ f ∈ v.fields, f.render.toList ≠ [] ∧
      (∀ c ∈ f.render.toList.head?, isBlank c = false) ∧
      (∀ c ∈ f.render.toList.getLast?, isBlank c = false) ∧ ',' ∉ f.render.toList :=
    fun f member => (hv.fields_wellFormed f member).render_plain
  set pieces := v.fields.map fun f => ' ' :: f.render.toList with hpieces
  have chars := Variant.toList_render hv.fields_ne_nil
  rw [← hpieces] at chars
  have piecesNonempty : pieces ≠ [] := by simpa [hpieces] using hv.fields_ne_nil
  -- the rendering starts with the name and ends with the last field's name
  have trimmed : trimBlankChars v.render.toList = v.render.toList := by
    apply trimBlankChars_eq_self
    · obtain ⟨x, xs, start⟩ := List.exists_cons_of_ne_nil nameNonempty
      intro c first
      rw [chars, start] at first
      simp only [List.cons_append, List.head?_cons, Option.mem_some_iff] at first
      exact (namePlain c (first ▸ start ▸ List.mem_cons_self)).1
    · intro c final
      obtain ⟨p, lastPiece⟩ := Option.isSome_iff_exists.mp (List.getLast?_isSome.mpr piecesNonempty)
      obtain ⟨f, member, rfl⟩ := List.mem_map.mp (List.mem_of_mem_getLast? lastPiece)
      obtain ⟨x, ends⟩ :=
        Option.isSome_iff_exists.mp (List.getLast?_isSome.mpr (fieldPlain f member).1)
      have spacedEnds : (' ' :: f.render.toList).getLast? = some x := by
        rw [List.getLast?_cons, ends]
        rfl
      rw [chars, List.getLast?_append, getLast?_intercalate [','] (by simp [hpieces]), lastPiece,
        Option.bind_some, spacedEnds] at final
      obtain rfl : x = c := by simpa using final
      exact (fieldPlain f member).2.2.1 _ ends
  have cut : cutChars (· == ':') v.render.toList =
      some (v.name.toList ++ [' '], [','].intercalate pieces) := by
    rw [chars, show v.name.toList ++ [' ', ':'] ++ [','].intercalate pieces =
      (v.name.toList ++ [' ']) ++ ':' :: [','].intercalate pieces by simp]
    refine cutChars_append_cons ?_ rfl
    intro c member
    rcases List.mem_append.mp member with member | member
    · simpa using (namePlain c member).2.1
    · simp_all
  have trimmedName : trimBlankChars (v.name.toList ++ [' ']) = v.name.toList := by
    simpa using trimBlankChars_pad [] [' '] (by simp) (by simp [isBlank])
      (fun c first => (namePlain c (List.mem_of_mem_head? first)).1)
      (fun c last => (namePlain c (List.mem_of_mem_getLast? last)).1)
  have split : splitChars ',' ([','].intercalate pieces) = pieces := by
    apply splitChars_intercalate piecesNonempty
    simp only [hpieces, List.mem_map, forall_exists_index, and_imp]
    rintro _ f member rfl
    simpa using (fieldPlain f member).2.2.2
  have entries : Field.parseEntries v.render [] pieces = .ok v.fields := by
    refine Field.parseEntries_eq_ok_iff.mpr ⟨?_, hv.names_nodup, by simp⟩
    rw [hpieces, List.forall₂_map_left_iff, List.forall₂_same]
    intro f member
    have padded : trimBlankChars (' ' :: f.render.toList) = f.render.toList := by
      simpa using trimBlankChars_pad [' '] [] (by simp [isBlank]) (by simp)
        (fieldPlain f member).2.1 (fieldPlain f member).2.2.1
    rw [padded]
    exact Field.parse_render (hv.fields_wellFormed f member) _
  have ident : isIdentifierChars v.name.toList = true := hv.name_isIdentifier
  simp [Variant.parse, trimmed, cut, trimmedName, split, entries, ident, nameNonempty,
    String.ofList_toList]

/-- **Reading gives normal forms.** A declaration that reads successfully is in normal form. -/
theorem Variant.wellFormed_of_parse {line : String} {v : Variant}
    (parsed : Variant.parse line = .ok v) : v.WellFormed := by
  unfold Variant.parse at parsed
  cases cut : cutChars (· == ':') (trimBlankChars line.toList) with
  | none => simp [cut] at parsed
  | some parts =>
    obtain ⟨rawName, fieldList⟩ := parts
    simp only [cut] at parsed
    split at parsed
    · simp at parsed
    · split at parsed
      · rename_i ident
        obtain ⟨fields, parsedFields, same⟩ := Except.bind_eq_ok.mp parsed
        simp only [Except.pure_eq_ok] at same
        subst same
        obtain ⟨entries, nodup, -⟩ := Field.parseEntries_eq_ok_iff.mp parsedFields
        refine ⟨by simpa [isIdentifier, String.toList_ofList] using ident, ?_, ?_, nodup⟩
        · -- splitting always gives an entry, and each entry gives a field
          intro empty
          subst empty
          exact splitChars_ne_nil ',' fieldList (List.forall₂_nil_right_iff.mp entries)
        · intro f member
          obtain ⟨piece, present, parsedField⟩ := exists_of_forall₂_of_mem entries member
          refine Field.wellFormed_of_parse parsedField ?_ fun c first => head?_trimBlankChars first
          exact fun comma => not_mem_of_mem_splitChars present (trimBlankChars_subset piece comma)
      · simp at parsed

/-- **Rendering is a normal form of the notation.** Reading the rendering of a
declaration that was read gives the declaration back; hence two read declarations
with one rendering are equal, and rendering what reads from a rendering gives that
rendering again. -/
theorem Variant.render_normal_form {line : String} {v : Variant} (parsed : Variant.parse line = .ok v) :
    Variant.parse v.render = .ok v ∧
      (∀ line' w, Variant.parse line' = .ok w → w.render = v.render → w = v) ∧
      (Variant.parse v.render).map Variant.render = .ok v.render := by
  have roundTrip := Variant.parse_render (Variant.wellFormed_of_parse parsed)
  refine ⟨roundTrip, ?_, by rw [roundTrip]; rfl⟩
  intro line' w parsedOther same
  have back := Variant.parse_render (Variant.wellFormed_of_parse parsedOther)
  rw [same, roundTrip] at back
  exact (Except.ok.inj back).symm

/-- A padded line with a type holding a colon and a zero-width space reads back from
its rendering. -/
theorem render_normal_form_padded :
    Variant.parse "　Get :Expr  object,Token name , x:y​  z " =
        .ok ⟨"Get", [⟨some "Expr", "object"⟩, ⟨some "Token", "name"⟩, ⟨some "x:y​", "z"⟩]⟩ ∧
      Variant.parse "Get : Expr object, Token name, x:y​ z" =
        .ok ⟨"Get", [⟨some "Expr", "object"⟩, ⟨some "Token", "name"⟩, ⟨some "x:y​", "z"⟩]⟩ :=
  have parsed : Variant.parse "　Get :Expr  object,Token name , x:y​  z " =
      .ok ⟨"Get", [⟨some "Expr", "object"⟩, ⟨some "Token", "name"⟩, ⟨some "x:y​", "z"⟩]⟩ := by
    decide
  ⟨parsed, (Variant.render_normal_form parsed).1⟩

end LoxSyntax.Schema
