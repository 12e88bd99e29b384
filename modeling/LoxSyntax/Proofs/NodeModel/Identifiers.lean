import LoxSyntax.Proofs.NodeModel.Names
import LoxSyntax.Proofs.NodeModel.SnakeCase
import LoxSyntax.Proofs.NodeModel.TypeGrammar
import LoxSyntax.Proofs.Schema.Listing

/-! # The identifiers the emitter spells

The emitter turns texts into identifiers of the generated code at a few places, and the
constructor it uses refuses a text that is no identifier. For a grammar these texts are its
base name, its visitor trait and the visitor's parameter (the base in snake case), and for
each variant its name, its node struct, its visitor method, the identifier of each field and
the names the field's type writes (`plainIdentifierTexts`). A field whose snake-case name is a
keyword is written raw instead (`rawIdentifierTexts`), and the raw constructor refuses, besides
non-identifiers, the path words and the lone underscore.

Every such text is an identifier when the grammars were read from schema text
(`isIdentifier_of_mem_plainIdentifierTexts`): reading checks the base, variant and field names;
joining identifier characters keeps an identifier; snake case keeps one; and a field type
resolves only when the names it writes are identifiers. The raw texts are keywords that the
raw constructor takes. Main statement: `emitted_identifiers_spelled`, for any constructors that
refuse no more than the documented texts. The import paths play no part: the code reader reads
them, and these constructors never see them.
-/

namespace LoxSyntax.NodeModel

open LoxSyntax.Schema LoxSyntax.Code

/-- The names a field type writes as types of its own: its nodes and named types, at any
depth. -/
def FieldType.typeNames : FieldType → List String
  | .node name | .named name => [name]
  | .token | .literal => []
  | .list inner | .optional inner => inner.typeNames

/-- The texts the emitter makes plain identifiers of for the grammar `g`, the base names
being `bases`. -/
def plainIdentifierTexts (bases : List String) (g : Grammar) : List String :=
  g.baseName :: visitorName g.baseName :: snakeCase g.baseName ::
    g.variants.flatMap fun v =>
      v.name :: nodeTypeName v.name g.baseName :: visitMethodName v.name g.baseName ::
        v.fields.flatMap fun f =>
          ((f.ident.filter (!·.raw)).map (·.name)).toList ++
            ((FieldType.resolve f.declaredType bases).map FieldType.typeNames).getD []

/-- The texts the emitter makes raw identifiers of for the grammar `g`: the snake-case field
names that are keywords. -/
def rawIdentifierTexts (g : Grammar) : List String :=
  g.variants.flatMap fun v => v.fields.filterMap fun f => (f.ident.filter (·.raw)).map (·.name)

/-- The texts the raw constructor refuses although they are identifiers. -/
def unrawableTexts : List String := ["self", "Self", "super", "crate", "_"]

/-! ## Joining identifiers -/

/-- An identifier followed by characters that may stand in an identifier is an identifier. -/
theorem isIdentifier_append {a b : String} (ident : isIdentifier a = true)
    (parts : ∀ c ∈ b.toList, isIdentPart c = true) : isIdentifier (a ++ b) = true := by
  obtain ⟨c, rest, chars⟩ := List.exists_cons_of_ne_nil (ne_nil_of_isIdentifierChars ident)
  have start : isIdentifierChars (c :: rest) = true := chars ▸ ident
  obtain ⟨⟨first, later⟩, lone⟩ := isIdentifierChars_cons.mp start
  have joined : (a ++ b).toList = c :: (rest ++ b.toList) := by
    rw [String.toList_append, chars, List.cons_append]
  rw [isIdentifier, joined, isIdentifierChars_cons]
  refine ⟨⟨first, fun d member => ?_⟩, ?_⟩
  · rcases List.mem_append.mp member with member | member
    · exact later d member
    · exact parts d member
  · rcases lone with plain | filled
    · exact .inl plain
    · exact .inr fun empty => filled (List.append_eq_nil_iff.mp empty).1

/-- Every character of an identifier may stand in one. -/
theorem isIdentPart_of_isIdentifier {s : String} (ident : isIdentifier s = true) :
    ∀ c ∈ s.toList, isIdentPart c = true :=
  isIdentPart_of_isIdentifierChars ident

/-- The snake case of an identifier is an identifier. -/
theorem isIdentifier_snakeCase {s : String} (ident : isIdentifier s = true) :
    isIdentifier (snakeCase s) = true := by
  rw [isIdentifier, toList_snakeCase]
  exact isIdentifierChars_snakeCaseChars ident

/-- The visitor trait of a base that is an identifier is named by an identifier. -/
theorem isIdentifier_visitorName {base : String} (ident : isIdentifier base = true) :
    isIdentifier (visitorName base) = true := by
  apply isIdentifier_append ident
  simp [isIdentPart]

/-- The node struct of a variant is named by an identifier when the variant and the base are
identifiers. -/
theorem isIdentifier_nodeTypeName {variant base : String} (named : isIdentifier variant = true)
    (based : isIdentifier base = true) : isIdentifier (nodeTypeName variant base) = true :=
  isIdentifier_append named (isIdentPart_of_isIdentifier based)

/-- The visitor method of a variant, `visit_` and the snake cases of the variant and the base
joined by an underscore, is an identifier when the variant and the base are. -/
theorem isIdentifier_visitMethodName {variant base : String}
    (named : isIdentifier variant = true) (based : isIdentifier base = true) :
    isIdentifier (visitMethodName variant base) = true := by
  have prefixed : isIdentifier ("visit_" ++ snakeCase variant) = true :=
    isIdentifier_append (by decide) (isIdentPart_of_isIdentifier (isIdentifier_snakeCase named))
  have joined : isIdentifier ("visit_" ++ snakeCase variant ++ "_") = true :=
    isIdentifier_append prefixed (by simp [isIdentPart])
  exact isIdentifier_append joined (isIdentPart_of_isIdentifier (isIdentifier_snakeCase based))

/-! ## Field identifiers and types -/

/-- A plain field identifier is the snake-case field name, an identifier. -/
theorem isIdentifier_of_plain_ident {f : Field} {i : Ident} (named : isIdentifier f.name = true)
    (spelled : f.ident = some i) : isIdentifier i.name = true := by
  rw [Ident.name_of_forField? spelled]
  exact isIdentifier_snakeCase named

/-- Every type name a spelled field type writes is an identifier. -/
theorem FieldType.Spells.isIdentifier_typeNames {bases : List String} {cs : List Char}
    {t : FieldType} (spelled : FieldType.Spells bases cs t) :
    ∀ name ∈ t.typeNames, isIdentifier name = true := by
  induction spelled with
  | list _ _ _ ih | optional _ _ _ _ ih => exact ih
  | token => simp [FieldType.typeNames]
  | node ident | named ident =>
    intro name member
    rw [List.mem_singleton.mp member]
    exact ident

/-- Every type name a resolved field type writes is an identifier. -/
theorem isIdentifier_of_resolve {bases : List String} {declared : Option String} {t : FieldType}
    (resolved : FieldType.resolve declared bases = some t) :
    ∀ name ∈ t.typeNames, isIdentifier name = true := by
  cases declared with
  | none =>
    obtain rfl : t = .literal := (Option.some.inj resolved).symm
    simp [FieldType.typeNames]
  | some text =>
    exact (FieldType.resolveText_eq_some_iff.mp resolved).isIdentifier_typeNames

/-! ## The grammar's texts -/

/-- Every text the emitter makes a plain identifier of is an identifier, when the grammar's
base, variant and field names are. -/
theorem isIdentifier_of_mem_plainIdentifierTexts {bases : List String} {g : Grammar}
    (based : isIdentifier g.baseName = true) (formed : ∀ v ∈ g.variants, v.WellFormed) :
    ∀ s ∈ plainIdentifierTexts bases g, isIdentifier s = true := by
  intro s member
  simp only [plainIdentifierTexts, List.mem_cons, List.mem_flatMap] at member
  rcases member with rfl | rfl | rfl | ⟨v, variant, member⟩
  · exact based
  · exact isIdentifier_visitorName based
  · exact isIdentifier_snakeCase based
  have named := (formed v variant).name_isIdentifier
  rcases member with rfl | rfl | rfl | ⟨f, field, member⟩
  · exact named
  · exact isIdentifier_nodeTypeName named based
  · exact isIdentifier_visitMethodName named based
  have fieldNamed := ((formed v variant).fields_wellFormed f field).name_isIdentifier
  rcases List.mem_append.mp member with spelled | typed
  · -- the plain identifier of the field
    obtain ⟨i, plain, rfl⟩ : ∃ i, f.ident.filter (!·.raw) = some i ∧ s = i.name := by
      simpa [eq_comm] using spelled
    exact isIdentifier_of_plain_ident fieldNamed (Option.eq_some_of_filter_eq_some plain)
  · -- a name the field's type writes
    cases resolved : FieldType.resolve f.declaredType bases with
    | none => simp [resolved] at typed
    | some t =>
      rw [resolved, Option.map_some, Option.getD_some] at typed
      exact isIdentifier_of_resolve resolved s typed

/-- Every text the emitter writes as a raw identifier is one of the words written raw. -/
theorem mem_rawWords_of_mem_rawIdentifierTexts {g : Grammar} :
    ∀ s ∈ rawIdentifierTexts g, s ∈ rawWords := by
  intro s member
  simp only [rawIdentifierTexts, List.mem_flatMap, List.mem_filterMap] at member
  obtain ⟨v, -, f, -, found⟩ := member
  obtain ⟨i, kept, rfl⟩ := Option.map_eq_some_iff.mp found
  obtain ⟨spelled, raw⟩ := Option.filter_eq_some_iff.mp kept
  exact Ident.mem_rawWords_of_forField? spelled raw

/-- The raw keywords are identifiers, and none is a text the raw constructor refuses. -/
theorem rawWords_spelled : ∀ w ∈ rawWords, isIdentifier w = true ∧ w ∉ unrawableTexts := by
  decide

/-- **No identifier is refused.** For grammars read from schema text, every text the emitter
makes an identifier of is one: a plain identifier is a non-empty ASCII identifier other than
the lone underscore, and a raw one a keyword that may be written raw, which none of `self`,
`Self`, `super`, `crate` and `_` is. So constructors that refuse only texts that are no
identifiers, and for raw identifiers also those five, refuse none of them. -/
theorem emitted_identifiers_spelled {gs : List Grammar}
    (parsed : ∀ g ∈ gs, ∃ base lines, Grammar.parse base lines = .ok g)
    (newRefuses rawRefuses : String → Prop)
    (newRefusesOnly : ∀ s, newRefuses s → isIdentifier s = false)
    (rawRefusesOnly : ∀ s, rawRefuses s → isIdentifier s = false ∨ s ∈ unrawableTexts) :
    (∀ w ∈ unrawableTexts, w ∉ rawWords) ∧
    ∀ g ∈ gs,
      (∀ s ∈ plainIdentifierTexts (gs.map (·.baseName)) g, isIdentifier s = true ∧ ¬ newRefuses s) ∧
      (∀ s ∈ rawIdentifierTexts g, s ∈ rawWords ∧ ¬ rawRefuses s) := by
  refine ⟨fun w unrawable raw => (rawWords_spelled w raw).2 unrawable, fun g member => ?_⟩
  obtain ⟨base, lines, read⟩ := parsed g member
  obtain ⟨based, formed⟩ := Grammar.names_of_parse read
  constructor
  · intro s plain
    have ident := isIdentifier_of_mem_plainIdentifierTexts based formed s plain
    refine ⟨ident, fun refused => ?_⟩
    rw [newRefusesOnly s refused] at ident
    cases ident
  · intro s raw
    have keyword := mem_rawWords_of_mem_rawIdentifierTexts s raw
    obtain ⟨ident, allowed⟩ := rawWords_spelled s keyword
    refine ⟨keyword, fun refused => ?_⟩
    rcases rawRefusesOnly s refused with notIdent | unrawable
    · rw [notIdent] at ident
      cases ident
    · exact allowed unrawable

/-- A grammar read from one declaration: the field `type` is written raw, `fooBar` becomes
`foo_bar`, and the visitor method is `visit_cast_expr`. -/
theorem emitted_identifiers_spelled_cast :
    let gs : List Grammar :=
      [⟨"Expr", [⟨"Cast", [⟨some "Expr", "type"⟩, ⟨some "Option<Token>", "fooBar"⟩]⟩]⟩]
    (∀ g ∈ gs, ∃ base lines, Grammar.parse base lines = .ok g) ∧
      (∀ w ∈ unrawableTexts, w ∉ rawWords) ∧
      ∀ g ∈ gs,
        (∀ s ∈ plainIdentifierTexts (gs.map (·.baseName)) g,
          isIdentifier s = true ∧ ¬ isIdentifier s = false) ∧
        (∀ s ∈ rawIdentifierTexts g,
          s ∈ rawWords ∧ ¬ (isIdentifier s = false ∨ s ∈ unrawableTexts)) := by
  intro gs
  have parsed : ∀ g ∈ gs, ∃ base lines, Grammar.parse base lines = .ok g := by
    intro g member
    rw [List.mem_singleton.mp member]
    exact ⟨"Expr", ["Cast : Expr type, Option<Token> fooBar"], rfl⟩
  exact ⟨parsed, emitted_identifiers_spelled parsed (fun s => isIdentifier s = false)
    (fun s => isIdentifier s = false ∨ s ∈ unrawableTexts) (fun _ refused => refused)
    (fun _ refused => refused)⟩

end LoxSyntax.NodeModel
