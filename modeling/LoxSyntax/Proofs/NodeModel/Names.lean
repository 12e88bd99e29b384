import LoxSyntax.NodeModel.Source
import LoxSyntax.Proofs.NodeModel.Resolution

/-! # Names of the node model

The emitter checks every name it is about to declare before building an item. This
module says what those checks guarantee, on both sides.

* On the schema: `NamesDistinct gs` asks that the imported types, the base enums, the
  visitor traits and the node structs have distinct names, that no variant is named
  `Self`, that every field has an identifier and the identifiers of a variant are
  distinct, and that the visitor methods of a grammar are distinct. Emission succeeds
  only for such schemas (`namesDistinct_of_emitItems`). It fails with a naming error
  (`DuplicateBase`, `NameCollision`, `ReservedName`) only for a schema that is not
  (`emitItems_error`); any other error is an unreadable import or a field type that
  does not resolve.
* On the emitted items: `ItemsWellNamed` asks that each type be declared once, that no
  enum have a variant `Self`, that no struct have two fields with one identifier or a
  field named by a path word, and that no trait have two methods with one name.
  Every successful emission is well named (`itemsWellNamed_of_emitItems`).

`generate_names_distinct` puts both sides together for the generated source.
-/

namespace LoxSyntax.Schema

open LoxSyntax.NodeModel LoxSyntax.Code

/-! ## Names the schema asks for -/

/-- The identifier field `f` is emitted under: its snake-case name, raw if needed; none
for a name that no spelling makes a field name. -/
def Field.ident (f : Field) : Option Ident := Ident.forField? (snakeCase f.name)

/-- Fields that can all be emitted, under distinct identifiers none of which is `taken`. -/
def FieldsFresh (taken : List String) (fields : List Field) : Prop :=
  (∀ f ∈ fields, f.ident.isSome) ∧ ((fields.filterMap Field.ident).map Ident.text).Nodup ∧
    ∀ i ∈ fields.filterMap Field.ident, i.text ∉ taken

/-- The names a variant's node declares: the variant is not `Self`, and its fields can
be emitted under distinct identifiers. -/
def Variant.NamesDistinct (v : Variant) : Prop :=
  v.name ≠ "Self" ∧ FieldsFresh [] v.fields

/-- The names a grammar's family declares inside its items: those of each variant, and
one visitor method per variant. -/
def Grammar.NamesDistinct (g : Grammar) : Prop :=
  (∀ v ∈ g.variants, v.NamesDistinct) ∧
    (g.variants.map fun v => visitMethodName v.name g.baseName).Nodup

instance (taken : List String) (fields : List Field) : Decidable (FieldsFresh taken fields) :=
  instDecidableAnd

instance (v : Variant) : Decidable v.NamesDistinct := instDecidableAnd

instance (g : Grammar) : Decidable g.NamesDistinct := instDecidableAnd

end LoxSyntax.Schema

namespace LoxSyntax.NodeModel

open LoxSyntax.Schema LoxSyntax.Code

variable {tools : CodeTools}

/-- The names the node model of `gs` declares: the imported types and the types every
grammar claims are distinct, and so are the names inside each family. -/
def NamesDistinct (gs : List Grammar) : Prop :=
  (importedTypes ++ (gs.flatMap Grammar.typeClaims).map Prod.snd).Nodup ∧
    ∀ g ∈ gs, g.NamesDistinct

instance (gs : List Grammar) : Decidable (NamesDistinct gs) := instDecidableAnd

/-- The kinds of error that a clash or a misuse of names causes. -/
def nameErrorKinds : List String := ["DuplicateBase", "NameCollision", "ReservedName"]

/-- The kinds of error that an input the emitter cannot read causes. -/
def inputErrorKinds : List String := ["InvalidImport", "UnsupportedType"]

/-! ## Fields -/

/-- Resolved fields stand beside the identifiers of the declared fields. -/
theorem filterMap_ident_of_forall₂ {bases : List String} :
    ∀ {fields : List Field} {resolved : List (Ident × FieldType)},
      List.Forall₂ (FieldResolves bases) fields resolved →
        fields.filterMap Field.ident = resolved.map (·.1)
  | _, _, .nil => rfl
  | _, _, .cons resolves rest => by
    simp [Field.ident, resolves.1, filterMap_ident_of_forall₂ rest]

/-- Fields fresh against `taken` stay fresh, past the first, against `taken` and the
first field's identifier. -/
theorem FieldsFresh.tail {taken : List String} {f : Field} {rest : List Field} {i : Ident}
    (fresh : FieldsFresh taken (f :: rest)) (named : f.ident = some i) :
    FieldsFresh (i.text :: taken) rest := by
  obtain ⟨spellable, distinct, unused⟩ := fresh
  simp only [List.filterMap_cons, named, List.map_cons, List.nodup_cons] at distinct unused
  refine ⟨fun g member => spellable g (List.mem_cons_of_mem _ member), distinct.2, ?_⟩
  intro j member
  rw [List.mem_cons, not_or]
  exact ⟨fun same => distinct.1 (List.mem_map.mpr ⟨j, member, same⟩),
    unused j (List.mem_cons_of_mem _ member)⟩

/-- Fields that resolve have fresh identifiers. -/
theorem FieldsFresh.of_resolveFields {bases : List String} {variant : String}
    {taken : List String} {fields : List Field} {resolved : List (Ident × FieldType)}
    (succeeded : resolveFields bases variant taken fields = .ok resolved) :
    FieldsFresh taken fields := by
  obtain ⟨related, distinct, unused⟩ := resolveFields_eq_ok_iff.mp succeeded
  have idents := filterMap_ident_of_forall₂ related
  refine ⟨?_, by simpa [idents, Function.comp_def] using distinct, by simpa [idents] using unused⟩
  have spelled := (List.forall₂_and_left _ _).mp (related.imp fun f r resolves =>
    (⟨by simp [Field.ident, resolves.1], resolves⟩ : f.ident.isSome ∧ FieldResolves bases f r))
  exact spelled.1

/-- **Field errors.** Resolving fields fails on a type that does not resolve, or with a
naming error, and then the fields are not fresh. -/
theorem resolveFields_error {bases : List String} {variant : String} {e : GenerateError} :
    ∀ {taken : List String} {fields : List Field},
      resolveFields bases variant taken fields = .error e →
        e.kind = "UnsupportedType" ∨ (e.kind ∈ nameErrorKinds ∧ ¬ FieldsFresh taken fields)
  | _, [], failed => by simp [resolveFields] at failed
  | taken, f :: rest, failed => by
    cases typed : FieldType.resolve f.declaredType bases with
    | none =>
      simp only [resolveFields, typed, Except.throw_eq_error] at failed
      subst failed
      exact .inl rfl
    | some ty =>
      cases named : Ident.forField? (snakeCase f.name) with
      | none =>
        simp only [resolveFields, typed, named, Except.throw_eq_error] at failed
        subst failed
        refine .inr ⟨by simp [nameErrorKinds, GenerateError.kind], fun fresh => ?_⟩
        simpa [Field.ident, named] using fresh.1 f List.mem_cons_self
      | some ident =>
        simp only [resolveFields, typed, named] at failed
        by_cases used : taken.contains ident.text
        · simp only [used, if_true, Except.throw_bind, Except.throw_eq_error] at failed
          subst failed
          refine .inr ⟨by simp [nameErrorKinds, GenerateError.kind], fun fresh => ?_⟩
          refine fresh.2.2 ident (by simp [Field.ident, named]) ?_
          simpa using used
        · simp only [used, Bool.false_eq_true, if_false, Except.bind_eq_error,
            Except.pure_ne_error, and_false, exists_false, or_false] at failed
          rcases resolveFields_error failed with unsupported | ⟨naming, stale⟩
          · exact .inl unsupported
          · exact .inr ⟨naming, fun fresh => stale (FieldsFresh.tail fresh named)⟩

/-! ## Nodes and families -/

/-- A variant that resolves is not named `Self` and its fields have distinct identifiers. -/
theorem namesDistinct_of_resolveNode {bases : List String} {base : String} {v : Variant}
    {n : Node} (resolved : resolveNode bases base v = .ok n) : v.NamesDistinct := by
  obtain ⟨plain, fields, resolvedFields, -⟩ := resolveNode_eq_ok_iff.mp resolved
  exact ⟨plain, FieldsFresh.of_resolveFields resolvedFields⟩

/-- **Node errors.** Resolving a variant fails on a field type that does not resolve, or
with a naming error, and then the variant's names are not distinct. -/
theorem resolveNode_error {bases : List String} {base : String} {v : Variant}
    {e : GenerateError} (failed : resolveNode bases base v = .error e) :
    e.kind = "UnsupportedType" ∨ (e.kind ∈ nameErrorKinds ∧ ¬ v.NamesDistinct) := by
  unfold resolveNode at failed
  by_cases reserved : v.name = "Self"
  · simp only [reserved, beq_self_eq_true, if_true, Except.throw_bind,
      Except.throw_eq_error] at failed
    subst failed
    exact .inr ⟨by simp [nameErrorKinds, GenerateError.kind], fun distinct => distinct.1 reserved⟩
  · have plain : (v.name == "Self") = false := by simpa using reserved
    simp only [plain, Bool.false_eq_true, if_false, Except.bind_eq_error, Except.pure_ne_error,
      and_false, exists_false, or_false] at failed
    rcases resolveFields_error failed with unsupported | ⟨naming, stale⟩
    · exact .inl unsupported
    · exact .inr ⟨naming, fun distinct => stale distinct.2⟩

/-- Nodes resolved from variants take, in order, what their variants determine. -/
theorem map_of_resolveNodes {γ : Type} {bases : List String} {base : String}
    {variants : List Variant} {nodes : List Node} (view : Node → γ) (expected : Variant → γ)
    (agrees : ∀ v n, resolveNode bases base v = .ok n → expected v = view n)
    (resolved : variants.mapM (resolveNode bases base) = .ok nodes) :
    nodes.map view = variants.map expected :=
  (map_eq_map_of_forall₂ agrees (Except.mapM_eq_ok_iff.mp resolved)).symm

/-- The visitor methods of resolved nodes are those their variants name. -/
theorem methods_of_resolveNodes {bases : List String} {base : String}
    {variants : List Variant} {nodes : List Node}
    (resolved : variants.mapM (resolveNode bases base) = .ok nodes) :
    nodes.map (·.method) = variants.map fun v => visitMethodName v.name base :=
  map_of_resolveNodes _ _ (fun v n resolvedNode => by
    obtain ⟨-, -, -, rfl⟩ := resolveNode_eq_ok_iff.mp resolvedNode
    rfl) resolved

/-- A grammar that resolves has the names of its variants and of its visitor methods
distinct. -/
theorem namesDistinct_of_resolveGrammar {bases : List String} {g : Grammar} {family : Family}
    (resolved : resolveGrammar bases g = .ok family) : g.NamesDistinct := by
  obtain ⟨-, nodes, methods⟩ := resolveGrammar_eq_ok_iff.mp resolved
  refine ⟨fun v member => ?_, ?_⟩
  · obtain ⟨n, -, resolvedNode⟩ := exists_of_mem_of_forall₂ (Except.mapM_eq_ok_iff.mp nodes) member
    exact namesDistinct_of_resolveNode resolvedNode
  · rw [← methods_of_resolveNodes nodes]
    exact methods

/-- **Family errors.** Resolving a grammar fails on a field type that does not resolve, or
with a naming error, and then the grammar's names are not distinct. -/
theorem resolveGrammar_error {bases : List String} {g : Grammar} {e : GenerateError}
    (failed : resolveGrammar bases g = .error e) :
    e.kind = "UnsupportedType" ∨ (e.kind ∈ nameErrorKinds ∧ ¬ g.NamesDistinct) := by
  unfold resolveGrammar at failed
  cases resolved : g.variants.mapM (resolveNode bases g.baseName) with
  | error e' =>
    simp only [resolved, bind, Except.bind, Except.error.injEq] at failed
    subst failed
    obtain ⟨v, member, failedAt⟩ := Except.mapM_eq_error resolved
    rcases resolveNode_error failedAt with unsupported | ⟨naming, stale⟩
    · exact .inl unsupported
    · exact .inr ⟨naming, fun distinct => stale (distinct.1 v member)⟩
  | ok nodes =>
    simp only [resolved, bind, Except.bind] at failed
    cases collision : firstCollision [] (nodes.map fun n => (n.variant, n.method)) with
    | none => simp [collision, pure, Except.pure] at failed
    | some clash =>
      simp only [collision, throw, throwThe, MonadExceptOf.throw, Except.error.injEq] at failed
      subst failed
      refine .inr ⟨by simp [nameErrorKinds, GenerateError.kind], fun distinct => ?_⟩
      -- distinct visitor methods leave nothing for the collision check to find
      have methods : (nodes.map (·.method)).Nodup := by
        rw [methods_of_resolveNodes resolved]
        exact distinct.2
      have free : firstCollision [] (nodes.map fun n => (n.variant, n.method)) = none :=
        firstCollision_eq_none_iff.mpr ⟨by simpa [Function.comp_def] using methods, by simp⟩
      rw [free] at collision
      cases collision

/-! ## The whole schema -/

/-- The imported types are distinct, so the type names are exactly when the claimed
ones are distinct and none is imported. -/
theorem typeNames_nodup_iff {claims : List (String × String)} :
    (importedTypes ++ claims.map Prod.snd).Nodup ↔
      (claims.map Prod.snd).Nodup ∧ ∀ c ∈ claims, c.2 ∉ importedTypes := by
  have imported : importedTypes.Nodup := by decide
  simp only [List.nodup_append, imported, true_and, List.mem_map]
  constructor
  · rintro ⟨distinct, apart⟩
    exact ⟨distinct, fun c member present => apart c.2 present c.2 ⟨c, member, rfl⟩ rfl⟩
  · rintro ⟨distinct, unclaimed⟩
    refine ⟨distinct, ?_⟩
    rintro a present _ ⟨c, member, rfl⟩ rfl
    exact unclaimed c member present

/-- Every base name is among the type names the grammars claim, in order. -/
theorem bases_sublist_typeNames (gs : List Grammar) :
    (gs.map (·.baseName)).Sublist ((gs.flatMap Grammar.typeClaims).map Prod.snd) := by
  induction gs with
  | nil => exact List.Sublist.slnil
  | cons g gs ih =>
    simp only [List.map_cons, List.flatMap_cons, Grammar.typeClaims, List.cons_append,
      List.map_append]
    exact (ih.trans (List.sublist_append_right _ _)).cons_cons _ |>.trans
      (List.Sublist.cons_cons _ (List.sublist_cons_self _ _))

/-- An import that does not read fails as an invalid import. -/
theorem readImport_error {text expected : String} {e : GenerateError}
    (failed : readImport tools text expected = .error e) : e.kind = "InvalidImport" := by
  unfold readImport at failed
  split at failed
  · split at failed
    · cases failed
    · cases failed
      rfl
  · cases failed
    rfl

/-- A schema whose node model is emitted has distinct names. -/
theorem namesDistinct_of_emitItems {gs : List Grammar} {imports : Imports} {items : List Item}
    (emitted : emitItems tools gs imports = .ok items) : NamesDistinct gs := by
  obtain ⟨-, claimed, unclaimed, -, -, families, -, -, resolved, -⟩ := emitItems_eq_ok_iff.mp emitted
  refine ⟨typeNames_nodup_iff.mpr ⟨claimed, unclaimed⟩, fun g member => ?_⟩
  obtain ⟨f, -, resolvedGrammar⟩ := exists_of_mem_of_forall₂ (Except.mapM_eq_ok_iff.mp resolved) member
  exact namesDistinct_of_resolveGrammar resolvedGrammar

/-- **Emission errors.** Emission fails on an import or a field type it cannot read, or
with a naming error, and then the names of the schema are not distinct. -/
theorem emitItems_error {gs : List Grammar} {imports : Imports} {e : GenerateError}
    (failed : emitItems tools gs imports = .error e) :
    e.kind ∈ inputErrorKinds ∨ (e.kind ∈ nameErrorKinds ∧ ¬ NamesDistinct gs) := by
  unfold emitItems at failed
  cases repeated : firstRepeat [] (gs.map (·.baseName)) with
  | some base =>
    simp only [repeated, Except.throw_bind, Except.throw_eq_error] at failed
    subst failed
    refine .inr ⟨by simp [nameErrorKinds, GenerateError.kind], fun distinct => ?_⟩
    have bases := ((bases_sublist_typeNames gs).nodup (typeNames_nodup_iff.mp distinct.1).1)
    rw [firstRepeat_eq_none_iff.mpr ⟨bases, by simp⟩] at repeated
    cases repeated
  | none =>
    cases collision : firstCollision importedTypes (gs.flatMap Grammar.typeClaims) with
    | some clash =>
      simp only [repeated, collision, Except.throw_bind, Except.throw_eq_error] at failed
      subst failed
      refine .inr ⟨by simp [nameErrorKinds, GenerateError.kind], fun distinct => ?_⟩
      rw [firstCollision_eq_none_iff.mpr (typeNames_nodup_iff.mp distinct.1)] at collision
      cases collision
    | none =>
      simp only [repeated, collision, Except.bind_eq_error, Except.pure_ne_error, and_false,
        exists_false, or_false] at failed
      rcases failed with token | ⟨_, -, literal | ⟨_, -, blocks⟩⟩
      · exact .inl (by simp [inputErrorKinds, readImport_error token])
      · exact .inl (by simp [inputErrorKinds, readImport_error literal])
      · obtain ⟨g, member, failedAt⟩ := Except.mapM_eq_error blocks
        rw [grammarItems_eq, Except.map_eq_error] at failedAt
        rcases resolveGrammar_error failedAt with unsupported | ⟨naming, stale⟩
        · exact .inl (by simp [inputErrorKinds, unsupported])
        · exact .inr ⟨naming, fun distinct => stale (distinct.2 g member)⟩

/-! ## Names in the emitted items -/

end LoxSyntax.NodeModel

namespace LoxSyntax.Code

/-- The type an item declares, if any: the imported type, an enum, a struct, a trait. -/
def Item.declaredType? : Item → Option String
  | .importPath _ path => some path.lastName
  | .enumDecl _ name _ => some name
  | .structDecl _ name _ => some name
  | .traitDecl _ name _ _ => some name
  | .implBlock .. => none

/-- The names an item declares inside itself are distinct and can be written: an enum
has no variant `Self`, a struct's fields have distinct identifiers none of which is a
path word, a trait's methods have distinct names. -/
def Item.NamesDistinct : Item → Prop
  | .enumDecl _ _ variants => ∀ v ∈ variants, v.1 ≠ "Self"
  | .structDecl _ _ fields =>
    (fields.map (·.1.text)).Nodup ∧ ∀ f ∈ fields, f.1.name ∉ unrawableWords
  | .traitDecl _ _ _ methods => (methods.map (·.name)).Nodup
  | .importPath .. | .implBlock .. => True

/-- Items that declare each type once, each item's own names being distinct. -/
structure ItemsWellNamed (items : List Item) : Prop where
  types : (items.filterMap Item.declaredType?).Nodup
  each : ∀ item ∈ items, item.NamesDistinct

end LoxSyntax.Code

namespace LoxSyntax.NodeModel

open LoxSyntax.Schema LoxSyntax.Code

variable {tools : CodeTools}

/-- The types a family declares: its base enum, its visitor trait and its node structs. -/
theorem Family.declaredTypes (f : Family) :
    f.items.filterMap Item.declaredType? =
      f.base :: visitorName f.base :: f.nodes.map (·.typeName) := by
  simp only [Family.items, baseItems, visitorItem, List.filterMap_append, List.filterMap_cons,
    Item.declaredType?, List.filterMap_nil, List.filterMap_flatten, List.map_map]
  -- each node's items declare one type, its struct
  have structs : List.filterMap Item.declaredType? ∘ nodeItems f.base = fun n => [n.typeName] :=
    funext fun n => by simp [nodeItems, Item.declaredType?]
  rw [structs, ← List.flatMap_def, ← List.map_eq_flatMap]
  rfl

/-- A resolved family declares the types its grammar claims. -/
theorem typeNames_of_resolveGrammar {bases : List String} {g : Grammar} {family : Family}
    (resolved : resolveGrammar bases g = .ok family) :
    family.base :: visitorName family.base :: family.nodes.map (·.typeName) =
      (Grammar.typeClaims g).map Prod.snd := by
  obtain ⟨named, nodes, -⟩ := resolveGrammar_eq_ok_iff.mp resolved
  have structs : family.nodes.map (·.typeName) =
      g.variants.map fun v => nodeTypeName v.name g.baseName :=
    map_of_resolveNodes _ _ (fun v n resolvedNode => by
      obtain ⟨-, -, -, rfl⟩ := resolveNode_eq_ok_iff.mp resolvedNode
      rfl) nodes
  simp [Grammar.typeClaims, named, structs]

/-- An import that reads names the expected type. -/
theorem readImport_lastName {text expected : String} {path : ImportPath}
    (read : readImport tools text expected = .ok path) : path.lastName = expected := by
  unfold readImport at read
  split at read
  · split at read
    · rename_i named
      cases read
      simpa using named
    · cases read
  · cases read

/-- The items of a successful emission declare the imported types, then the types each
grammar claims, in order. -/
theorem declaredTypes_of_emitItems {gs : List Grammar} {imports : Imports} {items : List Item}
    (emitted : emitItems tools gs imports = .ok items) :
    items.filterMap Item.declaredType? =
      importedTypes ++ (gs.flatMap Grammar.typeClaims).map Prod.snd := by
  obtain ⟨-, -, -, token, literal, families, readToken, readLiteral, resolved, rfl⟩ :=
    emitItems_eq_ok_iff.mp emitted
  have imported : (importItems token literal).filterMap Item.declaredType? = importedTypes := by
    simp only [importItems, List.filterMap_cons, Item.declaredType?, List.filterMap_nil,
      readImport_lastName readToken, readImport_lastName readLiteral, importedTypes]
    rfl
  have claimed : (families.map Family.items).flatten.filterMap Item.declaredType? =
      (gs.flatMap Grammar.typeClaims).map Prod.snd := by
    rw [List.filterMap_flatten, List.map_map, List.flatMap_def, List.map_flatten, List.map_map]
    congr 1
    refine (map_eq_map_of_forall₂ (fun g f resolvedGrammar => ?_)
      (Except.mapM_eq_ok_iff.mp resolved)).symm
    exact ((Family.declaredTypes f).trans (typeNames_of_resolveGrammar resolvedGrammar)).symm
  rw [List.filterMap_append, imported, claimed]

/-- A resolved node's variant is not `Self`, and its fields have distinct identifiers,
none of them a path word. -/
theorem names_of_resolveNode {bases : List String} {base : String} {v : Variant} {n : Node}
    (resolved : resolveNode bases base v = .ok n) :
    n.variant ≠ "Self" ∧ (n.fields.map (·.1.text)).Nodup ∧
      ∀ r ∈ n.fields, r.1.name ∉ unrawableWords := by
  obtain ⟨plain, fields, resolvedFields, rfl⟩ := resolveNode_eq_ok_iff.mp resolved
  obtain ⟨related, distinct, -⟩ := resolveFields_eq_ok_iff.mp resolvedFields
  refine ⟨plain, distinct, fun r member => ?_⟩
  obtain ⟨f, -, resolves⟩ := exists_of_forall₂_of_mem related member
  rw [Ident.name_of_forField? resolves.1, ← Ident.forField?_eq_none_iff, resolves.1]
  exact Option.some_ne_none _

/-- The items of a family have distinct own names when its nodes do and its visitor
methods are distinct. -/
theorem Family.namesDistinct_items {f : Family}
    (nodes : ∀ n ∈ f.nodes, n.variant ≠ "Self" ∧ (n.fields.map (·.1.text)).Nodup ∧
      ∀ r ∈ n.fields, r.1.name ∉ unrawableWords)
    (methods : (f.nodes.map (·.method)).Nodup) :
    ∀ item ∈ f.items, item.NamesDistinct := by
  intro item member
  simp only [Family.items, baseItems, visitorItem, List.mem_append, List.mem_cons,
    List.mem_flatten, List.mem_map, List.not_mem_nil, or_false] at member
  rcases member with (rfl | rfl) | rfl | ⟨_, ⟨n, present, rfl⟩, inNode⟩
  · -- the base enum: one variant per node, named after it
    simp only [Item.NamesDistinct, List.mem_map]
    rintro _ ⟨n, present, rfl⟩
    exact (nodes n present).1
  · trivial
  · simpa [Item.NamesDistinct, Function.comp_def] using methods
  · simp only [nodeItems, List.mem_cons, List.not_mem_nil, or_false] at inNode
    obtain ⟨-, distinct, unwritable⟩ := nodes n present
    rcases inNode with rfl | rfl | rfl
    · simp only [Item.NamesDistinct, List.map_map, Function.comp_def, List.mem_map]
      refine ⟨distinct, ?_⟩
      rintro _ ⟨r, member, rfl⟩
      exact unwritable r member
    · trivial
    · trivial

/-- **Well-named emission.** The items of a successful emission declare each type once,
and each item's own names are distinct. -/
theorem itemsWellNamed_of_emitItems {gs : List Grammar} {imports : Imports} {items : List Item}
    (emitted : emitItems tools gs imports = .ok items) : ItemsWellNamed items := by
  refine ⟨?_, ?_⟩
  · rw [declaredTypes_of_emitItems emitted]
    exact (namesDistinct_of_emitItems emitted).1
  · obtain ⟨-, -, -, token, literal, families, -, -, resolved, rfl⟩ := emitItems_eq_ok_iff.mp emitted
    intro item member
    rcases List.mem_append.mp member with imported | emittedItem
    · simp only [importItems, List.mem_cons, List.not_mem_nil, or_false] at imported
      rcases imported with rfl | rfl | rfl <;> trivial
    · simp only [List.mem_flatten, List.mem_map] at emittedItem
      obtain ⟨_, ⟨f, present, rfl⟩, inFamily⟩ := emittedItem
      obtain ⟨g, -, resolvedGrammar⟩ :=
        exists_of_forall₂_of_mem (Except.mapM_eq_ok_iff.mp resolved) present
      obtain ⟨-, nodes, methods⟩ := resolveGrammar_eq_ok_iff.mp resolvedGrammar
      refine Family.namesDistinct_items (fun n present => ?_) methods item inFamily
      obtain ⟨v, -, resolvedNode⟩ := exists_of_forall₂_of_mem (Except.mapM_eq_ok_iff.mp nodes) present
      exact names_of_resolveNode resolvedNode

/-! ## The generated source -/

/-- A source is generated exactly when the items are emitted and the code reader accepts
them; the source is the header, a blank line and the rendered items. -/
theorem generate_eq_ok_iff {gs : List Grammar} {imports : Imports} {src : String} :
    generate tools gs imports = .ok src ↔ ∃ items, emitItems tools gs imports = .ok items ∧
      tools.accepts items = true ∧ src = header ++ "\n\n" ++ tools.render items := by
  unfold generate
  cases emitted : emitItems tools gs imports with
  | error e => simp [bind, Except.bind]
  | ok items =>
    by_cases accepted : tools.accepts items
    · simp only [bind, Except.bind, accepted, if_true, pure, Except.pure, Except.ok.injEq,
        exists_eq_left', true_and]
      exact eq_comm
    · simp [bind, Except.bind, accepted, throw, throwThe, MonadExceptOf.throw]

/-- Generation fails as emission does, or on items the code reader refuses. -/
theorem emitItems_eq_error_of_generate {gs : List Grammar} {imports : Imports}
    {e : GenerateError} (failed : generate tools gs imports = .error e) :
    emitItems tools gs imports = .error e ∨ e = .unparsable := by
  unfold generate at failed
  cases emitted : emitItems tools gs imports with
  | error e' =>
    simp only [emitted, bind, Except.bind, Except.error.injEq] at failed
    exact .inl (congrArg _ failed)
  | ok items =>
    by_cases accepted : tools.accepts items
    · simp [emitted, bind, Except.bind, accepted, pure, Except.pure] at failed
    · simp [emitted, bind, Except.bind, accepted, throw, throwThe, MonadExceptOf.throw] at failed
      exact .inr failed.symm

/-- A failed emission is the failure of generation. -/
theorem generate_eq_error_of_emitItems {gs : List Grammar} {imports : Imports}
    {e : GenerateError} (failed : emitItems tools gs imports = .error e) :
    generate tools gs imports = .error e := by
  simp [generate, failed, bind, Except.bind]

/-- No kind of error is both a naming error and an input error. -/
theorem nameErrorKinds_disjoint : ∀ kind ∈ inputErrorKinds, kind ∉ nameErrorKinds := by
  decide

/-- **Names of the generated source.** A generated source renders items that declare each
type once and whose own names are distinct. A schema whose names are not distinct is
refused with a naming error, or with an input error met first. A naming error is
reported only for such a schema. -/
theorem generate_names_distinct (tools : CodeTools) (gs : List Grammar) (imports : Imports) :
    (∀ src, generate tools gs imports = .ok src → ∃ items, emitItems tools gs imports = .ok items ∧
        src = header ++ "\n\n" ++ tools.render items ∧ ItemsWellNamed items) ∧
      (¬ NamesDistinct gs → ∃ e, generate tools gs imports = .error e ∧
        e.kind ∈ nameErrorKinds ++ inputErrorKinds) ∧
      (∀ e, generate tools gs imports = .error e → e.kind ∈ nameErrorKinds → ¬ NamesDistinct gs) := by
  refine ⟨fun src generated => ?_, fun clash => ?_, fun e failed naming => ?_⟩
  · obtain ⟨items, emitted, -, rfl⟩ := generate_eq_ok_iff.mp generated
    exact ⟨items, emitted, rfl, itemsWellNamed_of_emitItems emitted⟩
  · cases emitted : emitItems tools gs imports with
    | ok items => exact absurd (namesDistinct_of_emitItems emitted) clash
    | error e =>
      refine ⟨e, generate_eq_error_of_emitItems emitted, ?_⟩
      rcases emitItems_error emitted with input | ⟨naming, -⟩
      · exact List.mem_append_right _ input
      · exact List.mem_append_left _ naming
  · rcases emitItems_eq_error_of_generate failed with emitted | rfl
    · rcases emitItems_error emitted with input | ⟨-, stale⟩
      · exact absurd naming (nameErrorKinds_disjoint _ input)
      · exact stale
    · simp [nameErrorKinds, GenerateError.kind] at naming

/-- A variant whose fields `fooBar` and `foo_bar` are spelled alike in snake case. -/
def caseClashGrammars : List Grammar :=
  [⟨"Expr", [⟨"Binary", [⟨some "Expr", "fooBar"⟩, ⟨some "Expr", "foo_bar"⟩]⟩]⟩]

/-- The same variant with fields `fooBar` and `foo_baz`, spelled apart. -/
def caseApartGrammars : List Grammar :=
  [⟨"Expr", [⟨"Binary", [⟨some "Expr", "fooBar"⟩, ⟨some "Expr", "foo_baz"⟩]⟩]⟩]

/-- Fields `fooBar` and `foo_baz` give a source whose items are well named, while `fooBar`
and `foo_bar` make a schema whose names are not distinct, which is refused. -/
theorem generate_names_distinct_fooBar :
    (∃ src, generate .standard caseApartGrammars {} = .ok src ∧
      ∃ items, emitItems .standard caseApartGrammars {} = .ok items ∧
        src = header ++ "\n\n" ++ CodeTools.standard.render items ∧ ItemsWellNamed items) ∧
    ¬ NamesDistinct caseClashGrammars ∧
      ∃ e, generate .standard caseClashGrammars {} = .error e ∧
        e.kind ∈ nameErrorKinds ++ inputErrorKinds := by
  obtain ⟨src, generated⟩ :=
    Except.exists_ok_of_isOk (by decide +kernel : (generate .standard caseApartGrammars {}).isOk = true)
  have clash : ¬ NamesDistinct caseClashGrammars := by decide +kernel
  have apart := (generate_names_distinct .standard caseApartGrammars {}).1 src generated
  have refused := (generate_names_distinct .standard caseClashGrammars {}).2.1 clash
  exact ⟨⟨src, generated, apart⟩, clash, refused⟩

end LoxSyntax.NodeModel
