import LoxSyntax.NodeModel.Items
import LoxSyntax.Proofs.Checks

/-! # What the emitter accepts

The emitter checks names with ordered scans that stop at the first name already
seen (`firstRepeat`, `firstCollision`); such a scan finds nothing exactly when the
names are pairwise distinct and none was taken before (`firstRepeat_eq_none_iff`,
`firstCollision_eq_none_iff`). From these, each stage of the emitter is described
by what it accepts and what it returns:

* the fields of a variant resolve when each field's type and snake-case name
  resolve and the identifiers are distinct (`resolveFields_eq_ok_iff`);
* a variant resolves to the node named after it (`resolveNode_eq_ok_iff`);
* a grammar resolves to a `Family`, the base name and the nodes of its variants,
  when every variant resolves and no two share a visitor method
  (`resolveGrammar_eq_ok_iff`), and its items are the family's (`grammarItems_eq`);
* the node model is emitted when the base names and the claimed type names are
  distinct, the imports read, and every grammar resolves; its items are then the
  imports and the families' items in grammar order (`emitItems_eq_ok_iff`).
-/

namespace LoxSyntax.NodeModel

open LoxSyntax.Schema LoxSyntax.Code

/-! ## Scans for taken names -/

/-- The scan for a repeated name finds none exactly when the names are distinct and none was
seen before. -/
theorem firstRepeat_eq_none_iff {seen names : List String} :
    firstRepeat seen names = none ↔ names.Nodup ∧ ∀ n ∈ names, n ∉ seen := by
  induction names generalizing seen with
  | nil => simp [firstRepeat]
  | cons name rest ih =>
    by_cases repeated : seen.contains name
    · simp only [firstRepeat, repeated, if_true, reduceCtorEq, false_iff, not_and, not_forall]
      intro _
      exact ⟨name, by simp, by simpa using repeated⟩
    · simp only [firstRepeat, repeated, Bool.false_eq_true, if_false, ih, List.nodup_cons,
        List.mem_cons, forall_eq_or_imp]
      simp only [List.contains_iff_mem, not_or] at repeated ⊢
      grind

/-- The scan for a taken name finds none exactly when the claimed names are distinct and
none was taken before. -/
theorem firstCollision_eq_none_iff {taken : List String} {claims : List (String × String)} :
    firstCollision taken claims = none ↔
      (claims.map Prod.snd).Nodup ∧ ∀ c ∈ claims, c.2 ∉ taken := by
  induction claims generalizing taken with
  | nil => simp [firstCollision]
  | cons claim rest ih =>
    obtain ⟨owner, name⟩ := claim
    by_cases repeated : taken.contains name
    · simp only [firstCollision, repeated, if_true, reduceCtorEq, false_iff, not_and, not_forall]
      intro _
      exact ⟨(owner, name), by simp, by simpa using repeated⟩
    · simp only [firstCollision, repeated, Bool.false_eq_true, if_false, ih]
      simp only [List.contains_iff_mem] at repeated
      grind

/-! ## Fields and nodes -/

/-- A field resolves to an identifier, spelled from its snake-case name, and to the type
its declared type resolves to against `bases`. -/
def FieldResolves (bases : List String) (f : Field) (resolved : Ident × FieldType) : Prop :=
  Ident.forField? (snakeCase f.name) = some resolved.1 ∧
    FieldType.resolve f.declaredType bases = some resolved.2

/-- One field resolves when its type and identifier do and the identifier is not taken;
the rest then resolve with it taken. -/
theorem resolveFields_cons_eq_ok_iff {bases : List String} {variant : String}
    {taken : List String} {f : Field} {rest : List Field} {resolved : List (Ident × FieldType)} :
    resolveFields bases variant taken (f :: rest) = .ok resolved ↔
      ∃ ident ty more, Ident.forField? (snakeCase f.name) = some ident ∧
        FieldType.resolve f.declaredType bases = some ty ∧ ident.text ∉ taken ∧
        resolveFields bases variant (ident.text :: taken) rest = .ok more ∧
        resolved = (ident, ty) :: more := by
  cases typed : FieldType.resolve f.declaredType bases with
  | none => simp [resolveFields, typed]
  | some ty =>
    cases named : Ident.forField? (snakeCase f.name) with
    | none => simp [resolveFields, typed, named]
    | some ident =>
      by_cases used : ident.text ∈ taken
      · simp [resolveFields, typed, named, used]
      · simp only [resolveFields, typed, named, List.contains_iff_mem, used, if_false,
          Except.bind_eq_ok, Except.pure_eq_ok, Option.some.injEq]
        constructor
        · rintro ⟨more, resolvedRest, rfl⟩
          exact ⟨ident, ty, more, rfl, rfl, used, resolvedRest, rfl⟩
        · rintro ⟨_, _, more, rfl, rfl, -, resolvedRest, rfl⟩
          exact ⟨more, resolvedRest, rfl⟩

/-- The fields of a variant resolve exactly when each field does, and the identifiers are
distinct and none is taken. -/
theorem resolveFields_eq_ok_iff {bases : List String} {variant : String} {taken : List String}
    {fields : List Field} {resolved : List (Ident × FieldType)} :
    resolveFields bases variant taken fields = .ok resolved ↔
      List.Forall₂ (FieldResolves bases) fields resolved ∧
        (resolved.map (·.1.text)).Nodup ∧ ∀ r ∈ resolved, r.1.text ∉ taken := by
  induction fields generalizing taken resolved with
  | nil => cases resolved <;> simp [resolveFields]
  | cons f rest ih =>
    rw [resolveFields_cons_eq_ok_iff]
    simp only [ih]
    constructor
    · rintro ⟨ident, ty, more, named, typed, unused, ⟨related, nodup, fresh⟩, rfl⟩
      refine ⟨.cons ⟨named, typed⟩ related, ?_, ?_⟩
      · -- the first identifier is taken while the rest resolve, so none of them repeats it
        refine List.nodup_cons.mpr ⟨fun repeated => ?_, nodup⟩
        obtain ⟨r, member, same⟩ := List.mem_map.mp repeated
        exact fresh r member (List.mem_cons.mpr (.inl same))
      · intro r member
        rcases List.mem_cons.mp member with rfl | member
        · exact unused
        · exact fun present => fresh r member (List.mem_cons_of_mem _ present)
    · rintro ⟨related, nodup, unused⟩
      cases related with
      | @cons _ r _ more resolves related =>
        obtain ⟨distinct, nodupRest⟩ := List.nodup_cons.mp nodup
        refine ⟨r.1, r.2, more, resolves.1, resolves.2, unused r List.mem_cons_self,
          ⟨related, nodupRest, fun s member present => ?_⟩, rfl⟩
        rcases List.mem_cons.mp present with same | present
        · exact distinct (List.mem_map.mpr ⟨s, member, same⟩)
        · exact unused s (List.mem_cons_of_mem _ member) present

/-- A variant other than `Self` whose fields resolve gives the node named after it, with its
struct, its visitor method and its declaration. -/
theorem resolveNode_eq_ok_iff {bases : List String} {base : String} {v : Variant} {n : Node} :
    resolveNode bases base v = .ok n ↔ v.name ≠ "Self" ∧
      ∃ fields, resolveFields bases v.name [] v.fields = .ok fields ∧
        n = { variant := v.name, typeName := nodeTypeName v.name base,
              method := visitMethodName v.name base, fields, declaration := v.render } := by
  unfold resolveNode
  by_cases reserved : v.name = "Self"
  · simp [reserved]
  · have plain : (v.name == "Self") = false := by simpa using reserved
    simp only [reserved, plain, ne_eq, not_false_eq_true, true_and, Bool.false_eq_true, if_false,
      Except.bind_eq_ok, Except.pure_eq_ok]
    exact exists_congr fun fields => and_congr_right fun _ => eq_comm

/-! ## Families -/

/-- A family of nodes resolved from a grammar: its base name and the nodes of its
variants in schema order. -/
structure Family where
  base : String
  nodes : List Node

/-- The items of a family: the base enum with its dispatching impl, the visitor trait,
then the items of each node in order. -/
def Family.items (f : Family) : List Item :=
  baseItems f.base f.nodes ++ visitorItem f.base f.nodes :: (f.nodes.map (nodeItems f.base)).flatten

/-- Resolves the variants of a grammar against `bases`, refusing two variants with one
visitor method. -/
def resolveGrammar (bases : List String) (g : Grammar) : Except GenerateError Family := do
  let nodes ← g.variants.mapM (resolveNode bases g.baseName)
  if let some (owner, name) := firstCollision [] (nodes.map fun n => (n.variant, n.method)) then
    throw (.nameCollision owner name)
  pure ⟨g.baseName, nodes⟩

/-- The items of a grammar are the items of the family it resolves to. -/
theorem grammarItems_eq (bases : List String) (g : Grammar) :
    grammarItems bases g = Family.items <$> resolveGrammar bases g := by
  simp only [grammarItems, resolveGrammar]
  cases g.variants.mapM (resolveNode bases g.baseName) with
  | error e => rfl
  | ok nodes =>
    simp only [bind, Except.bind]
    cases firstCollision [] (nodes.map fun n => (n.variant, n.method)) with
    | none => rfl
    | some clash => rfl

/-- A grammar resolves to the family of its base when all its variants resolve and no two of
the nodes share a visitor method. -/
theorem resolveGrammar_eq_ok_iff {bases : List String} {g : Grammar} {family : Family} :
    resolveGrammar bases g = .ok family ↔ family.base = g.baseName ∧
      g.variants.mapM (resolveNode bases g.baseName) = .ok family.nodes ∧
        (family.nodes.map (·.method)).Nodup := by
  unfold resolveGrammar
  cases resolved : g.variants.mapM (resolveNode bases g.baseName) with
  | error e => simp [bind, Except.bind]
  | ok nodes =>
    simp only [bind, Except.bind]
    cases collision : firstCollision [] (nodes.map fun n => (n.variant, n.method)) with
    | none =>
      obtain ⟨distinct, -⟩ := firstCollision_eq_none_iff.mp collision
      obtain ⟨base, nodes'⟩ := family
      simp only [List.map_map, Function.comp_def] at distinct
      simp only [Except.pure_eq_ok, Family.mk.injEq, Except.ok.injEq]
      constructor
      · rintro ⟨rfl, rfl⟩
        exact ⟨rfl, rfl, distinct⟩
      · rintro ⟨rfl, rfl, -⟩
        exact ⟨rfl, rfl⟩
    | some clash =>
      refine iff_of_false (fun thrown => by cases thrown) ?_
      rintro ⟨-, same, distinct⟩
      rw [Except.ok.injEq] at same
      subst same
      have free : firstCollision [] (family.nodes.map fun n => (n.variant, n.method)) = none :=
        firstCollision_eq_none_iff.mpr ⟨by simpa [Function.comp_def] using distinct, by simp⟩
      simp [free] at collision

/-! ## The whole file -/

variable {tools : CodeTools}

/-- **What the emitter accepts.** The node model is emitted exactly when the base names
are distinct, the claimed type names are distinct and none is an imported type, both
imports read, and every grammar resolves against the base names; the items are then
the imports followed by the items of each family in grammar order. -/
theorem emitItems_eq_ok_iff {gs : List Grammar} {imports : Imports} {items : List Item} :
    emitItems tools gs imports = .ok items ↔
      (gs.map (·.baseName)).Nodup ∧
      ((gs.flatMap Grammar.typeClaims).map Prod.snd).Nodup ∧
      (∀ c ∈ gs.flatMap Grammar.typeClaims, c.2 ∉ importedTypes) ∧
      ∃ token literal families,
        readImport tools imports.token "Token" = .ok token ∧
        readImport tools imports.literal "LiteralValue" = .ok literal ∧
        gs.mapM (resolveGrammar (gs.map (·.baseName))) = .ok families ∧
        items = importItems token literal ++ (families.map Family.items).flatten := by
  have blocks : ∀ blocks, gs.mapM (grammarItems (gs.map (·.baseName))) = .ok blocks ↔
      ∃ families, gs.mapM (resolveGrammar (gs.map (·.baseName))) = .ok families ∧
        blocks = families.map Family.items := fun blocks => by
    rw [show grammarItems (gs.map (·.baseName)) =
      fun g => Family.items <$> resolveGrammar (gs.map (·.baseName)) g from funext (grammarItems_eq _)]
    exact Except.mapM_map_eq_ok
  unfold emitItems
  cases repeated : firstRepeat [] (gs.map (·.baseName)) with
  | some base =>
    refine iff_of_false (fun thrown => by cases thrown) ?_
    rintro ⟨distinct, -⟩
    have free : firstRepeat [] (gs.map (·.baseName)) = none :=
      firstRepeat_eq_none_iff.mpr ⟨distinct, by simp⟩
    rw [free] at repeated
    cases repeated
  | none =>
    have distinct := (firstRepeat_eq_none_iff.mp repeated).1
    cases collision : firstCollision importedTypes (gs.flatMap Grammar.typeClaims) with
    | some clash =>
      refine iff_of_false (fun thrown => by cases thrown) ?_
      rintro ⟨-, claimed, unclaimed, -⟩
      have free : firstCollision importedTypes (gs.flatMap Grammar.typeClaims) = none :=
        firstCollision_eq_none_iff.mpr ⟨claimed, unclaimed⟩
      rw [free] at collision
      cases collision
    | none =>
      obtain ⟨claimed, unclaimed⟩ := firstCollision_eq_none_iff.mp collision
      simp only [distinct, claimed, true_and]
      rw [and_iff_right unclaimed]
      simp only [Except.bind_eq_ok, Except.pure_eq_ok, blocks]
      constructor
      · rintro ⟨token, readToken, literal, readLiteral, _, ⟨families, resolved, rfl⟩, rfl⟩
        exact ⟨token, literal, families, readToken, readLiteral, resolved, rfl⟩
      · rintro ⟨token, literal, families, readToken, readLiteral, resolved, rfl⟩
        exact ⟨token, readToken, literal, readLiteral, _, ⟨families, resolved, rfl⟩, rfl⟩

end LoxSyntax.NodeModel
