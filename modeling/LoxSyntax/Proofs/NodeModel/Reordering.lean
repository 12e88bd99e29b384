import LoxSyntax.NodeModel.Source
import LoxSyntax.Proofs.NodeModel.Resolution

/-! # Reordering the schema

The emitter's checks ask whether names are distinct and whether a name is a base name:
questions about which names there are, not about their order. So the order of the grammars,
and of the variants inside each grammar, decides only the order of the output.

`ReorderedBy r xs ys` says that `ys` is `xs` with each member changed by `r`, then put in
another order. A grammar is reordered by permuting its variants (`Grammar.Reordering`), a
family by permuting its nodes (`Family.Reordering`). The main theorem,
`emitItems_reordered`: emission succeeds on a reordered schema exactly when it succeeds on
the schema, and the families it emits are then the schema's families reordered alike, every
node unchanged. Since a family lays out its enum variants, its dispatching arms, its visitor
methods and its node items from one node list, these all move together.
-/

namespace LoxSyntax.Schema

/-- `g'` is `g` with its variants in another order. -/
def Grammar.Reordering (g g' : Grammar) : Prop :=
  g'.baseName = g.baseName ∧ g.variants.Perm g'.variants

/-- Reordering a grammar's variants is undone by reordering them back. -/
theorem Grammar.Reordering.symm {g g' : Grammar} (reordered : g.Reordering g') :
    g'.Reordering g :=
  ⟨reordered.1.symm, reordered.2.symm⟩

end LoxSyntax.Schema

namespace LoxSyntax.NodeModel

open LoxSyntax.Schema LoxSyntax.Code

/-- `ys` is `xs` with each member changed by `r`, then put in another order. -/
def ReorderedBy {α β : Type} (r : α → β → Prop) (xs : List α) (ys : List β) : Prop :=
  ∃ zs, List.Forall₂ r xs zs ∧ zs.Perm ys

/-- A reordering whose change can be undone is undone by a reordering. -/
theorem ReorderedBy.symm {α β : Type} {r : α → β → Prop} {r' : β → α → Prop}
    (undo : ∀ a b, r a b → r' b a) {xs : List α} {ys : List β}
    (reordered : ReorderedBy r xs ys) : ReorderedBy r' ys xs := by
  obtain ⟨zs, changed, perm⟩ := reordered
  have back : List.Forall₂ r' zs xs := List.Forall₂.flip (changed.imp undo)
  exact List.perm_comp_forall₂ perm.symm back

/-- `f'` is `f` with its nodes in another order. -/
def Family.Reordering (f f' : Family) : Prop :=
  f'.base = f.base ∧ f.nodes.Perm f'.nodes

variable {gs gs' : List Grammar}

/-! ## What the checks see -/

/-- A reordered schema has its base names reordered. -/
theorem bases_perm (reordered : ReorderedBy Grammar.Reordering gs gs') :
    (gs.map (·.baseName)).Perm (gs'.map (·.baseName)) := by
  obtain ⟨hs, changed, perm⟩ := reordered
  rw [map_eq_map_of_forall₂ (fun g h sameGrammar => sameGrammar.1.symm) changed]
  exact perm.map _

/-- A grammar with its variants reordered claims the same types, reordered. -/
theorem typeClaims_perm {g g' : Grammar} (reordered : g.Reordering g') :
    (Grammar.typeClaims g).Perm (Grammar.typeClaims g') := by
  unfold Grammar.typeClaims
  rw [reordered.1]
  exact ((reordered.2.map _).cons _).cons _

/-- A reordered schema claims the same type names, reordered. -/
theorem typeClaims_flatMap_perm (reordered : ReorderedBy Grammar.Reordering gs gs') :
    (gs.flatMap Grammar.typeClaims).Perm (gs'.flatMap Grammar.typeClaims) := by
  obtain ⟨hs, changed, perm⟩ := reordered
  exact (flatMap_perm_of_forall₂ (changed.imp fun g h sameGrammar => typeClaims_perm sameGrammar)).trans
    (perm.flatMap_right _)

/-! ## Resolution -/

section Bases

variable {bases bases' : List String} (reorderedBases : bases.Perm bases')
include reorderedBases

/-- Fields resolve alike against reordered base names. -/
theorem resolveFields_perm_bases (variant : String) (fields : List Field) :
    ∀ taken, resolveFields bases variant taken fields = resolveFields bases' variant taken fields := by
  induction fields with
  | nil => intro taken; rfl
  | cons f rest ih =>
    intro taken
    simp only [resolveFields, FieldType.resolve_perm reorderedBases, ih]

/-- A grammar resolves alike against reordered base names. -/
theorem resolveGrammar_perm_bases (g : Grammar) :
    resolveGrammar bases g = resolveGrammar bases' g := by
  have nodes : resolveNode bases g.baseName = resolveNode bases' g.baseName := by
    funext v
    simp only [resolveNode, resolveFields_perm_bases reorderedBases]
  simp only [resolveGrammar, nodes]

end Bases

/-- A grammar with its variants reordered resolves to its family with the nodes reordered
alike. -/
theorem resolveGrammar_reordering {bases : List String} {g g' : Grammar} {family : Family}
    (reordered : g.Reordering g') (resolved : resolveGrammar bases g = .ok family) :
    ∃ family', resolveGrammar bases g' = .ok family' ∧ family.Reordering family' := by
  obtain ⟨named, nodes, methods⟩ := resolveGrammar_eq_ok_iff.mp resolved
  rw [← reordered.1] at nodes
  obtain ⟨nodes', resolvedNodes, perm⟩ := Except.mapM_perm reordered.2 nodes
  refine ⟨⟨g'.baseName, nodes'⟩, resolveGrammar_eq_ok_iff.mpr ⟨rfl, resolvedNodes, ?_⟩,
    ⟨named.trans reordered.1.symm |>.symm, perm⟩⟩
  exact (perm.map _).nodup_iff.mp methods

/-! ## Emission -/

/-- A successful emission is followed, on the reordered schema, by one whose families are
the same families reordered alike. -/
theorem emitItems_reordering {tools : CodeTools} {imports : Imports} {items : List Item}
    (reordered : ReorderedBy Grammar.Reordering gs gs')
    (emitted : emitItems tools gs imports = .ok items) :
    ∃ token literal families families',
      items = importItems token literal ++ (families.map Family.items).flatten ∧
      emitItems tools gs' imports =
        .ok (importItems token literal ++ (families'.map Family.items).flatten) ∧
      ReorderedBy Family.Reordering families families' := by
  obtain ⟨distinct, claimed, unclaimed, token, literal, families, readToken, readLiteral, resolved,
    rfl⟩ := emitItems_eq_ok_iff.mp emitted
  have bases := bases_perm reordered
  have claims := typeClaims_flatMap_perm reordered
  obtain ⟨hs, changed, perm⟩ := reordered
  -- each grammar, its variants reordered, resolves against the reordered bases
  obtain ⟨changedFamilies, resolvedChanged, familiesChanged⟩ := exists_forall₂_of_forall₂
    (fun g family h resolvedGrammar sameGrammar => by
      obtain ⟨family', resolved', reorderedFamily⟩ := resolveGrammar_reordering sameGrammar resolvedGrammar
      exact ⟨family', (resolveGrammar_perm_bases bases h) ▸ resolved', reorderedFamily⟩)
    (Except.mapM_eq_ok_iff.mp resolved) changed
  -- then the grammars are put in their new order
  obtain ⟨families', resolved', familiesPerm⟩ :=
    Except.mapM_perm perm (Except.mapM_eq_ok_iff.mpr resolvedChanged)
  refine ⟨token, literal, families, families', rfl, ?_, changedFamilies, familiesChanged, familiesPerm⟩
  exact emitItems_eq_ok_iff.mpr ⟨bases.nodup_iff.mp distinct, (claims.map _).nodup_iff.mp claimed,
    fun c member => unclaimed c (claims.mem_iff.mpr member), token, literal, families', readToken,
    readLiteral, resolved', rfl⟩

/-- **Reordering the schema.** Emission succeeds on a schema whose grammars and variants are
reordered exactly when it succeeds on the schema. Its items are then the schema's, with the
families reordered alike and, inside each family, the nodes: the enum's variants and arms,
the visitor's methods and the node item groups move together, each group unchanged. -/
theorem emitItems_reordered (tools : CodeTools) (reordered : ReorderedBy Grammar.Reordering gs gs')
    (imports : Imports) :
    ((∃ items, emitItems tools gs imports = .ok items) ↔
        ∃ items', emitItems tools gs' imports = .ok items') ∧
      ∀ items, emitItems tools gs imports = .ok items → ∃ token literal families families',
        items = importItems token literal ++ (families.map Family.items).flatten ∧
        emitItems tools gs' imports =
          .ok (importItems token literal ++ (families'.map Family.items).flatten) ∧
        ReorderedBy Family.Reordering families families' := by
  have back : ReorderedBy Grammar.Reordering gs' gs :=
    reordered.symm fun _ _ sameGrammar => sameGrammar.symm
  refine ⟨⟨?_, ?_⟩, fun items emitted => emitItems_reordering reordered emitted⟩
  · rintro ⟨items, emitted⟩
    obtain ⟨_, _, _, _, -, reemitted, -⟩ := emitItems_reordering reordered emitted
    exact ⟨_, reemitted⟩
  · rintro ⟨items', emitted'⟩
    obtain ⟨_, _, _, _, -, reemitted, -⟩ := emitItems_reordering back emitted'
    exact ⟨_, reemitted⟩

/-- An `Expr` family with the variants `This` and `Variable`, and a `Stmt` family. -/
def forwardGrammars : List Grammar :=
  [⟨"Expr", [⟨"This", [⟨some "Token", "keyword"⟩]⟩, ⟨"Variable", [⟨some "Token", "name"⟩]⟩]⟩,
    ⟨"Stmt", [⟨"Print", [⟨some "Expr", "expression"⟩]⟩]⟩]

/-- The same schema with the families, and the `Expr` variants, each in the other order. -/
def reversedGrammars : List Grammar :=
  [⟨"Stmt", [⟨"Print", [⟨some "Expr", "expression"⟩]⟩]⟩,
    ⟨"Expr", [⟨"Variable", [⟨some "Token", "name"⟩]⟩, ⟨"This", [⟨some "Token", "keyword"⟩]⟩]⟩]

/-- Swapping the two families of a schema and the two variants of the first emits alike. -/
theorem emitItems_reordered_reversed :
    ReorderedBy Grammar.Reordering forwardGrammars reversedGrammars ∧
      ((∃ items, emitItems .standard forwardGrammars {} = .ok items) ↔
        ∃ items', emitItems .standard reversedGrammars {} = .ok items') ∧
      ∀ items, emitItems .standard forwardGrammars {} = .ok items →
        ∃ token literal families families',
        items = importItems token literal ++ (families.map Family.items).flatten ∧
        emitItems .standard reversedGrammars {} =
          .ok (importItems token literal ++ (families'.map Family.items).flatten) ∧
        ReorderedBy Family.Reordering families families' := by
  have reordered : ReorderedBy Grammar.Reordering forwardGrammars reversedGrammars :=
    ⟨[⟨"Expr", [⟨"Variable", [⟨some "Token", "name"⟩]⟩, ⟨"This", [⟨some "Token", "keyword"⟩]⟩]⟩,
        ⟨"Stmt", [⟨"Print", [⟨some "Expr", "expression"⟩]⟩]⟩],
      .cons ⟨rfl, .swap _ _ _⟩ (.cons ⟨rfl, .refl _⟩ .nil), .swap _ _ _⟩
  exact ⟨reordered, emitItems_reordered .standard reordered {}⟩

end LoxSyntax.NodeModel
