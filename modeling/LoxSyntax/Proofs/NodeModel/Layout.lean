import LoxSyntax.NodeModel.Source
import LoxSyntax.Proofs.NodeModel.Resolution

/-! # Layout of the emitted items

The emitter builds three lists for each family (the base enum with its dispatching
`accept`, the visitor trait, the node items) from one resolved node list, so the three
stay aligned. This module writes down the layout the schema prescribes directly from the
variants, `prescribedItems`, and shows that a successful emission is exactly that layout,
family after family, behind the three imported items (`emitItems_layout`): the i-th enum
variant, the i-th arm, the i-th visitor method and the i-th node group all belong to the
i-th variant of the schema, and each node's fields are its declared fields resolved in
order.
-/

namespace LoxSyntax.NodeModel

open LoxSyntax.Schema LoxSyntax.Code

/-- The items the schema prescribes for variant `v` of the family `base`, when its fields
resolve to `fields`: the node struct, its constructor and `accept`, and its conversion
into the base enum. -/
def prescribedNodeItems (base : String) (v : Variant) (fields : List (Ident × FieldType)) :
    List Item :=
  let node := v.name ++ base
  [.structDecl [.doc s!" `{v.render}`", derived] node (fields.map fun (i, t) => (i, t.storage)),
    .implBlock none (.named node)
      [{ doc := some " Builds the node from its fields in declaration order.", isPublic := true,
         sig := { name := "new", generics := [], params := fields.map fun (i, t) => .typed i t.parameter,
                  output := .named "Self" },
         body := .record ["Self"] (fields.map fun (i, t) =>
           (i, if t.isBoxed then some (t.initializer i.text) else none)) },
       { doc := some " Calls the matching visitor method and returns its result.", isPublic := true,
         sig := acceptSignature (base ++ "Visitor"),
         body := .methodCall (.path ["visitor"]) ("visit_" ++ snakeCase v.name ++ "_" ++ snakeCase base)
           [.path ["self"]] }],
    .implBlock (some (.named "From" [.named node])) (.named base)
      [{ doc := none, isPublic := false,
         sig := { name := "from", generics := [], params := [.typed ⟨"node", false⟩ (.named node)],
                  output := .named "Self" },
         body := .call (.path [base, v.name]) [.path ["node"]] }]]

/-- The items the schema prescribes for the family of grammar `g`, when the fields of its
variants resolve, variant by variant, to `resolved`: the base enum with one tuple variant
and one dispatching arm per variant, the visitor trait with one method per variant, then
each variant's node items, all in schema order. -/
def prescribedItems (g : Grammar) (resolved : List (List (Ident × FieldType))) : List Item :=
  let base := g.baseName
  let visitor := base ++ "Visitor"
  [.enumDecl
      [.doc s!" A `{base}` node. The set of variants is closed; behavior lives in [`{visitor}`] implementations.",
        derived]
      base (g.variants.map fun v => (v.name, .named (v.name ++ base))),
    .implBlock none (.named base)
      [{ doc := some " Dispatches to the visitor method matching this node's variant.", isPublic := true,
         sig := acceptSignature visitor,
         -- an enum without variants is matched through the reference
         body := .matchOn (if g.variants = [] then .deref (.path ["self"]) else .path ["self"])
           (g.variants.map fun v =>
             (.tuple [base, v.name] [.bind "node"], .methodCall (.path ["node"]) "accept" [.path ["visitor"]])) }],
    .traitDecl [.doc s!" One operation over `{base}` trees: a method per variant."] visitor "Output"
      (g.variants.map fun v =>
        { name := "visit_" ++ snakeCase v.name ++ "_" ++ snakeCase base, generics := [],
          params := [.self true, .typed ⟨snakeCase base, false⟩ (.ref false (.named (v.name ++ base)))],
          output := .path ["Self", "Output"] [] })] ++
  (List.zipWith (prescribedNodeItems base) g.variants resolved).flatten

/-- A resolved family emits the layout its grammar prescribes, the fields of each node
being the variant's declared fields resolved one by one. -/
theorem family_items_eq_prescribed {bases : List String} {g : Grammar} {family : Family}
    (resolved : resolveGrammar bases g = .ok family) :
    List.Forall₂ (fun v fields => List.Forall₂ (FieldResolves bases) v.fields fields)
        g.variants (family.nodes.map (·.fields)) ∧
      family.items = prescribedItems g (family.nodes.map (·.fields)) := by
  obtain ⟨named, resolvedNodes, -⟩ := resolveGrammar_eq_ok_iff.mp resolved
  obtain ⟨familyBase, nodes⟩ := family
  simp only at named resolvedNodes ⊢
  subst named
  -- each node is named after its variant and holds the variant's resolved fields
  have shaped : List.Forall₂ (fun v n => n.variant = v.name ∧ n.typeName = v.name ++ g.baseName ∧
      n.method = "visit_" ++ snakeCase v.name ++ "_" ++ snakeCase g.baseName ∧
      n.declaration = v.render ∧ List.Forall₂ (FieldResolves bases) v.fields n.fields)
      g.variants nodes := by
    refine (Except.mapM_eq_ok_iff.mp resolvedNodes).imp fun v n resolvedNode => ?_
    obtain ⟨-, fields, resolvedFields, rfl⟩ := resolveNode_eq_ok_iff.mp resolvedNode
    exact ⟨rfl, rfl, rfl, rfl, (resolveFields_eq_ok_iff.mp resolvedFields).1⟩
  refine ⟨List.forall₂_map_right_iff.mpr (shaped.imp fun v n s => s.2.2.2.2), ?_⟩
  -- the enum, the arms, the trait's methods and the node items all follow the variants
  have empty : nodes.isEmpty = decide (g.variants = []) := by
    rw [Bool.eq_iff_iff, List.isEmpty_iff, decide_eq_true_iff, ← List.length_eq_zero_iff,
      ← shaped.length_eq, List.length_eq_zero_iff]
  have variants : nodes.map (fun n => (n.variant, Ty.named n.typeName)) =
      g.variants.map fun v => (v.name, Ty.named (v.name ++ g.baseName)) :=
    (map_eq_map_of_forall₂ (fun v n s => by rw [s.1, s.2.1]) shaped).symm
  have arms : nodes.map (fun n => (Pat.tuple [g.baseName, n.variant] [Pat.bind "node"],
      (Expr.path ["node"]).methodCall "accept" [Expr.path ["visitor"]])) =
      g.variants.map fun v => (Pat.tuple [g.baseName, v.name] [Pat.bind "node"],
        (Expr.path ["node"]).methodCall "accept" [Expr.path ["visitor"]]) :=
    (map_eq_map_of_forall₂ (fun v n s => by rw [s.1]) shaped).symm
  have methods : nodes.map (fun n => ({
        name := n.method, generics := [],
        params := [Param.self true,
          Param.typed { name := snakeCase g.baseName } (Ty.ref false (Ty.named n.typeName))],
        output := Ty.path ["Self", "Output"] [] } : Signature)) =
      g.variants.map fun v => {
        name := "visit_" ++ snakeCase v.name ++ "_" ++ snakeCase g.baseName, generics := [],
        params := [Param.self true,
          Param.typed { name := snakeCase g.baseName } (Ty.ref false (Ty.named (v.name ++ g.baseName)))],
        output := Ty.path ["Self", "Output"] [] } :=
    (map_eq_map_of_forall₂ (fun v n s => by rw [s.2.1, s.2.2.1]) shaped).symm
  have groups : nodes.map (nodeItems g.baseName) =
      List.zipWith (prescribedNodeItems g.baseName) g.variants (nodes.map (·.fields)) := by
    refine (zipWith_map_eq_map_of_forall₂ (fun v n s => ?_) shaped).symm
    simp only [nodeItems, prescribedNodeItems, visitorName, s.1, s.2.1, s.2.2.1, s.2.2.2.1]
  simp only [Family.items, baseItems, visitorItem, prescribedItems, empty, variants, arms, methods,
    groups, visitorName, decide_eq_true_eq, List.cons_append, List.nil_append]

/-- **Layout of an emission.** A successful emission is the three imported items followed,
grammar by grammar in order, by the layout each grammar prescribes, where the fields of
every variant resolve in declaration order against the base names of all the grammars. -/
theorem emitItems_layout {tools : CodeTools} {gs : List Grammar} {imports : Imports}
    {items : List Item} (emitted : emitItems tools gs imports = .ok items) :
    ∃ token literal resolved,
      readImport tools imports.token "Token" = .ok token ∧
      readImport tools imports.literal "LiteralValue" = .ok literal ∧
      List.Forall₂ (fun g fields => List.Forall₂ (fun v fs =>
          List.Forall₂ (FieldResolves (gs.map (·.baseName))) v.fields fs) g.variants fields)
        gs resolved ∧
      items = importItems token literal ++ (List.zipWith prescribedItems gs resolved).flatten := by
  obtain ⟨-, -, -, token, literal, families, readToken, readLiteral, resolvedAll, rfl⟩ :=
    emitItems_eq_ok_iff.mp emitted
  have related := Except.mapM_eq_ok_iff.mp resolvedAll
  have fieldsResolve : List.Forall₂ (fun g fields => List.Forall₂ (fun v fs =>
      List.Forall₂ (FieldResolves (gs.map (·.baseName))) v.fields fs) g.variants fields)
      gs (families.map fun f => f.nodes.map (·.fields)) := by
    rw [List.forall₂_map_right_iff]
    exact related.imp fun g f r => (family_items_eq_prescribed r).1
  refine ⟨token, literal, families.map fun f => f.nodes.map (·.fields), readToken, readLiteral,
    fieldsResolve, ?_⟩
  -- elaborated before use, so that the unifier never meets the prescribed layout with holes
  have blocks : List.zipWith prescribedItems gs (families.map fun f => f.nodes.map (·.fields)) =
      families.map Family.items := by
    refine zipWith_map_eq_map_of_forall₂ (fun g f r => ?_) related
    exact (family_items_eq_prescribed r).2.symm
  rw [blocks]

/-- A two-family schema: an `Expr` family with one variant whose fields name the token type
and an optional child, and an empty `Pattern` family. -/
def unaryGrammars : List Grammar :=
  [⟨"Expr", [⟨"Unary", [⟨some "Token", "operator"⟩, ⟨some "Option<Expr>", "type"⟩]⟩]⟩,
    ⟨"Pattern", []⟩]

/-- The two-family schema is emitted, with the layout it prescribes. -/
theorem emitItems_layout_unary :
    ∃ items, emitItems .standard unaryGrammars {} = .ok items ∧
      ∃ token literal resolved,
        readImport .standard "crate::token::Token" "Token" = .ok token ∧
        readImport .standard "crate::value::LiteralValue" "LiteralValue" = .ok literal ∧
        List.Forall₂ (fun g fields => List.Forall₂ (fun v fs =>
            List.Forall₂ (FieldResolves ["Expr", "Pattern"]) v.fields fs) g.variants fields)
          unaryGrammars resolved ∧
        items = importItems token literal ++
          (List.zipWith prescribedItems unaryGrammars resolved).flatten := by
  obtain ⟨items, emitted⟩ :=
    Except.exists_ok_of_isOk (by decide +kernel : (emitItems .standard unaryGrammars {}).isOk = true)
  -- stated apart: against the goal, the import paths would be unified before they are known
  have layout := emitItems_layout emitted
  exact ⟨items, emitted, layout⟩

end LoxSyntax.NodeModel
