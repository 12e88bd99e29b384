import LoxSyntax.Proofs.NodeModel.Resolution
import LoxSyntax.Proofs.NodeModel.TypeGrammar

/-! # How node fields are stored

A node struct must not hold a node of a family directly, or a recursive family would have
no size. `Ty.NodesGuarded isNode τ` says that every node named in `τ` stands inside a
`Box<…>` or a `Vec<…>`; a node type takes no type arguments, so the places it can stand are
the leaves of `τ`. The storage of every resolved field type is guarded so
(`storage_nodesGuarded`). Storage boxes a node only at the top and directly under the top
optional, so this rests on resolution refusing an optional directly inside an optional:
there a node would stand bare.

The constructor `new` of a node takes each field unboxed and stores it. `Expr.HasType Γ e τ`
types the expressions it stores with, `Γ` giving its parameters' types: `Box::new` takes `A`
to `Box<A>`, and `map(Box::new)` takes `Option<A>` to `Option<Box<A>>`. An initializer has
the storage type when its argument has the parameter type; a field is boxed exactly when its
storage differs from its parameter, and otherwise stored as the argument itself, which the
struct literal then writes by its name alone (`initializer_hasType`).
-/

namespace LoxSyntax.Code

/-- Every name `isNode` calls a node stands, in a type, inside a `Box<…>` or a `Vec<…>`.
A node type takes no type arguments, so only the leaves of a type can name one. -/
inductive Ty.NodesGuarded (isNode : String → Prop) : Ty → Prop
  | boxed {arg : Ty} : NodesGuarded isNode (.named "Box" [arg])
  | vec {arg : Ty} : NodesGuarded isNode (.named "Vec" [arg])
  | leaf {segments : List String} :
      (∀ s ∈ segments, ¬ isNode s) → NodesGuarded isNode (.path segments [])
  | applied {segments : List String} {args : List Ty} : args ≠ [] →
      (∀ a ∈ args, NodesGuarded isNode a) → NodesGuarded isNode (.path segments args)
  | ref {mutable : Bool} {target : Ty} :
      NodesGuarded isNode target → NodesGuarded isNode (.ref mutable target)

/-- A name that is not a node is guarded. -/
theorem Ty.NodesGuarded.plainName {isNode : String → Prop} {name : String}
    (other : ¬ isNode name) : NodesGuarded isNode (.named name) :=
  .leaf fun _ member => (List.mem_singleton.mp member) ▸ other

/-- A type applied to one guarded argument is guarded. -/
theorem Ty.NodesGuarded.wrap {isNode : String → Prop} {segments : List String} {arg : Ty}
    (guarded : NodesGuarded isNode arg) : NodesGuarded isNode (.path segments [arg]) :=
  .applied (List.cons_ne_nil _ _) fun _ member => (List.mem_singleton.mp member) ▸ guarded

/-- Below a type that is neither a box nor a vector, each type argument is guarded. -/
theorem Ty.NodesGuarded.args {isNode : String → Prop} {segments : List String} {args : List Ty}
    (guarded : NodesGuarded isNode (.path segments args)) (notBox : segments ≠ ["Box"])
    (notVec : segments ≠ ["Vec"]) : ∀ a ∈ args, NodesGuarded isNode a := by
  generalize typed : Ty.path segments args = τ at guarded
  cases guarded with
  | boxed => cases typed; exact absurd rfl notBox
  | vec => cases typed; exact absurd rfl notVec
  | leaf => cases typed; simp
  | applied _ each => cases typed; exact each
  | ref => cases typed

/-- A guarded leaf names no node. -/
theorem Ty.NodesGuarded.leaf_names {isNode : String → Prop} {segments : List String}
    (guarded : NodesGuarded isNode (.path segments [])) : ∀ s ∈ segments, ¬ isNode s := by
  generalize typed : Ty.path segments [] = τ at guarded
  cases guarded with
  | boxed => cases typed
  | vec => cases typed
  | leaf bare => cases typed; exact bare
  | applied nonempty => cases typed; exact absurd rfl nonempty
  | ref => cases typed

/-- The types of the expressions a constructor stores its arguments with, `Γ` giving the
types of its parameters. -/
inductive Expr.HasType (Γ : List (String × Ty)) : Expr → Ty → Prop
  | param {x : String} {τ : Ty} : Γ.lookup x = some τ → HasType Γ (.path [x]) τ
  | boxNew {e : Expr} {τ : Ty} :
      HasType Γ e τ → HasType Γ (.call (.path ["Box", "new"]) [e]) (.named "Box" [τ])
  | mapBoxNew {e : Expr} {τ : Ty} : HasType Γ e (.named "Option" [τ]) →
      HasType Γ (.methodCall e "map" [.path ["Box", "new"]]) (.named "Option" [.named "Box" [τ]])

/-- The names and types a function's typed parameters bind. -/
def Signature.context (sig : Signature) : List (String × Ty) :=
  sig.params.filterMap fun
    | .typed name ty => some (name.text, ty)
    | .self _ => none

/-- A constructor stores the fields of a struct: its body is a struct literal giving the
fields in order, each with a value of the field's type, a value given by the field's name
alone being the parameter of that name. -/
def FnDef.StoresFields (ctor : FnDef) (fields : List (Ident × Ty)) : Prop :=
  ∃ inits, ctor.body = .record ["Self"] inits ∧
    List.Forall₂ (fun (field : Ident × Ty) (init : Ident × Option Expr) =>
      init.1 = field.1 ∧ (init.2.getD (.path [init.1.text])).HasType ctor.sig.context field.2)
      fields inits

end LoxSyntax.Code

namespace LoxSyntax.NodeModel

open LoxSyntax.Code

namespace FieldType

/-! ## Guarded storage -/

section Guarded

variable {bases : List String}

/-- The names resolving to nodes of the families `bases`. -/
def IsNodeName (bases : List String) (name : String) : Prop :=
  resolve (some name) bases = some (.node name)

/-- An identifier that is not a base name resolves to a named type, so it names no node. -/
theorem not_isNodeName_of_spells_named {name : String}
    (spelled : Spells bases name.toList (.named name)) : ¬ IsNodeName bases name := by
  intro node
  have named := resolveText_eq_some_iff.mpr spelled
  rw [IsNodeName, resolve, named] at node
  cases node

/-- `Token` names no node, whatever the base names. -/
theorem not_isNodeName_token : ¬ IsNodeName bases "Token" := by
  intro node
  have token := resolveText_eq_some_iff.mpr (@Spells.token bases)
  rw [IsNodeName, resolve, token] at node
  cases node

/-- Below a wrapper that is not a node, a derived type is guarded in its element form. -/
theorem Spells.element_nodesGuarded {cs : List Char} {t : FieldType}
    (spelled : Spells bases cs t) (notNode : ∀ name, t ≠ .node name)
    (plain : ∀ u, t ≠ .optional u) : t.element.NodesGuarded (IsNodeName bases) := by
  cases spelled with
  | list => exact .vec
  | optional => exact absurd rfl (plain _)
  | token => exact .wrap (.plainName not_isNodeName_token)
  | node => exact absurd rfl (notNode _)
  | @named name ident notToken absent =>
    exact .plainName (not_isNodeName_of_spells_named (.named ident notToken absent))

/-- The storage of a derived type names nodes only inside a box or a vector. -/
theorem Spells.guarded_storage {cs : List Char} {t : FieldType}
    (spelled : Spells bases cs t) : t.storage.NodesGuarded (IsNodeName bases) := by
  cases spelled with
  | list => exact .vec
  | @optional pre inner post u leading spelled trailing plain =>
    -- an optional node is boxed; any other optional type is its element under `Option`
    by_cases node : ∃ name, u = .node name
    · obtain ⟨name, rfl⟩ := node
      exact .wrap .boxed
    · have unboxed : (FieldType.optional u).isBoxed = false := by
        rw [Bool.eq_false_iff]
        intro boxed
        rcases isBoxed_eq_true_iff.mp boxed with ⟨name, same⟩ | ⟨name, same⟩
        · cases same
        · exact node ⟨name, FieldType.optional.inj same⟩
      rw [storage_of_isBoxed_eq_false unboxed]
      exact .wrap (spelled.element_nodesGuarded (fun name same => node ⟨name, same⟩) plain)
  | token => exact Spells.token.element_nodesGuarded (fun _ => by simp) (fun _ => by simp)
  | node => exact .boxed
  | @named name ident notToken absent =>
    exact (Spells.named ident notToken absent).element_nodesGuarded (fun _ => by simp)
      (fun _ => by simp)

/-- **Node fields are guarded.** In the storage of every resolved field type, every name that
resolves to a node stands inside a `Box<…>` or a `Vec<…>`. Without the refusal of an optional
directly inside an optional this would fail: such a node would be stored bare. -/
theorem storage_nodesGuarded (bases : List String) :
    (∀ (declared : String) (t : FieldType), resolve (some declared) bases = some t →
      t.storage.NodesGuarded (IsNodeName bases)) ∧
    (∀ name, IsNodeName bases name →
      ¬ (FieldType.optional (.optional (.node name))).storage.NodesGuarded
        (IsNodeName bases)) := by
  refine ⟨fun declared t resolved => (resolveText_eq_some_iff.mp resolved).guarded_storage,
    fun name node guarded => ?_⟩
  -- `Option<Option<name>>`: neither wrapper guards, and the leaf names the node
  have bare : (FieldType.optional (.optional (.node name))).storage =
      .named "Option" [.named "Option" [.named name]] := rfl
  rw [bare] at guarded
  have outer := guarded.args (by simp) (by simp) _ List.mem_cons_self
  have inner := outer.args (by simp) (by simp) _ List.mem_cons_self
  exact inner.leaf_names name List.mem_cons_self node

/-- In a schema with the one family `Expr`, an optional child `Option<Expr>` resolves and is
stored guarded, as `Option<Box<Expr>>`; stored as `Option<Option<Expr>>` it would stand bare. -/
theorem storage_nodesGuarded_optionalChild :
    resolve (some "Option<Expr>") ["Expr"] = some (.optional (.node "Expr")) ∧
      (FieldType.optional (.node "Expr")).storage.NodesGuarded (IsNodeName ["Expr"]) ∧
      IsNodeName ["Expr"] "Expr" ∧
      ¬ (FieldType.optional (.optional (.node "Expr"))).storage.NodesGuarded
        (IsNodeName ["Expr"]) := by
  have resolved : resolve (some "Option<Expr>") ["Expr"] = some (.optional (.node "Expr")) := by
    decide +kernel
  have node : IsNodeName ["Expr"] "Expr" := by
    rw [IsNodeName]
    decide +kernel
  exact ⟨resolved, (storage_nodesGuarded ["Expr"]).1 _ _ resolved, node,
    (storage_nodesGuarded ["Expr"]).2 "Expr" node⟩

end Guarded

/-! ## Well-typed constructors -/

/-- An initializer has the storage type when its argument has the parameter type. -/
theorem initializer_hasType_of_lookup {Γ : List (String × Ty)} {t : FieldType} {arg : String}
    (bound : Γ.lookup arg = some t.parameter) : (t.initializer arg).HasType Γ t.storage := by
  cases boxed : t.isBoxed with
  | false =>
    rw [initializer_of_isBoxed_eq_false boxed, storage_of_isBoxed_eq_false boxed]
    exact .param bound
  | true =>
    rcases isBoxed_eq_true_iff.mp boxed with ⟨name, rfl⟩ | ⟨name, rfl⟩
    · exact .boxNew (.param bound)
    · exact .mapBoxNew (.param bound)

/-- A field is boxed exactly when its storage differs from the value the constructor takes. -/
theorem isBoxed_iff_storage_ne_parameter (t : FieldType) :
    t.isBoxed = true ↔ t.storage ≠ t.parameter := by
  constructor
  · intro boxed same
    rcases isBoxed_eq_true_iff.mp boxed with ⟨name, rfl⟩ | ⟨name, rfl⟩
    · cases same
    · cases same
  · intro differ
    cases boxed : t.isBoxed with
    | false => exact absurd (storage_of_isBoxed_eq_false boxed) differ
    | true => rfl

end FieldType

/-- In a list of bindings with distinct names, a name finds its own binding. -/
theorem lookup_map_of_nodup {α β : Type} {key : α → String} {value : α → β} {xs : List α}
    {a : α} (member : a ∈ xs) (distinct : (xs.map key).Nodup) :
    (xs.map fun x => (key x, value x)).lookup (key a) = some (value a) := by
  induction xs with
  | nil => cases member
  | cons x rest ih =>
    obtain ⟨fresh, distinct⟩ := List.nodup_cons.mp distinct
    rcases List.mem_cons.mp member with rfl | member
    · simp
    · have other : (key a == key x) = false :=
        beq_false_of_ne fun same => fresh (same ▸ List.mem_map_of_mem member)
      simp [List.lookup, other, ih member distinct]

/-- A constructor taking each field at its parameter type, with distinct identifiers, and
building the struct literal of the fields' initializers, a field that is not boxed written
by its name alone, stores each field at its storage type. -/
theorem FnDef.storesFields_of_initializers {ctor : FnDef} {fields : List (Ident × FieldType)}
    (distinct : (fields.map (·.1.text)).Nodup)
    (params : ctor.sig.params = fields.map fun (i, t) => .typed i t.parameter)
    (body : ctor.body = .record ["Self"] (fields.map fun (i, t) =>
      (i, if t.isBoxed then some (t.initializer i.text) else none))) :
    ctor.StoresFields (fields.map fun (i, t) => (i, t.storage)) := by
  have context : ctor.sig.context = fields.map fun r => (r.1.text, r.2.parameter) := by
    simp [Signature.context, params, List.filterMap_map]
  refine ⟨_, body, ?_⟩
  rw [List.forall₂_map_left_iff, List.forall₂_map_right_iff, List.forall₂_same]
  rintro ⟨i, t⟩ member
  refine ⟨rfl, ?_⟩
  -- the field's identifier is bound to its own parameter type, the identifiers being distinct
  have bound : ctor.sig.context.lookup i.text = some t.parameter := by
    rw [context]
    exact @lookup_map_of_nodup _ _ (fun r => r.1.text) (fun r => r.2.parameter) _ _ member distinct
  cases boxed : t.isBoxed with
  | false =>
    rw [← FieldType.storage_of_isBoxed_eq_false boxed] at bound
    simpa [boxed] using Expr.HasType.param bound
  | true => simpa [boxed] using FieldType.initializer_hasType_of_lookup bound

/-- **Constructors are well typed.** An initializer has the storage type when its argument has
the parameter type; a field is boxed exactly when its storage and parameter types differ, and
one that is not is stored as the argument itself. So the constructor emitted for every
resolved variant stores each field with a value of the field's storage type, the fields
written by name alone included. -/
theorem initializer_hasType :
    (∀ (Γ : List (String × Ty)) (t : FieldType) (arg : String),
      Γ.lookup arg = some t.parameter → (t.initializer arg).HasType Γ t.storage) ∧
    (∀ t : FieldType, t.isBoxed = true ↔ t.storage ≠ t.parameter) ∧
    (∀ (t : FieldType) (arg : String), t.isBoxed = false → t.initializer arg = .path [arg]) ∧
    (∀ (bases : List String) (base : String) (v : Schema.Variant) (n : Node),
      resolveNode bases base v = .ok n →
        ∃ attrs fields ctor others rest,
          nodeItems base n = .structDecl attrs n.typeName fields ::
            .implBlock none (.named n.typeName) (ctor :: others) :: rest ∧
          ctor.sig.name = "new" ∧ ctor.StoresFields fields) := by
  refine ⟨fun Γ t arg bound => FieldType.initializer_hasType_of_lookup bound,
    FieldType.isBoxed_iff_storage_ne_parameter,
    fun t arg unboxed => FieldType.initializer_of_isBoxed_eq_false unboxed arg,
    fun bases base v n resolved => ?_⟩
  obtain ⟨-, fields, resolvedFields, rfl⟩ := resolveNode_eq_ok_iff.mp resolved
  obtain ⟨-, distinct, -⟩ := resolveFields_eq_ok_iff.mp resolvedFields
  exact ⟨_, _, _, _, _, rfl, rfl, FnDef.storesFields_of_initializers distinct rfl rfl⟩

/-- The `Unary` node of an `Expr` family, with a token operator and a node operand: the
operand's initializer boxes the argument, the operator is stored as given, and the
constructor emitted for the node stores both. -/
theorem initializer_hasType_unary :
    [("right", (FieldType.node "Expr").parameter)].lookup "right" =
        some (FieldType.node "Expr").parameter ∧
      ((FieldType.node "Expr").initializer "right").HasType
        [("right", (FieldType.node "Expr").parameter)] (FieldType.node "Expr").storage ∧
      FieldType.token.isBoxed = false ∧
      FieldType.token.initializer "operator" = .path ["operator"] ∧
      ∃ n, resolveNode ["Expr"] "Expr"
          ⟨"Unary", [⟨some "Token", "operator"⟩, ⟨some "Expr", "right"⟩]⟩ = .ok n ∧
        ∃ attrs fields ctor others rest,
          nodeItems "Expr" n = .structDecl attrs n.typeName fields ::
            .implBlock none (.named n.typeName) (ctor :: others) :: rest ∧
          ctor.sig.name = "new" ∧ ctor.StoresFields fields := by
  have bound : [("right", (FieldType.node "Expr").parameter)].lookup "right" =
      some (FieldType.node "Expr").parameter := rfl
  have unboxed : FieldType.token.isBoxed = false := rfl
  obtain ⟨n, resolved⟩ := Except.exists_ok_of_isOk (by decide +kernel :
    (resolveNode ["Expr"] "Expr"
      ⟨"Unary", [⟨some "Token", "operator"⟩, ⟨some "Expr", "right"⟩]⟩).isOk = true)
  have typed := initializer_hasType
  exact ⟨bound, typed.1 _ _ _ bound, unboxed, typed.2.2.1 _ _ unboxed, n, resolved,
    typed.2.2.2 _ _ _ _ resolved⟩

end LoxSyntax.NodeModel
