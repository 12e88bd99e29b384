import LoxSyntax.Code.Syntax
import LoxSyntax.Schema.Basic
import LoxSyntax.Text.Blank

/-! # Field types of the node model

A declared field type is resolved against the base names of the grammars
generated together:

* no declared type: a literal payload;
* `List<T>`: a list of `T`;
* `Option<T>`: an optional `T`, where `T` is not itself optional;
* `Token`: a shared lexical token;
* a base name: a node of that family;
* any other identifier: a type named by it.

Blanks just inside the angle brackets are ignored; anything else is refused.
Only membership in the base names matters, not their order (`resolve_perm`).

A node is stored boxed, and so is the node of an optional node; lists provide
their own indirection. Constructors take the unboxed value, so a boxed field is
initialised by boxing its argument (`initializer`).
-/

namespace LoxSyntax.NodeModel

open LoxSyntax.Code

/-- The type of a node field. -/
inductive FieldType where
  | node (name : String)
  | token
  | list (inner : FieldType)
  | optional (inner : FieldType)
  | named (name : String)
  | literal
deriving DecidableEq, Repr

/-- The text inside `wrapper<` and `>`, trimmed of blanks. -/
def unwrapGeneric (declared wrapper : String) : Option String :=
  let cs := declared.toList
  let w := wrapper.toList
  if w.isPrefixOf cs && (cs.drop w.length).head? == some '<' && cs.getLast? == some '>' &&
      w.length + 2 ≤ cs.length then
    some (String.ofList (trimBlankChars ((cs.drop (w.length + 1)).dropLast)))
  else none

namespace FieldType

/-- Resolves a declared type text against the node base names. -/
def resolveText (bases : List String) (declared : String) : Option FieldType :=
  go declared.length declared
where
  go : Nat → String → Option FieldType
    | 0, _ => none
    | fuel + 1, declared =>
      match unwrapGeneric declared "List" with
      | some inner => (go fuel inner).map .list
      | none =>
        match unwrapGeneric declared "Option" with
        | some inner =>
          match go fuel inner with
          | some (.optional _) => none
          | some t => some (.optional t)
          | none => none
        | none =>
          if !Schema.isIdentifier declared then none
          else if declared == "Token" then some .token
          else if bases.contains declared then some (.node declared)
          else some (.named declared)

/-- Resolves a field's declared type; a field without one holds a literal payload. -/
def resolve (declared : Option String) (bases : List String) : Option FieldType :=
  match declared with
  | none => some .literal
  | some text => resolveText bases text

/-- Resolution asks only whether a name is a base name, so the order of the bases does not
matter. -/
theorem resolveText_perm {bases bases' : List String} (reordered : bases.Perm bases')
    (declared : String) : resolveText bases declared = resolveText bases' declared := by
  unfold resolveText
  -- every level of the fuel asks the bases the same question
  suffices same : ∀ fuel text, resolveText.go bases fuel text = resolveText.go bases' fuel text from
    same _ _
  intro fuel
  induction fuel with
  | zero => intro text; rfl
  | succ fuel ih =>
    intro text
    simp only [resolveText.go, ih, reordered.contains_eq]

/-- A field type resolves alike against reordered base names. -/
theorem resolve_perm {bases bases' : List String} (reordered : bases.Perm bases')
    (declared : Option String) : resolve declared bases = resolve declared bases' := by
  cases declared with
  | none => rfl
  | some text => exact resolveText_perm reordered text

/-- The type of a value of this field type, nodes unboxed. -/
def element : FieldType → Ty
  | .node name | .named name => .named name
  | .token => .named "Rc" [.named "Token"]
  | .list inner => .named "Vec" [inner.element]
  | .optional inner => .named "Option" [inner.element]
  | .literal => .named "LiteralValue"

/-- Whether the field is stored boxed: a node, or an optional node. -/
def isBoxed : FieldType → Bool
  | .node _ => true
  | .optional (.node _) => true
  | _ => false

/-- The type the field is stored as. -/
def storage : FieldType → Ty
  | .node name => .named "Box" [.named name]
  | .optional (.node name) => .named "Option" [.named "Box" [.named name]]
  | t => t.element

/-- The type the constructor takes for the field. -/
def parameter (t : FieldType) : Ty := t.element

/-- The expression storing the constructor argument `arg` in the field. -/
def initializer (t : FieldType) (arg : String) : Expr :=
  match t with
  | .node _ => .call (.path ["Box", "new"]) [.path [arg]]
  | .optional (.node _) => .methodCall (.path [arg]) "map" [.path ["Box", "new"]]
  | _ => .path [arg]

/-- The boxed fields are the nodes and the optional nodes. -/
theorem isBoxed_eq_true_iff {t : FieldType} :
    t.isBoxed = true ↔ (∃ name, t = .node name) ∨ ∃ name, t = .optional (.node name) := by
  cases t with
  | node name => simp [isBoxed]
  | optional inner => cases inner <;> simp [isBoxed]
  | _ => simp [isBoxed]

/-- A field that is not boxed is stored as the value the constructor takes. -/
theorem storage_of_isBoxed_eq_false {t : FieldType} (unboxed : t.isBoxed = false) :
    t.storage = t.parameter := by
  cases t with
  | node name => cases unboxed
  | optional inner =>
    cases inner with
    | node name => cases unboxed
    | _ => rfl
  | _ => rfl

/-- A field that is not boxed is initialised with the constructor argument itself. -/
theorem initializer_of_isBoxed_eq_false {t : FieldType} (unboxed : t.isBoxed = false)
    (arg : String) : t.initializer arg = .path [arg] := by
  cases t with
  | node name => cases unboxed
  | optional inner =>
    cases inner with
    | node name => cases unboxed
    | _ => rfl
  | _ => rfl

end FieldType

end LoxSyntax.NodeModel
