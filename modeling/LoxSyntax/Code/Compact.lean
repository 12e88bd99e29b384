import LoxSyntax.Code.Render

/-! # Compact code text

Types and expressions written on one line without any blank, as in
`Option<Box<Expr>>` or `value.map(Box::new)`: the form in which single pieces of
generated code are compared.
-/

namespace LoxSyntax.Code

/-- A type without blanks. -/
def Ty.compact : Ty → String
  | .ref mutable target => "&" ++ (if mutable then "mut" else "") ++ target.compact
  | .path segments args =>
    pathText segments ++
      if args.isEmpty then "" else "<" ++ ",".intercalate (args.attach.map fun ⟨t, _⟩ => t.compact) ++ ">"

/-- A pattern without blanks. -/
def Pat.compact : Pat → String
  | .bind name => name
  | .tuple path fields =>
    pathText path ++ "(" ++ ",".intercalate (fields.attach.map fun ⟨f, _⟩ => f.compact) ++ ")"

/-- An expression without blanks. -/
def Expr.compact : Expr → String
  | .path segments => pathText segments
  | .deref operand => "*" ++ operand.compact
  | .call callee args => callee.compact ++ "(" ++ ",".intercalate (args.attach.map fun ⟨a, _⟩ => a.compact) ++ ")"
  | .methodCall receiver method args =>
    receiver.compact ++ "." ++ method ++ "(" ++ ",".intercalate (args.attach.map fun ⟨a, _⟩ => a.compact) ++ ")"
  | .record segments fields =>
    pathText segments ++ "\x7b" ++
      ",".intercalate (fields.attach.map fun ⟨(name, value), _⟩ =>
        name.text ++ (match value with
          | some v => ":" ++ v.compact
          | none => "")) ++ "\x7d"
  | .matchOn scrutinee arms =>
    "match" ++ scrutinee.compact ++ "\x7b" ++
      ",".intercalate (arms.attach.map fun ⟨(pat, body), _⟩ => pat.compact ++ "=>" ++ body.compact) ++ "\x7d"
decreasing_by
  all_goals simp_wf
  all_goals
    first
    | omega
    | (have hm := List.sizeOf_lt_of_mem ‹_ ∈ _›; simp_all; omega)

end LoxSyntax.Code
