import Mathlib
import LoxSyntax.NodeModel.FieldType
import LoxSyntax.Proofs.Schema.RoundTrip

/-! # The grammar of declared field types

A declared field type is a text of the grammar

    T ::= List< ws* T ws* >  |  Option< ws* U ws* >  |  IDENT

where `U` ranges over the texts of `T` that are not of the `Option` form, `ws` over blank
characters and `IDENT` over identifiers. `FieldType.Spells bases cs t` says that the text
`cs` derives the field type `t`: the wrappers give lists and optional types, the identifier
`Token` the shared token, a base name a node and any other identifier a named type.

The resolver strips one wrapper at each level and trims what it finds inside
(`unwrapGeneric_eq_some_iff`). A derived text neither starts nor ends with a blank
(`FieldType.Spells.plain`), so the trim gives back the inner text exactly. What the
resolver returns at any fuel is a derivation (`resolveText.go_spells`), and a derivation
is found with fuel no less than the length of its text (`resolveText.go_of_spells`), which
is the fuel the resolver starts with. So a declared type resolves exactly to the result of
its derivation (`FieldType.resolve_spells`); no result has an optional type directly inside
another, though an optional type may stand in a list and a list in an optional type.
-/

namespace LoxSyntax.NodeModel

open LoxSyntax.Schema

/-- The text `wrapper<body>`. -/
def wrapped (wrapper : String) (body : List Char) : List Char :=
  wrapper.toList ++ '<' :: body ++ ['>']

/-- A wrapped type text is two characters longer than the wrapper and the body. -/
theorem length_wrapped (wrapper : String) (body : List Char) :
    (wrapped wrapper body).length = wrapper.length + body.length + 2 := by
  simp [wrapped, String.length_toList]
  omega

/-- A wrapped type text ends with the closing bracket. -/
theorem getLast?_wrapped (wrapper : String) (body : List Char) :
    (wrapped wrapper body).getLast? = some '>' := by
  rw [wrapped, List.getLast?_concat]

namespace FieldType

/-- The derivations of the grammar of declared types, the identifiers of `bases` naming
nodes. -/
inductive Spells (bases : List String) : List Char → FieldType → Prop
  | list {pre inner post : List Char} {t : FieldType} : (∀ c ∈ pre, isBlank c = true) →
      Spells bases inner t → (∀ c ∈ post, isBlank c = true) →
      Spells bases (wrapped "List" (pre ++ inner ++ post)) (.list t)
  | optional {pre inner post : List Char} {t : FieldType} : (∀ c ∈ pre, isBlank c = true) →
      Spells bases inner t → (∀ c ∈ post, isBlank c = true) → (∀ u, t ≠ .optional u) →
      Spells bases (wrapped "Option" (pre ++ inner ++ post)) (.optional t)
  | token : Spells bases "Token".toList .token
  | node {name : String} : isIdentifier name = true → name ≠ "Token" → name ∈ bases →
      Spells bases name.toList (.node name)
  | named {name : String} : isIdentifier name = true → name ≠ "Token" → name ∉ bases →
      Spells bases name.toList (.named name)

/-- Whether an optional type stands directly inside an optional type, at any depth. -/
def nestsOption : FieldType → Bool
  | .optional (.optional _) => true
  | .list inner | .optional inner => inner.nestsOption
  | _ => false

/-- Putting a type that is not optional under an optional nests optionals exactly where the
type does. -/
theorem nestsOption_optional {t : FieldType} (plain : ∀ u, t ≠ .optional u) :
    (FieldType.optional t).nestsOption = t.nestsOption := by
  cases t with
  | optional u => exact absurd rfl (plain u)
  | _ => rfl

end FieldType

/-! ## Unwrapping -/

/-- Past a wrapper and its opening bracket stands the rest of the text. -/
theorem drop_wrapper_bracket (wrapper : String) (rest : List Char) :
    (wrapper.toList ++ '<' :: rest).drop (wrapper.toList.length + 1) = rest := by
  rw [← List.singleton_append, ← List.append_assoc]
  exact List.drop_left' (by simp)

/-- A text that unwraps is `wrapper<body>`, and what it unwraps to is the body trimmed. -/
theorem wrapped_of_unwrapGeneric {declared wrapper inner : String}
    (unwrapped : unwrapGeneric declared wrapper = some inner) :
    ∃ body, declared.toList = wrapped wrapper body ∧
      inner = String.ofList (trimBlankChars body) := by
  unfold unwrapGeneric at unwrapped
  dsimp only at unwrapped
  split at unwrapped
  · rename_i guard
    simp only [Bool.and_eq_true, beq_iff_eq, decide_eq_true_eq] at guard
    obtain ⟨⟨⟨prefixed, opens⟩, closes⟩, long⟩ := guard
    -- the wrapper, then the opening bracket, then a non-empty rest ending with the closing one
    obtain ⟨rest, chars⟩ := List.isPrefixOf_iff_prefix.mp prefixed
    rw [← chars, List.drop_left] at opens
    obtain ⟨rest, rfl⟩ : ∃ after, rest = '<' :: after := by
      cases rest with
      | nil => cases opens
      | cons c after => exact ⟨after, by simpa using opens⟩
    have nonempty : rest ≠ [] := by
      rintro rfl
      rw [← chars] at long
      simp at long
    have last : rest.getLast? = some '>' := by
      rwa [← chars, ← List.singleton_append, ← List.append_assoc,
        List.getLast?_append_of_ne_nil _ nonempty] at closes
    obtain ⟨body, rfl⟩ := List.getLast?_eq_some_iff.mp last
    refine ⟨body, by rw [← chars]; simp [wrapped], ?_⟩
    rw [← chars, drop_wrapper_bracket, List.dropLast_concat] at unwrapped
    exact (Option.some.inj unwrapped).symm
  · cases unwrapped

/-- `wrapper<body>` unwraps from `wrapper` to the body trimmed. -/
theorem unwrapGeneric_of_wrapped {declared wrapper : String} {body : List Char}
    (chars : declared.toList = wrapped wrapper body) :
    unwrapGeneric declared wrapper = some (String.ofList (trimBlankChars body)) := by
  have spelled : declared.toList = wrapper.toList ++ '<' :: (body ++ ['>']) := by
    rw [chars, wrapped, List.append_assoc, List.cons_append]
  have prefixed : wrapper.toList.isPrefixOf declared.toList = true :=
    List.isPrefixOf_iff_prefix.mpr ⟨_, spelled.symm⟩
  have opens : (declared.toList.drop wrapper.toList.length).head? = some '<' := by
    rw [spelled, List.drop_left, List.head?_cons]
  have closes : declared.toList.getLast? = some '>' := by
    rw [chars, getLast?_wrapped]
  have long : wrapper.toList.length + 2 ≤ declared.toList.length := by
    rw [chars, length_wrapped, String.length_toList]
    omega
  have inside : (declared.toList.drop (wrapper.toList.length + 1)).dropLast = body := by
    rw [spelled, drop_wrapper_bracket, List.dropLast_concat]
  unfold unwrapGeneric
  simp only [prefixed, opens, closes, inside, decide_eq_true long, beq_self_eq_true,
    Bool.and_self, if_true]

/-- A text unwraps from `wrapper` when it is `wrapper<body>`, giving the body trimmed. -/
theorem unwrapGeneric_eq_some_iff {declared wrapper inner : String} :
    unwrapGeneric declared wrapper = some inner ↔
      ∃ body, declared.toList = wrapped wrapper body ∧
        inner = String.ofList (trimBlankChars body) := by
  constructor
  · exact wrapped_of_unwrapGeneric
  · rintro ⟨body, chars, rfl⟩
    exact unwrapGeneric_of_wrapped chars

/-- An unwrapped text is the inner text with blanks around it, inside the wrapper. -/
theorem exists_pad_of_unwrapGeneric {declared wrapper inner : String}
    (unwrapped : unwrapGeneric declared wrapper = some inner) :
    ∃ pre post, (∀ c ∈ pre, isBlank c = true) ∧ (∀ c ∈ post, isBlank c = true) ∧
      declared.toList = wrapped wrapper (pre ++ inner.toList ++ post) := by
  obtain ⟨body, chars, rfl⟩ := wrapped_of_unwrapGeneric unwrapped
  obtain ⟨pre, post, leading, padded, trailing⟩ := exists_trimBlankChars_pad body
  exact ⟨pre, post, leading, trailing, by rw [chars, String.toList_ofList, ← padded]⟩

/-- A wrapped text unwraps to its inner text when blanks stand around it and it neither
starts nor ends with one. -/
theorem unwrapGeneric_wrapped {wrapper : String} {pre inner post : List Char}
    (leading : ∀ c ∈ pre, isBlank c = true) (trailing : ∀ c ∈ post, isBlank c = true)
    (first : ∀ c ∈ inner.head?, isBlank c = false)
    (last : ∀ c ∈ inner.getLast?, isBlank c = false) :
    unwrapGeneric (String.ofList (wrapped wrapper (pre ++ inner ++ post))) wrapper =
      some (String.ofList inner) := by
  have unwrapped := unwrapGeneric_of_wrapped
    (@String.toList_ofList (wrapped wrapper (pre ++ inner ++ post)))
  rwa [trimBlankChars_pad pre post leading trailing first last] at unwrapped

/-- An identifier holds no angle bracket, so it unwraps from no wrapper. -/
theorem unwrapGeneric_eq_none_of_isIdentifier {name : String} (ident : isIdentifier name = true)
    (wrapper : String) : unwrapGeneric name wrapper = none := by
  cases unwrapped : unwrapGeneric name wrapper with
  | none => rfl
  | some inner =>
    obtain ⟨body, chars, -⟩ := wrapped_of_unwrapGeneric unwrapped
    have opening : '<' ∈ name.toList := by simp [chars, wrapped]
    have part := isIdentPart_of_isIdentifierChars ident '<' opening
    simp [isIdentPart, Char.isAlphanum, Char.isAlpha, Char.isUpper, Char.isLower,
      Char.isDigit] at part

/-- An optional type's text does not unwrap as a list. -/
theorem unwrapGeneric_option_list (body : List Char) :
    unwrapGeneric (String.ofList (wrapped "Option" body)) "List" = none := by
  cases unwrapped : unwrapGeneric (String.ofList (wrapped "Option" body)) "List" with
  | none => rfl
  | some inner =>
    obtain ⟨body', chars, -⟩ := wrapped_of_unwrapGeneric unwrapped
    rw [String.toList_ofList] at chars
    have first := congrArg List.head? chars
    simp [wrapped] at first

/-! ## Derived texts -/

namespace FieldType

/-- A derived text is not empty and neither starts nor ends with a blank. -/
theorem Spells.plain {bases : List String} {cs : List Char} {t : FieldType}
    (spelled : Spells bases cs t) :
    (∀ c ∈ cs.head?, isBlank c = false) ∧ (∀ c ∈ cs.getLast?, isBlank c = false) := by
  cases spelled with
  | list | optional =>
    refine ⟨by simp [wrapped, isBlank], ?_⟩
    rw [getLast?_wrapped]
    simp [isBlank]
  | token => constructor <;> simp [isBlank]
  | node ident | named ident =>
    obtain ⟨-, plain⟩ := isIdentifier_plain ident
    exact ⟨fun c first => (plain c (List.mem_of_mem_head? first)).1,
      fun c last => (plain c (List.mem_of_mem_getLast? last)).1⟩

/-! ## Resolution follows the grammar -/

/-- What the resolver finds, at any fuel, is a derivation of the text. -/
theorem resolveText.go_spells {bases : List String} {fuel : Nat} :
    ∀ {declared : String} {t : FieldType}, resolveText.go bases fuel declared = some t →
      Spells bases declared.toList t := by
  induction fuel with
  | zero =>
    intro declared t resolved
    simp [resolveText.go] at resolved
  | succ fuel ih =>
    intro declared t resolved
    unfold resolveText.go at resolved
    split at resolved
    · rename_i inner unwrapped
      obtain ⟨u, resolvedInner, rfl⟩ := Option.map_eq_some_iff.mp resolved
      obtain ⟨pre, post, leading, trailing, chars⟩ := exists_pad_of_unwrapGeneric unwrapped
      rw [chars]
      exact .list leading (ih resolvedInner) trailing
    · split at resolved
      · rename_i inner unwrapped
        obtain ⟨pre, post, leading, trailing, chars⟩ := exists_pad_of_unwrapGeneric unwrapped
        split at resolved
        · cases resolved
        · rename_i u plain resolvedInner
          cases resolved
          rw [chars]
          exact .optional leading (ih resolvedInner) trailing fun v same => plain v same
        · cases resolved
      · split at resolved
        · cases resolved
        · rename_i ident
          simp only [Bool.not_eq_true', Bool.not_eq_false] at ident
          split at resolved
          · rename_i token
            cases resolved
            rw [beq_iff_eq.mp token]
            exact .token
          · rename_i notToken
            have notToken : declared ≠ "Token" := by simpa using notToken
            split at resolved
            · rename_i present
              cases resolved
              exact .node ident notToken (List.contains_iff_mem.mp present)
            · rename_i absent
              cases resolved
              exact .named ident notToken fun present =>
                absent (List.contains_iff_mem.mpr present)

/-- An identifier other than `Token` resolves by where it stands: a node for a base name, a
named type for any other. -/
theorem resolveText.go_identifier {bases : List String} {fuel : Nat} {name : String}
    (ident : isIdentifier name = true) (notToken : name ≠ "Token") :
    resolveText.go bases (fuel + 1) name =
      some (if name ∈ bases then .node name else .named name) := by
  have other : (name == "Token") = false := by simpa using notToken
  by_cases present : name ∈ bases <;>
    simp [resolveText.go, unwrapGeneric_eq_none_of_isIdentifier ident, ident, other, present]

/-- Fuel no less than the length of a text that is not empty is a successor. -/
theorem exists_succ_of_length_le {cs : List Char} {fuel : Nat} (nonempty : cs ≠ [])
    (enough : cs.length ≤ fuel) : ∃ f, fuel = f + 1 :=
  Nat.exists_eq_add_one.mpr (lt_of_lt_of_le (List.length_pos_iff.mpr nonempty) enough)

/-- A derivation is found by the resolver with fuel no less than the length of its text. -/
theorem resolveText.go_of_spells {bases : List String} {cs : List Char} {t : FieldType}
    (spelled : Spells bases cs t) :
    ∀ {fuel : Nat}, cs.length ≤ fuel →
      resolveText.go bases fuel (String.ofList cs) = some t := by
  induction spelled with
  | @list pre inner post t leading spelled trailing ih =>
    intro fuel enough
    obtain ⟨fuel, rfl⟩ := exists_succ_of_length_le (by simp [wrapped]) enough
    rw [length_wrapped, List.length_append, List.length_append] at enough
    have found := ih (show inner.length ≤ fuel by omega)
    have unwrapped :=
      @unwrapGeneric_wrapped "List" _ _ _ leading trailing spelled.plain.1 spelled.plain.2
    simp only [resolveText.go, unwrapped, found, Option.map_some]
  | @optional pre inner post t leading spelled trailing plain ih =>
    intro fuel enough
    obtain ⟨fuel, rfl⟩ := exists_succ_of_length_le (by simp [wrapped]) enough
    rw [length_wrapped, List.length_append, List.length_append] at enough
    have found := ih (show inner.length ≤ fuel by omega)
    have unwrapped :=
      @unwrapGeneric_wrapped "Option" _ _ _ leading trailing spelled.plain.1 spelled.plain.2
    simp only [resolveText.go, unwrapGeneric_option_list, unwrapped, found]
  | token =>
    intro fuel enough
    obtain ⟨fuel, rfl⟩ := exists_succ_of_length_le (by simp) enough
    have ident : isIdentifier "Token" = true := by decide
    simp [resolveText.go, unwrapGeneric_eq_none_of_isIdentifier ident, ident]
  | @node name ident notToken present =>
    intro fuel enough
    obtain ⟨fuel, rfl⟩ := exists_succ_of_length_le (isIdentifier_plain ident).1 enough
    rw [String.ofList_toList, resolveText.go_identifier ident notToken, if_pos present]
  | @named name ident notToken absent =>
    intro fuel enough
    obtain ⟨fuel, rfl⟩ := exists_succ_of_length_le (isIdentifier_plain ident).1 enough
    rw [String.ofList_toList, resolveText.go_identifier ident notToken, if_neg absent]

/-- A declared type resolves exactly to what its text derives. -/
theorem resolveText_eq_some_iff {bases : List String} {declared : String} {t : FieldType} :
    resolveText bases declared = some t ↔ Spells bases declared.toList t := by
  constructor
  · exact resolveText.go_spells
  · intro spelled
    have found := resolveText.go_of_spells spelled (le_of_eq String.length_toList)
    rwa [String.ofList_toList] at found

/-- A text derives at most one field type. -/
theorem Spells.unique {bases : List String} {cs : List Char} {t t' : FieldType}
    (spelled : Spells bases cs t) (spelled' : Spells bases cs t') : t = t' := by
  have found := resolveText.go_of_spells spelled (le_refl cs.length)
  have found' := resolveText.go_of_spells spelled' (le_refl cs.length)
  exact Option.some.inj (found.symm.trans found')

/-- No derivation puts an optional type directly inside another. -/
theorem Spells.nestsOption_eq_false {bases : List String} {cs : List Char} {t : FieldType}
    (spelled : Spells bases cs t) : t.nestsOption = false := by
  induction spelled with
  | list _ _ _ ih => exact ih
  | optional _ _ _ plain ih => rw [nestsOption_optional plain, ih]
  | token | node | named => rfl

/-- The text `List<Option<T>>` of a text `T` that derives a type that is not optional. -/
theorem Spells.list_optional {bases : List String} {declared : String} {t : FieldType}
    (spelled : Spells bases declared.toList t) (plain : ∀ u, t ≠ .optional u) :
    Spells bases ("List<Option<" ++ declared ++ ">>").toList (.list (.optional t)) := by
  have text : ("List<Option<" ++ declared ++ ">>").toList =
      wrapped "List" ([] ++ wrapped "Option" ([] ++ declared.toList ++ []) ++ []) := by
    simp [wrapped, String.toList_append]
  rw [text]
  exact .list (by simp) (.optional (by simp) spelled (by simp) plain) (by simp)

/-- The text `Option<List<T>>` of a text `T` that derives a type. -/
theorem Spells.optional_list {bases : List String} {declared : String} {t : FieldType}
    (spelled : Spells bases declared.toList t) :
    Spells bases ("Option<List<" ++ declared ++ ">>").toList (.optional (.list t)) := by
  have text : ("Option<List<" ++ declared ++ ">>").toList =
      wrapped "Option" ([] ++ wrapped "List" ([] ++ declared.toList ++ []) ++ []) := by
    simp [wrapped, String.toList_append]
  rw [text]
  exact .optional (by simp) (.list (by simp) spelled (by simp)) (by simp) fun u => by simp

/-- **Declared types follow their grammar.** A declared type resolves exactly to what its text
derives, which is unique; a field without a declared type holds a literal. No resolved type
has an optional type directly inside another, while an optional type that is not itself
optional may stand in a list, and a list in an optional type. -/
theorem resolve_spells (bases : List String) :
    (∀ (declared : String) (t : FieldType),
      resolve (some declared) bases = some t ↔ Spells bases declared.toList t) ∧
    (∀ (cs : List Char) (t t' : FieldType),
      Spells bases cs t → Spells bases cs t' → t = t') ∧
    resolve none bases = some .literal ∧
    (∀ (declared : String) (t : FieldType),
      resolve (some declared) bases = some t → t.nestsOption = false) ∧
    (∀ (declared : String) (t : FieldType), resolve (some declared) bases = some t →
      (∀ u, t ≠ .optional u) →
        resolve (some ("List<Option<" ++ declared ++ ">>")) bases = some (.list (.optional t)) ∧
        resolve (some ("Option<List<" ++ declared ++ ">>")) bases =
          some (.optional (.list t))) := by
  refine ⟨fun declared t => resolveText_eq_some_iff, fun cs t t' => Spells.unique, rfl,
    fun declared t resolved => ?_, fun declared t resolved plain => ?_⟩
  · exact (resolveText_eq_some_iff.mp resolved).nestsOption_eq_false
  · have spelled := resolveText_eq_some_iff.mp resolved
    exact ⟨resolveText_eq_some_iff.mpr (spelled.list_optional plain),
      resolveText_eq_some_iff.mpr spelled.optional_list⟩

/-- Blanks inside the brackets are ignored; a second `Option` directly inside the first is
refused at any depth, and so is text after the closing bracket of the inner type. -/
example :
    resolve (some "List< Option<Expr>\u3000>") ["Expr"] =
        some (.list (.optional (.node "Expr"))) ∧
      resolve (some "List<Option<Option<Token>>>") ["Expr"] = none ∧
      resolve (some "List<A>B>") ["A"] = none := by
  decide +kernel

end FieldType

end LoxSyntax.NodeModel
