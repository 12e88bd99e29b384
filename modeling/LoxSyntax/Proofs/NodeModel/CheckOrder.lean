import Mathlib.Data.List.Infix
import LoxSyntax.NodeModel.Source
import LoxSyntax.Proofs.NodeModel.Names

/-! # The order of generation errors

Generating the node model from schema text runs many checks, in loops nested over the
grammars, their variants and their fields, each loop leaving at the first failure. The
error reported is the first failure of one flat scan (`generationFailures`), in which
every check is stated on its own, against the names before it:

1. each grammar's declarations are read, in order;
2. each base name is checked against the earlier ones;
3. each claimed type name (the imported `Rc`, `Token` and `LiteralValue`, then per
   grammar its base, its visitor trait and its node structs) against those before it;
4. the token import, then the literal import;
5. per grammar: per variant the name `Self`, then per field its type, its identifier and
   that identifier against the earlier fields'; after all variants, each visitor method
   against the earlier ones;
6. the code reader on the emitted items.

`checkEach` states a check of each member against the members before it; the emitter's
own scans keep what they have seen in an accumulator, and agree with it
(`firstRepeat_eq_head?`, `firstCollision_eq_head?`, `resolveFields_error?`). Each stage
then fails with the first failure of its part of the scan, and a stage that runs after
another fails with the first failure of both parts in turn (`Except.error?_bind`). The
main theorem, `generateFromText_first_failure`: generation fails with the first failure
of the scan, and succeeds exactly when the scan finds none.
-/

namespace LoxSyntax

/-- The failures found by checking each member of a list against the members before it,
in order. -/
def checkEach {α β : Type} (check : List α → α → List β) (xs : List α) : List β :=
  (xs.inits.zip xs).flatMap fun (earlier, x) => check earlier x

@[simp] theorem checkEach_nil {α β : Type} (check : List α → α → List β) :
    checkEach check [] = [] := rfl

/-- The first member is checked against nothing, the others against it and the members
between. -/
theorem checkEach_cons {α β : Type} (check : List α → α → List β) (x : α) (xs : List α) :
    checkEach check (x :: xs) =
      check [] x ++ checkEach (fun earlier => check (x :: earlier)) xs := by
  simp only [checkEach, List.inits_cons, List.zip_cons_cons, List.flatMap_cons, List.zip_map_left,
    List.flatMap_map]
  rfl

/-- Checks that agree everywhere find the same failures. -/
theorem checkEach_congr {α β : Type} {check check' : List α → α → List β}
    (same : ∀ earlier x, check earlier x = check' earlier x) (xs : List α) :
    checkEach check xs = checkEach check' xs := by
  simp only [checkEach, same]

/-- A check of each member against `taken` and the keys of the members before it, which
reads them only through membership: the first member is checked against `taken`, and its
key, if it has one, joins `taken` for the rest. -/
theorem checkEach_cons_keys {α β : Type} (check : List String → α → List β)
    (congr : ∀ t t' x, (∀ s, s ∈ t ↔ s ∈ t') → check t x = check t' x)
    (key : α → Option String) (taken : List String) (x : α) (xs : List α) :
    checkEach (fun earlier y => check (taken ++ earlier.filterMap key) y) (x :: xs) =
      check taken x ++
        checkEach (fun earlier y => check ((key x).toList ++ taken ++ earlier.filterMap key) y)
          xs := by
  rw [checkEach_cons]
  refine congrArg₂ (· ++ ·) (by simp)
    (checkEach_congr (fun earlier y => congr _ _ y fun s => ?_) xs)
  -- the key moves from the earlier members' keys to the taken ones
  cases keyed : key x with
  | none => simp [keyed]
  | some k =>
    simp only [List.filterMap_cons, keyed, Option.toList_some, List.singleton_append,
      List.mem_append, List.mem_cons]
    tauto

namespace NodeModel

open LoxSyntax.Schema LoxSyntax.Code

variable (tools : CodeTools)

/-! ## The scan -/

/-- The names that repeat one of `seen` or an earlier name, in order. -/
def repeatedNames (seen names : List String) : List String :=
  checkEach (fun earlier name => if name ∈ seen ++ earlier then [name] else []) names

/-- The claims, as owner and name, whose name one of `taken` or an earlier claim already
has, in order. -/
def collidingClaims (taken : List String) (claims : List (String × String)) :
    List (String × String) :=
  checkEach (fun earlier claim => if claim.2 ∈ taken ++ earlier.map Prod.snd then [claim] else [])
    claims

/-- The checks of one field of `variant`, whose identifier must avoid `taken`: its type,
its identifier, and that identifier against `taken`. -/
def fieldCheck (bases : List String) (variant : String) (taken : List String) (f : Field) :
    List GenerateError :=
  (if (FieldType.resolve f.declaredType bases).isNone then
    [.unsupportedType variant f.name (f.declaredType.getD "")] else []) ++
  match f.ident with
  | none => [.reservedName variant f.name]
  | some ident => if ident.text ∈ taken then [.nameCollision variant ident.text] else []

/-- The failures of the fields of `variant`, each field's identifier checked against
`taken` and the identifiers of the earlier fields. -/
def fieldFailures (bases : List String) (variant : String) (taken : List String)
    (fields : List Field) : List GenerateError :=
  checkEach (fun earlier f =>
    fieldCheck bases variant (taken ++ earlier.filterMap fun e => e.ident.map (·.text)) f) fields

/-- The failures of a variant: the name `Self`, then its fields. -/
def variantFailures (bases : List String) (v : Variant) : List GenerateError :=
  (if v.name = "Self" then [.reservedName v.name v.name] else []) ++
    fieldFailures bases v.name [] v.fields

/-- The failures of a grammar: its variants in order, then each visitor method against the
earlier ones. -/
def grammarFailures (bases : List String) (g : Grammar) : List GenerateError :=
  g.variants.flatMap (variantFailures bases) ++
    (collidingClaims [] (g.variants.map fun v => (v.name, visitMethodName v.name g.baseName))).map
      fun (owner, name) => .nameCollision owner name

/-- The failure of an import that must name `expected`: a text that is no path, or whose
last segment names another type. -/
def importFailures (text expected : String) : List GenerateError :=
  if (tools.readImportPath text).any (·.lastName == expected) then [] else [.invalidImport text]

/-- The type names the grammars claim, each with its owner: per grammar the base and its
visitor trait for the base, then the node struct of each variant for the variant. -/
def typeNameClaims (gs : List Grammar) : List (String × String) :=
  gs.flatMap fun g => (g.baseName, g.baseName) :: (g.baseName, g.baseName ++ "Visitor") ::
    g.variants.map fun v => (v.name, v.name ++ g.baseName)

/-- The failures of emitting the node model of `gs`, in the order of the scan. -/
def emitFailures (gs : List Grammar) (imports : Imports) : List GenerateError :=
  (repeatedNames [] (gs.map (·.baseName))).map .duplicateBase ++
    (collidingClaims ["Rc", "Token", "LiteralValue"] (typeNameClaims gs)).map
      (fun (owner, name) => .nameCollision owner name) ++
    importFailures tools imports.token "Token" ++ importFailures tools imports.literal "LiteralValue" ++
    gs.flatMap (grammarFailures (gs.map (·.baseName)))

/-- The failure of the code reader on the items emitted for `gs`. -/
def readerFailures (gs : List Grammar) (imports : Imports) : List GenerateError :=
  match emitItems tools gs imports with
  | .ok items => if tools.accepts items then [] else [.unparsable]
  | .error _ => []

/-- Every failing check of generating the node model from schema text, in the order of
the scan: the declarations of each grammar, then the checks of emission on the grammars
read, then the code reader. -/
def generationFailures (inputs : List (String × List String)) (imports : Imports) :
    List GenerateError :=
  inputs.filterMap (fun (base, lines) => (Except.error? (Grammar.parse base lines)).map .schema) ++
    let gs := inputs.filterMap fun (base, lines) => (Grammar.parse base lines).toOption
    emitFailures tools gs imports ++ readerFailures tools gs imports

/-! ## Scans with an accumulator -/

/-- The first name repeats when it was seen; the rest are checked with it seen too. -/
theorem repeatedNames_cons (seen : List String) (name : String) (rest : List String) :
    repeatedNames seen (name :: rest) =
      (if name ∈ seen then [name] else []) ++ repeatedNames (name :: seen) rest := by
  have keys := checkEach_cons_keys (fun t n => if n ∈ t then [n] else [])
    (fun t t' n same => by simp only [same]) some seen name rest
  simp only [List.filterMap_some, Option.toList_some, List.singleton_append] at keys
  exact keys

/-- The emitter's scan for a repeated name finds the first repeated name. -/
theorem firstRepeat_eq_head? {seen names : List String} :
    firstRepeat seen names = (repeatedNames seen names).head? := by
  induction names generalizing seen with
  | nil => rfl
  | cons name rest ih =>
    by_cases repeated : name ∈ seen
    · simp [firstRepeat, repeatedNames_cons, repeated]
    · simp [firstRepeat, repeatedNames_cons, repeated, ih]

/-- The first claim collides when its name was taken; the rest are checked with it taken
too. -/
theorem collidingClaims_cons (taken : List String) (claim : String × String)
    (rest : List (String × String)) :
    collidingClaims taken (claim :: rest) =
      (if claim.2 ∈ taken then [claim] else []) ++ collidingClaims (claim.2 :: taken) rest := by
  have keys := checkEach_cons_keys (fun t c => if c.2 ∈ t then [c] else [])
    (fun t t' c same => by simp only [same]) (fun c => some c.2) taken claim rest
  simp only [List.filterMap_eq_map', Option.toList_some, List.singleton_append] at keys
  exact keys

/-- The emitter's scan for a taken name finds the first colliding claim. -/
theorem firstCollision_eq_head? {taken : List String} {claims : List (String × String)} :
    firstCollision taken claims = (collidingClaims taken claims).head? := by
  induction claims generalizing taken with
  | nil => rfl
  | cons claim rest ih =>
    obtain ⟨owner, name⟩ := claim
    by_cases repeated : name ∈ taken
    · simp [firstCollision, collidingClaims_cons, repeated]
    · simp [firstCollision, collidingClaims_cons, repeated, ih]

/-- A field's checks read `taken` only through which identifiers it holds. -/
theorem fieldCheck_congr {bases : List String} {variant : String} {taken taken' : List String}
    (same : ∀ text, text ∈ taken ↔ text ∈ taken') (f : Field) :
    fieldCheck bases variant taken f = fieldCheck bases variant taken' f := by
  unfold fieldCheck
  cases f.ident with
  | none => rfl
  | some ident => simp only [same]

/-- The first field is checked against the identifiers taken before the variant's fields,
the rest against its identifier too. -/
theorem fieldFailures_cons (bases : List String) (variant : String) (taken : List String)
    (f : Field) (rest : List Field) :
    fieldFailures bases variant taken (f :: rest) =
      fieldCheck bases variant taken f ++
        fieldFailures bases variant ((f.ident.map (·.text)).toList ++ taken) rest := by
  exact checkEach_cons_keys (fieldCheck bases variant)
    (fun _ _ f same => fieldCheck_congr same f) _ taken f rest

/-! ## Each stage fails with the first failure of its scan -/

/-- **Fields.** Resolving fields fails with the first failure of their checks. -/
theorem resolveFields_error? {bases : List String} {variant : String} :
    ∀ {taken : List String} {fields : List Field},
      Except.error? (resolveFields bases variant taken fields) =
        (fieldFailures bases variant taken fields).head?
  | _, [] => rfl
  | taken, f :: rest => by
    rw [fieldFailures_cons]
    cases typed : FieldType.resolve f.declaredType bases with
    | none => simp [resolveFields, fieldCheck, typed]
    | some ty =>
      cases named : Ident.forField? (snakeCase f.name) with
      | none => simp [resolveFields, fieldCheck, Field.ident, typed, named]
      | some ident =>
        by_cases used : ident.text ∈ taken
        · simp [resolveFields, fieldCheck, Field.ident, typed, named, used]
        · -- the field passes, and the rest are checked with its identifier taken
          have passed : fieldCheck bases variant taken f = [] := by
            simp [fieldCheck, Field.ident, typed, named, used]
          simp only [resolveFields, typed, Field.ident, named, List.contains_iff_mem, used,
            if_false, passed, List.nil_append, Option.map_some, Option.toList_some,
            List.singleton_append]
          rw [← resolveFields_error?]
          cases resolveFields bases variant (ident.text :: taken) rest <;> rfl

/-- **Variants.** Resolving a variant fails with the first failure of its checks. -/
theorem resolveNode_error? (bases : List String) (base : String) (v : Variant) :
    Except.error? (resolveNode bases base v) = (variantFailures bases v).head? := by
  unfold resolveNode variantFailures
  by_cases reserved : v.name = "Self"
  · simp [reserved]
  · have plain : (v.name == "Self") = false := by simpa using reserved
    simp only [plain, reserved, if_false, Bool.false_eq_true, List.nil_append]
    rw [← List.append_nil (fieldFailures bases v.name [] v.fields)]
    exact Except.error?_bind resolveFields_error? fun _ _ => rfl

/-- **Grammars.** Resolving a grammar fails with the first failure of its variants, then of
its visitor methods. -/
theorem resolveGrammar_error? (bases : List String) (g : Grammar) :
    Except.error? (resolveGrammar bases g) = (grammarFailures bases g).head? := by
  unfold resolveGrammar grammarFailures
  refine Except.error?_bind (Except.error?_mapM fun v _ => resolveNode_error? bases g.baseName v)
    fun nodes resolved => ?_
  -- the nodes name their variants and visitor methods as the variants do
  have claims : (nodes.map fun n => (n.variant, n.method)) =
      g.variants.map fun v => (v.name, visitMethodName v.name g.baseName) :=
    map_of_resolveNodes _ _ (fun v n resolvedNode => by
      obtain ⟨-, -, -, rfl⟩ := resolveNode_eq_ok_iff.mp resolvedNode
      rfl) resolved
  rw [claims, firstCollision_eq_head?]
  cases collidingClaims [] (g.variants.map fun v => (v.name, visitMethodName v.name g.baseName))
    with
  | nil => rfl
  | cons clash _ => rfl

/-- Reading an import fails with its one possible failure. -/
theorem readImport_error? (text expected : String) :
    Except.error? (readImport tools text expected) = (importFailures tools text expected).head? := by
  unfold readImport importFailures
  cases tools.readImportPath text with
  | none => rfl
  | some path => by_cases named : path.lastName = expected <;> simp [named]

/-- **Emission.** Emitting the node model fails with the first failure of its scan. -/
theorem emitItems_error? (gs : List Grammar) (imports : Imports) :
    Except.error? (emitItems tools gs imports) = (emitFailures tools gs imports).head? := by
  unfold emitItems emitFailures
  have claims : gs.flatMap Grammar.typeClaims = typeNameClaims gs := rfl
  have imported : importedTypes = ["Rc", "Token", "LiteralValue"] := rfl
  rw [firstRepeat_eq_head?, firstCollision_eq_head?, claims, imported]
  cases repeatedNames [] (gs.map (·.baseName)) with
  | cons base _ => rfl
  | nil =>
    cases collidingClaims ["Rc", "Token", "LiteralValue"] (typeNameClaims gs) with
    | cons clash _ => rfl
    | nil =>
      simp only [List.map_nil, List.nil_append, List.append_assoc]
      refine Except.error?_bind (readImport_error? tools _ _) fun token _ => ?_
      refine Except.error?_bind (readImport_error? tools _ _) fun literal _ => ?_
      rw [← List.append_nil (gs.flatMap _)]
      refine Except.error?_bind (Except.error?_mapM fun g _ => ?_) fun _ _ => rfl
      rw [grammarItems_eq, Except.error?_map]
      exact resolveGrammar_error? _ g

/-- **Generation.** Generating fails with the first failure of emission, then of the code
reader. -/
theorem generate_error? (gs : List Grammar) (imports : Imports) :
    Except.error? (generate tools gs imports) =
      (emitFailures tools gs imports ++ readerFailures tools gs imports).head? := by
  unfold generate
  refine Except.error?_bind (emitItems_error? tools gs imports) fun items emitted => ?_
  by_cases accepted : tools.accepts items <;> simp [readerFailures, emitted, accepted]

/-- Reading the grammars gives, when every grammar reads, the grammars read. -/
theorem parsed_of_mapM {inputs : List (String × List String)} {gs : List Grammar}
    (parsed : inputs.mapM (fun (base, lines) =>
      (Grammar.parse base lines).mapError GenerateError.schema) = .ok gs) :
    inputs.filterMap (fun (base, lines) => (Grammar.parse base lines).toOption) = gs := by
  rw [← Except.filterMap_toOption_of_mapM parsed]
  congr 1
  funext input
  obtain ⟨base, lines⟩ := input
  dsimp only
  cases Grammar.parse base lines <;> rfl

/-- Generating from schema text fails with the first failure of the scan. -/
theorem generateFromText_error? (inputs : List (String × List String)) (imports : Imports) :
    Except.error? (generateFromText tools inputs imports) =
      (generationFailures tools inputs imports).head? := by
  unfold generateFromText generationFailures
  rw [List.filterMap_eq_flatMap_toList]
  refine Except.error?_bind (Except.error?_mapM fun input _ => ?_) fun gs parsed => ?_
  · obtain ⟨base, lines⟩ := input
    dsimp only
    cases Grammar.parse base lines <;> rfl
  · rw [parsed_of_mapM parsed]
    exact generate_error? tools gs imports

/-- **The first failure.** Generating the node model from schema text fails with the first
failure of the scan, and succeeds exactly when the scan finds none. -/
theorem generateFromText_first_failure (inputs : List (String × List String))
    (imports : Imports) :
    (∀ e, generateFromText tools inputs imports = .error e ↔
      (generationFailures tools inputs imports).head? = some e) ∧
    ((∃ source, generateFromText tools inputs imports = .ok source) ↔
      generationFailures tools inputs imports = []) := by
  have first := generateFromText_error? tools inputs imports
  refine ⟨fun e => ?_, ?_⟩
  · rw [← first, Except.error?_eq_some]
  · rw [← Except.error?_eq_none, first, List.head?_eq_none_iff]

/-- A visitor method used twice in the first grammar is reported before a field type that
does not resolve in the second, but after one earlier in the first. -/
example :
    Except.error? (generateFromText .standard
        [("Expr", ["FooBar : Expr a", "Foo_Bar : Expr b"]),
         ("Stmt", ["Print : Option<Option<Expr>> value"])] {}) =
      some (.nameCollision "Foo_Bar" "visit_foo_bar_expr") ∧
    Except.error? (generateFromText .standard
        [("Expr", ["FooBar : Expr a", "Foo_Bar : Option<Option<Expr>> b"])] {}) =
      some (.unsupportedType "Foo_Bar" "b" "Option<Option<Expr>>") := by
  decide +kernel

end NodeModel

end LoxSyntax
