import LoxSyntax.Proofs.NodeModel.CheckOrder
import LoxSyntax.Proofs.Schema.Declaration

/-! # Reading a grammar listing

A grammar is read from its base name and a listing of declarations, one per line. The base
name is checked first, and a base name that is not an identifier is refused on its own, with
no grammar position. Then the declarations are read in order: a listing reads when every
declaration reads (`Variant.parse`) and no two declare one variant name
(`Grammar.ReadsFresh`), and the grammar keeps the variants in the order of the listing.

Otherwise the error is that of the first declaration refused (`Grammar.FirstRefused`): the
declarations before it read under distinct names, and it does not read, or it declares a name
one of them declares. The error carries the declaration's position counted from 1, and what
the declaration itself failed with, which is what `SchemaError.root` gives back.

`Grammar.parseLines_cons` says once what reading one declaration does; the two sides of the
reader, success (`Grammar.parseLines_eq_ok_iff`) and failure
(`Grammar.parseLines_eq_error_iff`), follow by induction on the listing, with the names read so
far as the accumulator. Main statement: `Grammar.parse_spec`.
-/

namespace LoxSyntax.Schema

/-- The declarations `lines` read, in order, as the variants `vs`, under names distinct from
each other and from `taken`. -/
def Grammar.ReadsFresh (taken lines : List String) (vs : List Variant) : Prop :=
  List.Forall₂ (fun line v => Variant.parse line = .ok v) lines vs ∧
    (vs.map (·.name)).Nodup ∧ ∀ v ∈ vs, v.name ∉ taken

/-- Declaration `i` (from 0) of `lines` is the first one refused, with `source`: the
declarations before it read under names distinct from each other and from `taken`, and it does
not read, failing with `source`, or reads as a variant whose name is taken or declared before
it, which `source` reports. -/
def Grammar.FirstRefused (taken lines : List String) (i : Nat) (source : SchemaError) : Prop :=
  ∃ before line after vs, lines = before ++ line :: after ∧ before.length = i ∧
    Grammar.ReadsFresh taken before vs ∧
    (Variant.parse line = .error source ∨
      ∃ v, Variant.parse line = .ok v ∧ v.name ∈ taken ++ vs.map (·.name) ∧
        source = .duplicateVariant v.name)

/-! ## A declaration fails on its own -/

/-- A failure of a scan is a failure of one member against some members before it. -/
theorem mem_checkEach {α β : Type} {check : List α → α → List β} {xs : List α} {y : β}
    (member : y ∈ checkEach check xs) : ∃ earlier x, y ∈ check earlier x := by
  obtain ⟨⟨earlier, x⟩, -, found⟩ := List.mem_flatMap.mp member
  exact ⟨earlier, x, found⟩

/-- The failures of a field entry are errors of the declaration itself, wrapped in no grammar
position. -/
theorem root_of_mem_entryFailures {d : String} {taken : List String} {piece : List Char}
    {e : SchemaError} (member : e ∈ entryFailures d taken piece) : e.root = e := by
  unfold entryFailures at member
  split at member
  · rw [List.mem_singleton.mp member]
    rfl
  · split at member
    · rw [List.mem_singleton.mp member]
      rfl
    · split at member
      · rw [List.mem_singleton.mp member]
        rfl
      · cases member

/-- A declaration that does not read fails with an error of its own, not one wrapped with a
grammar position. -/
theorem Variant.root_of_parse_eq_error {line : String} {e : SchemaError}
    (failed : Variant.parse line = .error e) : e.root = e := by
  have first : (declarationFailures line).head? = some e := by
    rw [← Variant.parse_error?, failed]
    rfl
  have member := List.mem_of_mem_head? first
  unfold declarationFailures at member
  dsimp only at member
  split at member
  · rw [List.mem_singleton.mp member]
    rfl
  · rcases List.mem_append.mp member with named | entry
    · split at named
      · rw [List.mem_singleton.mp named]
        rfl
      · split at named
        · rw [List.mem_singleton.mp named]
          rfl
        · cases named
    · obtain ⟨earlier, piece, found⟩ := mem_checkEach entry
      exact root_of_mem_entryFailures found

/-! ## One declaration at a time -/

/-- Reading one declaration: its own failure, or a name already read, is the error at its
position; otherwise the rest are read after it, its name taken. -/
theorem Grammar.parseLines_cons (base : String) (index : Nat) (seen : List Variant)
    (line : String) (rest : List String) :
    Grammar.parseLines base index seen (line :: rest) =
      match Variant.parse line with
      | .error e => .error (.inGrammar base index e)
      | .ok v =>
        if v.name ∈ seen.map (·.name) then
          .error (.inGrammar base index (.duplicateVariant v.name))
        else (v :: ·) <$> Grammar.parseLines base (index + 1) (seen ++ [v]) rest := by
  cases parsed : Variant.parse line with
  | error e => simp [Grammar.parseLines, parsed, Except.mapError, bind, Except.bind]
  | ok v =>
    by_cases taken : v.name ∈ seen.map (·.name)
    · have repeated : (seen.any fun s => s.name == v.name) = true := by simpa using taken
      simp [Grammar.parseLines, parsed, Except.mapError, bind, Except.bind, taken, repeated,
        throw, throwThe, MonadExceptOf.throw]
    · have fresh : (seen.any fun s => s.name == v.name) = false := by simpa using taken
      simp only [Grammar.parseLines, parsed, Except.mapError, bind, Except.bind, fresh, taken,
        Bool.false_eq_true, if_false]
      cases Grammar.parseLines base (index + 1) (seen ++ [v]) rest <;> rfl

/-- No declarations read as no variants. -/
theorem Grammar.readsFresh_nil {taken : List String} {vs : List Variant} :
    Grammar.ReadsFresh taken [] vs ↔ vs = [] := by
  constructor
  · rintro ⟨related, -, -⟩
    exact List.forall₂_nil_left_iff.mp related
  · rintro rfl
    exact ⟨.nil, List.nodup_nil, fun v member => absurd member List.not_mem_nil⟩

/-- Declarations read fresh when the first reads as a variant whose name is not taken and the
rest read fresh with that name taken too. -/
theorem Grammar.readsFresh_cons {taken : List String} {line : String} {rest : List String}
    {vs : List Variant} :
    Grammar.ReadsFresh taken (line :: rest) vs ↔
      ∃ v more, vs = v :: more ∧ Variant.parse line = .ok v ∧ v.name ∉ taken ∧
        Grammar.ReadsFresh (taken ++ [v.name]) rest more := by
  constructor
  · rintro ⟨related, nodup, unseen⟩
    obtain ⟨v, more, parsed, relatedMore, rfl⟩ := List.forall₂_cons_left_iff.mp related
    rw [List.map_cons, List.nodup_cons] at nodup
    refine ⟨v, more, rfl, parsed, unseen v List.mem_cons_self, relatedMore, nodup.2, ?_⟩
    intro w member
    rw [List.mem_append, List.mem_singleton, not_or]
    exact ⟨unseen w (List.mem_cons_of_mem v member),
      fun same => nodup.1 (List.mem_map.mpr ⟨w, member, same⟩)⟩
  · rintro ⟨v, more, rfl, parsed, fresh, relatedMore, nodup, unseen⟩
    refine ⟨.cons parsed relatedMore, ?_, ?_⟩
    · rw [List.map_cons, List.nodup_cons]
      refine ⟨fun member => ?_, nodup⟩
      obtain ⟨w, present, same⟩ := List.mem_map.mp member
      exact unseen w present (List.mem_append_right taken (List.mem_singleton.mpr same))
    · intro w member
      rcases List.mem_cons.mp member with rfl | later
      · exact fresh
      · exact fun present => unseen w later (List.mem_append_left _ present)

/-- The first declaration is the first refused exactly when it does not read, or reads as a
variant whose name is taken. -/
theorem Grammar.firstRefused_cons_zero {taken : List String} {line : String}
    {rest : List String} {source : SchemaError} :
    Grammar.FirstRefused taken (line :: rest) 0 source ↔
      Variant.parse line = .error source ∨
        ∃ v, Variant.parse line = .ok v ∧ v.name ∈ taken ∧
          source = .duplicateVariant v.name := by
  constructor
  · rintro ⟨before, line', after, vs, split, first, reads, refused⟩
    obtain rfl := List.length_eq_zero_iff.mp first
    obtain rfl := Grammar.readsFresh_nil.mp reads
    obtain ⟨rfl, rfl⟩ := List.cons.inj split
    simpa using refused
  · intro refused
    exact ⟨[], line, rest, [], rfl, rfl, Grammar.readsFresh_nil.mpr rfl, by simpa using refused⟩

/-- A later declaration is the first refused when the first declaration reads under a fresh
name, and the declaration is the first refused of the rest with that name taken. -/
theorem Grammar.firstRefused_cons_succ {taken : List String} {line : String}
    {rest : List String} {i : Nat} {source : SchemaError} :
    Grammar.FirstRefused taken (line :: rest) (i + 1) source ↔
      ∃ v, Variant.parse line = .ok v ∧ v.name ∉ taken ∧
        Grammar.FirstRefused (taken ++ [v.name]) rest i source := by
  constructor
  · rintro ⟨before, refusedLine, after, vs, split, position, reads, refused⟩
    cases before with
    | nil => cases position
    | cons first before =>
      obtain ⟨rfl, rfl⟩ := List.cons.inj split
      obtain ⟨v, more, rfl, parsed, fresh, readsMore⟩ := Grammar.readsFresh_cons.mp reads
      refine ⟨v, parsed, fresh, before, refusedLine, after, more, rfl,
        Nat.succ_injective position, readsMore, ?_⟩
      simpa using refused
  · rintro ⟨v, parsed, fresh, before, refusedLine, after, more, rfl, rfl, readsMore, refused⟩
    refine ⟨line :: before, refusedLine, after, v :: more, rfl, rfl,
      Grammar.readsFresh_cons.mpr ⟨v, more, rfl, parsed, fresh, readsMore⟩, ?_⟩
    simpa using refused

/-! ## The listing -/

/-- **Reading succeeds.** The declarations read as `vs` exactly when each reads as the variant
beside it under a name that no earlier one and none of `seen` has. -/
theorem Grammar.parseLines_eq_ok_iff {base : String} :
    ∀ {index : Nat} {seen : List Variant} {lines : List String} {vs : List Variant},
      Grammar.parseLines base index seen lines = .ok vs ↔
        Grammar.ReadsFresh (seen.map (·.name)) lines vs
  | _, _, [], vs => by
    rw [Grammar.readsFresh_nil]
    simp [Grammar.parseLines, eq_comm]
  | index, seen, line :: rest, vs => by
    rw [Grammar.parseLines_cons, Grammar.readsFresh_cons]
    cases parsed : Variant.parse line with
    | error e => simp
    | ok v =>
      by_cases taken : v.name ∈ seen.map (·.name)
      · simp only [taken, if_true, reduceCtorEq, false_iff, not_exists, not_and]
        intro w more _ same fresh
        obtain rfl := Except.ok.inj same
        exact absurd taken fresh
      · -- the rest are read with the name of `v` taken
        have more := @Grammar.parseLines_eq_ok_iff base (index + 1) (seen ++ [v]) rest
        simp only [List.map_append, List.map_cons, List.map_nil] at more
        simp only [taken, if_false, Except.map_eq_ok, more]
        constructor
        · rintro ⟨more, reads, rfl⟩
          exact ⟨v, more, rfl, rfl, taken, reads⟩
        · rintro ⟨w, more, rfl, same, -, reads⟩
          obtain rfl := Except.ok.inj same
          exact ⟨more, reads, rfl⟩

/-- **Reading fails.** Reading the declarations from position `index` fails exactly with the
first declaration refused, at its position, with what refused it. -/
theorem Grammar.parseLines_eq_error_iff {base : String} :
    ∀ {index : Nat} {seen : List Variant} {lines : List String} {e : SchemaError},
      Grammar.parseLines base index seen lines = .error e ↔
        ∃ i source, e = .inGrammar base (index + i) source ∧
          Grammar.FirstRefused (seen.map (·.name)) lines i source
  | _, _, [], e => by
    simp only [Grammar.parseLines, reduceCtorEq, false_iff, not_exists, not_and]
    rintro i source - ⟨before, line, after, vs, split, -⟩
    simp at split
  | index, seen, line :: rest, e => by
    rw [Grammar.parseLines_cons]
    constructor
    · intro failed
      cases parsed : Variant.parse line with
      | error source =>
        simp only [parsed, Except.error.injEq] at failed
        exact ⟨0, source, failed.symm, Grammar.firstRefused_cons_zero.mpr (.inl parsed)⟩
      | ok v =>
        simp only [parsed] at failed
        by_cases taken : v.name ∈ seen.map (·.name)
        · simp only [taken, if_true, Except.error.injEq] at failed
          exact ⟨0, .duplicateVariant v.name, failed.symm,
            Grammar.firstRefused_cons_zero.mpr (.inr ⟨v, parsed, taken, rfl⟩)⟩
        · simp only [taken, if_false, Except.map_eq_error] at failed
          obtain ⟨i, source, rfl, refused⟩ := Grammar.parseLines_eq_error_iff.mp failed
          refine ⟨i + 1, source, by rw [show index + (i + 1) = index + 1 + i by omega], ?_⟩
          exact Grammar.firstRefused_cons_succ.mpr ⟨v, parsed, taken, by simpa using refused⟩
    · rintro ⟨i, source, rfl, refused⟩
      cases i with
      | zero =>
        rcases Grammar.firstRefused_cons_zero.mp refused with failed | ⟨v, parsed, taken, rfl⟩
        · simp [failed]
        · simp [parsed, taken]
      | succ i =>
        obtain ⟨v, parsed, fresh, refusedRest⟩ := Grammar.firstRefused_cons_succ.mp refused
        have failed : Grammar.parseLines base (index + 1) (seen ++ [v]) rest =
            .error (.inGrammar base (index + (i + 1)) source) := by
          rw [show index + (i + 1) = index + 1 + i by omega]
          exact Grammar.parseLines_eq_error_iff.mpr ⟨i, source, rfl, by simpa using refusedRest⟩
        simp only [parsed, fresh, if_false, Except.map_eq_error, failed]

/-- What refuses a declaration is the declaration's own failure or a repeated name: never an
error wrapped with a grammar position. -/
theorem Grammar.FirstRefused.root_eq {taken lines : List String} {i : Nat} {source : SchemaError}
    (refused : Grammar.FirstRefused taken lines i source) : source.root = source := by
  obtain ⟨_, _, _, _, _, _, _, failed | ⟨v, _, _, rfl⟩⟩ := refused
  · exact Variant.root_of_parse_eq_error failed
  · rfl

/-- Reading a grammar checks its base name, then reads its declarations from the first. -/
theorem Grammar.parse_eq (base : String) (lines : List String) :
    Grammar.parse base lines =
      if isIdentifier base then (⟨base, ·⟩) <$> Grammar.parseLines base 1 [] lines
      else .error (.invalidIdentifier base base) := by
  by_cases ident : isIdentifier base = true
  · simp only [Grammar.parse, ident, if_true]
    cases Grammar.parseLines base 1 [] lines <;> rfl
  · simp [Grammar.parse, ident, throw, throwThe, MonadExceptOf.throw, bind, Except.bind]

/-- A grammar read has an identifier for its base name and declarations in normal form, so
identifiers for its variant and field names. -/
theorem Grammar.names_of_parse {base : String} {lines : List String} {g : Grammar}
    (parsed : Grammar.parse base lines = .ok g) :
    isIdentifier g.baseName = true ∧ ∀ v ∈ g.variants, v.WellFormed := by
  rw [Grammar.parse_eq] at parsed
  split at parsed
  · rename_i ident
    obtain ⟨vs, read, rfl⟩ := Except.map_eq_ok.mp parsed
    obtain ⟨related, -, -⟩ := Grammar.parseLines_eq_ok_iff.mp read
    refine ⟨ident, fun v member => ?_⟩
    obtain ⟨line, -, declared⟩ := exists_of_forall₂_of_mem related member
    exact Variant.wellFormed_of_parse declared
  · cases parsed

/-- **Reading a grammar.** A grammar reads exactly when its base name is an identifier, every
declaration reads and no two declare one variant name; it then has that base name and the
variants in the order of the listing. A base name that is not an identifier is refused on its
own. Otherwise the error is at the position, counted from 1, of the first declaration refused,
and its root is what refused that declaration. -/
theorem Grammar.parse_spec (base : String) (lines : List String) :
    (∀ g, Grammar.parse base lines = .ok g ↔
      isIdentifier base = true ∧ g.baseName = base ∧
        List.Forall₂ (fun line v => Variant.parse line = .ok v) lines g.variants ∧
        (g.variants.map (·.name)).Nodup) ∧
    (isIdentifier base = false →
      Grammar.parse base lines = .error (.invalidIdentifier base base)) ∧
    (isIdentifier base = true → ∀ e, Grammar.parse base lines = .error e ↔
      ∃ i source, e = .inGrammar base (i + 1) source ∧ e.root = source ∧
        Grammar.FirstRefused [] lines i source) := by
  refine ⟨fun g => ?_, fun refused => by simp [Grammar.parse_eq, refused], fun ident e => ?_⟩
  · obtain ⟨name, variants⟩ := g
    by_cases ident : isIdentifier base = true
    · simp only [Grammar.parse_eq, ident, if_true, Except.map_eq_ok, Grammar.parseLines_eq_ok_iff,
        Grammar.ReadsFresh, List.map_nil, List.not_mem_nil, Grammar.mk.injEq, true_and]
      constructor
      · rintro ⟨vs, ⟨related, nodup, -⟩, rfl, rfl⟩
        exact ⟨rfl, related, nodup⟩
      · rintro ⟨rfl, related, nodup⟩
        exact ⟨variants, ⟨related, nodup, fun _ _ absent => absent⟩, rfl, rfl⟩
    · simp [Grammar.parse_eq, ident]
  · simp only [Grammar.parse_eq, ident, if_true, Except.map_eq_error,
      Grammar.parseLines_eq_error_iff, List.map_nil]
    constructor
    · rintro ⟨i, source, rfl, refused⟩
      exact ⟨i, source, by rw [Nat.add_comm], refused.root_eq, refused⟩
    · rintro ⟨i, source, rfl, -, refused⟩
      exact ⟨i, source, by rw [Nat.add_comm], refused⟩

/-- Positions count from 1, and a name declared twice is reported where it is declared the
second time; a base name that is not an identifier is reported before any declaration. -/
example :
    Except.error? (Grammar.parse "Stmt" ["Print : Expr expression", "Print : Expr value"]) =
        some (.inGrammar "Stmt" 2 (.duplicateVariant "Print")) ∧
      Except.error? (Grammar.parse "_" ["Print"]) = some (.invalidIdentifier "_" "_") := by
  decide +kernel

end LoxSyntax.Schema
