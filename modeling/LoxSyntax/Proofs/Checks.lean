import Mathlib.Data.List.Forall2
import Mathlib.Data.List.Perm.Basic

/-! # Runs of checks

The library's checks return `Except`: a run of checks succeeds exactly when each
check succeeds in turn (`Except.bind_eq_ok`). A check run over a list with
`List.mapM` succeeds exactly when it succeeds on every member, its results then
standing member by member beside the list (`Except.mapM_eq_ok_iff`), and a check
whose results are transformed succeeds with the transformed results of the plain
check (`Except.mapM_map_eq_ok`). Run over a reordering of the list, a check
succeeds too, with its results reordered (`Except.mapM_perm`), and a check over a list
that fails fails on a member (`Except.mapM_eq_error`). Lists related
member by member map alike under maps that agree on related members
(`map_eq_map_of_forall₂`).

A run of checks that fails reports the first failure of its checks in order: the
failures of two checks run in turn are those of the first followed by those of the
second (`Except.error?_bind`), and a check run over a list fails with the first failure
of its members (`Except.error?_mapM`).
-/

namespace LoxSyntax

variable {ε α β : Type}

/-- A run of two checks succeeds when the first does and the second succeeds on
its result. -/
theorem Except.bind_eq_ok {x : Except ε α} {f : α → Except ε β} {b : β} :
    x >>= f = .ok b ↔ ∃ a, x = .ok a ∧ f a = .ok b := by
  cases x <;> simp [bind, Except.bind]

@[simp] theorem Except.pure_eq_ok {a b : α} : (pure a : Except ε α) = .ok b ↔ a = b := by
  simp [pure, Except.pure]

@[simp] theorem Except.throw_ne_ok {e : ε} {b : α} : (throw e : Except ε α) ≠ .ok b := by
  simp [throw, throwThe, MonadExceptOf.throw]

@[simp] theorem Except.throw_bind {e : ε} {f : α → Except ε β} :
    (throw e : Except ε α) >>= f = throw e := rfl

/-- A run of two checks fails when the first does, or when the first succeeds and the
second fails on its result. -/
theorem Except.bind_eq_error {x : Except ε α} {f : α → Except ε β} {e : ε} :
    x >>= f = .error e ↔ x = .error e ∨ ∃ a, x = .ok a ∧ f a = .error e := by
  cases x <;> simp [bind, Except.bind]

@[simp] theorem Except.pure_ne_error {a : α} {e : ε} : (pure a : Except ε α) ≠ .error e := by
  simp [pure, Except.pure]

@[simp] theorem Except.throw_eq_error {e e' : ε} : (throw e : Except ε α) = .error e' ↔ e = e' := by
  simp [throw, throwThe, MonadExceptOf.throw]

/-- A check whose result is transformed succeeds exactly when the check does. -/
theorem Except.map_eq_ok {f : α → β} {x : Except ε α} {b : β} :
    f <$> x = .ok b ↔ ∃ a, x = .ok a ∧ f a = b := by
  cases x <;> simp [Functor.map, Except.map]

/-- A check that reports success has a result. -/
theorem Except.exists_ok_of_isOk {x : Except ε α} (succeeded : x.isOk = true) :
    ∃ a, x = .ok a := by
  cases x with
  | error e => simp [Except.isOk, Except.toBool] at succeeded
  | ok a => exact ⟨a, rfl⟩

/-- A check's result, read as an option, is the result of a success. -/
theorem Except.toOption_eq_some {x : Except ε α} {a : α} : x.toOption = some a ↔ x = .ok a := by
  cases x <;> simp [Except.toOption]

/-- Transforming a check's result keeps whether it succeeds. -/
theorem Except.isOk_map (f : α → β) (x : Except ε α) : (x.map f).isOk = x.isOk := by
  cases x <;> rfl

/-- A check over a list succeeds exactly when it succeeds on each member, giving
the results in the order of the members. -/
theorem Except.mapM_eq_ok_iff {f : α → Except ε β} {xs : List α} {ys : List β} :
    xs.mapM f = .ok ys ↔ List.Forall₂ (fun x y => f x = .ok y) xs ys := by
  induction xs generalizing ys with
  | nil => cases ys <;> simp [pure, Except.pure]
  | cons x xs ih =>
    simp only [List.mapM_cons, Except.bind_eq_ok, Except.pure_eq_ok]
    cases ys with
    | nil => simp
    | cons y ys =>
      simp only [List.forall₂_cons, ← ih]
      constructor
      · rintro ⟨first, checked, rest, checkedRest, same⟩
        obtain ⟨rfl, rfl⟩ := List.cons.inj same
        exact ⟨checked, checkedRest⟩
      · rintro ⟨checked, checkedRest⟩
        exact ⟨y, checked, ys, checkedRest, rfl⟩

/-- A check whose result is transformed fails exactly when the check does, with its error. -/
theorem Except.map_eq_error {f : α → β} {x : Except ε α} {e : ε} :
    f <$> x = .error e ↔ x = .error e := by
  cases x <;> simp [Functor.map, Except.map]

/-- A check over a list that fails does so on one of its members. -/
theorem Except.mapM_eq_error {f : α → Except ε β} {e : ε} :
    ∀ {xs : List α}, xs.mapM f = .error e → ∃ x ∈ xs, f x = .error e
  | [], failed => by simp [pure, Except.pure] at failed
  | x :: rest, failed => by
    simp only [List.mapM_cons, Except.bind_eq_error] at failed
    rcases failed with first | ⟨_, -, later | ⟨_, -, thrown⟩⟩
    · exact ⟨x, List.mem_cons_self, first⟩
    · obtain ⟨y, member, failedAt⟩ := Except.mapM_eq_error later
      exact ⟨y, List.mem_cons_of_mem _ member, failedAt⟩
    · exact absurd thrown Except.pure_ne_error

/-- A check over a list whose results are transformed succeeds exactly when the plain
check does, its results transformed one by one. -/
theorem Except.mapM_map_eq_ok {γ : Type} {f : β → γ} {g : α → Except ε β} {xs : List α}
    {zs : List γ} :
    xs.mapM (fun x => f <$> g x) = .ok zs ↔ ∃ ys, xs.mapM g = .ok ys ∧ zs = ys.map f := by
  induction xs generalizing zs with
  | nil =>
    simp only [List.mapM_nil, Except.pure_eq_ok, exists_eq_left', List.map_nil]
    exact eq_comm
  | cons x xs ih =>
    simp only [List.mapM_cons, Except.bind_eq_ok, Except.pure_eq_ok, Except.map_eq_ok, ih]
    constructor
    · rintro ⟨c, ⟨y, checked, rfl⟩, rest, ⟨ys, checkedRest, rfl⟩, rfl⟩
      exact ⟨y :: ys, ⟨y, checked, ys, checkedRest, rfl⟩, rfl⟩
    · rintro ⟨_, ⟨y, checked, ys, checkedRest, rfl⟩, rfl⟩
      exact ⟨f y, ⟨y, checked, rfl⟩, ys.map f, ⟨ys, checkedRest, rfl⟩, rfl⟩

/-- A check that succeeds over a list succeeds over any reordering of it, and its
results are reordered alike. -/
theorem Except.mapM_perm {f : α → Except ε β} {xs xs' : List α} {ys : List β}
    (reordered : xs.Perm xs') (checked : xs.mapM f = .ok ys) :
    ∃ ys', xs'.mapM f = .ok ys' ∧ ys.Perm ys' := by
  obtain ⟨ys', related, perm⟩ :=
    List.perm_comp_forall₂ reordered.symm (Except.mapM_eq_ok_iff.mp checked)
  exact ⟨ys', Except.mapM_eq_ok_iff.mpr related, perm.symm⟩

/-- Each member of the right list of `List.Forall₂ R` is related to a member of the left. -/
theorem exists_of_forall₂_of_mem {R : α → β → Prop} :
    ∀ {xs : List α} {ys : List β}, List.Forall₂ R xs ys → ∀ {y}, y ∈ ys → ∃ x ∈ xs, R x y
  | _, _, .nil, _, member => absurd member List.not_mem_nil
  | _, _, .cons related rest, _, member => by
    rcases List.mem_cons.mp member with rfl | member
    · exact ⟨_, List.mem_cons_self, related⟩
    · obtain ⟨x, present, relatedLater⟩ := exists_of_forall₂_of_mem rest member
      exact ⟨x, List.mem_cons_of_mem _ present, relatedLater⟩

/-- Each member of the left list of `List.Forall₂ R` is related to a member of the right. -/
theorem exists_of_mem_of_forall₂ {R : α → β → Prop} {xs : List α} {ys : List β}
    (related : List.Forall₂ R xs ys) {x : α} (member : x ∈ xs) : ∃ y ∈ ys, R x y :=
  exists_of_forall₂_of_mem (List.Forall₂.flip related : List.Forall₂ (flip R) ys xs) member

/-- A list related to two others, member by member, carries a fourth list beside the
second, when each pair of related members can be closed so. -/
theorem exists_forall₂_of_forall₂ {γ δ : Type} {R : α → β → Prop} {S : α → γ → Prop}
    {R' : γ → δ → Prop} {T : β → δ → Prop}
    (close : ∀ a b c, R a b → S a c → ∃ d, R' c d ∧ T b d) :
    ∀ {xs : List α} {ys : List β} {zs : List γ}, List.Forall₂ R xs ys → List.Forall₂ S xs zs →
      ∃ ws, List.Forall₂ R' zs ws ∧ List.Forall₂ T ys ws
  | _, _, _, .nil, .nil => ⟨[], .nil, .nil⟩
  | _, _, _, .cons related rest, .cons relatedS restS => by
    obtain ⟨d, closed, matched⟩ := close _ _ _ related relatedS
    obtain ⟨ws, closedRest, matchedRest⟩ := exists_forall₂_of_forall₂ close rest restS
    exact ⟨d :: ws, .cons closed closedRest, .cons matched matchedRest⟩

/-- Joining lists related member by member through permutations gives a permutation. -/
theorem flatMap_perm_of_forall₂ {γ : Type} {f : α → List γ} {g : β → List γ} :
    ∀ {xs : List α} {ys : List β}, List.Forall₂ (fun a b => (f a).Perm (g b)) xs ys →
      (xs.flatMap f).Perm (ys.flatMap g)
  | _, _, .nil => .nil
  | _, _, .cons first rest => by
    simp only [List.flatMap_cons]
    exact first.append (flatMap_perm_of_forall₂ rest)

/-- Two maps agree over lists related member by member, when related members map alike. -/
theorem map_eq_map_of_forall₂ {γ : Type} {R : α → β → Prop} {f : α → γ} {g : β → γ}
    {xs : List α} {ys : List β} (same : ∀ a b, R a b → f a = g b)
    (related : List.Forall₂ R xs ys) : xs.map f = ys.map g := by
  rw [← List.forall₂_eq_eq_eq, List.forall₂_map_left_iff, List.forall₂_map_right_iff]
  exact related.imp same

/-- The pairwise form of `map_eq_map_of_forall₂`: zipping the left list with an image
of the right one gives a map of the right list. -/
theorem zipWith_map_eq_map_of_forall₂ {γ δ : Type} {R : α → β → Prop} {F : α → δ → γ}
    {h : β → δ} {g : β → γ} (same : ∀ a b, R a b → F a (h b) = g b) :
    ∀ {xs : List α} {ys : List β}, List.Forall₂ R xs ys → List.zipWith F xs (ys.map h) = ys.map g
  | _, _, .nil => rfl
  | _, _, .cons related rest => by
    simp [same _ _ related, zipWith_map_eq_map_of_forall₂ same rest]

/-- The results of a check over a list that succeeds are its members' results. -/
theorem Except.filterMap_toOption_of_mapM {f : α → Except ε β} {xs : List α} {ys : List β}
    (checked : xs.mapM f = .ok ys) : xs.filterMap (fun x => (f x).toOption) = ys := by
  have related := Except.mapM_eq_ok_iff.mp checked
  clear checked
  induction related with
  | nil => rfl
  | cons first _ ih =>
    rw [List.filterMap_cons, first, ih]
    rfl

/-! ## The first failure -/

/-- The error of a check that failed; none for one that succeeded. -/
def Except.error? : Except ε α → Option ε
  | .ok _ => none
  | .error e => some e

@[simp] theorem Except.error?_ok {a : α} : Except.error? (Except.ok a : Except ε α) = none := rfl

@[simp] theorem Except.error?_error {e : ε} :
    Except.error? (Except.error e : Except ε α) = some e := rfl

@[simp] theorem Except.error?_pure {a : α} : Except.error? (pure a : Except ε α) = none := rfl

@[simp] theorem Except.error?_throw {e : ε} : Except.error? (throw e : Except ε α) = some e := rfl

theorem Except.error?_eq_some {x : Except ε α} {e : ε} :
    Except.error? x = some e ↔ x = .error e := by
  cases x <;> simp

theorem Except.error?_eq_none {x : Except ε α} : Except.error? x = none ↔ ∃ a, x = .ok a := by
  cases x <;> simp

/-- **Two checks in turn.** When the failures of the first check are `first` and, after it
succeeds, those of the second are `rest`, the run fails with the first of `first ++ rest`. -/
theorem Except.error?_bind {x : Except ε α} {f : α → Except ε β} {first rest : List ε}
    (failsFirst : Except.error? x = first.head?)
    (failsRest : ∀ a, x = .ok a → Except.error? (f a) = rest.head?) :
    Except.error? (x >>= f) = (first ++ rest).head? := by
  cases x with
  | error e =>
    have reported : first.head? = some e := failsFirst.symm
    simp [bind, Except.bind, List.head?_append, reported]
  | ok a =>
    have passed : first = [] := List.head?_eq_none_iff.mp failsFirst.symm
    simp [bind, Except.bind, passed, failsRest a rfl]

@[simp] theorem Except.error?_map {f : α → β} {x : Except ε α} :
    Except.error? (f <$> x) = Except.error? x := by
  cases x <;> rfl

/-- **A check over a list.** It fails with the first failure of its members, in order. -/
theorem Except.error?_mapM {f : α → Except ε β} {g : α → List ε} :
    ∀ {xs : List α}, (∀ x ∈ xs, Except.error? (f x) = (g x).head?) →
      Except.error? (xs.mapM f) = (xs.flatMap g).head?
  | [], _ => rfl
  | x :: xs, each => by
    rw [List.mapM_cons, List.flatMap_cons]
    refine Except.error?_bind (each x List.mem_cons_self) fun _ _ => ?_
    rw [← List.append_nil (xs.flatMap g)]
    exact Except.error?_bind
      (Except.error?_mapM fun y member => each y (List.mem_cons_of_mem _ member)) fun _ _ => rfl

end LoxSyntax
