import LoxSyntax.Files.Sync
import LoxSyntax.Proofs.Checks

/-! # Writing generated files

A store changes only by a write, which puts the bytes at the entry its path names
(`Store.write_eq_ok`). The entry a path names is its key (`Location.key`): its names
entered one after another from the root or the working directory, `.` staying and `..`
going up. A path that resolves names its key (`Store.key_of_locate`): every `..` it
passes goes up from a directory the walk entered. A path that a store resolves reaches
its entry through directories only, and writing a file never adds nor removes a
directory; so a read that succeeded before a write succeeds after it, on the new bytes
when the two paths share their key and on the old ones otherwise
(`Store.readBytes_write`).

The writer's calls inherit this (`checks_read_only_writes_persist`): checking whether a
file is up to date, and syncing in check mode, leave the store as it was; the check is
true exactly when the file holds the source's UTF-8 bytes, false when the file is missing
or holds other UTF-8 text, and an error naming the path on any other failure to read,
bytes that are no UTF-8 included; a write that succeeds leaves the file holding exactly
the source's bytes through any later calls, until a later write to its key succeeds; and
a write that fails leaves the store as it was.
-/

namespace LoxSyntax.Files

open LoxSyntax.NodeModel

/-- The entry a path names: its names entered one after another from the root, for an
absolute path, or from the working directory `cwd`. -/
def Location.key (cwd : List String) (path : String) : List String :=
  (Location.ofPath path).names.foldl Location.enter ((Location.ofPath path).start cwd)

/-- A name other than `.` and `..` is entered as a directory of its own. -/
theorem Location.enter_of_plain {here : List String} {name : String} (notDot : name ≠ ".")
    (notParent : name ≠ "..") : Location.enter here name = here ++ [name] := by
  simp [Location.enter, notDot, notParent]

/-- The last name of a path is a name in the directory that holds it exactly when it is
a name other than `.` and `..`. -/
theorem Location.final_eq_some {walked dir : List String} {last : Option String} {name : String} :
    Location.final walked last = (dir, some name) ↔
      last = some name ∧ name ≠ "." ∧ name ≠ ".." ∧ dir = walked := by
  cases last with
  | none => simp [Location.final]
  | some final =>
    simp only [Location.final]
    split_ifs with dot parent
    · simp_all
    · simp_all
    · simp only [Prod.mk.injEq, Option.some.injEq]
      constructor
      · rintro ⟨rfl, rfl⟩
        exact ⟨rfl, by simpa using dot, by simpa using parent, rfl⟩
      · rintro ⟨rfl, -, -, rfl⟩
        exact ⟨rfl, rfl⟩

namespace Store

variable {s : Store}

/-! ## Entries after a put -/

/-- Removing the pairs of one key leaves the lookup of any other key alone. -/
theorem lookup_filter_ne {β : Type} {k k' : List String} (other : k' ≠ k) :
    ∀ l : List (List String × β), (l.filter fun (c, _) => c != k).lookup k' = l.lookup k'
  | [] => rfl
  | (c, v) :: l => by
    by_cases same : c = k
    · subst same
      simp [List.lookup_cons, beq_false_of_ne other, lookup_filter_ne other l]
    · simp [same, List.lookup_cons, lookup_filter_ne other l]

/-- Removing the pairs of a key leaves nothing for it to find. -/
theorem lookup_filter_self {β : Type} {k : List String} :
    ∀ l : List (List String × β), (l.filter fun (c, _) => c != k).lookup k = none
  | [] => rfl
  | (c, v) :: l => by
    by_cases same : c = k
    · simp [same, lookup_filter_self l]
    · simp [same, List.lookup_cons, beq_false_of_ne (Ne.symm same),
        lookup_filter_self l]

/-- A put names its entry at its own key. -/
theorem find?_put_self {k : List String} {e : Entry} (named : k ≠ []) :
    (s.put k e).find? k = some e := by
  simp [find?, put, named, List.lookup_append, lookup_filter_self]

/-- A put leaves every other key as it was. -/
theorem find?_put_of_ne {k k' : List String} {e : Entry} (other : k' ≠ k) :
    (s.put k e).find? k' = s.find? k' := by
  unfold find?
  split
  · rfl
  · simp [put, List.lookup_append, lookup_filter_ne other, List.lookup_cons, beq_false_of_ne other]

/-- A put keeps the working directory. -/
@[simp] theorem workingDirectory_put {k : List String} {e : Entry} :
    (s.put k e).workingDirectory = s.workingDirectory := rfl

/-! ## Walking through directories -/

/-- One name of a walk: `.` and `..` are entered without a look at the store, any other
name must be a directory. -/
theorem walk_cons_eq_ok {here rest dir : List String} {name : String} :
    s.walk here (name :: rest) = .ok dir ↔
      (name = "." ∨ name = ".." ∨
        (isLongName name = false ∧ s.find? (here ++ [name]) = some .directory)) ∧
      s.walk (Location.enter here name) rest = .ok dir := by
  by_cases dot : name = "."
  · simp [walk, Location.enter, dot]
  by_cases parent : name = ".."
  · simp [walk, Location.enter, parent]
  rw [Location.enter_of_plain dot parent]
  by_cases long : isLongName name = true
  · simp [walk, dot, parent, long]
  cases found : s.find? (here ++ [name]) with
  | none => simp [walk, dot, parent, long, found]
  | some entry => cases entry <;> simp [walk, dot, parent, long, found]

/-- A walk that succeeds ends where its names lead from where it started. -/
theorem walk_eq_ok {here names dir : List String} (walked : s.walk here names = .ok dir) :
    dir = names.foldl Location.enter here := by
  induction names generalizing here with
  | nil => simpa [walk] using walked.symm
  | cons name rest ih =>
    obtain ⟨-, later⟩ := walk_cons_eq_ok.mp walked
    exact ih later

/-- Putting a file where no directory was keeps every walk that succeeded: the walk
passed through directories only. -/
theorem walk_put_file {here names dir k : List String} {bytes : ByteArray}
    (walked : s.walk here names = .ok dir) (notDirectory : s.find? k ≠ some .directory) :
    (s.put k (.file bytes)).walk here names = .ok dir := by
  induction names generalizing here with
  | nil => simpa [walk] using walked
  | cons name rest ih =>
    obtain ⟨entered, later⟩ := walk_cons_eq_ok.mp walked
    refine walk_cons_eq_ok.mpr ⟨?_, ih later⟩
    rcases entered with dot | parent | ⟨short, directory⟩
    · exact .inl dot
    · exact .inr (.inl parent)
    · have other : here ++ [name] ≠ k := fun same => notDirectory (same ▸ directory)
      exact .inr (.inr ⟨short, by rw [find?_put_of_ne other, directory]⟩)

/-! ## Locating a path -/

/-- A path that is located is cut at its slashes, the names before its last are walked
from where it starts, and the last name decides what it names. -/
theorem locate_eq_ok {path : String} {loc : Location} {dir : List String} {last : Option String}
    (located : s.locate path = .ok (loc, dir, last)) :
    loc = Location.ofPath path ∧ ∃ walked,
      s.walk (loc.start s.workingDirectory) loc.names.dropLast = .ok walked ∧
      Location.final walked loc.names.getLast? = (dir, last) := by
  by_cases nul : path.toList.any (· == '\x00') = true
  · simp [locate, nul] at located
  by_cases empty : path.isEmpty = true
  · simp [locate, nul, empty] at located
  by_cases long : path.utf8ByteSize ≥ pathLimitBytes
  · simp [locate, nul, empty, long] at located
  simp only [locate, nul, empty, long, Bool.false_eq_true, ↓reduceIte, Except.bind_eq_ok]
    at located
  obtain ⟨walked, walk, finished⟩ := located
  simp only [pure, Except.pure, Except.ok.injEq, Prod.mk.injEq] at finished
  obtain ⟨rfl, settled⟩ := finished
  exact ⟨rfl, walked, walk, Prod.ext settled.1 settled.2⟩

/-- Locating reads the store only through the walk to the path's directory and the
working directory. -/
theorem locate_congr {s' : Store} {path : String} (cwd : s.workingDirectory = s'.workingDirectory)
    (same : s.walk ((Location.ofPath path).start s.workingDirectory)
        (Location.ofPath path).names.dropLast =
      s'.walk ((Location.ofPath path).start s.workingDirectory)
        (Location.ofPath path).names.dropLast) :
    s.locate path = s'.locate path := by
  simp only [locate, same]
  rw [cwd]

/-- Putting a file where no directory was keeps every path located as it was. -/
theorem locate_put_file {path : String} {k : List String} {bytes : ByteArray}
    {found : Location × List String × Option String} (located : s.locate path = .ok found)
    (notDirectory : s.find? k ≠ some .directory) :
    (s.put k (.file bytes)).locate path = .ok found := by
  obtain ⟨loc, dir, last⟩ := found
  obtain ⟨rfl, walked, walk, -⟩ := locate_eq_ok located
  rw [← locate_congr workingDirectory_put.symm (walk.trans (walk_put_file walk notDirectory).symm)]
  exact located

/-- The entry a located path names is its key. -/
theorem key_of_locate {path name : String} {loc : Location} {dir : List String}
    (located : s.locate path = .ok (loc, dir, some name)) :
    dir ++ [name] = Location.key s.workingDirectory path := by
  obtain ⟨rfl, walked, walk, settled⟩ := locate_eq_ok located
  obtain ⟨last, notDot, notParent, rfl⟩ := Location.final_eq_some.mp settled
  -- the names are the walked directories followed by the last name
  have split := List.dropLast_append_getLast? name last
  rw [Location.key, ← split, List.foldl_append, List.foldl_cons, List.foldl_nil,
    ← walk_eq_ok walk, Location.enter_of_plain notDot notParent]

/-- A relative path starts from the working directory and an absolute one from the root, and
`..` goes up from where the names before it lead. -/
example :
    Location.key ["work"] "ast.rs" = ["work", "ast.rs"] ∧ Location.key ["work"] "/ast.rs" = ["ast.rs"] ∧
      Location.key ["work"] "../ast.rs" = ["ast.rs"] ∧ Location.key [] "/../d/./ast.rs" = ["d", "ast.rs"] := by
  decide

/-! ## Writing and reading -/

/-- **What a write does.** A write that succeeds puts the bytes at the entry of its
located path, which was no directory and is not named with a final slash. -/
theorem write_eq_ok {path : String} {bytes : ByteArray} {s' : Store}
    (wrote : s.write path bytes = .ok s') :
    ∃ loc dir name, s.locate path = .ok (loc, dir, some name) ∧ loc.trailingSlash = false ∧
      isLongName name = false ∧ s.find? (dir ++ [name]) ≠ some .directory ∧
      s' = s.put (dir ++ [name]) (.file bytes) := by
  obtain ⟨⟨loc, dir, last⟩, located, rest⟩ := Except.bind_eq_ok.mp wrote
  cases last with
  | none => exact absurd rest Except.throw_ne_ok
  | some name =>
    by_cases trailing : loc.trailingSlash = true
    · simp [trailing] at rest
    by_cases long : isLongName name = true
    · simp [trailing, long] at rest
    cases found : s.find? (dir ++ [name]) with
    | none => simp_all
    | some entry => cases entry <;> simp_all

/-- A read succeeds exactly on a located file not named with a final slash. -/
theorem readBytes_eq_ok_iff {path : String} {bytes : ByteArray} :
    s.readBytes path = .ok bytes ↔
      ∃ loc dir name, s.locate path = .ok (loc, dir, some name) ∧ loc.trailingSlash = false ∧
        isLongName name = false ∧ s.find? (dir ++ [name]) = some (.file bytes) := by
  constructor
  · intro readable
    obtain ⟨⟨loc, dir, last⟩, located, rest⟩ := Except.bind_eq_ok.mp readable
    cases last with
    | none => exact absurd rest Except.throw_ne_ok
    | some name =>
      by_cases long : isLongName name = true
      · simp [long] at rest
      cases found : s.find? (dir ++ [name]) with
      | none => simp_all
      | some entry =>
        cases entry with
        | directory => simp_all
        | file held =>
          -- a final slash on a file is refused, so the flag must be clear
          cases trailing : loc.trailingSlash <;> simp_all
  · rintro ⟨loc, dir, name, located, plain, short, found⟩
    simp [readBytes, located, plain, short, found, bind, Except.bind, pure, Except.pure]

/-- After a write, its own path reads back exactly the bytes written. -/
theorem readBytes_write_self {path : String} {bytes : ByteArray} {s' : Store}
    (wrote : s.write path bytes = .ok s') : s'.readBytes path = .ok bytes := by
  obtain ⟨loc, dir, name, located, plain, short, notDirectory, rfl⟩ := write_eq_ok wrote
  exact readBytes_eq_ok_iff.mpr ⟨loc, dir, name, locate_put_file located notDirectory, plain,
    short, find?_put_self (by simp)⟩

/-- A write keeps the working directory. -/
theorem workingDirectory_write {path : String} {bytes : ByteArray} {s' : Store}
    (wrote : s.write path bytes = .ok s') : s'.workingDirectory = s.workingDirectory := by
  obtain ⟨-, -, -, -, -, -, -, rfl⟩ := write_eq_ok wrote
  rfl

/-- **Reads across a write.** A path that read bytes before a write reads the written
bytes after it when the two paths share their key, and the same bytes otherwise. -/
theorem readBytes_write {p q : String} {b c : ByteArray} {s' : Store}
    (readable : s.readBytes p = .ok b) (wrote : s.write q c = .ok s') :
    s'.readBytes p =
      .ok (if Location.key s.workingDirectory q = Location.key s.workingDirectory p then c else b) := by
  obtain ⟨loc, dir, name, located, plain, short, found⟩ := readBytes_eq_ok_iff.mp readable
  obtain ⟨loc', dir', name', located', -, -, notDirectory, rfl⟩ := write_eq_ok wrote
  have keyP := key_of_locate located
  have keyQ := key_of_locate located'
  refine readBytes_eq_ok_iff.mpr ⟨loc, dir, name, locate_put_file located notDirectory, plain,
    short, ?_⟩
  by_cases same : Location.key s.workingDirectory q = Location.key s.workingDirectory p
  · rw [if_pos same, keyP, ← same, ← keyQ, find?_put_self (by simp)]
  · rw [if_neg same, find?_put_of_ne (by rw [keyP, keyQ]; exact Ne.symm same), found]

/-! ## Reading text -/

/-- Bytes read as UTF-8 text exactly when they are the text's encoding. -/
theorem fromUTF8?_eq_some_iff {bytes : ByteArray} {text : String} :
    String.fromUTF8? bytes = some text ↔ bytes = text.toUTF8 := by
  constructor
  · intro decoded
    unfold String.fromUTF8? at decoded
    split at decoded
    · obtain rfl := Option.some.inj decoded
      rfl
    · cases decoded
  · rintro rfl
    simp [String.fromUTF8?, text.isValidUTF8, String.fromUTF8]

/-- A file reads as a text exactly when its bytes are the text's encoding. -/
theorem readToString_eq_ok_iff {path text : String} :
    s.readToString path = .ok text ↔ s.readBytes path = .ok text.toUTF8 := by
  unfold readToString
  cases s.readBytes path with
  | error failure => simp
  | ok bytes =>
    simp only [Except.ok.injEq]
    rw [← fromUTF8?_eq_some_iff]
    cases String.fromUTF8? bytes <;> simp

/-- A file of valid UTF-8 bytes reads as the text they encode. -/
theorem readToString_of_valid {path : String} {bytes : ByteArray}
    (readable : s.readBytes path = .ok bytes) (valid : bytes.IsValidUTF8) :
    s.readToString path = .ok (String.fromUTF8 bytes valid) := by
  simp [readToString, readable, String.fromUTF8?, valid]

/-- Reading as text fails as reading the bytes fails, or on bytes that are no UTF-8. -/
theorem readToString_eq_error_iff {path : String} {failure : IoFailure} :
    s.readToString path = .error failure ↔
      s.readBytes path = .error failure ∨
        ∃ bytes, s.readBytes path = .ok bytes ∧ ¬ bytes.IsValidUTF8 ∧ failure = .invalidData := by
  unfold readToString
  cases s.readBytes path with
  | error e => simp
  | ok bytes =>
    by_cases valid : bytes.IsValidUTF8
    · simp [String.fromUTF8?, valid]
    · simp [String.fromUTF8?, valid, eq_comm]

end Store

/-! ## The writer on a store -/

variable {st : Store} {path source : String}

/-- Writing a generated source on a store writes its UTF-8 bytes, and a failure names the
path and leaves the store as it was. -/
theorem writeGenerated_run :
    (writeGenerated Store.ops path source).run st =
      match st.write path source.toUTF8 with
      | .ok written => (.ok (), written)
      | .error failure => (.error (.io path failure), st) := by
  cases wrote : st.write path source.toUTF8 <;>
    simp only [writeGenerated, Store.ops, StateT.run_bind, StateT.run_modifyGet, wrote,
      StateT.run_pure, pure_bind, Except.mapError] <;> rfl

/-- A sync out of check mode is the write, answering `Written`. -/
theorem syncGenerated_run_write :
    (syncGenerated Store.ops path source false).run st =
      (((writeGenerated Store.ops path source).run st).1.map fun () => .written,
        ((writeGenerated Store.ops path source).run st).2) :=
  rfl

/-- A sync in check mode is the check, and leaves the store alone. -/
theorem syncGenerated_run_check :
    (syncGenerated Store.ops path source true).run st =
      (((isUpToDate Store.ops path source).run st).1.map
        fun same => if same then .upToDate else .outOfDate, st) :=
  rfl

/-- The check on a store reads the file as text and leaves the store alone. -/
theorem isUpToDate_run :
    (isUpToDate Store.ops path source).run st = (upToDateOfRead path source (st.readToString path), st) :=
  rfl

/-- The check answers true exactly when the file holds the source's bytes. -/
theorem upToDateOfRead_eq_ok_true :
    upToDateOfRead path source (st.readToString path) = .ok true ↔
      st.readBytes path = .ok source.toUTF8 := by
  rw [← Store.readToString_eq_ok_iff]
  cases st.readToString path with
  | ok text => simp [upToDateOfRead]
  | error failure => cases failure <;> simp [upToDateOfRead]

/-- The check answers false exactly when the file is missing or holds other UTF-8 text. -/
theorem upToDateOfRead_eq_ok_false :
    upToDateOfRead path source (st.readToString path) = .ok false ↔
      st.readBytes path = .error .notFound ∨
        ∃ bytes, st.readBytes path = .ok bytes ∧ bytes.IsValidUTF8 ∧ bytes ≠ source.toUTF8 := by
  constructor
  · intro answered
    cases read : st.readToString path with
    | ok text =>
      rw [read] at answered
      have other : text ≠ source := by simpa [upToDateOfRead] using answered
      refine .inr ⟨text.toUTF8, Store.readToString_eq_ok_iff.mp read, text.isValidUTF8, ?_⟩
      simpa [String.toByteArray_inj] using other
    | error failure =>
      rw [read] at answered
      cases failure <;> simp [upToDateOfRead] at answered
      rcases Store.readToString_eq_error_iff.mp read with missing | ⟨_, _, _, impossible⟩
      · exact .inl missing
      · cases impossible
  · rintro (missing | ⟨bytes, readable, valid, other⟩)
    · have failed : st.readToString path = .error .notFound :=
        Store.readToString_eq_error_iff.mpr (.inl missing)
      simp [failed, upToDateOfRead]
    · -- valid bytes decode to a text, and it is not the source
      have read := Store.readToString_of_valid readable valid
      have differ : String.fromUTF8 bytes valid ≠ source := by
        rintro rfl
        have same := (Store.readToString_eq_ok_iff.mp read).symm.trans readable
        exact other (Except.ok.inj same).symm
      simp [read, upToDateOfRead, differ]

/-- The check fails exactly on a failure to read other than a missing file, or on bytes
that are no UTF-8, with an error naming the path. -/
theorem upToDateOfRead_eq_error {e : GenerateError} :
    upToDateOfRead path source (st.readToString path) = .error e ↔
      (∃ failure, st.readBytes path = .error failure ∧ failure ≠ .notFound ∧
        e = .io path failure) ∨
      (∃ bytes, st.readBytes path = .ok bytes ∧ ¬ bytes.IsValidUTF8 ∧
        e = .io path .invalidData) := by
  cases read : st.readToString path with
  | ok text =>
    have readable := Store.readToString_eq_ok_iff.mp read
    simp [upToDateOfRead, readable, text.isValidUTF8]
  | error failure =>
    rcases Store.readToString_eq_error_iff.mp read with failed | ⟨bytes, readable, invalid, rfl⟩
    · cases failure <;> simp [upToDateOfRead, failed, eq_comm]
    · simp [upToDateOfRead, readable, invalid, eq_comm]

/-- Whether a call writes to the entry `key`, paths being resolved from the working
directory `cwd`: a write, or a sync out of check mode, to a path whose key it is. -/
def Call.writesTo (cwd key : List String) : Call → Bool
  | .write path _ | .sync path _ false => Location.key cwd path == key
  | _ => false

/-- A call that may write answers as its write does and leaves the store its write leaves. -/
theorem Call.run_of_writes {c : Call} (writes : c = .write path source ∨ c = .sync path source false) :
    ((c.run Store.ops).run st).1.isOk = ((writeGenerated Store.ops path source).run st).1.isOk ∧
      ((c.run Store.ops).run st).2 = ((writeGenerated Store.ops path source).run st).2 := by
  rcases writes with rfl | rfl
  · -- the answer is the write's, mapped to `Written`
    show (((writeGenerated Store.ops path source).run st).1.map fun () => Reply.written).isOk = _ ∧ _
    exact ⟨Except.isOk_map _ _, rfl⟩
  · show ((((writeGenerated Store.ops path source).run st).1.map
      fun () => SyncOutcome.written).map Reply.synced).isOk = _ ∧ _
    rw [Except.isOk_map, Except.isOk_map]
    exact ⟨rfl, rfl⟩

/-- **What a call does to the store.** It leaves the store as it was, or it is a write to
some path that succeeded and the store is the written one. -/
theorem perform_store (st : Store) (c : Call) :
    ((c.run Store.ops).run st).2 = st ∨
      ∃ path bytes, c.writesTo st.workingDirectory (Location.key st.workingDirectory path) = true ∧
        ((c.run Store.ops).run st).1.isOk = true ∧
        st.write path bytes = .ok ((c.run Store.ops).run st).2 := by
  -- a call that may write: it wrote, or it failed and left the store alone
  have writing : ∀ path source, (c = .write path source ∨ c = .sync path source false) →
      ((c.run Store.ops).run st).2 = st ∨
      ∃ path bytes, c.writesTo st.workingDirectory (Location.key st.workingDirectory path) = true ∧
        ((c.run Store.ops).run st).1.isOk = true ∧
        st.write path bytes = .ok ((c.run Store.ops).run st).2 := by
    intro path source writes
    obtain ⟨answer, store⟩ := @Call.run_of_writes st path source c writes
    cases wrote : st.write path source.toUTF8 with
    | error failure =>
      left
      rw [store, writeGenerated_run, wrote]
    | ok written =>
      refine .inr ⟨path, source.toUTF8, ?_, ?_, ?_⟩
      · rcases writes with rfl | rfl <;> simp [Call.writesTo]
      · rw [answer, writeGenerated_run, wrote]
        rfl
      · rw [store, writeGenerated_run, wrote]
  cases c with
  | write path source => exact writing path source (.inl rfl)
  | isUpToDate path source => exact .inl rfl
  | sync path source check =>
    cases check with
    | true => exact .inl rfl
    | false => exact writing path source (.inr rfl)

/-- A call keeps the working directory. -/
theorem workingDirectory_run (st : Store) (c : Call) :
    ((c.run Store.ops).run st).2.workingDirectory = st.workingDirectory := by
  rcases perform_store st c with same | ⟨_, _, _, _, wrote⟩
  · rw [same]
  · exact Store.workingDirectory_write wrote

@[simp] theorem session_nil (st : Store) : st.session [] = (st, []) := rfl

@[simp] theorem session_cons (st : Store) (c : Call) (rest : List Call) :
    st.session (c :: rest) =
      ((((c.run Store.ops).run st).2.session rest).1,
        ((c.run Store.ops).run st).1 :: (((c.run Store.ops).run st).2.session rest).2) :=
  rfl

/-- **A file keeps its bytes through a session.** A path that reads bytes keeps reading
them after any calls in which no write to its key succeeds. -/
theorem readBytes_session {p : String} {b : ByteArray} :
    ∀ {st : Store} (calls : List Call), st.readBytes p = .ok b →
      (∀ call ∈ calls.zip (st.session calls).2,
        call.1.writesTo st.workingDirectory (Location.key st.workingDirectory p) = true →
          call.2.isOk = false) →
      (st.session calls).1.readBytes p = .ok b
  | _, [], readable, _ => readable
  | st, c :: rest, readable, untouched => by
    simp only [session_cons, List.zip_cons_cons, List.mem_cons, forall_eq_or_imp] at untouched ⊢
    obtain ⟨first, later⟩ := untouched
    -- the working directory is the same after the call, so are the keys
    rw [← workingDirectory_run st c] at later
    rcases perform_store st c with same | ⟨q, bytes, writes, succeeded, wrote⟩
    · exact readBytes_session rest (by rw [same]; exact readable) later
    · -- the call wrote, so it wrote to another key than the path's
      have differ : Location.key st.workingDirectory q ≠ Location.key st.workingDirectory p := by
        intro same
        have failed := first (same ▸ writes)
        simp [succeeded] at failed
      have kept := Store.readBytes_write readable wrote
      rw [if_neg differ] at kept
      exact readBytes_session rest kept later

/-- **The writer's contract.** On any store and for any path and source: checking, and
syncing in check mode, leave the store as it was; the check answers true exactly when the
file holds the source's UTF-8 bytes, false exactly when it is missing or holds other UTF-8
text, and fails with an error naming the path on any other failure to read, bytes that are
no UTF-8 included; after a write that succeeds the file holds exactly the source's bytes,
and keeps them through any later calls until a later write to its key succeeds; a write
that fails changes nothing and names the path; a sync out of check mode is the write
answering `Written`, in check mode the check; only a failed check is not a success. -/
theorem checks_read_only_writes_persist (st : Store) (path source : String) :
    ((isUpToDate Store.ops path source).run st).2 = st ∧
    ((syncGenerated Store.ops path source true).run st).2 = st ∧
    (((isUpToDate Store.ops path source).run st).1 = .ok true ↔
      st.readBytes path = .ok source.toUTF8) ∧
    (((isUpToDate Store.ops path source).run st).1 = .ok false ↔
      st.readBytes path = .error .notFound ∨
        ∃ bytes, st.readBytes path = .ok bytes ∧ bytes.IsValidUTF8 ∧ bytes ≠ source.toUTF8) ∧
    (∀ e, ((isUpToDate Store.ops path source).run st).1 = .error e ↔
      (∃ failure, st.readBytes path = .error failure ∧ failure ≠ .notFound ∧
        e = .io path failure) ∨
      (∃ bytes, st.readBytes path = .ok bytes ∧ ¬ bytes.IsValidUTF8 ∧
        e = .io path .invalidData)) ∧
    (∀ written, (writeGenerated Store.ops path source).run st = (.ok (), written) →
      written.readBytes path = .ok source.toUTF8 ∧
      ∀ later : List Call,
        (∀ call ∈ later.zip (written.session later).2,
          call.1.writesTo st.workingDirectory (Location.key st.workingDirectory path) = true →
            call.2.isOk = false) →
        (written.session later).1.readBytes path = .ok source.toUTF8) ∧
    (∀ e, ((writeGenerated Store.ops path source).run st).1 = .error e →
      ((writeGenerated Store.ops path source).run st).2 = st ∧ ∃ failure, e = .io path failure) ∧
    (syncGenerated Store.ops path source false).run st =
      (((writeGenerated Store.ops path source).run st).1.map fun () => .written,
        ((writeGenerated Store.ops path source).run st).2) ∧
    (syncGenerated Store.ops path source true).run st =
      (((isUpToDate Store.ops path source).run st).1.map
        fun same => if same then .upToDate else .outOfDate, st) ∧
    ∀ outcome : SyncOutcome, outcome.isSuccess = false ↔ outcome = .outOfDate := by
  refine ⟨rfl, rfl, upToDateOfRead_eq_ok_true, upToDateOfRead_eq_ok_false,
    fun e => upToDateOfRead_eq_error, fun written wrote => ?_, fun e failed => ?_, rfl, rfl,
    fun outcome => ?_⟩
  · -- the write went through the store's own write of the source's bytes
    have stored : st.write path source.toUTF8 = .ok written := by
      rw [writeGenerated_run] at wrote
      cases result : st.write path source.toUTF8 with
      | error failure =>
        rw [result] at wrote
        injection wrote with answered
        cases answered
      | ok stored =>
        rw [result] at wrote
        injection wrote with _ same
        rw [same]
    have cwd := Store.workingDirectory_write stored
    have readable := Store.readBytes_write_self stored
    refine ⟨readable, fun later untouched => ?_⟩
    rw [← cwd] at untouched
    exact readBytes_session later readable untouched
  · rw [writeGenerated_run] at failed ⊢
    cases stored : st.write path source.toUTF8 with
    | ok written =>
      rw [stored] at failed
      simp at failed
    | error failure =>
      rw [stored] at failed
      simp only [Except.error.injEq] at failed
      exact ⟨rfl, failure, failed.symm⟩
  · cases outcome <;> simp [SyncOutcome.isSuccess]

/-- A file written through `d/../ast.rs`, where `d` is a directory, is the file `ast.rs`: its
old bytes are replaced, and it keeps the new ones through a check, a write to another file,
a write naming it with a final slash, which is refused, and a sync in check mode naming it as
`./d/../ast.rs`. -/
theorem checks_read_only_writes_persist_aliased :
    let st : Store := ⟨[(["d"], .directory), (["ast.rs"], .file "old".toUTF8)], []⟩
    let written : Store := st.put ["ast.rs"] (.file "new".toUTF8)
    let later := [Call.isUpToDate "ast.rs" "new", .write "other.rs" "x", .write "d/../ast.rs/" "z",
      .sync "./d/../ast.rs" "y" true]
    (writeGenerated Store.ops "d/../ast.rs" "new").run st = (.ok (), written) ∧
      (∀ call ∈ later.zip (written.session later).2,
        call.1.writesTo st.workingDirectory (Location.key st.workingDirectory "d/../ast.rs") = true →
          call.2.isOk = false) ∧
      (written.session later).1.readBytes "d/../ast.rs" = .ok "new".toUTF8 ∧
      (written.session later).1.readToString "ast.rs" = .ok "new" := by
  intro st written later
  have wrote : (writeGenerated Store.ops "d/../ast.rs" "new").run st = (.ok (), written) := by
    have answered : ((writeGenerated Store.ops "d/../ast.rs" "new").run st).1.toOption = some () := by
      decide +kernel
    have stored : ((writeGenerated Store.ops "d/../ast.rs" "new").run st).2 = written := by
      decide +kernel
    refine Prod.ext ?_ stored
    revert answered
    cases ((writeGenerated Store.ops "d/../ast.rs" "new").run st).1 <;> simp [Except.toOption]
  have untouched : ∀ call ∈ later.zip (written.session later).2,
      call.1.writesTo st.workingDirectory (Location.key st.workingDirectory "d/../ast.rs") = true →
        call.2.isOk = false := by
    decide +kernel
  have aliased : ((written.session later).1.readToString "ast.rs").toOption = some "new" := by
    decide +kernel
  refine ⟨wrote, untouched,
    ((checks_read_only_writes_persist st "d/../ast.rs" "new").2.2.2.2.2.1 written wrote).2 later
      untouched, ?_⟩
  revert aliased
  cases (written.session later).1.readToString "ast.rs" <;> simp [Except.toOption]

end LoxSyntax.Files
