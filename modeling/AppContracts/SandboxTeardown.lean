/-
The end of a local sandbox: `LocalProcessSandbox.close` of `sandbox.py`.

Commands leave what they want under the sandbox's directory. Closing makes all of it
writable for the owner and removes it. The directory is that of `tempfile.mkdtemp`, so
its path has no links; modes are data, for no call of the process is refused for them.

The loop goes over the paths of the walk, which was made before it: a visit changes modes and
never the shape of the tree, so that a path that led somewhere before the loop does so at its
turn. The induction is on the paths that are left, with that as its invariant.
-/
import AppContracts.Lib.FileTree
import AppContracts.Lib.Triple
import AppContracts.Python

set_option autoImplicit false

namespace AppContracts.LocalSandbox

open FileTree Stateful

/-- The file system, and whether the sandbox is closed: `_closed`. -/
structure World : Type where
  tree : Tree
  closed : Bool

/-- A call on the file system. -/
abbrev Call (α : Type) : Type := Prog Exn World α

/-- `_root`, made by `tempfile.mkdtemp` in a directory. -/
structure Root : Type where
  parent : PathParts
  name : String
  plain : is_name name = true

/-- The path of the root. -/
def Root.path (root : Root) : PathParts := root.parent ++ [root.name]

theorem Root.made (root : Root) : root.path ≠ [] := List.append_ne_nil_of_right_ne_nil _
    (List.cons_ne_nil _ _)

/-! ## The file system -/

/-- What a call raises where a path leads nowhere. -/
def os_error : Errno → Exn
  | .ENOENT => ⟨.FileNotFoundError, "No such file or directory"⟩
  | .ENOTDIR => ⟨.NotADirectoryError, "Not a directory"⟩
  | .ELOOP => ⟨.OSError, "Too many levels of symbolic links"⟩

/-- The node that a call on a path works on. -/
def find (t : Tree) (p : PathParts) : Except Exn PathParts :=
  match resolve t.kind p with
  | .ok q => .ok q
  | .error e => .error (os_error e)

/-- `path.exists()`. -/
def path_exists (t : Tree) (p : PathParts) : Bool := (find t p).isOk

/-- `path.is_dir()`. -/
def is_dir (t : Tree) (p : PathParts) : Bool :=
  match find t p with
  | .ok q => t.kind q == some .dir
  | .error _ => false

/-- The mode of a node. -/
def node_mode : Option Node → ℕ
  | some (.dir mode) => mode
  | some (.file mode _) => mode
  | _ => 0

/-- The node with another mode. -/
def with_mode (mode : ℕ) : Node → Node
  | .dir _ => .dir mode
  | .file _ content => .file mode content
  | .link target => .link target

theorem kind_with_mode (mode : ℕ) (n : Node) : (with_mode mode n).kind = n.kind := by
  cases n <;> rfl

/-- The tree with the mode of one node set. -/
def set_mode (t : Tree) (q : PathParts) (mode : ℕ) : Tree :=
  t.map (fun p n => if p = q then with_mode mode n else n) fun p n => by
    split_ifs
    · exact kind_with_mode mode n
    · rfl

/-- `path.chmod(mode)`. -/
def chmod (p : PathParts) (mode : ℕ) : Call Unit := do
  let w ← get
  let q ← find w.tree p
  set { w with tree := set_mode w.tree q mode }

/-- `path.stat().st_mode`. -/
def stat_mode (p : PathParts) : Call ℕ := do
  let w ← get
  let q ← find w.tree p
  return node_mode (w.tree.get q)

/-- `root.rglob("*")` of a directory. A directory is listed after its own mode was set,
and no step of the loop changes what stands where. -/
def rglob (t : Tree) (root : PathParts) : List PathParts :=
  t.paths.filter fun p => root.isPrefixOf p && p != root

/-- `shutil.rmtree(root)`, which follows no link. -/
def rmtree (root : Root) : Call Unit := do
  let w ← get
  match w.tree.kind root.path with
  | none => throw (os_error .ENOENT)
  | some .dir => set { w with tree := w.tree.remove root.path root.made }
  | some .file => throw (os_error .ENOTDIR)
  | some (.link _) => throw ⟨.OSError, "Cannot call rmtree on a symbolic link"⟩

/-! ## Closing -/

/-- The body of the loop of `_make_tree_owner_writable`. -/
def make_owner_writable (p : PathParts) : Call Unit := do
  let w ← get
  if is_dir w.tree p then chmod p 0o700
  else do
    let mode ← stat_mode p
    chmod p (if mode &&& 0o111 ≠ 0 then 0o700 else 0o600)

/-- `_make_tree_owner_writable(root)`. -/
def _make_tree_owner_writable (root : PathParts) : Call Unit := do
  let w ← get
  if path_exists w.tree root then do
    chmod root 0o700
    (rglob w.tree root).forM make_owner_writable
  else return ()

/-- `except FileNotFoundError: pass`. -/
def ignore_missing (m : Call Unit) : Call Unit :=
  tryCatch m fun e => if e.cls = .FileNotFoundError then return () else throw e

/-- `LocalProcessSandbox.close()`. -/
def close (root : Root) : Call Unit := do
  let w ← get
  if w.closed then return ()
  else do
    _make_tree_owner_writable root.path
    ignore_missing (rmtree root)
    modify fun w => { w with closed := true }

/-! ## One visit -/

/-- What the loop makes of a node. -/
def owner_writable : Node → Node
  | .dir _ => .dir 0o700
  | .file mode content => .file (if mode &&& 0o111 ≠ 0 then 0o700 else 0o600) content
  | .link target => .link target

theorem owner_writable_idem (n : Node) : owner_writable (owner_writable n) = owner_writable n := by
  cases n with
  | dir mode => rfl
  | link target => rfl
  | file mode content =>
    rw [owner_writable]
    split_ifs <;> rfl

/-- The tree in which some nodes are writable for their owner. -/
structure Writable (t t' : Tree) (visited : PathParts → Prop) : Prop where
  kind : t'.kind = t.kind
  changed : ∀ p, visited p → t'.get p = (t.get p).map owner_writable
  kept : ∀ p, ¬ visited p → t'.get p = t.get p

/-- A change that leaves a node's kind and sets its mode as the loop does. -/
theorem writable_set_mode {t : Tree} {q : PathParts} {n : Node} {mode : ℕ} (h : t.get q = some n)
    (hmode : with_mode mode n = owner_writable n) : Writable t (set_mode t q mode) (· = q) := by
  refine ⟨Tree.kind_map, ?_, ?_⟩
  · rintro p rfl
    rw [set_mode, Tree.get_map, h, Option.map_some, Option.map_some, if_pos rfl, hmode]
  · intro p hp
    rw [set_mode, Tree.get_map]
    cases t.get p with
    | none => rfl
    | some m => rw [Option.map_some, if_neg hp]

theorem find_ok {t : Tree} {p q : PathParts} (h : resolve t.kind p = .ok q) : find t p = .ok q := by
  rw [find, h]

theorem is_dir_ok {t : Tree} {p q : PathParts} (h : resolve t.kind p = .ok q) :
    is_dir t p = (t.kind q == some .dir) := by
  rw [is_dir, find_ok h]

theorem exec_chmod {w : World} {p q : PathParts} (h : resolve w.tree.kind p = .ok q) (mode : ℕ) :
    (chmod p mode).exec w = (.ok (), { w with tree := set_mode w.tree q mode }) := by
  simp only [chmod, Prog.exec_bind, Prog.exec_get, Prog.exec_lift, find_ok h, Prog.exec_set]

/-- **A visit makes the node that the path leads to writable for its owner.** -/
theorem visit_ok {w : World} {p q : PathParts} (h : resolve w.tree.kind p = .ok q) :
    ∃ t', (make_owner_writable p).exec w = (.ok (), { w with tree := t' }) ∧
      Writable w.tree t' (· = q) := by
  -- a directory gets its mode, a file keeps what its execute bits say
  rcases resolve_ends h with hkind | hkind
  · obtain ⟨n, hn, hdir⟩ := Option.map_eq_some_iff.mp hkind
    have his : is_dir w.tree p = true := by
      rw [is_dir_ok h, hkind]
      rfl
    refine ⟨set_mode w.tree q 0o700, ?_, writable_set_mode hn ?_⟩
    · rw [make_owner_writable, Prog.exec_bind, Prog.exec_get]
      simp only [his, if_true]
      exact exec_chmod h _
    · cases n with
      | dir mode => rfl
      | file => exact nomatch hdir
      | link => exact nomatch hdir
  · obtain ⟨n, hn, hfile⟩ := Option.map_eq_some_iff.mp hkind
    have his : is_dir w.tree p = false := by
      rw [is_dir_ok h, hkind]
      rfl
    cases n with
    | dir => exact nomatch hfile
    | link => exact nomatch hfile
    | file mode content =>
      have hstat : (stat_mode p).exec w = (.ok mode, w) := by
        simp only [stat_mode, Prog.exec_bind, Prog.exec_get, Prog.exec_lift, find_ok h, hn, node_mode,
          Prog.exec_pure]
      refine ⟨set_mode w.tree q (if mode &&& 0o111 ≠ 0 then 0o700 else 0o600), ?_,
        writable_set_mode hn ?_⟩
      · rw [make_owner_writable, Prog.exec_bind, Prog.exec_get]
        simp only [his, Bool.false_eq_true, if_false]
        rw [Prog.exec_bind, hstat]
        exact exec_chmod h _
      · rfl

/-- **A visit raises where the path leads nowhere.** -/
theorem visit_error {w : World} {p : PathParts} {e : Errno} (h : resolve w.tree.kind p = .error e) :
    (make_owner_writable p).exec w = (.error (os_error e), w) := by
  have hfind : find w.tree p = .error (os_error e) := by rw [find, h]
  have his : is_dir w.tree p = false := by rw [is_dir, hfind]
  rw [make_owner_writable, Prog.exec_bind, Prog.exec_get]
  simp only [his, Bool.false_eq_true, if_false]
  simp only [stat_mode, Prog.exec_bind, Prog.exec_get, Prog.exec_lift, hfind]

/-! ## The loop -/

/-- The nodes that some paths lead to. -/
def Visited (kind : PathParts → Option Kind) (paths : List PathParts) (q : PathParts) : Prop :=
  ∃ p ∈ paths, resolve kind p = .ok q

theorem Writable.trans {t t' t'' : Tree} {P Q : PathParts → Prop} (h : Writable t t' P)
    (h' : Writable t' t'' Q) :
    Writable t t'' fun p => P p ∨ Q p := by
  refine ⟨h'.kind.trans h.kind, fun p hp => ?_, fun p hp => ?_⟩
  · by_cases hP : P p
    · by_cases hQ : Q p
      · rw [h'.changed p hQ, h.changed p hP, Option.map_map]
        exact congrArg (fun f => (t.get p).map f) (funext owner_writable_idem)
      · rw [h'.kept p hQ, h.changed p hP]
    · rw [h'.changed p (hp.resolve_left hP), h.kept p hP]
  · rw [not_or] at hp
    rw [h'.kept p hp.2, h.kept p hp.1]

theorem forM_cons (p : PathParts) (rest : List PathParts) : (p :: rest).forM make_owner_writable =
    make_owner_writable p >>= fun _ => rest.forM make_owner_writable := rfl

/-- **The loop over paths that lead somewhere.** -/
theorem loop_ok {w : World} {paths : List PathParts}
    (h : ∀ p ∈ paths, ∃ q, resolve w.tree.kind p = .ok q) :
    ∃ t', (paths.forM make_owner_writable).exec w = (.ok (), { w with tree := t' }) ∧
      Writable w.tree t' (Visited w.tree.kind paths) := by
  -- on the paths: a visit changes modes only, so the rest resolves as before
  induction paths generalizing w with
  | nil =>
    refine ⟨w.tree, rfl, rfl, ?_, fun p _ => rfl⟩
    rintro p ⟨q, hq, -⟩
    exact nomatch hq
  | cons p rest ih =>
    obtain ⟨q, hq⟩ := h p List.mem_cons_self
    obtain ⟨t', hvisit, hwritable⟩ := visit_ok hq
    obtain ⟨t'', hloop, hrest⟩ := @ih { w with tree := t' } fun p hp => by
      rw [hwritable.kind]
      exact h p (List.mem_cons_of_mem _ hp)
    refine ⟨t'', ?_, ?_⟩
    · rw [forM_cons, Prog.exec_bind, hvisit]
      exact hloop
    · have hboth := hwritable.trans hrest
      rw [hwritable.kind] at hboth
      have hvisited : ∀ r, Visited w.tree.kind (p :: rest) r ↔ r = q ∨ Visited w.tree.kind rest r := by
        intro r
        rw [Visited, List.exists_mem_cons_iff, hq, Except.ok.injEq, eq_comm]
        rfl
      exact ⟨hboth.kind, fun r hr => hboth.changed r ((hvisited r).mp hr),
        fun r hr => hboth.kept r fun hr' => hr ((hvisited r).mpr hr')⟩

/-- **The loop stops at a path that leads nowhere**, and removes nothing. -/
theorem loop_error {w : World} {paths : List PathParts}
    (h : ∃ p ∈ paths, ∃ e, resolve w.tree.kind p = .error e) :
    ∃ e t', (paths.forM make_owner_writable).exec w = (.error e, { w with tree := t' }) ∧
      t'.kind = w.tree.kind := by
  induction paths generalizing w with
  | nil =>
    obtain ⟨p, hp, -⟩ := h
    exact nomatch hp
  | cons p rest ih =>
    rw [forM_cons, Prog.exec_bind]
    cases hp : resolve w.tree.kind p with
    | error e =>
      rw [visit_error hp]
      exact ⟨_, w.tree, rfl, rfl⟩
    | ok q =>
      obtain ⟨t', hvisit, hwritable⟩ := visit_ok hp
      obtain ⟨r, hr, e, he⟩ := h
      have hr : r ∈ rest := by
        refine (List.mem_cons.mp hr).resolve_left ?_
        rintro rfl
        exact nomatch hp.symm.trans he
      rw [hvisit]
      obtain ⟨e', t'', hloop, hkind⟩ := @ih { w with tree := t' } ⟨r, hr, e, by rw [hwritable.kind, he]⟩
      exact ⟨e', t'', hloop, hkind.trans hwritable.kind⟩

/-! ## Closing an open sandbox -/

variable {w : World} {root : Root}

/-- `root.chmod(0o700)` is the visit of a directory, so the walk is one loop. -/
theorem exec_make_tree (hroot : w.tree.kind root.path = some .dir) :
    (_make_tree_owner_writable root.path).exec w =
      ((root.path :: rglob w.tree root.path).forM make_owner_writable).exec w := by
  have hown := resolve_own hroot fun _ => nofun
  have hexists : path_exists w.tree root.path = true := by
    rw [path_exists, find_ok hown]
    rfl
  have his : is_dir w.tree root.path = true := by
    rw [is_dir_ok hown, hroot]
    rfl
  have hvisit : (make_owner_writable root.path).exec w = (chmod root.path 0o700).exec w := by
    rw [make_owner_writable, Prog.exec_bind, Prog.exec_get]
    simp only [his, if_true]
  rw [_make_tree_owner_writable, Prog.exec_bind, Prog.exec_get, forM_cons, Prog.exec_bind, hvisit]
  simp only [hexists, if_true]
  rw [Prog.exec_bind]

theorem exec_close (hopen : w.closed = false) (hroot : w.tree.kind root.path = some .dir)
    {t' : Tree}
    (hloop : ((root.path :: rglob w.tree root.path).forM make_owner_writable).exec w =
      (.ok (), { w with tree := t' })) (hkind : t'.kind = w.tree.kind) :
    (close root).exec w = (.ok (), ⟨t'.remove root.path root.made, true⟩) := by
  have hremove : (rmtree root).exec { w with tree := t' } =
      (.ok (), { w with tree := t'.remove root.path root.made }) := by
    rw [rmtree, Prog.exec_bind, Prog.exec_get]
    simp only [hkind, hroot]
    rfl
  rw [close, Prog.exec_bind, Prog.exec_get]
  simp only [hopen, Bool.false_eq_true, if_false]
  rw [Prog.exec_bind, exec_make_tree hroot, hloop]
  simp only
  rw [Prog.exec_bind, ignore_missing, Prog.exec_catch, hremove]
  rfl

theorem exec_close_error (hopen : w.closed = false) (hroot : w.tree.kind root.path = some .dir)
    {t' : Tree} {e : Exn}
    (hloop : ((root.path :: rglob w.tree root.path).forM make_owner_writable).exec w =
      (.error e, { w with tree := t' })) :
    (close root).exec w = (.error e, { w with tree := t' }) := by
  rw [close, Prog.exec_bind, Prog.exec_get]
  simp only [hopen, Bool.false_eq_true, if_false]
  rw [Prog.exec_bind, exec_make_tree hroot, hloop]
  simp only [hopen]

/-- What closing is for: no error, the directory gone, the sandbox closed, and every node
outside the directory as it was. -/
def TornDown (root : Root) (w : World) : Prop :=
  ∃ w', (close root).exec w = (.ok (), w') ∧ w'.closed = true ∧
    (∀ p, root.path <+: p → w'.tree.get p = none) ∧ ∀ p, ¬ root.path <+: p → w'.tree.get p =
      w.tree.get p

/-- Every link under the directory leads to a node inside it, or to one outside that
has the mode already. -/
def Confined (root : Root) (t : Tree) : Prop :=
  ∀ p target, root.path <+: p → t.get p = some (.link target) →
    ∃ q, resolve t.kind p = .ok q ∧ (root.path <+: q ∨ (t.get q).map owner_writable = t.get q)

/-- The loop visits what is in the directory. -/
theorem mem_walked {t : Tree} (hroot : t.kind root.path = some .dir) {p : PathParts} :
    p ∈ root.path :: rglob t root.path ↔ p ∈ t.paths ∧ root.path <+: p := by
  rw [List.mem_cons, rglob, List.mem_filter, Bool.and_eq_true, List.isPrefixOf_iff_prefix, bne_iff_ne]
  constructor
  · rintro (rfl | ⟨hp, hunder, -⟩)
    · exact ⟨Tree.kind_some hroot, List.prefix_refl _⟩
    · exact ⟨hp, hunder⟩
  · rintro ⟨hp, hunder⟩
    by_cases heq : p = root.path
    · exact .inl heq
    · exact .inr ⟨hp, hunder, heq⟩

/-- A visited node is in the directory, or a link in the directory leads to it. -/
theorem visited_cases {t : Tree} (hroot : t.kind root.path = some .dir) {q : PathParts}
    (h : Visited t.kind (root.path :: rglob t root.path) q) : root.path <+: q ∨
      ∃ p target, root.path <+: p ∧ t.get p = some (.link target) ∧ resolve t.kind p = .ok q := by
  obtain ⟨p, hp, hq⟩ := h
  obtain ⟨hmem, hunder⟩ := (mem_walked hroot).mp hp
  obtain ⟨n, hn⟩ := Tree.mem_paths.mp hmem
  have hkind : t.kind p = some n.kind := by rw [Tree.kind, hn, Option.map_some]
  cases n with
  | link target => exact .inr ⟨p, target, hunder, hn, hq⟩
  | dir mode =>
    obtain rfl := Except.ok.inj ((resolve_own hkind fun _ => (by rintro ⟨⟩)).symm.trans hq)
    exact .inl hunder
  | file mode content =>
    obtain rfl := Except.ok.inj ((resolve_own hkind fun _ => (by rintro ⟨⟩)).symm.trans hq)
    exact .inl hunder

/-- **A link that leads nowhere stops the teardown**: the sandbox stays open and all its
files stay where they are. -/
theorem close_raises (hopen : w.closed = false) (hroot : w.tree.kind root.path = some .dir)
    (h : ∃ p ∈ root.path :: rglob w.tree root.path, ∃ e, resolve w.tree.kind p = .error e) :
    ∃ e w', (close root).exec w = (.error e, w') ∧ w'.closed = false ∧ w'.tree.kind = w.tree.kind := by
  obtain ⟨e, t', hloop, hkind⟩ := loop_error h
  exact ⟨e, _, exec_close_error hopen hroot hloop, hopen, hkind⟩

/-- Without such links everything in the directory goes, and the nodes outside that
links lead to are writable for their owner. -/
theorem close_removes (hopen : w.closed = false) (hroot : w.tree.kind root.path = some .dir)
    (h : ∀ p ∈ root.path :: rglob w.tree root.path, ∃ q, resolve w.tree.kind p = .ok q) :
    ∃ w', (close root).exec w = (.ok (), w') ∧ w'.closed = true ∧
      (∀ p, root.path <+: p → w'.tree.get p = none) ∧
      (∀ p, ¬ root.path <+: p → Visited w.tree.kind (root.path :: rglob w.tree root.path) p →
        w'.tree.get p = (w.tree.get p).map owner_writable) ∧
      ∀ p, ¬ root.path <+: p → ¬ Visited w.tree.kind (root.path :: rglob w.tree root.path) p →
        w'.tree.get p = w.tree.get p := by
  obtain ⟨t', hloop, hwritable⟩ := loop_ok h
  refine ⟨_, exec_close hopen hroot hloop hwritable.kind, rfl, ?_, ?_, ?_⟩
  · intro p hp
    rw [Tree.get_remove, if_pos hp]
  · intro p hp hvisited
    rw [Tree.get_remove, if_neg hp, hwritable.changed p hvisited]
  · intro p hp hvisited
    rw [Tree.get_remove, if_neg hp, hwritable.kept p hvisited]

/-- A sandbox whose directory the commands removed is closed all the same. -/
theorem close_absent (hopen : w.closed = false) (hparent : w.tree.kind root.parent = some .dir)
    (habsent : w.tree.kind root.path = none) :
    (close root).exec w = (.ok (), { w with closed := true }) := by
  have hfind : find w.tree root.path = .error (os_error .ENOENT) := by
    rw [find, Root.path, resolve_missing hparent root.plain habsent]
  have hexists : path_exists w.tree root.path = false := by
    rw [path_exists, hfind]
    rfl
  have hwalk : (_make_tree_owner_writable root.path).exec w = (.ok (), w) := by
    rw [_make_tree_owner_writable, Prog.exec_bind, Prog.exec_get]
    simp only [hexists, Bool.false_eq_true, if_false]
    rfl
  have hremove : (rmtree root).exec w = (.error (os_error .ENOENT), w) := by
    rw [rmtree, Prog.exec_bind, Prog.exec_get]
    simp only [habsent]
    rfl
  rw [close, Prog.exec_bind, Prog.exec_get]
  simp only [hopen, Bool.false_eq_true, if_false]
  rw [Prog.exec_bind, hwalk]
  simp only
  rw [Prog.exec_bind, ignore_missing, Prog.exec_catch, hremove]
  rfl

/-- **When a sandbox is torn down**: exactly when every link that was left in its
directory leads to a node inside it, or to one outside that has the mode already. -/
theorem torn_down_iff (root : Root) (w : World) (hopen : w.closed = false)
    (hparent : w.tree.kind root.parent = some .dir)
    (hroot : w.tree.kind root.path = some .dir ∨ w.tree.kind root.path = none) :
    TornDown root w ↔ Confined root w.tree := by
  rcases hroot with hroot | habsent
  swap
  · -- nothing is left in a directory that is gone
    have hnothing : ∀ p, root.path <+: p → w.tree.get p = none := by
      rintro p ⟨rest, rfl⟩
      by_contra hsome
      obtain ⟨n, hn⟩ := Option.ne_none_iff_exists'.mp hsome
      have hmem := Tree.mem_paths.mpr ⟨n, hn⟩
      by_cases hrest : rest = []
      · rw [hrest, List.append_nil] at hn
        rw [Tree.kind, hn] at habsent
        cases habsent
      · cases habsent.symm.trans (Tree.kind_above hmem hrest)
    refine iff_of_true ⟨_, close_absent hopen hparent habsent, rfl, hnothing, fun _ _ => rfl⟩ ?_
    intro p target hp hlink
    cases (hnothing p hp).symm.trans hlink
  constructor
  · rintro ⟨w', hclose, -, -, houtside⟩ p target hunder hlink
    have hall : ∀ p ∈ root.path :: rglob w.tree root.path, ∃ q, resolve w.tree.kind p = .ok q := by
      intro p hp
      cases hresolve : resolve w.tree.kind p with
      | ok q => exact ⟨q, rfl⟩
      | error e =>
        obtain ⟨e, w'', hraise, -⟩ := close_raises hopen hroot ⟨p, hp, e, hresolve⟩
        rw [hraise] at hclose
        cases hclose
    have hp := (mem_walked hroot).mpr ⟨Tree.mem_paths.mpr ⟨_, hlink⟩, hunder⟩
    obtain ⟨q, hq⟩ := hall p hp
    refine ⟨q, hq, or_iff_not_imp_left.mpr fun hout => ?_⟩
    obtain ⟨w'', hclosed, -, -, hchanged, -⟩ := close_removes hopen hroot hall
    obtain rfl : w'' = w' := congrArg Prod.snd (hclosed.symm.trans hclose)
    rw [← hchanged q hout ⟨p, hp, hq⟩]
    exact houtside q hout
  · intro hconfined
    have hall : ∀ p ∈ root.path :: rglob w.tree root.path, ∃ q, resolve w.tree.kind p = .ok q := by
      intro p hp
      obtain ⟨hmem, hunder⟩ := (mem_walked hroot).mp hp
      obtain ⟨n, hn⟩ := Tree.mem_paths.mp hmem
      have hkind : w.tree.kind p = some n.kind := by rw [Tree.kind, hn, Option.map_some]
      cases n with
      | dir mode => exact ⟨p, resolve_own hkind fun _ => (by rintro ⟨⟩)⟩
      | file mode content => exact ⟨p, resolve_own hkind fun _ => (by rintro ⟨⟩)⟩
      | link target =>
        obtain ⟨q, hq, -⟩ := hconfined p target hunder hn
        exact ⟨q, hq⟩
    obtain ⟨w', hclosed, hflag, hgone, hchanged, hkept⟩ := close_removes hopen hroot hall
    refine ⟨w', hclosed, hflag, hgone, fun p hout => ?_⟩
    by_cases hvisited : Visited w.tree.kind (root.path :: rglob w.tree root.path) p
    · rw [hchanged p hout hvisited]
      obtain ⟨l, target, hunder, hlink, hl⟩ := (visited_cases hroot hvisited).resolve_left hout
      obtain ⟨q, hq, hinside | hsame⟩ := hconfined l target hunder hlink
      · obtain rfl := Except.ok.inj (hl.symm.trans hq)
        exact absurd hinside hout
      · obtain rfl := Except.ok.inj (hl.symm.trans hq)
        exact hsame
    · exact hkept p hout hvisited

/-! ### A sandbox with one link -/

/-- A sandbox `/s` in which a link was left, beside a directory `/etc`. -/
def left_behind (target : String) : Tree where
  nodes := [([], .dir 0o755), (["etc"], .dir 0o755), (["s"], .dir 0o700), (["s", "l"], .link target)]
  nodup := by
    show ([[], ["etc"], ["s"], ["s", "l"]] : List PathParts).Nodup
    decide
  root := ⟨_, rfl⟩
  parent := by
    intro p name h
    rw [List.map_cons, List.map_cons, List.map_cons, List.map_cons, List.map_nil] at h
    simp only [List.mem_cons, List.append_eq_nil_iff, List.cons_ne_nil, and_false, false_or,
      List.not_mem_nil, or_false] at h
    rcases h with h | h | h
    · obtain ⟨rfl, -⟩ := List.append_inj' (h.trans (List.nil_append ["etc"]).symm) rfl
      exact ⟨_, rfl⟩
    · obtain ⟨rfl, -⟩ := List.append_inj' (h.trans (List.nil_append ["s"]).symm) rfl
      exact ⟨_, rfl⟩
    · have hsplit : p ++ [name] = ["s"] ++ ["l"] := h
      obtain ⟨rfl, -⟩ := List.append_inj' hsplit rfl
      exact ⟨_, rfl⟩
  names := by
    rw [List.map_cons, List.map_cons, List.map_cons, List.map_cons, List.map_nil]
    simp only [List.forall_mem_cons, List.not_mem_nil, false_imp_iff, implies_true, true_and, and_true]
    decide

/-- The sandbox. -/
def sample_root : Root := ⟨[], "s", by decide⟩

/-- A link to nothing leaves the sandbox behind, and one to `/etc` changes its mode. -/
theorem links_escape :
    ¬ TornDown sample_root ⟨left_behind "missing", false⟩ ∧
      ¬ TornDown sample_root ⟨left_behind "/etc", false⟩ := by
  constructor
  · rintro ⟨w', hclose, -⟩
    have hraised : ((close sample_root).exec ⟨left_behind "missing", false⟩).1 =
        .error (os_error .ENOENT) := rfl
    rw [hclose] at hraised
    exact nomatch hraised
  · rintro ⟨w', hclose, -, -, houtside⟩
    have hmode : ((close sample_root).exec ⟨left_behind "/etc", false⟩).2.tree.get ["etc"] =
        some (.dir 0o700) := rfl
    rw [hclose, houtside ["etc"] (by decide)] at hmode
    exact absurd hmode (by decide)

/-- A link to the sandbox itself does no harm. -/
theorem inner_link_torn_down : TornDown sample_root ⟨left_behind ".", false⟩ := by
  refine (torn_down_iff sample_root ⟨left_behind ".", false⟩ rfl rfl (.inl rfl)).mpr ?_
  intro p target _ hlink
  have hmem : p ∈ (left_behind ".").paths := Tree.mem_paths.mpr ⟨_, hlink⟩
  have hcases : p = [] ∨ p = ["etc"] ∨ p = ["s"] ∨ p = ["s", "l"] := by
    simpa only [List.mem_cons, List.not_mem_nil, or_false] using
      (show p ∈ [[], ["etc"], ["s"], ["s", "l"]] from hmem)
  rcases hcases with rfl | rfl | rfl | rfl
  · exact nomatch hlink
  · exact nomatch hlink
  · exact nomatch hlink
  · exact ⟨["s"], rfl, .inl (List.prefix_refl _)⟩

end AppContracts.LocalSandbox
