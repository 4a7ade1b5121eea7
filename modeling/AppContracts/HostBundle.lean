/-
The modules of the verifier host bundle: `_collect_app_modules` of
`build_verifier_host_bundle.py`.

A project tree is the source files under `app_contracts`, each with its import statements,
and the launcher's import statements. The collection is a work list over the import graph.
What it collects is closed under the imports it looks at, which leave out one form:
`from .sub import name` of a module `name` in a sub-package.

The loop is an instance of `Lib.WorkList`, which has the induction: what was included is
closed except for what is still queued. What remains is to compare three relations on
modules: the targets the code looks at, those Python imports, and the difference, which is
the hidden form.
-/
import AppContracts.Lib.ExceptLoop
import AppContracts.Lib.WorkList
import AppContracts.Wire

set_option autoImplicit false

namespace AppContracts.HostBundle

/-! ## Project trees -/

/-- A dotted name, by its parts; the empty name has none. -/
abbrev ModuleName : Type := List String

/-- `ast.Import` with its names, or `ast.ImportFrom` with its level, its module (no parts where
there is none) and its names. -/
inductive ImportStatement : Type
  | plain (names : List ModuleName)
  | from_ (level : ℕ) (module : ModuleName) (names : List String)
  deriving DecidableEq

/-- A regular `.py` file below the package: the parts of its path without the suffix, its size,
and its import statements at any depth, if it is read and parsed. -/
structure SourceFile : Type where
  parts : List String
  size : ℕ
  imports : Option (List ImportStatement)
  deriving DecidableEq

/-- The files below the package, in the order of the walk, and the launcher. -/
structure ProjectTree : Type where
  files : List SourceFile
  launcher : SourceFile

/-- `_APP_PACKAGE_NAME`. -/
def APP_PACKAGE_NAME : String := "app_contracts"

/-- `_VERIFIER_HOST_ROOT_MODULES`. -/
def VERIFIER_HOST_ROOT_MODULES : List ModuleName :=
  [[APP_PACKAGE_NAME], [APP_PACKAGE_NAME, "signed_verifier_http_service"],
    [APP_PACKAGE_NAME, "signed_verifier_service"]]

/-- `len(_FIXED_FILES)`. -/
def FIXED_FILES : ℕ := 4

/-- `_MAX_MEMBERS`. -/
def MAX_MEMBERS : ℕ := 128

/-- `_MAX_MEMBER_BYTES`. -/
def MAX_MEMBER_BYTES : ℕ := 1048576

/-- `_MAX_SOURCE_BYTES`. -/
def MAX_SOURCE_BYTES : ℕ := 8388608

/-- `BundleBuildError(_FAILURE)`, which every exception becomes. -/
def build_error : Exn := ⟨.ValueError, "verifier host bundle: build failed\n"⟩

/-! ## The index -/

/-- The file is a package's `__init__.py`. -/
def SourceFile.is_init (file : SourceFile) : Bool := file.parts.getLast? == some "__init__"

/-- `part.split(".")`. -/
def split_dots (part : String) : List String := (part.toList.splitOn '.').map String.ofList

/-- `_module_name_for_path(relative_path)`. -/
def _module_name_for_path (file : SourceFile) : ModuleName :=
  APP_PACKAGE_NAME :: (if file.is_init then file.parts.dropLast else file.parts).flatMap split_dots

/-- A module index, whose names are distinct. -/
abbrev ModuleIndex : Type := List (ModuleName × SourceFile)

/-- `_app_module_index(root)`. -/
def _app_module_index : List SourceFile → ModuleIndex → Except Exn ModuleIndex
  | [], index => .ok index
  | file :: rest, index => do
    raise_if (_module_name_for_path file ∈ index.map Prod.fst) build_error
    _app_module_index rest (index ++ [(_module_name_for_path file, file)])

/-- `name in module_index`. -/
def has_module (index : ModuleIndex) (name : ModuleName) : Bool := name ∈ index.map Prod.fst

/-- `_read_regular_file` and `ast.parse`: the import statements of a file. -/
def SourceFile.read (file : SourceFile) : Except Exn (List ImportStatement) := do
  raise_if (MAX_MEMBER_BYTES < file.size) build_error
  or_raise build_error file.imports

/-- The package of a module: itself, or what its name says before the last dot. -/
def package_of (name : ModuleName) (file : SourceFile) : ModuleName :=
  if file.is_init then name else name.dropLast

/-! ## Imports -/

/-- `importlib.util.resolve_name("." * level + base, package)`. -/
def resolve_name (level : ℕ) (base package : ModuleName) : Except Exn ModuleName := do
  raise_if (package = [] ∨ package.length < level) build_error
  return package.take (package.length - (level - 1)) ++ base

/-- The name is `app_contracts` or starts with `app_contracts.`. -/
def is_local (name : ModuleName) : Bool := name.head? == some APP_PACKAGE_NAME

/-- The module that a from-import names. -/
def import_base (level : ℕ) (module package : ModuleName) : Except Exn ModuleName :=
  if level = 0 then .ok module else resolve_name level module package

/-- The names of a from-import that are modules below the base. -/
def submodules (index : ModuleIndex) (base : ModuleName) (names : List String) : List ModuleName :=
  (names.map fun name => base ++ [name]).filter (has_module index)

/-- What `_local_import_targets` adds for a name of `ast.Import`. -/
def plain_target (index : ModuleIndex) (name : ModuleName) : Except Exn (List ModuleName) :=
  if is_local name then do
    raise_if (has_module index name = false) build_error
    return [name]
  else .ok []

/-- What `_local_import_targets` adds for a base and the names imported from it. -/
def from_targets (index : ModuleIndex) (module base : ModuleName) (names : List String) :
    Except Exn (List ModuleName) :=
  if is_local base then do
    raise_if (has_module index base = false) build_error
    return base :: if module = [] ∨ base = [APP_PACKAGE_NAME] then submodules index base names else []
  else .ok []

/-- What `_local_import_targets` adds for a statement. -/
def statement_targets (index : ModuleIndex) (package : ModuleName) :
    ImportStatement → Except Exn (List ModuleName)
  | .plain names => do
    let targets ← names.mapM (plain_target index)
    return targets.flatten
  | .from_ level module names => do
    let base ← import_base level module package
    from_targets index module base names

/-- `_local_import_targets(tree, package=package, module_index=module_index)`. -/
def _local_import_targets (index : ModuleIndex) (package : ModuleName) (tree : List ImportStatement) :
    Except Exn (List ModuleName) := do
  let targets ← tree.mapM (statement_targets index package)
  return targets.flatten.dedup

/-- `_module_parents(name, module_index)`, the name included. -/
def _module_parents (index : ModuleIndex) (name : ModuleName) : List ModuleName :=
  ((List.range name.length).map fun n => name.take (n + 1)).filter (has_module index)

/-- The targets of a file's imports. -/
def file_targets (index : ModuleIndex) (name : ModuleName) (file : SourceFile) :
    Except Exn (List ModuleName) := do
  let tree ← file.read
  _local_import_targets index (package_of name file) tree

/-! ## The collection -/

/-- The order in which a set is iterated. -/
abbrev SetOrder : Type := (set : List ModuleName) → { order : List ModuleName // order.Perm set }

/-- The turn of a module that has not been included: what is pushed, last first. -/
def visit_module (order : SetOrder) (index : ModuleIndex) (included : List ModuleName) (name : ModuleName) :
    Except Exn (List ModuleName) := do
  let file ← or_raise build_error (index.lookup name)
  let imports ← file_targets index name file
  let pushed := (order imports).1.flatMap fun target =>
    (order ((_module_parents index target).filter (· ∉ included))).1
  return pushed.reverse

/-- The modules that the imports of a module lead to. -/
def import_successors (index : ModuleIndex) (name : ModuleName) : List ModuleName :=
  match index.lookup name with
  | none => []
  | some file =>
    match file_targets index name file with
    | .error _ => []
    | .ok targets => targets.flatMap (_module_parents index)

/-- The pushed modules are successors, and those that are not pushed were included. -/
theorem visit_module_ok {order : SetOrder} {index : ModuleIndex} {included pushed : List ModuleName}
    {name : ModuleName} (h : visit_module order index included name = .ok pushed) :
    name ∈ index.map Prod.fst ∧
      (∀ x, x ∈ pushed ↔ x ∈ import_successors index name ∧ x ∉ included) ∧
      pushed.length ≤ (import_successors index name).length := by
  rw [visit_module] at h
  obtain ⟨file, hfile, h⟩ := bind_ok.mp h
  obtain ⟨targets, htargets, h⟩ := bind_ok.mp h
  rw [or_raise_ok] at hfile
  have hsuccessors : import_successors index name = targets.flatMap (_module_parents index) := by
    rw [import_successors, hfile]
    dsimp only
    rw [htargets]
  obtain rfl := Except.ok.inj h
  refine ⟨List.mem_map_of_mem (mem_of_lookup hfile), fun x => ?_, ?_⟩
  · rw [List.mem_reverse, hsuccessors, List.mem_flatMap, List.mem_flatMap]
    constructor
    · rintro ⟨target, htarget, hx⟩
      have hparent := List.mem_filter.mp ((order _).2.mem_iff.mp hx)
      exact ⟨⟨target, (order _).2.mem_iff.mp htarget, hparent.1⟩, of_decide_eq_true hparent.2⟩
    · rintro ⟨⟨target, htarget, hx⟩, hnew⟩
      exact ⟨target, (order _).2.mem_iff.mpr htarget,
        (order _).2.mem_iff.mpr (List.mem_filter.mpr ⟨hx, decide_eq_true hnew⟩)⟩
  · rw [List.length_reverse, hsuccessors, List.length_flatMap, List.length_flatMap]
    -- what is included already is not pushed again, so a visit pushes no more than the imports
    have hshorter : ∀ target, ((order ((_module_parents index target).filter (· ∉ included))).1).length ≤
        (_module_parents index target).length := fun target =>
      (order _).2.length_eq.trans_le (List.length_filter_le _ _)
    calc ((order targets).1.map fun target =>
            ((order ((_module_parents index target).filter (· ∉ included))).1).length).sum
        ≤ ((order targets).1.map fun target => (_module_parents index target).length).sum :=
          List.sum_le_sum fun target _ => hshorter target
      _ = (targets.map fun target => (_module_parents index target).length).sum :=
          ((order targets).2.map _).sum_eq

/-- The `while pending` loop. -/
def module_work (order : SetOrder) (index : ModuleIndex) : WorkList ModuleName Exn where
  nodes := index.map Prod.fst
  succ := import_successors index
  visit := visit_module order index
  width name := (import_successors index name).length
  visited h := (visit_module_ok h).1
  sound h x hx := ((visit_module_ok h).2.1 x).mp hx |>.1
  complete h x hx := by
    rename_i included _ _
    by_cases hseen : x ∈ included
    · exact .inr hseen
    · exact .inl (((visit_module_ok h).2.1 x).mpr ⟨hx, hseen⟩)
  bounded h := (visit_module_ok h).2.2

/-- `pending` before the loop, last first. -/
def first_pending (order : SetOrder) (index : ModuleIndex) (launcher_imports : List ModuleName) :
    List ModuleName :=
  ((order launcher_imports).1.flatMap fun target => (order (_module_parents index target)).1).reverse ++
    VERIFIER_HOST_ROOT_MODULES.reverse

/-- The dotted name. -/
def dotted (name : ModuleName) : String := ".".intercalate name

/-- A member of the bundle: the module and its file. -/
def member (index : ModuleIndex) (name : ModuleName) : Except Exn (ModuleName × SourceFile) := do
  let file ← or_raise build_error (index.lookup name)
  raise_if (MAX_MEMBER_BYTES < file.size) build_error
  return (name, file)

/-- `_collect_app_modules(root)`. -/
def _collect_app_modules (order : SetOrder) (tree : ProjectTree) :
    Except Exn (List (ModuleName × SourceFile)) := do
  let index ← _app_module_index tree.files []
  let launcher_tree ← tree.launcher.read
  let launcher_imports ← _local_import_targets index [] launcher_tree
  let included ← (module_work order index).loop.run (first_pending order index launcher_imports, [])
  raise_if (MAX_MEMBERS < included.length + FIXED_FILES) build_error
  let members ← (included.insertionSort fun a b => dotted a ≤ dotted b).mapM (member index)
  raise_if (MAX_SOURCE_BYTES < (members.map fun m => m.2.size).sum) build_error
  return members

/-! ## Python's imports -/

section Imports

variable (index : ModuleIndex)

/-- What Python loads for a statement: every module it names, with the packages on the way,
and the modules of the tree that a from-import takes out of its base. -/
def python_imports (package : ModuleName) : ImportStatement → List ModuleName
  | .plain names => (names.filter is_local).flatMap (_module_parents index)
  | .from_ level module names =>
    match import_base level module package with
    | .error _ => []
    | .ok base =>
      if is_local base then (base :: submodules index base names).flatMap (_module_parents index) else []

/-- What is left of it without the modules of a sub-package that the statement names. -/
def visible_imports (package : ModuleName) : ImportStatement → List ModuleName
  | .plain names => (names.filter is_local).flatMap (_module_parents index)
  | .from_ level module names =>
    match import_base level module package with
    | .error _ => []
    | .ok base =>
      if is_local base then
        (base :: if module = [] ∨ base = [APP_PACKAGE_NAME] then submodules index base names else []).flatMap
          (_module_parents index)
      else []

/-- The modules that a from-import takes out of a sub-package that it names. -/
def hidden_imports (package : ModuleName) : ImportStatement → List ModuleName
  | .plain _ => []
  | .from_ level module names =>
    match import_base level module package with
    | .error _ => []
    | .ok base =>
      if is_local base = true ∧ module ≠ [] ∧ base ≠ [APP_PACKAGE_NAME] then submodules index base names else []

/-- The least set with the root modules and the launcher's imports that is closed under imports. -/
inductive Loaded (imports : ModuleName → ImportStatement → List ModuleName)
    (launcher : List ImportStatement) : ModuleName → Prop
  | root {m : ModuleName} : m ∈ VERIFIER_HOST_ROOT_MODULES → Loaded imports launcher m
  | launched {s : ImportStatement} {m : ModuleName} :
      s ∈ launcher → m ∈ imports [] s → Loaded imports launcher m
  | imported {n m : ModuleName} {file : SourceFile} {tree : List ImportStatement} {s : ImportStatement} :
      Loaded imports launcher n → index.lookup n = some file → file.imports = some tree → s ∈ tree →
      m ∈ imports (package_of n file) s → Loaded imports launcher m

variable {index}

/-- Python's imports are the visible ones, and what the hidden ones add to them. -/
theorem python_imports_iff {package : ModuleName} {s : ImportStatement} {m : ModuleName} :
    m ∈ python_imports index package s ↔ m ∈ visible_imports index package s ∨
      ∃ x ∈ hidden_imports index package s, m ∈ _module_parents index x := by
  cases s with
  | plain names => simp [python_imports, visible_imports, hidden_imports]
  | from_ level module names =>
    simp only [python_imports, visible_imports, hidden_imports]
    cases import_base level module package with
    | error e => simp
    | ok base =>
      dsimp only
      by_cases hlocal : is_local base = true
      · by_cases hshown : module = [] ∨ base = [APP_PACKAGE_NAME]
        · rw [if_pos hlocal, if_pos hlocal, if_pos hshown, if_neg (by
            rintro ⟨-, hmodule, hbase⟩
            exact hshown.elim hmodule hbase)]
          simp
        · have hhidden := not_or.mp hshown
          rw [if_pos hlocal, if_pos hlocal, if_neg hshown, if_pos ⟨hlocal, hhidden.1, hhidden.2⟩]
          simp only [List.flatMap_cons, List.flatMap_nil, List.append_nil, List.mem_append, List.mem_flatMap]
      · rw [if_neg hlocal, if_neg hlocal, if_neg (fun h => hlocal h.1)]
        simp

/-- A module of the tree is among its own parents. -/
theorem mem_parents {name : ModuleName} (hmodule : has_module index name = true) (hne : name ≠ []) :
    name ∈ _module_parents index name := by
  have hpos : 0 < name.length := List.length_pos_iff.mpr hne
  refine List.mem_filter.mpr ⟨List.mem_map.mpr ⟨name.length - 1, List.mem_range.mpr (by omega), ?_⟩, hmodule⟩
  rw [Nat.sub_add_cancel hpos, List.take_length]

theorem hidden_module {package : ModuleName} {s : ImportStatement} {x : ModuleName}
    (h : x ∈ hidden_imports index package s) : x ∈ _module_parents index x := by
  cases s with
  | plain names => exact nomatch h
  | from_ level module names =>
    simp only [hidden_imports] at h
    split at h
    · exact nomatch h
    · split at h
      · obtain ⟨hname, hmodule⟩ := List.mem_filter.mp h
        obtain ⟨name, -, rfl⟩ := List.mem_map.mp hname
        exact mem_parents hmodule (by simp)
      · exact nomatch h

/-! ## What a file's imports lead to -/

theorem plain_target_ok {name : ModuleName} {targets : List ModuleName}
    (h : plain_target index name = .ok targets) : targets = if is_local name then [name] else [] := by
  rw [plain_target] at h
  split_ifs at h ⊢
  · obtain ⟨-, h⟩ := raise_if_bind.mp h
    exact (Except.ok.inj h).symm
  · exact (Except.ok.inj h).symm

theorem plain_targets_ok {names : List ModuleName} {targets : List (List ModuleName)}
    (h : List.Forall₂ (fun name t => plain_target index name = .ok t) names targets) :
    targets.flatten = names.filter is_local := by
  induction h with
  | nil => rfl
  | @cons name _ _ _ hname _ ih =>
    rw [List.flatten_cons, ih, plain_target_ok hname]
    by_cases hlocal : is_local name = true
    · rw [if_pos hlocal, List.filter_cons_of_pos hlocal]
      rfl
    · rw [if_neg hlocal, List.filter_cons_of_neg hlocal]
      rfl

/-- The targets of a statement lead to its visible imports. -/
theorem statement_targets_ok {package : ModuleName} {s : ImportStatement} {targets : List ModuleName}
    (h : statement_targets index package s = .ok targets) :
    targets.flatMap (_module_parents index) = visible_imports index package s := by
  cases s with
  | plain names =>
    rw [statement_targets] at h
    obtain ⟨all, hall, h⟩ := bind_ok.mp h
    obtain rfl := Except.ok.inj h
    rw [plain_targets_ok (mapM_ok.mp hall)]
    rfl
  | from_ level module names =>
    rw [statement_targets] at h
    obtain ⟨base, hbase, h⟩ := bind_ok.mp h
    rw [visible_imports, hbase]
    dsimp only
    rw [from_targets] at h
    by_cases hlocal : is_local base = true
    · rw [if_pos hlocal] at h ⊢
      obtain ⟨-, h⟩ := raise_if_bind.mp h
      rw [← Except.ok.inj h]
    · rw [if_neg hlocal] at h ⊢
      rw [← Except.ok.inj h]
      rfl

theorem statements_targets_ok {package : ModuleName} {tree : List ImportStatement}
    {targets : List (List ModuleName)} {m : ModuleName}
    (h : List.Forall₂ (fun s t => statement_targets index package s = .ok t) tree targets) :
    (∃ t ∈ targets, m ∈ t.flatMap (_module_parents index)) ↔ ∃ s ∈ tree, m ∈ visible_imports index package s := by
  induction h with
  | nil => simp
  | cons hs _ ih => rw [List.exists_mem_cons_iff, List.exists_mem_cons_iff, ih, statement_targets_ok hs]

theorem local_import_targets_ok {package : ModuleName} {tree : List ImportStatement}
    {targets : List ModuleName} (h : _local_import_targets index package tree = .ok targets) (m : ModuleName) :
    m ∈ targets.flatMap (_module_parents index) ↔ ∃ s ∈ tree, m ∈ visible_imports index package s := by
  rw [_local_import_targets] at h
  obtain ⟨all, hall, h⟩ := bind_ok.mp h
  obtain rfl := Except.ok.inj h
  have hflat : m ∈ all.flatten.dedup.flatMap (_module_parents index) ↔
      ∃ targets ∈ all, m ∈ targets.flatMap (_module_parents index) := by
    simp only [List.mem_flatMap, List.mem_dedup, List.mem_flatten]
    constructor
    · rintro ⟨t, ⟨targets, htargets, ht⟩, hm⟩
      exact ⟨targets, htargets, t, ht, hm⟩
    · rintro ⟨targets, htargets, t, ht, hm⟩
      exact ⟨t, ⟨targets, htargets, ht⟩, hm⟩
  rw [hflat, statements_targets_ok (mapM_ok.mp hall)]

/-- The successors of a module whose visit succeeded. -/
theorem successors_of_visit {order : SetOrder} {included pushed : List ModuleName} {name : ModuleName}
    (h : visit_module order index included name = .ok pushed) : ∃ file tree, index.lookup name = some file ∧
      file.imports = some tree ∧ ∀ m, m ∈ import_successors index name ↔
        ∃ s ∈ tree, m ∈ visible_imports index (package_of name file) s := by
  rw [visit_module] at h
  obtain ⟨file, hfile, h⟩ := bind_ok.mp h
  obtain ⟨targets, htargets, -⟩ := bind_ok.mp h
  rw [or_raise_ok] at hfile
  have hread := htargets
  rw [file_targets] at hread
  obtain ⟨tree, htree, hlocal⟩ := bind_ok.mp hread
  rw [SourceFile.read] at htree
  obtain ⟨-, htree⟩ := raise_if_bind.mp htree
  refine ⟨file, tree, hfile, or_raise_ok.mp htree, fun m => ?_⟩
  rw [import_successors, hfile]
  dsimp only
  rw [htargets]
  exact local_import_targets_ok hlocal m

end Imports

/-! ## The collection is the visible closure -/

section Collection

variable {order : SetOrder} {index : ModuleIndex} {launcher : List ImportStatement}
  {launcher_imports included : List ModuleName}

/-- What is pending before the loop. -/
theorem mem_first_pending (hlauncher : _local_import_targets index [] launcher = .ok launcher_imports)
    (m : ModuleName) : m ∈ first_pending order index launcher_imports ↔
      m ∈ VERIFIER_HOST_ROOT_MODULES ∨ ∃ s ∈ launcher, m ∈ visible_imports index [] s := by
  rw [← local_import_targets_ok hlauncher, first_pending, List.mem_append, List.mem_reverse, List.mem_reverse,
    List.mem_flatMap, List.mem_flatMap, or_comm]
  refine or_congr_right (exists_congr fun target => and_congr ?_ ?_)
  · exact (order _).2.mem_iff
  · exact (order _).2.mem_iff

/-- **What the loop includes** is the closure under the visible imports, each module once. -/
theorem included_iff (hlauncher : _local_import_targets index [] launcher = .ok launcher_imports)
    (h : (module_work order index).loop.run (first_pending order index launcher_imports, []) = .ok included) :
    included.Nodup ∧ (∀ m, m ∈ included ↔ Loaded index (visible_imports index) launcher m) ∧
      ∀ m ∈ included, m ∈ index.map Prod.fst := by
  obtain ⟨hnodup, hreached, hvisited⟩ := WorkList.run_ok h
  refine ⟨hnodup, fun m => ⟨fun hm => ?_, fun hm => ?_⟩, fun m hm => ?_⟩
  · obtain ⟨r, hr, hpath⟩ := (hreached m).mp hm
    have hstart : Loaded index (visible_imports index) launcher r := by
      rcases (mem_first_pending hlauncher r).mp hr with hroot | ⟨s, hs, hvisible⟩
      · exact .root hroot
      · exact .launched hs hvisible
    -- every module on the path has been visited, so its successors are its imports
    have hall : ∀ x, Relation.ReflTransGen (fun a b => b ∈ (module_work order index).succ a) r x →
        x ∈ included := fun x hx => (hreached x).mpr ⟨r, hr, hx⟩
    clear hm
    induction hpath with
    | refl => exact hstart
    | @tail n x hpath hx ih =>
      obtain ⟨before, pushed, hvisit⟩ := hvisited n (hall n hpath)
      obtain ⟨file, tree, hfile, htree, hsuccessors⟩ := successors_of_visit hvisit
      obtain ⟨s, hs, hvisible⟩ := (hsuccessors x).mp hx
      exact .imported ih hfile htree hs hvisible
  · induction hm with
    | root hroot => exact (hreached _).mpr ⟨_, (mem_first_pending hlauncher _).mpr (.inl hroot), .refl⟩
    | launched hs hvisible =>
      exact (hreached _).mpr ⟨_, (mem_first_pending hlauncher _).mpr (.inr ⟨_, hs, hvisible⟩), .refl⟩
    | @imported n m file tree s _ hfile htree hs hvisible ih =>
      obtain ⟨before, pushed, hvisit⟩ := hvisited n ih
      obtain ⟨file', tree', hfile', htree', hsuccessors⟩ := successors_of_visit hvisit
      obtain rfl := Option.some.inj (hfile.symm.trans hfile')
      obtain rfl := Option.some.inj (htree.symm.trans htree')
      obtain ⟨r, hr, hpath⟩ := (hreached n).mp ih
      exact (hreached m).mpr ⟨r, hr, hpath.tail ((hsuccessors m).mpr ⟨s, hs, hvisible⟩)⟩
  · obtain ⟨before, pushed, hvisit⟩ := hvisited m hm
    exact (visit_module_ok hvisit).1

theorem member_ok {name : ModuleName} {m : ModuleName × SourceFile} (h : member index name = .ok m) :
    m.1 = name ∧ index.lookup name = some m.2 := by
  rw [member] at h
  obtain ⟨file, hfile, h⟩ := bind_ok.mp h
  obtain ⟨-, h⟩ := raise_if_bind.mp h
  obtain rfl := Except.ok.inj h
  exact ⟨rfl, or_raise_ok.mp hfile⟩

theorem members_names {names : List ModuleName} {members : List (ModuleName × SourceFile)}
    (h : names.mapM (member index) = .ok members) : members.map Prod.fst = names := by
  have hall := mapM_ok.mp h
  clear h
  induction hall with
  | nil => rfl
  | cons hm _ ih => rw [List.map_cons, ih, (member_ok hm).1]

/-- What a collection is made of. -/
theorem collect_ok {tree : ProjectTree} {members : List (ModuleName × SourceFile)}
    (h : _collect_app_modules order tree = .ok members) :
    ∃ index launcher, _app_module_index tree.files [] = .ok index ∧ tree.launcher.imports = some launcher ∧
      (members.map Prod.fst).Nodup ∧
      ∀ m, m ∈ members.map Prod.fst ↔ Loaded index (visible_imports index) launcher m := by
  rw [_collect_app_modules] at h
  obtain ⟨index, hindex, h⟩ := bind_ok.mp h
  obtain ⟨launcher, hread, h⟩ := bind_ok.mp h
  obtain ⟨launcher_imports, hlauncher, h⟩ := bind_ok.mp h
  obtain ⟨included, hincluded, h⟩ := bind_ok.mp h
  obtain ⟨-, h⟩ := raise_if_bind.mp h
  obtain ⟨members', hmembers, h⟩ := bind_ok.mp h
  obtain ⟨-, h⟩ := raise_if_bind.mp h
  obtain rfl := Except.ok.inj h
  rw [SourceFile.read] at hread
  obtain ⟨-, hread⟩ := raise_if_bind.mp hread
  obtain ⟨hnodup, hclosure, -⟩ := included_iff hlauncher hincluded
  have hperm : (members'.map Prod.fst).Perm included := by
    rw [members_names hmembers]
    exact List.perm_insertionSort _ _
  exact ⟨index, launcher, hindex, or_raise_ok.mp hread, hperm.nodup_iff.mpr hnodup,
    fun m => hperm.mem_iff.trans (hclosure m)⟩

end Collection

/-! ## Closure under Python's imports -/

section Closure

variable {index : ModuleIndex} {launcher : List ImportStatement}

/-- The hidden imports of the launcher and of what the visible imports reach are reached by
visible imports too. -/
def Covered (index : ModuleIndex) (launcher : List ImportStatement) : Prop :=
  (∀ s ∈ launcher, ∀ x ∈ hidden_imports index [] s, Loaded index (visible_imports index) launcher x) ∧
    ∀ n file tree, Loaded index (visible_imports index) launcher n → index.lookup n = some file →
      file.imports = some tree → ∀ s ∈ tree, ∀ x ∈ hidden_imports index (package_of n file) s,
        Loaded index (visible_imports index) launcher x

theorem loaded_mono {imports imports' : ModuleName → ImportStatement → List ModuleName}
    (h : ∀ package s m, m ∈ imports package s → m ∈ imports' package s) {m : ModuleName}
    (hm : Loaded index imports launcher m) : Loaded index imports' launcher m := by
  induction hm with
  | root hroot => exact .root hroot
  | launched hs hm => exact .launched hs (h _ _ _ hm)
  | imported _ hfile htree hs hm ih => exact .imported ih hfile htree hs (h _ _ _ hm)

/-- The parents of a module that the visible imports reach are reached. -/
theorem loaded_parents {m x : ModuleName} (hm : Loaded index (visible_imports index) launcher m)
    (hx : x ∈ _module_parents index m) : Loaded index (visible_imports index) launcher x := by
  have htrans : ∀ name target, target ∈ _module_parents index name → ∀ x ∈ _module_parents index target,
      x ∈ _module_parents index name := by
    intro name target htarget x hx
    obtain ⟨htake, -⟩ := List.mem_filter.mp htarget
    obtain ⟨i, hi, rfl⟩ := List.mem_map.mp htake
    obtain ⟨hx, hmodule⟩ := List.mem_filter.mp hx
    obtain ⟨j, hj, rfl⟩ := List.mem_map.mp hx
    rw [List.mem_range, List.length_take] at hj
    rw [List.mem_range] at hi
    refine List.mem_filter.mpr ⟨List.mem_map.mpr ⟨j, List.mem_range.mpr (by omega), ?_⟩, hmodule⟩
    rw [List.take_take, Nat.min_eq_left (by omega)]
  have hvisible : ∀ package s, m ∈ visible_imports index package s → x ∈ visible_imports index package s := by
    intro package s hm
    cases s with
    | plain names =>
      obtain ⟨name, hname, hm⟩ := List.mem_flatMap.mp hm
      exact List.mem_flatMap.mpr ⟨name, hname, htrans _ _ hm x hx⟩
    | from_ level module names =>
      simp only [visible_imports] at hm ⊢
      split at hm
      · exact nomatch hm
      · split at hm
        · rename_i base _ hlocal
          rw [if_pos hlocal]
          obtain ⟨name, hname, hm⟩ := List.mem_flatMap.mp hm
          exact List.mem_flatMap.mpr ⟨name, hname, htrans _ _ hm x hx⟩
        · exact nomatch hm
  cases hm with
  | root hroot =>
    -- a root module is the package or directly below it, and both are roots
    obtain ⟨htake, -⟩ := List.mem_filter.mp hx
    obtain ⟨i, hi, rfl⟩ := List.mem_map.mp htake
    refine .root ?_
    rw [List.mem_range] at hi
    simp only [VERIFIER_HOST_ROOT_MODULES, List.mem_cons, List.not_mem_nil, or_false] at hroot
    rcases hroot with rfl | rfl | rfl
    · obtain rfl : i = 0 := by simpa using hi
      decide
    · have hcases : i = 0 ∨ i = 1 := by
        simp only [List.length_cons, List.length_nil] at hi
        omega
      rcases hcases with rfl | rfl <;> decide
    · have hcases : i = 0 ∨ i = 1 := by
        simp only [List.length_cons, List.length_nil] at hi
        omega
      rcases hcases with rfl | rfl <;> decide
  | launched hs hm => exact .launched hs (hvisible _ _ hm)
  | imported hn hfile htree hs hm => exact .imported hn hfile htree hs (hvisible _ _ hm)

/-- **When the visible closure is Python's**: the hidden imports add nothing. -/
theorem visible_closed_iff :
    (∀ m, Loaded index (visible_imports index) launcher m ↔ Loaded index (python_imports index) launcher m) ↔
      Covered index launcher := by
  have hmono : ∀ package s m, m ∈ visible_imports index package s → m ∈ python_imports index package s :=
    fun package s m hm => python_imports_iff.mpr (.inl hm)
  constructor
  · intro h
    refine ⟨fun s hs x hx => ?_, fun n file tree hn hfile htree s hs x hx => ?_⟩
    · exact (h x).mpr (.launched hs (python_imports_iff.mpr (.inr ⟨x, hx, hidden_module hx⟩)))
    · exact (h x).mpr (.imported ((h n).mp hn) hfile htree hs
        (python_imports_iff.mpr (.inr ⟨x, hx, hidden_module hx⟩)))
  · rintro ⟨hlauncher, hfiles⟩ m
    refine ⟨loaded_mono hmono, fun hm => ?_⟩
    induction hm with
    | root hroot => exact .root hroot
    | launched hs hm =>
      rcases python_imports_iff.mp hm with hvisible | ⟨x, hx, hparent⟩
      · exact .launched hs hvisible
      · exact loaded_parents (hlauncher _ hs x hx) hparent
    | imported _ hfile htree hs hm ih =>
      rcases python_imports_iff.mp hm with hvisible | ⟨x, hx, hparent⟩
      · exact .imported ih hfile htree hs hvisible
      · exact loaded_parents (hfiles _ _ _ ih hfile htree _ hs x hx) hparent

end Closure

/-! ## The bundle -/

/-- **The work list ends on every tree**, and what is collected holds each module once. It is
the closure under Python's imports exactly when every module that a from-import takes out of
a sub-package which it names is reached by another import. -/
theorem bundle_closure_iff (order : SetOrder) (tree : ProjectTree) :
    (∀ index start, ∃ turns, (module_work order index).loop.turns turns (start, []) =
      some ((module_work order index).loop.run (start, []))) ∧
    ∀ members, _collect_app_modules order tree = .ok members →
      (members.map Prod.fst).Nodup ∧
      ∀ index launcher, _app_module_index tree.files [] = .ok index → tree.launcher.imports = some launcher →
        ((∀ m, m ∈ members.map Prod.fst ↔ Loaded index (python_imports index) launcher m) ↔
          Covered index launcher) := by
  refine ⟨fun index start => ⟨_, Loop.turns_run (Nat.lt_succ_self _)⟩, fun members h => ?_⟩
  obtain ⟨index, launcher, hindex, hlauncher, hnodup, hmembers⟩ := collect_ok h
  refine ⟨hnodup, fun index' launcher' hindex' hlauncher' => ?_⟩
  obtain rfl := Except.ok.inj (hindex.symm.trans hindex')
  obtain rfl := Option.some.inj (hlauncher.symm.trans hlauncher')
  rw [← visible_closed_iff]
  exact forall_congr' fun m => by rw [hmembers m]

/-- A tree with a sub-package `helper`, whose module `tool` only the service imports. -/
def helper_tree (service : List ImportStatement) : ProjectTree where
  files := [⟨["__init__"], 1, some []⟩, ⟨["helper", "__init__"], 1, some []⟩,
    ⟨["helper", "tool"], 1, some []⟩, ⟨["signed_verifier_http_service"], 1, some []⟩,
    ⟨["signed_verifier_service"], 1, some service⟩]
  launcher := ⟨["signed_verifier_host"], 1, some []⟩

/-- The index of `helper_tree`. -/
def helper_index (service : List ImportStatement) : ModuleIndex :=
  (helper_tree service).files.map fun file => (_module_name_for_path file, file)

/-- `from .helper import tool`. -/
def from_helper : ImportStatement := .from_ 1 ["helper"] ["tool"]

/-- `import app_contracts.helper.tool`. -/
def import_tool : ImportStatement := .plain [[APP_PACKAGE_NAME, "helper", "tool"]]

/-- `from .helper import tool` in the service: the bundle is collected without the module. -/
theorem helper_tool_left_out :
    ∃ members, _collect_app_modules (fun set => ⟨set, .refl set⟩) (helper_tree [from_helper]) = .ok members ∧
      _app_module_index (helper_tree [from_helper]).files [] = .ok (helper_index [from_helper]) ∧
      Loaded (helper_index [from_helper]) (python_imports (helper_index [from_helper])) []
        [APP_PACKAGE_NAME, "helper", "tool"] ∧
      [APP_PACKAGE_NAME, "helper", "tool"] ∉ members.map Prod.fst := by
  refine ⟨[0, 1, 3, 4].filterMap fun i => (helper_index [from_helper])[i]?,
    by decide +kernel, by decide +kernel, ?_, by decide +kernel⟩
  have hservice : (helper_index [from_helper]).lookup [APP_PACKAGE_NAME, "signed_verifier_service"] =
      some ⟨["signed_verifier_service"], 1, some [from_helper]⟩ := by decide +kernel
  exact .imported (.root (by decide)) hservice rfl (List.mem_singleton.mpr rfl) (by decide +kernel)

/-- The same from-import beside `import app_contracts.helper.tool`: the closure is collected. -/
theorem helper_tool_collected :
    ∃ members, _collect_app_modules (fun set => ⟨set, .refl set⟩) (helper_tree [from_helper, import_tool]) =
        .ok members ∧
      (members.map Prod.fst).Nodup ∧ [APP_PACKAGE_NAME, "helper", "tool"] ∈ members.map Prod.fst ∧
      ∀ m, m ∈ members.map Prod.fst ↔ Loaded (helper_index [from_helper, import_tool])
        (python_imports (helper_index [from_helper, import_tool])) [] m := by
  have hcollect : _collect_app_modules (fun set => ⟨set, .refl set⟩)
      (helper_tree [from_helper, import_tool]) = .ok (helper_index [from_helper, import_tool]) := by
    decide +kernel
  obtain ⟨-, hbundle⟩ := bundle_closure_iff (fun set => ⟨set, .refl set⟩)
    (helper_tree [from_helper, import_tool])
  obtain ⟨hnodup, hclosure⟩ := hbundle _ hcollect
  refine ⟨_, hcollect, hnodup, by decide +kernel,
    (hclosure _ _ (by decide +kernel) rfl).mpr ⟨fun _ hs => (nomatch hs), ?_⟩⟩
  intro n file tree _ hfile htree s hs x hx
  -- The from-import hides one module, which the plain import beside it reaches.
  have hhidden : ∀ p ∈ helper_index [from_helper, import_tool], ∀ s ∈ p.2.imports.getD [],
      ∀ x ∈ hidden_imports (helper_index [from_helper, import_tool]) (package_of p.1 p.2) s,
        x = [APP_PACKAGE_NAME, "helper", "tool"] := by decide +kernel
  obtain rfl := hhidden _ (mem_of_lookup hfile) s (by rw [htree]; exact hs) x hx
  have hservice : (helper_index [from_helper, import_tool]).lookup
      [APP_PACKAGE_NAME, "signed_verifier_service"] =
      some ⟨["signed_verifier_service"], 1, some [from_helper, import_tool]⟩ := by decide +kernel
  exact .imported (.root (by decide)) hservice rfl (List.mem_cons_of_mem _ (List.mem_singleton.mpr rfl))
    (by decide +kernel)

end AppContracts.HostBundle
