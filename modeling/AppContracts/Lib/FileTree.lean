/-
File trees with links.

A tree names directories, regular files and symbolic links by their paths from the
root. Modes are data: no operation is refused for them. `resolve` follows links as a
call that takes a path does, and what it finds depends on the kinds of the nodes only.
-/
import Mathlib.Data.List.Induction
import Mathlib.Data.List.Nodup
import Mathlib.Data.Nat.Notation

set_option autoImplicit false

namespace AppContracts.FileTree

/-- The names on the way from the root. -/
abbrev PathParts : Type := List String

/-- A directory, a regular file or a link, with the mode of what has one. -/
inductive Node : Type
  | dir (mode : ℕ)
  | file (mode : ℕ) (content : List UInt8)
  | link (target : String)
  deriving DecidableEq

/-- A node without its mode and content. -/
inductive Kind : Type
  | dir
  | file
  | link (target : String)
  deriving DecidableEq

def Node.kind : Node → Kind
  | .dir _ => .dir
  | .file _ _ => .file
  | .link target => .link target

/-- A name of a directory's entry. -/
def is_name (name : String) : Bool :=
  name != "" && name != "." && name != ".." && !name.toList.contains '/'

/-! ## Trees -/

/-- The nodes of a file system: every node but the root stands in a directory. -/
structure Tree : Type where
  nodes : List (PathParts × Node)
  nodup : (nodes.map Prod.fst).Nodup
  root : ∃ mode, nodes.lookup [] = some (.dir mode)
  parent : ∀ p name, p ++ [name] ∈ nodes.map Prod.fst → ∃ mode, nodes.lookup p = some (.dir mode)
  names : ∀ p ∈ nodes.map Prod.fst, ∀ name ∈ p, is_name name = true

namespace Tree

variable {t : Tree} {p q : PathParts}

/-- The paths of the nodes. -/
def paths (t : Tree) : List PathParts := t.nodes.map Prod.fst

/-- The node at a path. -/
def get (t : Tree) (p : PathParts) : Option Node := t.nodes.lookup p

/-- What stands at a path. -/
def kind (t : Tree) (p : PathParts) : Option Kind := (t.get p).map Node.kind

theorem lookup_isSome {nodes : List (PathParts × Node)} :
    (nodes.lookup p).isSome = true ↔ p ∈ nodes.map Prod.fst := by
  induction nodes with
  | nil => exact ⟨nofun, nofun⟩
  | cons node rest ih =>
    obtain ⟨q, n⟩ := node
    rw [List.lookup_cons, List.map_cons, List.mem_cons]
    by_cases h : p = q
    · rw [h, beq_self_eq_true]
      exact ⟨fun _ => .inl rfl, fun _ => rfl⟩
    · rw [beq_eq_false_iff_ne.mpr h]
      exact ih.trans ⟨.inr, fun hmem => hmem.resolve_left h⟩

theorem lookup_map (f : PathParts → Node → Node) (nodes : List (PathParts × Node)) :
    (nodes.map fun node => (node.1, f node.1 node.2)).lookup p = (nodes.lookup p).map (f p) := by
  induction nodes with
  | nil => rfl
  | cons node rest ih =>
    rw [List.map_cons, List.lookup_cons, List.lookup_cons, ih]
    by_cases h : p = node.1
    · rw [h, beq_self_eq_true]
      rfl
    · rw [beq_eq_false_iff_ne.mpr h]

theorem lookup_filter (kept : PathParts → Bool) (nodes : List (PathParts × Node)) :
    (nodes.filter fun node => kept node.1).lookup p = if kept p then nodes.lookup p else none := by
  induction nodes with
  | nil => rw [List.filter_nil, List.lookup_nil, ite_self]
  | cons node rest ih =>
    rw [List.filter_cons, List.lookup_cons]
    by_cases h : p = node.1
    · subst h
      by_cases hkept : kept node.1 = true
      · rw [if_pos hkept, if_pos hkept, List.lookup_cons, beq_self_eq_true]
      · rw [if_neg hkept, ih, if_neg hkept, if_neg hkept]
    · by_cases hkept : kept node.1 = true
      · rw [if_pos hkept, List.lookup_cons, beq_eq_false_iff_ne.mpr h, ih]
      · rw [if_neg hkept, ih, beq_eq_false_iff_ne.mpr h]

theorem mem_paths : p ∈ t.paths ↔ ∃ n, t.get p = some n :=
  lookup_isSome.symm.trans Option.isSome_iff_exists

theorem kind_root : t.kind [] = some .dir := by
  obtain ⟨mode, hroot⟩ := t.root
  rw [kind, get, hroot]
  rfl

theorem kind_some {k : Kind} (h : t.kind p = some k) : p ∈ t.paths := by
  obtain ⟨n, hn, -⟩ := Option.map_eq_some_iff.mp h
  exact mem_paths.mpr ⟨n, hn⟩

/-- Above a node there are directories. -/
theorem kind_above (h : p ++ q ∈ t.paths) (hq : q ≠ []) : t.kind p = some .dir := by
  induction q using List.reverseRecOn with
  | nil => exact absurd rfl hq
  | append_singleton q name ih =>
    rw [← List.append_assoc] at h
    obtain ⟨mode, hdir⟩ := t.parent _ _ h
    have hparent : t.kind (p ++ q) = some .dir := by
      rw [kind, get, hdir]
      rfl
    by_cases hq : q = []
    · rwa [hq, List.append_nil] at hparent
    · exact ih (kind_some hparent) hq

/-! ## Changes -/

/-- The tree with its nodes changed, each to one of its kind. -/
def map (t : Tree) (f : PathParts → Node → Node) (hf : ∀ p n, (f p n).kind = n.kind) : Tree :=
  have hkeys : (t.nodes.map fun node => (node.1, f node.1 node.2)).map Prod.fst =
    t.nodes.map Prod.fst := by
    rw [List.map_map]
    rfl
  have hdir : ∀ p, (∃ mode, t.nodes.lookup p = some (.dir mode)) →
      ∃ mode, (t.nodes.map fun node => (node.1, f node.1 node.2)).lookup p = some (.dir mode) := by
    rintro p ⟨mode, h⟩
    rw [lookup_map, h, Option.map_some]
    have hkind := hf p (.dir mode)
    cases hnode : f p (.dir mode) with
    | dir mode => exact ⟨mode, rfl⟩
    | file => exact nomatch hnode ▸ hkind
    | link => exact nomatch hnode ▸ hkind
  { nodes := t.nodes.map fun node => (node.1, f node.1 node.2)
    nodup := hkeys ▸ t.nodup
    root := hdir [] t.root
    parent := fun p name h => hdir p (t.parent p name (hkeys ▸ h))
    names := fun p h => t.names p (hkeys ▸ h) }

/-- The tree without what stands at a path and under it. -/
def remove (t : Tree) (p : PathParts) (hp : p ≠ []) : Tree :=
  have hlookup : ∀ q, (t.nodes.filter fun node => !p.isPrefixOf node.1).lookup q =
      if !p.isPrefixOf q then t.nodes.lookup q else none := fun q =>
    lookup_filter (fun q => !p.isPrefixOf q) t.nodes
  have hkept : ∀ q, q ∈ (t.nodes.filter fun node => !p.isPrefixOf node.1).map Prod.fst →
      q ∈ t.nodes.map Prod.fst ∧ p.isPrefixOf q = false := by
    intro q h
    obtain ⟨node, hnode, rfl⟩ := List.mem_map.mp h
    obtain ⟨hnode, hkept⟩ := List.mem_filter.mp hnode
    exact ⟨List.mem_map_of_mem hnode, Bool.not_eq_true' _ ▸ hkept⟩
  { nodes := t.nodes.filter fun node => !p.isPrefixOf node.1
    nodup := t.nodup.sublist (List.filter_sublist.map _)
    root := by
      rw [hlookup, if_pos]
      · exact t.root
      · cases p with
        | nil => exact absurd rfl hp
        | cons => rfl
    parent := by
      intro q name h
      obtain ⟨hmem, houtside⟩ := hkept _ h
      have hparent : p.isPrefixOf q = false := by
        by_contra hunder
        rw [Bool.not_eq_false, List.isPrefixOf_iff_prefix] at hunder
        have := List.isPrefixOf_iff_prefix.mpr (hunder.trans (List.prefix_append q [name]))
        rw [houtside] at this
        exact nomatch this
      rw [hlookup, hparent, Bool.not_false, if_pos rfl]
      exact t.parent q name hmem
    names := fun q h => t.names q (hkept q h).1 }

theorem get_remove {hp : p ≠ []} : (t.remove p hp).get q = if p <+: q then none else t.get q := by
  have hlookup : (t.remove p hp).get q = if !p.isPrefixOf q then t.nodes.lookup q else none :=
    lookup_filter (fun q => !p.isPrefixOf q) t.nodes
  rw [hlookup]
  by_cases h : p <+: q
  · rw [if_pos h, List.isPrefixOf_iff_prefix.mpr h]
    rfl
  · have hfalse : p.isPrefixOf q = false := by
      rw [← Bool.not_eq_true, List.isPrefixOf_iff_prefix]
      exact h
    rw [if_neg h, hfalse]
    rfl

variable {f : PathParts → Node → Node} {hf : ∀ p n, (f p n).kind = n.kind}

theorem get_map : (t.map f hf).get p = (t.get p).map (f p) := lookup_map f t.nodes

/-- Changes of nodes do not change what stands where. -/
theorem kind_map : (t.map f hf).kind = t.kind := by
  funext p
  rw [kind, get_map, Option.map_map, kind]
  congr 1
  exact funext fun n => hf p n

end Tree

/-! ## Resolution -/

/-- Why a path leads nowhere. -/
inductive Errno : Type
  | ENOENT
  | ENOTDIR
  | ELOOP
  deriving DecidableEq

/-- The links that a resolution follows at most. -/
def MAXSYMLINKS : ℕ := 40

/-- The walk from a directory along some names; `follow` goes on where a link points. -/
def walk (kind : PathParts → Option Kind) (follow : PathParts → List String → Except Errno PathParts) :
    PathParts → List String → Except Errno PathParts
  | here, [] => .ok here
  | here, name :: rest =>
    if name = "" ∨ name = "." then walk kind follow here rest
    else if name = ".." then walk kind follow here.dropLast rest
    else match kind (here ++ [name]) with
      | none => .error .ENOENT
      | some .dir => walk kind follow (here ++ [name]) rest
      | some .file => if rest = [] then .ok (here ++ [name]) else .error .ENOTDIR
      | some (.link target) =>
        follow (if target.toList.head? = some '/' then [] else here)
          ((target.toList.splitOn '/').map String.ofList ++ rest)

/-- The walk with the number of links that may be followed. -/
def resolve_from (kind : PathParts → Option Kind) : ℕ → PathParts → List String → Except Errno PathParts
  | 0 => walk kind fun _ _ => .error .ELOOP
  | links + 1 => walk kind (resolve_from kind links)

/-- The node that a path leads to. -/
def resolve (kind : PathParts → Option Kind) (p : PathParts) : Except Errno PathParts :=
  resolve_from kind MAXSYMLINKS [] p

section Resolution

variable {t : Tree}

theorem walk_own {follow : PathParts → List String → Except Errno PathParts}
    {here names : PathParts} {k : Kind} (h : t.kind (here ++ names) = some k)
    (hk : ∀ target, k ≠ .link target) : walk t.kind follow here names = .ok (here ++ names) := by
  induction names generalizing here with
  | nil => rw [walk, List.append_nil]
  | cons name rest ih =>
    have hmem := Tree.kind_some h
    have hname := t.names _ hmem name (List.mem_append_right _ List.mem_cons_self)
    simp only [is_name, Bool.and_eq_true, bne_iff_ne, ne_eq] at hname
    have hsplit : here ++ name :: rest = here ++ [name] ++ rest := by
      rw [List.append_assoc, List.singleton_append]
    rw [walk, if_neg (not_or.mpr ⟨hname.1.1.1, hname.1.1.2⟩), if_neg hname.1.2]
    rw [hsplit] at h hmem ⊢
    by_cases hrest : rest = []
    · subst hrest
      rw [List.append_nil] at h ⊢
      rw [h]
      cases k with
      | dir => rfl
      | file => exact if_pos rfl
      | link target => exact absurd rfl (hk target)
    · rw [Tree.kind_above hmem hrest]
      exact ih h

/-- The path of a directory or a file leads to it. -/
theorem resolve_own {p : PathParts} {k : Kind} (h : t.kind p = some k)
    (hk : ∀ target, k ≠ .link target) :
    resolve t.kind p = .ok p := walk_own h hk

theorem walk_missing {follow : PathParts → List String → Except Errno PathParts}
    {here d : PathParts} {name : String} (hd : t.kind (here ++ d) = some .dir)
    (hname : is_name name = true) (h : t.kind (here ++ d ++ [name]) = none) :
    walk t.kind follow here (d ++ [name]) = .error .ENOENT := by
  have hplain : ∀ {name : String}, is_name name = true → ¬ (name = "" ∨ name = ".") ∧ name ≠ ".." := by
    intro name hname
    simp only [is_name, Bool.and_eq_true, bne_iff_ne, ne_eq] at hname
    exact ⟨not_or.mpr ⟨hname.1.1.1, hname.1.1.2⟩, hname.1.2⟩
  induction d generalizing here with
  | nil =>
    rw [List.append_nil] at h
    rw [List.nil_append, walk, if_neg (hplain hname).1, if_neg (hplain hname).2, h]
  | cons first d ih =>
    have hmem := Tree.kind_some hd
    have hfirst := hplain (t.names _ hmem first (List.mem_append_right _ List.mem_cons_self))
    have hsplit : here ++ first :: d = here ++ [first] ++ d := by
      rw [List.append_assoc, List.singleton_append]
    rw [hsplit] at hd h hmem
    have hdir : t.kind (here ++ [first]) = some .dir := by
      by_cases hempty : d = []
      · rwa [hempty, List.append_nil] at hd
      · exact Tree.kind_above hmem hempty
    rw [List.cons_append, walk, if_neg hfirst.1, if_neg hfirst.2, hdir]
    exact ih hd h

/-- A path to nothing in a directory leads nowhere. -/
theorem resolve_missing {d : PathParts} {name : String} (hd : t.kind d = some .dir)
    (hname : is_name name = true) (h : t.kind (d ++ [name]) = none) :
    resolve t.kind (d ++ [name]) = .error .ENOENT :=
  walk_missing hd hname h

theorem walk_ends {follow : PathParts → List String → Except Errno PathParts}
    (hfollow : ∀ here names q, t.kind here = some .dir → follow here names = .ok q →
      t.kind q = some .dir ∨ t.kind q = some .file)
    {here : PathParts} {names : List String} {q : PathParts} (hhere : t.kind here = some .dir)
    (h : walk t.kind follow here names = .ok q) : t.kind q = some .dir ∨ t.kind q = some .file := by
  -- on the names left, from a directory
  induction names generalizing here with
  | nil => exact .inl (Except.ok.inj h ▸ hhere)
  | cons name rest ih =>
    rw [walk] at h
    by_cases hdot : name = "" ∨ name = "."
    · rw [if_pos hdot] at h
      exact ih hhere h
    rw [if_neg hdot] at h
    by_cases hup : name = ".."
    · rw [if_pos hup] at h
      refine ih ?_ h
      by_cases hroot : here = []
      · subst hroot
        exact hhere
      · refine @Tree.kind_above t here.dropLast [here.getLast hroot] ?_ (List.cons_ne_nil _ _)
        rw [List.dropLast_concat_getLast]
        exact Tree.kind_some hhere
    · rw [if_neg hup] at h
      split at h
      · exact nomatch h
      · rename_i hkind
        exact ih hkind h
      · rename_i hkind
        by_cases hrest : rest = []
        · rw [if_pos hrest] at h
          exact .inr (Except.ok.inj h ▸ hkind)
        · rw [if_neg hrest] at h
          exact nomatch h
      · rename_i target _
        -- a link is followed from its own directory, an absolute one from the root
        refine hfollow _ _ _ ?_ h
        by_cases habsolute : target.toList.head? = some '/'
        · rw [if_pos habsolute]
          exact Tree.kind_root
        · rw [if_neg habsolute]
          exact hhere

/-- A resolved path is that of a directory or a file. -/
theorem resolve_ends {p q : PathParts} (h : resolve t.kind p = .ok q) :
    t.kind q = some .dir ∨ t.kind q = some .file := by
  have hlinks : ∀ links here names q, t.kind here = some .dir →
      resolve_from t.kind links here names = .ok q → t.kind q = some .dir ∨ t.kind q = some .file := by
    intro links
    induction links with
    | zero =>
      refine fun here names q hhere h => walk_ends (fun _ _ _ _ h => ?_) hhere h
      exact nomatch h
    | succ links ih => exact fun here names q hhere h => walk_ends ih hhere h
  exact hlinks _ _ _ _ Tree.kind_root h

end Resolution

end AppContracts.FileTree
