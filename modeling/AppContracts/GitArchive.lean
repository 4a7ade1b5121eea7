/-
The tree of an archive and the listing of the same files.

`_git_tree_oid` nests the files in dicts and hashes them from the leaves up. A
directory here is known by the files below it, so its hash is the one the
listing check computes for the directory of that path. Both writers put the
children of a directory in one order, where a directory's name ends in a slash.

Both programs hash a set of files bottom up, one over a listing with the IDs of its
directories, the other over nested dicts that it builds first. The induction is on the
dicts: two directories have one hash if their subdirectories have (`directory_agrees`), and
what the loop that builds the dicts keeps is which files they hold (`put_file_ok`).
-/
import AppContracts.GitListing

set_option autoImplicit false

namespace AppContracts.GitHubSnapshot

open Merkle

/-! ## Nested directories -/

/-- A file below a directory: the names of its path, its mode and object ID. -/
abbrev File : Type := List String × String × String

mutual

/-- The files of a node. -/
def node_files : String → Node → List File
  | name, .blob mode oid => [([name], mode, oid)]
  | name, .tree entries => (files_of entries).map fun f => (name :: f.1, f.2)

/-- The files below a directory. -/
def files_of : Directory → List File
  | [] => []
  | (name, node) :: rest => node_files name node ++ files_of rest

end

mutual

/-- A node as a child of its directory. -/
def child_node : String → Node → GitChild
  | name, .blob mode oid => ⟨name, mode, oid⟩
  | name, .tree entries => ⟨name, "40000", git_hash (child_nodes entries)⟩

/-- The children of a directory. -/
def child_nodes : Directory → List GitChild
  | [] => []
  | (name, node) :: rest => child_node name node :: child_nodes rest

end

/-- A directory as the first loop of `_git_tree_oid` builds it. -/
inductive GoodDirectory : Directory → Prop
  | mk {D : Directory} (names : (D.map Prod.fst).Nodup)
      (name : ∀ c ∈ D, ∀ ch ∈ c.1.toList, ch.toNat ≠ 0 ∧ ch ≠ '/')
      (blob : ∀ n m o, (n, Node.blob m o) ∈ D → m ∈ BLOB_MODES ∧ is_oid o = true)
      (nonempty : ∀ n, (n, Node.tree []) ∉ D)
      (tree : ∀ n es, (n, Node.tree es) ∈ D → GoodDirectory es) : GoodDirectory D

theorem mem_files_of {D : Directory} {f : File} :
    f ∈ files_of D ↔ ∃ c ∈ D, f ∈ node_files c.1 c.2 := by
  induction D with
  | nil => simp [files_of]
  | cons c D ih => rw [files_of, List.mem_append, ih, List.exists_mem_cons_iff]

theorem child_nodes_eq (D : Directory) : child_nodes D = D.map fun c => child_node c.1 c.2 := by
  induction D with
  | nil => rfl
  | cons c D ih => rw [child_nodes, ih, List.map_cons]

theorem child_node_name (name : String) (node : Node) : (child_node name node).name = name := by
  cases node <;> rfl

theorem child_nodes_names (D : Directory) : (child_nodes D).map Child.name = D.map Prod.fst := by
  rw [child_nodes_eq, List.map_map]
  exact List.map_congr_left fun c _ => child_node_name c.1 c.2

theorem files_path_ne {D : Directory} {f : File} (h : f ∈ files_of D) : f.1 ≠ [] := by
  obtain ⟨⟨name, node⟩, -, hf⟩ := mem_files_of.mp h
  cases node with
  | blob mode oid =>
    rw [node_files, List.mem_singleton] at hf
    simp [hf]
  | tree es =>
    rw [node_files, List.mem_map] at hf
    obtain ⟨g, -, rfl⟩ := hf
    simp

namespace GoodDirectory

variable {D D' : Directory} {n : String} {es : Directory}

theorem names_nodup (h : GoodDirectory D) : (D.map Prod.fst).Nodup := by
  cases h with
  | mk names name blob nonempty tree => exact names

theorem tree_good (h : GoodDirectory D) (hmem : (n, Node.tree es) ∈ D) : GoodDirectory es := by
  cases h with
  | mk names name blob nonempty tree => exact tree n es hmem

/-- A name has one node. -/
theorem node_unique (h : GoodDirectory D) {x y : Node} (hx : (n, x) ∈ D) (hy : (n, y) ∈ D) : x = y :=
  congrArg Prod.snd (List.inj_on_of_nodup_map h.names_nodup hx hy rfl)

/-- A file in the directory itself. -/
theorem blob_mem {m o : String} : (n, Node.blob m o) ∈ D ↔ ([n], m, o) ∈ files_of D := by
  rw [mem_files_of]
  constructor
  · intro hmem
    exact ⟨_, hmem, by rw [node_files]; exact List.mem_singleton_self _⟩
  · rintro ⟨⟨name, node⟩, hmem, hf⟩
    cases node with
    | blob mode oid =>
      rw [node_files, List.mem_singleton] at hf
      simp only [Prod.mk.injEq, List.cons.injEq, and_true] at hf
      obtain ⟨rfl, rfl, rfl⟩ := hf
      exact hmem
    | tree entries =>
      rw [node_files, List.mem_map] at hf
      obtain ⟨g, hg, heq⟩ := hf
      simp only [Prod.mk.injEq, List.cons.injEq] at heq
      exact absurd heq.1.2 (files_path_ne hg)

/-- The files of a subdirectory are those whose path starts with its name. -/
theorem mem_tree_files (h : GoodDirectory D) (hmem : (n, Node.tree es) ∈ D) {p : List String}
    {v : String × String} : (p, v) ∈ files_of es ↔ p ≠ [] ∧ (n :: p, v) ∈ files_of D := by
  constructor
  · intro hf
    refine ⟨files_path_ne hf, mem_files_of.mpr ⟨_, hmem, ?_⟩⟩
    rw [node_files]
    exact List.mem_map_of_mem (f := fun f : File => (n :: f.1, f.2)) hf
  · rintro ⟨hne, hf⟩
    obtain ⟨⟨name, node⟩, hnode, hf⟩ := mem_files_of.mp hf
    cases node with
    | blob mode oid =>
      rw [node_files, List.mem_singleton] at hf
      simp only [Prod.mk.injEq, List.cons.injEq] at hf
      exact absurd hf.1.2 hne
    | tree entries =>
      rw [node_files, List.mem_map] at hf
      obtain ⟨⟨q, w⟩, hg, heq⟩ := hf
      simp only [Prod.mk.injEq, List.cons.injEq] at heq
      obtain ⟨⟨rfl, rfl⟩, rfl⟩ := heq
      have htree := h.node_unique hmem hnode
      rw [Node.tree.injEq] at htree
      rwa [htree]

/-- A deeper file is in a subdirectory. -/
theorem exists_tree {p : List String} {v : String × String} (hf : (n :: p, v) ∈ files_of D)
    (hne : p ≠ []) : ∃ es, (n, Node.tree es) ∈ D := by
  obtain ⟨⟨name, node⟩, hnode, hf⟩ := mem_files_of.mp hf
  cases node with
  | blob mode oid =>
    rw [node_files, List.mem_singleton] at hf
    simp only [Prod.mk.injEq, List.cons.injEq] at hf
    exact absurd hf.1.2 hne
  | tree entries =>
    rw [node_files, List.mem_map] at hf
    obtain ⟨g, -, heq⟩ := hf
    simp only [Prod.mk.injEq, List.cons.injEq] at heq
    exact ⟨entries, heq.1.1 ▸ hnode⟩

/-- A directory that is not empty has a file below it. -/
theorem exists_file (h : GoodDirectory D) (hne : D ≠ []) : ∃ f, f ∈ files_of D := by
  induction h with
  | mk names name blob nonempty tree ih =>
    obtain ⟨⟨n, node⟩, hmem⟩ := List.exists_mem_of_ne_nil _ hne
    cases node with
    | blob mode oid => exact ⟨_, blob_mem.mp hmem⟩
    | tree es =>
      obtain ⟨f, hf⟩ := ih n es hmem fun hnil => nonempty n (hnil ▸ hmem)
      refine ⟨(n :: f.1, f.2), mem_files_of.mpr ⟨_, hmem, ?_⟩⟩
      rw [node_files]
      exact List.mem_map_of_mem hf

theorem subdirectory_file (h : GoodDirectory D) (hmem : (n, Node.tree es) ∈ D) :
    ∃ f, f ∈ files_of es := by
  refine (h.tree_good hmem).exists_file fun hnil => ?_
  cases h with
  | mk names name blob nonempty tree => exact nonempty n (hnil ▸ hmem)

theorem good_child (h : GoodDirectory D) : ∀ c ∈ child_nodes D, GoodChild c := by
  cases h with
  | mk names name blob nonempty tree =>
    intro c hc
    rw [child_nodes_eq, List.mem_map] at hc
    obtain ⟨⟨n, node⟩, hmem, rfl⟩ := hc
    cases node with
    | blob m o =>
      obtain ⟨hm, ho⟩ := blob n m o hmem
      exact ⟨List.mem_cons_of_mem _ hm, name _ hmem, ho⟩
    | tree es => exact ⟨List.mem_cons_self, name _ hmem, is_oid_hexdigest _⟩

/-- `hash_tree` computes the hash of the children. -/
theorem hash_children_ok (h : GoodDirectory D) :
    hash_children D = .ok ((child_nodes D).map fun c => (sort_key c, entry_bytes c)) := by
  -- on the directory, and within one on the list of its children
  induction h with
  | @mk D names name blob nonempty tree ih =>
    have hpart : ∀ l : Directory, (∀ c ∈ l, c ∈ D) →
        hash_children l = .ok ((child_nodes l).map fun c => (sort_key c, entry_bytes c)) := by
      intro l hl
      induction l with
      | nil => rfl
      | cons c l ihl =>
        obtain ⟨n, node⟩ := c
        rw [List.forall_mem_cons] at hl
        have hnode : node_bytes n node =
            .ok (sort_key (child_node n node), entry_bytes (child_node n node)) := by
          cases node with
          | blob m o =>
            obtain ⟨hm, ho⟩ := blob n m o hl.1
            have hblob : is_tree_mode m = false := by
              unfold BLOB_MODES at hm
              simp only [List.mem_cons, List.not_mem_nil, or_false] at hm
              rcases hm with rfl | rfl <;> decide
            rw [node_bytes, fromhex_oid ho, ok_bind, child_node, sort_key, hblob]
            rfl
          | tree es =>
            have hoid : tree_oid ((child_nodes es).map fun c => (sort_key c, entry_bytes c)) =
                git_hash (child_nodes es) := rfl
            rw [node_bytes, ih n es hl.1, ok_bind, hoid, git_hash, fromhex_oid (is_oid_hexdigest _)]
            rfl
        rw [hash_children, hnode, ok_bind, ihl hl.2]
        rfl
    exact hpart D fun _ hc => hc

theorem hash_tree_ok (h : GoodDirectory D) : hash_tree D = .ok (git_hash (child_nodes D)) := by
  rw [hash_tree, h.hash_children_ok]
  rfl

/-- **The files below a directory determine its object ID.** -/
theorem hash_ext (h : GoodDirectory D) (h' : GoodDirectory D')
    (hfiles : ∀ f, f ∈ files_of D ↔ f ∈ files_of D') :
    git_hash (child_nodes D) = git_hash (child_nodes D') := by
  induction h generalizing D' with
  | @mk D names name blob nonempty tree ih =>
    have h : GoodDirectory D := ⟨names, name, blob, nonempty, tree⟩
    -- Two subdirectories of one name have the same files.
    have hsub : ∀ n es es', (n, Node.tree es) ∈ D → (n, Node.tree es') ∈ D' →
        git_hash (child_nodes es) = git_hash (child_nodes es') := by
      intro n es es' hes hes'
      refine ih n es hes (h'.tree_good hes') fun f => ?_
      rw [h.mem_tree_files hes, h'.mem_tree_files hes', hfiles]
    have hmem : ∀ c, c ∈ child_nodes D ↔ c ∈ child_nodes D' := by
      intro c
      rw [child_nodes_eq, child_nodes_eq, List.mem_map, List.mem_map]
      constructor
      · rintro ⟨⟨n, node⟩, hnode, rfl⟩
        cases node with
        | blob m o => exact ⟨_, blob_mem.mpr ((hfiles _).mp (blob_mem.mp hnode)), rfl⟩
        | tree es =>
          obtain ⟨f, hf⟩ := h.subdirectory_file hnode
          obtain ⟨hne, hf⟩ := (h.mem_tree_files hnode).mp hf
          obtain ⟨es', hes'⟩ := exists_tree ((hfiles _).mp hf) hne
          refine ⟨_, hes', ?_⟩
          simp only [child_node, hsub n es es' hnode hes']
      · rintro ⟨⟨n, node⟩, hnode, rfl⟩
        cases node with
        | blob m o => exact ⟨_, blob_mem.mpr ((hfiles _).mpr (blob_mem.mp hnode)), rfl⟩
        | tree es' =>
          obtain ⟨f, hf⟩ := h'.subdirectory_file hnode
          obtain ⟨hne, hf⟩ := (h'.mem_tree_files hnode).mp hf
          obtain ⟨es, hes⟩ := exists_tree ((hfiles _).mpr hf) hne
          refine ⟨_, hes, ?_⟩
          simp only [child_node, hsub n es es' hes hnode]
    have hnodup : ((child_nodes D).map Child.name).Nodup := child_nodes_names D ▸ names
    have hnodup' : ((child_nodes D').map Child.name).Nodup := child_nodes_names D' ▸ h'.names_nodup
    have hperm : (child_nodes D).Perm (child_nodes D') :=
      (List.perm_ext_iff_of_nodup hnodup.of_map hnodup'.of_map).mpr hmem
    rw [git_hash, git_hash, git_object_perm h.good_child hnodup hperm]

end GoodDirectory

/-! ## Building the dicts -/

theorem lookup_none {D : Directory} {name : String} (h : D.lookup name = none) :
    ∀ c ∈ D, c.1 ≠ name := fun c hc heq => by
  simpa [heq] using List.lookup_eq_none_iff.mp h c hc

/-- The entries after an assignment. -/
theorem mem_set_node {D : Directory} (hnames : (D.map Prod.fst).Nodup) {name : String} {node : Node}
    {c : String × Node} : c ∈ set_node name node D ↔ c = (name, node) ∨ c ∈ D ∧ c.1 ≠ name := by
  induction D with
  | nil => simp [set_node]
  | cons d D ih =>
    rw [List.map_cons, List.nodup_cons] at hnames
    rw [set_node]
    split_ifs with heq
    · rw [List.mem_cons, List.mem_cons]
      refine or_congr_right ⟨fun hc => ⟨.inr hc, fun hname => ?_⟩, fun ⟨hc, hne⟩ => ?_⟩
      · exact hnames.1 (heq ▸ hname ▸ List.mem_map_of_mem hc)
      · exact hc.resolve_left fun hcd => hne (by rw [hcd]; exact heq)
    · rw [List.mem_cons, ih hnames.2, List.mem_cons]
      constructor
      · rintro (rfl | rfl | ⟨hc, hne⟩)
        · exact .inr ⟨.inl rfl, heq⟩
        · exact .inl rfl
        · exact .inr ⟨.inr hc, hne⟩
      · rintro (rfl | ⟨rfl | hc, hne⟩)
        · exact .inr (.inl rfl)
        · exact .inl rfl
        · exact .inr (.inr ⟨hc, hne⟩)

theorem set_node_nodup {D : Directory} (hnames : (D.map Prod.fst).Nodup) {name : String}
    {node : Node} : ((set_node name node D).map Prod.fst).Nodup := by
  induction D with
  | nil => simp [set_node]
  | cons d D ih =>
    rw [List.map_cons, List.nodup_cons] at hnames
    rw [set_node]
    split_ifs with heq
    · rw [List.map_cons, List.nodup_cons]
      exact ⟨heq ▸ hnames.1, hnames.2⟩
    · rw [List.map_cons, List.nodup_cons]
      refine ⟨fun hmem => ?_, ih hnames.2⟩
      obtain ⟨c, hc, hname⟩ := List.mem_map.mp hmem
      rcases (mem_set_node hnames.2).mp hc with rfl | ⟨hc, -⟩
      · exact heq hname.symm
      · exact hnames.1 (hname ▸ List.mem_map_of_mem hc)

theorem set_node_ne_nil (name : String) (node : Node) (D : Directory) :
    set_node name node D ≠ [] := by
  cases D with
  | nil => simp [set_node]
  | cons d D =>
    rw [set_node]
    split_ifs <;> simp

/-- What can be assigned to a name. -/
def GoodNode : Node → Prop
  | .blob mode oid => mode ∈ BLOB_MODES ∧ is_oid oid = true
  | .tree entries => GoodDirectory entries ∧ entries ≠ []

/-- A name that a tree object can hold. -/
def GoodName (name : String) : Prop := ∀ c ∈ name.toList, c.toNat ≠ 0 ∧ c ≠ '/'

theorem GoodDirectory.set {D : Directory} (h : GoodDirectory D) {name : String} (hname : GoodName name)
    {node : Node} (hnode : GoodNode node) : GoodDirectory (set_node name node D) := by
  cases h with
  | mk names hnames blob nonempty tree =>
    have hmem := @mem_set_node D names name node
    refine ⟨set_node_nodup names, ?_, ?_, ?_, ?_⟩
    · intro c hc
      rcases hmem.mp hc with rfl | ⟨hc, -⟩
      · exact hname
      · exact hnames c hc
    · intro n m o hc
      rcases hmem.mp hc with heq | ⟨hc, -⟩
      · obtain ⟨-, rfl⟩ := Prod.mk.inj heq
        exact hnode
      · exact blob n m o hc
    · intro n hc
      rcases hmem.mp hc with heq | ⟨hc, -⟩
      · obtain ⟨-, rfl⟩ := Prod.mk.inj heq
        exact hnode.2 rfl
      · exact nonempty n hc
    · intro n es hc
      rcases hmem.mp hc with heq | ⟨hc, -⟩
      · obtain ⟨-, rfl⟩ := Prod.mk.inj heq
        exact hnode.1
      · exact tree n es hc

/-- The files after an assignment to a new name. -/
theorem files_set_new {D : Directory} (h : GoodDirectory D) {name : String} {node : Node}
    (hnew : ∀ c ∈ D, c.1 ≠ name) {f : File} :
    f ∈ files_of (set_node name node D) ↔ f ∈ files_of D ∨ f ∈ node_files name node := by
  rw [mem_files_of, mem_files_of]
  constructor
  · rintro ⟨c, hc, hf⟩
    rcases (mem_set_node h.names_nodup).mp hc with rfl | ⟨hc, -⟩
    · exact .inr hf
    · exact .inl ⟨c, hc, hf⟩
  · rintro (⟨c, hc, hf⟩ | hf)
    · exact ⟨c, (mem_set_node h.names_nodup).mpr (.inr ⟨hc, hnew c hc⟩), hf⟩
    · exact ⟨_, (mem_set_node h.names_nodup).mpr (.inl rfl), hf⟩

/-- The files after a file is added to a subdirectory. -/
theorem files_set_tree {D : Directory} (h : GoodDirectory D) {name : String} {es es' : Directory}
    (hmem : (name, Node.tree es) ∈ D) {p : List String} {v : String × String}
    (hes : ∀ f, f ∈ files_of es' ↔ f ∈ files_of es ∨ f = (p, v)) {f : File} :
    f ∈ files_of (set_node name (.tree es') D) ↔ f ∈ files_of D ∨ f = (name :: p, v) := by
  have hnode : f ∈ node_files name (.tree es') ↔
      f ∈ node_files name (.tree es) ∨ f = (name :: p, v) := by
    rw [node_files, node_files, List.mem_map, List.mem_map]
    simp only [hes, or_and_right, exists_or, exists_eq_left]
    exact or_congr_right eq_comm
  rw [mem_files_of, mem_files_of]
  constructor
  · rintro ⟨c, hc, hf⟩
    rcases (mem_set_node h.names_nodup).mp hc with rfl | ⟨hc, -⟩
    · exact (hnode.mp hf).imp_left fun hf => ⟨_, hmem, hf⟩
    · exact .inl ⟨c, hc, hf⟩
  · have hset : (name, Node.tree es') ∈ set_node name (.tree es') D :=
      (mem_set_node h.names_nodup).mpr (.inl rfl)
    rintro (⟨⟨n, node⟩, hc, hf⟩ | hf)
    · by_cases hn : n = name
      · subst hn
        obtain rfl := h.node_unique hc hmem
        exact ⟨_, hset, hnode.mpr (.inl hf)⟩
      · exact ⟨_, (mem_set_node h.names_nodup).mpr (.inr ⟨hc, hn⟩), hf⟩
    · exact ⟨_, hset, hnode.mpr (.inr hf)⟩

/-- **A file whose path does not conflict is added.** -/
theorem put_file_ok {p : List String} (hp : p ≠ []) (hnames : ∀ n ∈ p, GoodName n) {mode oid : String}
    (hmode : mode ∈ BLOB_MODES) (hoid : is_oid oid = true) {D : Directory} (h : GoodDirectory D)
    (hfree : ∀ f ∈ files_of D, ¬ f.1 <+: p ∧ ¬ p <+: f.1) :
    ∃ D', put_file p mode oid D = .ok D' ∧ GoodDirectory D' ∧ D' ≠ [] ∧
      ∀ f, f ∈ files_of D' ↔ f ∈ files_of D ∨ f = (p, mode, oid) := by
  induction p generalizing D with
  | nil => exact absurd rfl hp
  | cons part rest ih =>
    rw [List.forall_mem_cons] at hnames
    by_cases hrest : rest = []
    · -- A name that is taken would be a path above or at this one.
      subst hrest
      have hnone : D.lookup part = none := by
        cases hlookup : D.lookup part with
        | none => rfl
        | some node =>
          have hmem := mem_of_lookup hlookup
          cases node with
          | blob m o => exact absurd (List.prefix_refl _) (hfree _ (GoodDirectory.blob_mem.mp hmem)).1
          | tree es =>
            obtain ⟨f, hf⟩ := h.subdirectory_file hmem
            have hf := ((h.mem_tree_files hmem).mp hf).2
            exact absurd ⟨f.1, rfl⟩ (hfree _ hf).2
      refine ⟨set_node part (.blob mode oid) D, ?_, h.set hnames.1 ⟨hmode, hoid⟩, set_node_ne_nil _ _ _, ?_⟩
      · simp [put_file, hnone]
      · intro f
        rw [files_set_new h (lookup_none hnone), node_files, List.mem_singleton]
    · cases hlookup : D.lookup part with
      | none =>
        have hempty : GoodDirectory [] := ⟨by simp, by simp, by simp, by simp, by simp⟩
        obtain ⟨es, hput, hgood, hne, hfiles⟩ := ih hrest hnames.2 hempty (by simp [files_of])
        refine ⟨set_node part (.tree es) D, ?_, h.set hnames.1 ⟨hgood, hne⟩, set_node_ne_nil _ _ _, ?_⟩
        · rw [put_file.eq_3 _ _ _ _ _ hrest, hlookup]
          simp only [hput, ok_bind]
          rfl
        · intro f
          rw [files_set_new h (lookup_none hlookup), node_files, List.mem_map]
          simp only [hfiles, files_of, List.not_mem_nil, false_or, exists_eq_left]
          exact or_congr_right eq_comm
      | some node =>
        have hmem := mem_of_lookup hlookup
        cases node with
        | blob m o =>
          exact absurd ⟨rest, rfl⟩ (hfree _ (GoodDirectory.blob_mem.mp hmem)).1
        | tree existing =>
          have hsub : ∀ f ∈ files_of existing, ¬ f.1 <+: rest ∧ ¬ rest <+: f.1 := by
            intro f hf
            have hf := hfree _ ((h.mem_tree_files hmem).mp hf).2
            simpa using hf
          obtain ⟨es, hput, hgood, hne, hfiles⟩ := ih hrest hnames.2 (h.tree_good hmem) hsub
          refine ⟨set_node part (.tree es) D, ?_, h.set hnames.1 ⟨hgood, hne⟩, set_node_ne_nil _ _ _, ?_⟩
          · rw [put_file.eq_3 _ _ _ _ _ hrest, hlookup]
            simp only [hput, ok_bind]
            rfl
          · exact fun f => files_set_tree h hmem hfiles

/-! ## The files of an archive -/

/-- A file by the names of its path. -/
def file_of (f : String × String × String) : File := (split_path f.1, f.2)

/-- Files whose paths can be the paths of one tree. -/
structure GoodFiles (files : List (String × String × String)) : Prop where
  parts : ∀ f ∈ files, (split_path f.1).all plain_part = true
  chars : ∀ f ∈ files, ∀ c ∈ f.1.toList, c.toNat ≠ 0
  mode : ∀ f ∈ files, f.2.1 ∈ BLOB_MODES
  oid : ∀ f ∈ files, is_oid f.2.2 = true
  nodup : (files.map Prod.fst).Nodup
  /-- No path is above another. -/
  no_conflict : ∀ f ∈ files, ∀ g ∈ files, split_path f.1 <+: split_path g.1 → f.1 = g.1

namespace GoodFiles

variable {files : List (String × String × String)}

theorem good_name (h : GoodFiles files) {f : String × String × String} (hf : f ∈ files) :
    ∀ n ∈ split_path f.1, GoodName n := by
  intro n hn c hc
  refine ⟨h.chars f hf c (mem_of_mem_part hn hc), ?_⟩
  rintro rfl
  exact no_slash_of_mem_split hn hc

theorem tail {f : String × String × String} (h : GoodFiles (f :: files)) : GoodFiles files where
  parts g hg := h.parts g (List.mem_cons_of_mem _ hg)
  chars g hg := h.chars g (List.mem_cons_of_mem _ hg)
  mode g hg := h.mode g (List.mem_cons_of_mem _ hg)
  oid g hg := h.oid g (List.mem_cons_of_mem _ hg)
  nodup := (List.nodup_cons.mp h.nodup).2
  no_conflict f hf g hg := h.no_conflict f (List.mem_cons_of_mem _ hf) g (List.mem_cons_of_mem _ hg)

/-- The loop adds every file. -/
theorem build_tree_from (h : GoodFiles files) {D : Directory} (hD : GoodDirectory D)
    (hfree : ∀ f ∈ files_of D, ∀ g ∈ files, ¬ f.1 <+: split_path g.1 ∧ ¬ split_path g.1 <+: f.1) :
    ∃ R, build_tree files D = .ok R ∧ GoodDirectory R ∧
      ∀ f, f ∈ files_of R ↔ f ∈ files_of D ∨ f ∈ files.map file_of := by
  -- on the files, with the directory built so far: no file in it lies above or below one to come
  induction files generalizing D with
  | nil => exact ⟨D, rfl, hD, by simp⟩
  | cons g files ih =>
    obtain ⟨path, mode, oid⟩ := g
    have hmem : (path, mode, oid) ∈ (path, mode, oid) :: files := List.mem_cons_self
    obtain ⟨D', hput, hgood, -, hfiles⟩ := put_file_ok (split_path_ne_nil path) (h.good_name hmem)
      (h.mode _ hmem) (h.oid _ hmem) hD fun f hf => hfree f hf _ hmem
    have hnew := (List.nodup_cons.mp h.nodup).1
    have hfree' : ∀ f ∈ files_of D', ∀ g ∈ files,
        ¬ f.1 <+: split_path g.1 ∧ ¬ split_path g.1 <+: f.1 := by
      intro f hf g hg
      rcases (hfiles f).mp hf with hf | rfl
      · exact hfree f hf g (List.mem_cons_of_mem _ hg)
      · have hne : path ≠ g.1 := fun heq => hnew (List.mem_map.mpr ⟨g, hg, heq.symm⟩)
        have hg := List.mem_cons_of_mem (path, mode, oid) hg
        exact ⟨fun hle => hne (h.no_conflict _ hmem g hg hle),
          fun hle => hne (h.no_conflict g hg _ hmem hle).symm⟩
    obtain ⟨R, hbuild, hR, hall⟩ := ih h.tail hgood hfree'
    refine ⟨R, ?_, hR, fun f => ?_⟩
    · rw [build_tree, hput, ok_bind, hbuild]
    · rw [hall, hfiles, List.map_cons, List.mem_cons, or_assoc]
      rfl

theorem build_tree_ok (h : GoodFiles files) :
    ∃ R, build_tree files [] = .ok R ∧ GoodDirectory R ∧ ∀ f, f ∈ files_of R ↔ f ∈ files.map file_of := by
  have hempty : GoodDirectory [] := ⟨by simp, by simp, by simp, by simp, by simp⟩
  obtain ⟨R, hbuild, hR, hall⟩ := h.build_tree_from hempty (by simp [files_of])
  exact ⟨R, hbuild, hR, fun f => by rw [hall]; simp [files_of]⟩

end GoodFiles

/-- The directories above some files. -/
def directories (files : List (String × String × String)) : List String :=
  (files.flatMap fun f => ancestors f.1).dedup

/-- The files below a directory, by their path from there. -/
def below (d : String) (files : List (String × String × String)) : List (String × String × String) :=
  files.filterMap fun f =>
    if names d <+: split_path f.1 ∧ names d ≠ split_path f.1 then
      some (join_path ((split_path f.1).drop (names d).length), f.2)
    else none

namespace GoodFiles

variable {files : List (String × String × String)} {d : String}

theorem mem_directories (h : GoodFiles files) :
    d ∈ directories files ↔
      d ≠ "" ∧ ∃ f ∈ files, names d <+: split_path f.1 ∧ names d ≠ split_path f.1 := by
  unfold directories
  rw [List.mem_dedup, List.mem_flatMap]
  constructor
  · rintro ⟨f, hf, hd⟩
    have hd := (mem_ancestors (h.parts f hf)).mp hd
    exact ⟨hd.1, f, hf, hd.2⟩
  · rintro ⟨hne, f, hf, hd⟩
    exact ⟨f, hf, (mem_ancestors (h.parts f hf)).mpr ⟨hne, hd⟩⟩

/-- A file below a directory has the rest of a path for its path. -/
theorem mem_below {g : String × String × String} :
    g ∈ below d files ↔ ∃ f ∈ files, ∃ rest, rest ≠ [] ∧ split_path f.1 = names d ++ rest ∧
      g = (join_path rest, f.2) := by
  unfold below
  rw [List.mem_filterMap]
  constructor
  · rintro ⟨f, hf, hg⟩
    split_ifs at hg with hcond
    obtain ⟨⟨rest, hrest⟩, hne⟩ := hcond
    refine ⟨f, hf, rest, fun hnil => hne (by rw [← hrest, hnil, List.append_nil]), hrest.symm, ?_⟩
    rw [← hrest, List.drop_left] at hg
    exact (Option.some.inj hg).symm
  · rintro ⟨f, hf, rest, hne, hsplit, rfl⟩
    refine ⟨f, hf, ?_⟩
    rw [hsplit, List.drop_left, if_pos ⟨List.prefix_append _ _, by simpa using hne⟩]

/-- The rest of a path splits into its names. -/
theorem split_rest {path : String} {front rest : List String}
    (hsplit : split_path path = front ++ rest) (hne : rest ≠ []) :
    split_path (join_path rest) = rest :=
  split_join_path (fun _ hp => no_slash_of_mem_split
    (hsplit ▸ List.mem_append_right _ hp : _ ∈ split_path path)) hne

theorem mem_below_files {p : List String} {v : String × String} :
    (p, v) ∈ (below d files).map file_of ↔ p ≠ [] ∧ (names d ++ p, v) ∈ files.map file_of := by
  rw [List.mem_map, List.mem_map]
  constructor
  · rintro ⟨g, hg, heq⟩
    obtain ⟨f, hf, rest, hne, hsplit, rfl⟩ := mem_below.mp hg
    simp only [file_of, Prod.mk.injEq, split_rest hsplit hne] at heq
    obtain ⟨rfl, rfl⟩ := heq
    exact ⟨hne, f, hf, by rw [file_of, hsplit]⟩
  · rintro ⟨hne, f, hf, heq⟩
    simp only [file_of, Prod.mk.injEq] at heq
    obtain ⟨hsplit, rfl⟩ := heq
    refine ⟨_, mem_below.mpr ⟨f, hf, p, hne, hsplit, rfl⟩, ?_⟩
    rw [file_of, split_rest hsplit hne]

/-- What is below a directory can be a tree of its own. -/
theorem below_good (h : GoodFiles files) (d : String) : GoodFiles (below d files) := by
  refine ⟨?_, ?_, ?_, ?_, ?_, ?_⟩
  · intro g hg
    obtain ⟨f, hf, rest, hne, hsplit, rfl⟩ := mem_below.mp hg
    have hparts := h.parts f hf
    rw [split_rest hsplit hne]
    rw [hsplit, List.all_append, Bool.and_eq_true] at hparts
    exact hparts.2
  · intro g hg c hc
    obtain ⟨f, hf, rest, hne, hsplit, rfl⟩ := mem_below.mp hg
    rcases mem_join_path hc with rfl | ⟨p, hp, hcp⟩
    · decide
    · have hmem : p ∈ split_path f.1 := hsplit ▸ List.mem_append_right _ hp
      exact h.chars f hf c (mem_of_mem_part hmem hcp)
  · intro g hg
    obtain ⟨f, hf, rest, -, -, rfl⟩ := mem_below.mp hg
    exact h.mode f hf
  · intro g hg
    obtain ⟨f, hf, rest, -, -, rfl⟩ := mem_below.mp hg
    exact h.oid f hf
  · have hnodup := h.nodup
    unfold List.Nodup at hnodup ⊢
    rw [List.pairwise_map] at hnodup ⊢
    unfold below
    rw [List.pairwise_filterMap]
    refine hnodup.imp_of_mem ?_
    intro f f' hf hf' hne g hg g' hg' heq
    split_ifs at hg hg' with hcond hcond'
    obtain ⟨⟨rest, hrest⟩, hproper⟩ := hcond
    obtain ⟨⟨rest', hrest'⟩, hproper'⟩ := hcond'
    rw [← hrest, List.drop_left] at hg
    rw [← hrest', List.drop_left] at hg'
    obtain rfl := Option.some.inj hg
    obtain rfl := Option.some.inj hg'
    -- two files of one rest below `d` are one file
    have hrests : rest = rest' := by
      rw [← split_rest hrest.symm (fun hnil => hproper (by rw [← hrest, hnil, List.append_nil])),
        ← split_rest hrest'.symm (fun hnil => hproper' (by rw [← hrest', hnil, List.append_nil]))]
      exact congrArg split_path heq
    exact hne (split_path_inj (by rw [← hrest, ← hrest', hrests]))
  · intro g hg g' hg' hle
    obtain ⟨f, hf, rest, hne, hsplit, rfl⟩ := mem_below.mp hg
    obtain ⟨f', hf', rest', hne', hsplit', rfl⟩ := mem_below.mp hg'
    rw [split_rest hsplit hne, split_rest hsplit' hne'] at hle
    have hpath : f.1 = f'.1 := h.no_conflict f hf f' hf' (by
      rw [hsplit, hsplit']
      exact (List.prefix_append_right_inj _).mpr hle)
    have hrests : rest = rest' := by
      rw [hpath, hsplit'] at hsplit
      exact (List.append_cancel_left hsplit).symm
    rw [hrests]

/-- `_git_tree_oid` by any directory that has the files. -/
theorem git_tree_oid_ok (h : GoodFiles files) {T : Directory} (hT : GoodDirectory T)
    (hfiles : ∀ f, f ∈ files_of T ↔ f ∈ files.map file_of) :
    _git_tree_oid files = .ok (git_hash (child_nodes T)) := by
  obtain ⟨R, hbuild, hR, hmem⟩ := h.build_tree_ok
  rw [_git_tree_oid, hbuild, ok_bind, hR.hash_tree_ok,
    hR.hash_ext hT fun f => (hmem f).trans (hfiles f).symm]

end GoodFiles

/-- The listing of some files and of the directories above them. -/
def listing (files : List (String × String × String)) (ids : String → String)
    (sizes : String → Option ℤ) : List GitHubTreeEntry :=
  (files.map fun f => ⟨f.1, f.2.1, "blob", f.2.2, sizes f.1⟩) ++
    (directories files).map fun d => ⟨d, TREE_MODE, "tree", ids d, sizes d⟩

namespace GoodFiles

variable {files : List (String × String × String)} {ids : String → String}
  {sizes : String → Option ℤ}

theorem mem_listing {e : GitHubTreeEntry} : e ∈ listing files ids sizes ↔
    (∃ f ∈ files, ⟨f.1, f.2.1, "blob", f.2.2, sizes f.1⟩ = e) ∨
      ∃ d ∈ directories files, ⟨d, TREE_MODE, "tree", ids d, sizes d⟩ = e := by
  rw [listing, List.mem_append, List.mem_map, List.mem_map]

/-- There is a file below every directory. -/
theorem exists_below (h : GoodFiles files) {d : String} (hd : d ∈ directories files) :
    ∃ f ∈ files, ∃ rest, rest ≠ [] ∧ split_path f.1 = names d ++ rest := by
  obtain ⟨-, f, hf, ⟨rest, hrest⟩, hproper⟩ := h.mem_directories.mp hd
  exact ⟨f, hf, rest, fun hnil => hproper (by rw [← hrest, hnil, List.append_nil]), hrest.symm⟩

/-- The names of a directory are plain. -/
theorem directory_split (h : GoodFiles files) {d : String} (hd : d ∈ directories files) :
    split_path d = names d := by
  rw [names, if_neg (h.mem_directories.mp hd).1]

theorem listing_good (h : GoodFiles files) (hids : ∀ d ∈ directories files, is_oid (ids d) = true) :
    GoodListing (listing files ids sizes) := by
  refine ⟨fun e he => ?_, ?_⟩
  · rcases mem_listing.mp he with ⟨f, hf, rfl⟩ | ⟨d, hd, rfl⟩
    · exact ⟨h.parts f hf, h.chars f hf, h.oid f hf, .inl ⟨h.mode f hf, rfl⟩⟩
    · obtain ⟨hne, f, hf, hinitial, -⟩ := h.mem_directories.mp hd
      refine ⟨?_, ?_, hids d hd, .inr ⟨rfl, rfl⟩⟩
      · have hparts := List.all_eq_true.mp (h.parts f hf)
        rw [h.directory_split hd]
        exact List.all_eq_true.mpr fun p hp => hparts p (hinitial.subset hp)
      · intro c hc
        rw [← join_split_path d, h.directory_split hd] at hc
        rcases mem_join_path hc with rfl | ⟨p, hp, hcp⟩
        · decide
        · exact h.chars f hf c (mem_of_mem_part (hinitial.subset hp) hcp)
  · rw [listing, List.map_append, List.map_map, List.map_map, List.nodup_append]
    refine ⟨h.nodup, ?_, ?_⟩
    · have hid : (directories files).map (GitHubTreeEntry.path ∘ fun d =>
          (⟨d, TREE_MODE, "tree", ids d, sizes d⟩ : GitHubTreeEntry)) = directories files :=
        List.map_id' _
      rw [hid]
      exact List.nodup_dedup _
    · -- A path is not above another, so no file is a directory.
      intro a ha b hb heq
      obtain ⟨f, hf, rfl⟩ := List.mem_map.mp ha
      obtain ⟨d, hd, rfl⟩ := List.mem_map.mp hb
      obtain ⟨-, g, hg, hinitial, hproper⟩ := h.mem_directories.mp hd
      have hpath : split_path f.1 = names d := by
        rw [← h.directory_split hd]
        exact congrArg split_path heq
      have hfg := h.no_conflict f hf g hg (hpath ▸ hinitial)
      exact hproper (by rw [← hpath, hfg])

section

variable {entries : List GitHubTreeEntry}

theorem entries_good (h : GoodFiles files) (hids : ∀ d ∈ directories files, is_oid (ids d) = true)
    (hperm : entries.Perm (listing files ids sizes)) : GoodListing entries where
  good e he := (h.listing_good hids).good e (hperm.mem_iff.mp he)
  nodup := (hperm.map _).nodup_iff.mpr (h.listing_good hids).nodup

/-- The children of a listed directory are files and directories one name below. -/
theorem mem_children_listing (h : GoodFiles files) (hperm : entries.Perm (listing files ids sizes))
    {d : String} {c : GitChild} : c ∈ children (items entries) (names d) ↔
      (∃ f ∈ files, split_path f.1 = names d ++ [c.name] ∧ f.2 = (c.label, c.id)) ∨
        ∃ d' ∈ directories files, names d' = names d ++ [c.name] ∧ c.label = "40000" ∧ ids d' = c.id := by
  rw [mem_children, items, List.mem_map]
  constructor
  · rintro ⟨e, he, hitem⟩
    rcases mem_listing.mp (hperm.mem_iff.mp he) with ⟨f, hf, rfl⟩ | ⟨d', hd', rfl⟩
    · simp only [item_of, serialized_mode, Item.mk.injEq] at hitem
      obtain ⟨hpath, hmode, hsha⟩ := hitem
      refine .inl ⟨f, hf, hpath, Prod.ext ?_ hsha⟩
      simpa using hmode
    · simp only [item_of, serialized_mode, Item.mk.injEq, if_true] at hitem
      obtain ⟨hpath, hmode, hsha⟩ := hitem
      exact .inr ⟨d', hd', h.directory_split hd' ▸ hpath, hmode.symm, hsha⟩
  · rintro (⟨f, hf, hpath, hval⟩ | ⟨d', hd', hpath, hmode, hid⟩)
    · refine ⟨_, hperm.mem_iff.mpr (mem_listing.mpr (.inl ⟨f, hf, rfl⟩)), ?_⟩
      obtain ⟨hmode, hid⟩ := Prod.mk.inj hval
      simp only [item_of, serialized_mode, Item.mk.injEq]
      exact ⟨hpath, by simpa using hmode, hid⟩
    · refine ⟨_, hperm.mem_iff.mpr (mem_listing.mpr (.inr ⟨d', hd', rfl⟩)), ?_⟩
      simp only [item_of, serialized_mode, Item.mk.injEq, if_true]
      exact ⟨(h.directory_split hd').trans hpath, hmode.symm, hid⟩

/-- What a directory of the dicts holds of the files below it. -/
def Holds (files : List (String × String × String)) (d : String) (T : Directory) : Prop :=
  GoodDirectory T ∧ ∀ f, f ∈ files_of T ↔ f ∈ (below d files).map file_of

/-- A subdirectory holds what is below its path. -/
theorem Holds.tree {d d' n : String} {T es : Directory} (hT : Holds files d T)
    (hmem : (n, Node.tree es) ∈ T) (hd' : names d' = names d ++ [n]) : Holds files d' es := by
  refine ⟨hT.1.tree_good hmem, fun ⟨p, v⟩ => ?_⟩
  rw [hT.1.mem_tree_files hmem, hT.2, mem_below_files, mem_below_files, hd', List.append_assoc]
  simp

theorem exists_holds (h : GoodFiles files) (d : String) : ∃ T, Holds files d T := by
  obtain ⟨R, -, hR, hmem⟩ := (h.below_good d).build_tree_ok
  exact ⟨R, hR, hmem⟩

theorem oid_of_holds (h : GoodFiles files) {d : String} {T : Directory} (hT : Holds files d T) :
    _git_tree_oid (below d files) = .ok (git_hash (child_nodes T)) :=
  (h.below_good d).git_tree_oid_ok hT.1 hT.2

/-- **A directory of the listing and of the dicts has one hash**, if its
subdirectories do. -/
theorem directory_agrees (h : GoodFiles files)
    (hids : ∀ d ∈ directories files, is_oid (ids d) = true)
    (hperm : entries.Perm (listing files ids sizes)) {d : String} {T : Directory}
    (hT : Holds files d T)
    (hsub : ∀ n es d', (n, Node.tree es) ∈ T → d' ∈ directories files → names d' = names d ++ [n] →
      ids d' = git_hash (child_nodes es)) :
    git_hash (children (items entries) (names d)) = git_hash (child_nodes T) := by
  have hgood := h.entries_good hids hperm
  have hmem : ∀ c, c ∈ children (items entries) (names d) ↔ c ∈ child_nodes T := by
    intro c
    rw [h.mem_children_listing hperm, child_nodes_eq, List.mem_map]
    constructor
    -- a listed child is a file of the directory, or a directory that some file lies below
    · rintro (⟨f, hf, hpath, hval⟩ | ⟨d', hd', hpath, hmode, hid⟩)
      · have hfile : ([c.name], c.label, c.id) ∈ files_of T :=
          (hT.2 _).mpr (mem_below_files.mpr ⟨by simp, List.mem_map.mpr
            ⟨f, hf, Prod.ext hpath hval⟩⟩)
        exact ⟨_, GoodDirectory.blob_mem.mpr hfile, rfl⟩
      · obtain ⟨f, hf, rest, hrest, hsplit⟩ := h.exists_below hd'
        rw [hpath, List.append_assoc] at hsplit
        have hfile : (c.name :: rest, f.2) ∈ files_of T :=
          (hT.2 _).mpr (mem_below_files.mpr ⟨by simp, List.mem_map.mpr
            ⟨f, hf, Prod.ext hsplit rfl⟩⟩)
        obtain ⟨es, hes⟩ := GoodDirectory.exists_tree hfile hrest
        refine ⟨_, hes, ?_⟩
        rw [child_node, ← hsub _ es d' hes hd' hpath, hid, ← hmode]
    · rintro ⟨⟨n, node⟩, hnode, rfl⟩
      cases node with
      | blob m o =>
        have hfile := (hT.2 _).mp (GoodDirectory.blob_mem.mp hnode)
        obtain ⟨f, hf, heq⟩ := List.mem_map.mp (mem_below_files.mp hfile).2
        exact .inl ⟨f, hf, congrArg Prod.fst heq, congrArg Prod.snd heq⟩
      | tree es =>
        obtain ⟨⟨p, v⟩, hf⟩ := hT.1.subdirectory_file hnode
        obtain ⟨hp, hfile⟩ := (hT.1.mem_tree_files hnode).mp hf
        obtain ⟨f, hf, heq⟩ := List.mem_map.mp (mem_below_files.mp ((hT.2 _).mp hfile)).2
        have hsplit : split_path f.1 = names d ++ [n] ++ p := by
          rw [List.append_assoc]
          exact congrArg Prod.fst heq
        have hnames : names (join_path (names d ++ [n])) = names d ++ [n] :=
          names_join fun q hq => plain_of_split (h.parts f hf) q
            (hsplit ▸ List.mem_append_left _ hq)
        have hd' : join_path (names d ++ [n]) ∈ directories files := by
          refine h.mem_directories.mpr ⟨fun hnil => ?_, f, hf, ?_, ?_⟩
          · have hnil := names_eq_nil.mpr hnil
            rw [hnames] at hnil
            simp at hnil
          · rw [hnames, hsplit]
            exact List.prefix_append _ _
          · rw [hnames, hsplit]
            simpa using hp
        exact .inr ⟨_, hd', hnames, rfl, hsub n es _ hnode hd' hnames⟩
  have hnodup : ((items entries).map Item.path).Nodup := items_nodup hgood
  have hnodup' : ((child_nodes T).map Child.name).Nodup := child_nodes_names T ▸ hT.1.names_nodup
  have hperm' : (children (items entries) (names d)).Perm (child_nodes T) :=
    (List.perm_ext_iff_of_nodup (names_nodup hnodup _).of_map hnodup'.of_map).mpr hmem
  rw [git_hash, git_hash, git_object_perm (good_children hgood) (names_nodup hnodup _) hperm']

/-- The listing has every directory above its paths. -/
theorem listing_closed (h : GoodFiles files)
    (hids : ∀ d ∈ directories files, is_oid (ids d) = true)
    (hperm : entries.Perm (listing files ids sizes)) : Closed entries := by
  have hgood := h.entries_good hids hperm
  intro d hd
  obtain ⟨hne, e, he, hinitial, hproper⟩ := (mem_required hgood.good).mp hd
  have hdir : d ∈ directories files := by
    rcases mem_listing.mp (hperm.mem_iff.mp he) with ⟨f, hf, rfl⟩ | ⟨d', hd', rfl⟩
    · exact h.mem_directories.mpr ⟨hne, f, hf, hinitial, hproper⟩
    · obtain ⟨-, f, hf, hinitial', hproper'⟩ := h.mem_directories.mp hd'
      rw [h.directory_split hd'] at hinitial
      refine h.mem_directories.mpr ⟨hne, f, hf, hinitial.trans hinitial', fun heq => hproper' ?_⟩
      exact hinitial'.eq_of_length (le_antisymm hinitial'.length_le (heq ▸ hinitial.length_le))
  exact (mem_declared hgood).mpr ⟨_, hperm.mem_iff.mpr (mem_listing.mpr (.inr ⟨d, hdir, rfl⟩)),
    rfl, rfl⟩

/-- The check accepts the listing exactly when each directory has its own ID. -/
theorem listing_accepted (h : GoodFiles files)
    (hids : ∀ d ∈ directories files, is_oid (ids d) = true)
    (hperm : entries.Perm (listing files ids sizes)) {root : String} :
    _verify_git_tree_entries root entries = .ok () ↔
      _git_tree_oid (below "" files) = .ok root ∧
        ∀ d ∈ directories files, _git_tree_oid (below d files) = .ok (ids d) := by
  have hgood := h.entries_good hids hperm
  rw [verify_ok hgood]
  have htree : is_tree_mode "40000" = true := by decide
  -- A listed directory's item carries its ID.
  have hitem : ∀ d ∈ directories files, (⟨names d, "40000", ids d⟩ : Item String String String) ∈
      items entries := by
    intro d hd
    refine List.mem_map.mpr ⟨_, hperm.mem_iff.mpr (mem_listing.mpr (.inr ⟨d, hd, rfl⟩)), ?_⟩
    rw [item_of, h.directory_split hd]
    rfl
  constructor
  · rintro ⟨hconsistent, -⟩
    have hright : ∀ T, GoodDirectory T → ∀ d ∈ directories files, Holds files d T →
        ids d = git_hash (child_nodes T) := by
      intro T hgoodT
      induction hgoodT with
      | mk _ _ _ _ _ ih =>
        intro d hd hT
        refine (hconsistent.dir_id ⟨names d, "40000", ids d⟩ (hitem d hd) htree).symm.trans ?_
        exact h.directory_agrees hids hperm hT fun n es d' hes hd' hnames =>
          ih n es hes d' hd' (hT.tree hes hnames)
    obtain ⟨T, hT⟩ := h.exists_holds ""
    refine ⟨?_, fun d hd => ?_⟩
    · rw [h.oid_of_holds hT, ← hconsistent.root_id]
      refine congrArg Except.ok (h.directory_agrees hids hperm hT ?_).symm
      exact fun n es d' hes hd' hnames => hright es (hT.1.tree_good hes) d' hd' (hT.tree hes hnames)
    · obtain ⟨T, hT⟩ := h.exists_holds d
      rw [h.oid_of_holds hT, hright T hT.1 d hd hT]
  · rintro ⟨hroot, hall⟩
    have hagrees : ∀ d oid, _git_tree_oid (below d files) = .ok oid →
        git_hash (children (items entries) (names d)) = oid := by
      intro d oid hoid
      obtain ⟨T, hT⟩ := h.exists_holds d
      rw [h.oid_of_holds hT] at hoid
      rw [h.directory_agrees hids hperm hT]
      · exact Except.ok.inj hoid
      · intro n es d' hes hd' hnames
        have hoid' := hall d' hd'
        rw [h.oid_of_holds (hT.tree hes hnames)] at hoid'
        exact (Except.ok.inj hoid').symm
    have hclosed := h.listing_closed hids hperm
    refine ⟨⟨items_nodup hgood, (closed_iff hgood).mp hclosed, hagrees "" root hroot, ?_⟩, ?_⟩
    · intro i hi htree
      obtain ⟨e, he, rfl⟩ := List.mem_map.mp hi
      rcases mem_listing.mp (hperm.mem_iff.mp he) with ⟨f, hf, rfl⟩ | ⟨d, hd, rfl⟩
      · have htype := (hgood.good _ he).is_tree_mode.mp htree
        simp at htype
      · have hid := hagrees d (ids d) (hall d hd)
        rw [← h.directory_split hd] at hid
        exact hid
    · intro e he htree
      rcases mem_listing.mp (hperm.mem_iff.mp he) with ⟨f, hf, rfl⟩ | ⟨d, hd, rfl⟩
      · simp at htree
      · obtain ⟨-, f, hf, hinitial, hproper⟩ := h.mem_directories.mp hd
        have hfile := hperm.mem_iff.mpr (mem_listing.mpr (.inl ⟨f, hf, rfl⟩))
        exact children_ne_nil hgood hclosed hfile hinitial hproper

end

end GoodFiles

/-! ## The agreement -/

/-- Files as the archive reader hands them over: safe paths, each once and none
above another, with the modes and object IDs of blobs. -/
structure SafeFiles (files : List (String × String × String)) : Prop where
  safe : ∀ f ∈ files, safe_tree_path f.1 = true
  mode : ∀ f ∈ files, f.2.1 ∈ BLOB_MODES
  oid : ∀ f ∈ files, is_oid f.2.2 = true
  nodup : (files.map Prod.fst).Nodup
  no_conflict : ∀ f ∈ files, ∀ g ∈ files, split_path f.1 <+: split_path g.1 → f.1 = g.1

theorem SafeFiles.good {files : List (String × String × String)} (h : SafeFiles files) :
    GoodFiles files where
  parts f hf := (safe_tree_path_parts (h.safe f hf)).1
  chars f hf := (safe_tree_path_parts (h.safe f hf)).2
  mode := h.mode
  oid := h.oid
  nodup := h.nodup
  no_conflict := h.no_conflict

theorem below_root (files : List (String × String × String)) : below "" files = files := by
  unfold below
  have hroot : names "" = [] := if_pos rfl
  simp [hroot, (split_path_ne_nil _).symm]

/-- **One root for a set of files.** Every directory above the files has the ID
computed from the files below it. With these IDs the root computed from the files is
the one root for which the listing check accepts the listing; with any other ID for a
directory the check accepts no root. -/
theorem git_tree_oid_agrees {files : List (String × String × String)} (h : SafeFiles files)
    {ids : String → String} (hids : ∀ d ∈ directories files, is_oid (ids d) = true)
    {sizes : String → Option ℤ} {entries : List GitHubTreeEntry}
    (hperm : entries.Perm (listing files ids sizes)) :
    (∀ d ∈ directories files, ∃ id, is_oid id = true ∧ _git_tree_oid (below d files) = .ok id) ∧
      ∃ oid, _git_tree_oid files = .ok oid ∧ ∀ root,
        _verify_git_tree_entries root entries = .ok () ↔
          root = oid ∧ ∀ d ∈ directories files, _git_tree_oid (below d files) = .ok (ids d) := by
  refine ⟨fun d _ => ?_, ?_⟩
  · obtain ⟨T, hT⟩ := h.good.exists_holds d
    exact ⟨_, is_oid_hexdigest _, h.good.oid_of_holds hT⟩
  · obtain ⟨T, hT⟩ := h.good.exists_holds ""
    have hoid := h.good.oid_of_holds hT
    rw [below_root] at hoid
    refine ⟨_, hoid, fun root => ?_⟩
    rw [h.good.listing_accepted hids hperm, below_root, hoid]
    exact and_congr_left' ⟨fun heq => (Except.ok.inj heq).symm, fun heq => heq ▸ rfl⟩

/-- The files of `nested_entries`. -/
def nested_files : List (String × String × String) := [
  ("a/x", "100644", "45b983be36b73c0788dc9cbcb76cbb80fc7bb057"),
  ("a.b", "100755", "092bfb9bdf74dd8cfd22e812151281ee9aa6f01a"),
  ("a-b/c/y", "100644", "b68025345d5301abad4d9ec9166f455243a0d746"),
  ("a-b/e", "100644", "e69de29bb2d1d6434b8b29ae775ad8c2e48c5391")]

/-- The IDs of its directories. -/
def nested_ids (d : String) : String :=
  if d = "a" then "488958086aadb031695daea66ee5dec69cb80f15"
  else if d = "a-b" then "6d07839ec15e733b13706f5ae37e7b2c1f6168ca"
  else "1b7e412eceb14e503a6fb5786e6c171b32c1ff35"

theorem nested_files_safe : SafeFiles nested_files where
  safe := by decide
  mode := by decide
  oid := by decide
  nodup := by decide
  no_conflict := by decide

/-- The names `a`, `a.b` and `a-b`, in the order of the archive and of the listing. -/
theorem nested_files_agree :
    (∀ d ∈ directories nested_files, ∃ id, is_oid id = true ∧
        _git_tree_oid (below d nested_files) = .ok id) ∧
      ∃ oid, _git_tree_oid nested_files = .ok oid ∧ ∀ root,
        _verify_git_tree_entries root nested_entries = .ok () ↔ root = oid ∧
          ∀ d ∈ directories nested_files, _git_tree_oid (below d nested_files) = .ok (nested_ids d) :=
  @git_tree_oid_agrees _ nested_files_safe nested_ids (by decide) (fun _ => none) nested_entries
    (by decide)

end AppContracts.GitHubSnapshot
