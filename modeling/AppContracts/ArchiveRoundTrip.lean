/-
The archive of a file tree is read back.

An archive of a tree has a member for the root directory, one for every directory
of the tree and one for every file, in any order. The reader keeps one dict for
the name of the root and for the paths of the tree, so it refuses a tree that has
an entry with the root's name, and accepts the archives of every other tree whose
files the snapshot may hold.

The loop over the members is by induction on the members that are left, for any state it may
be in: it goes through exactly if no name is met twice and there is room (`run_ok`,
`run_nodup`), and then it has added every entry, so that a permutation of the members
changes the order of what was gathered and nothing else.
-/
import AppContracts.ArchiveReader
import AppContracts.Lib.ExceptLoop
import AppContracts.SnapshotAgreement

set_option autoImplicit false

namespace AppContracts.ArchiveReader

open GitHubSnapshot SecretScan

/-! ## Trees and their archives -/

/-- A file by its path, mode and object ID. -/
def blob_of (f : TreeFile) : String × String × String := (f.1, f.2.1, git_blob_oid f.2.2)

/-- A file tree within the limits of the reader, whose entries have safe paths and
whose modes are supported. -/
structure FileTree : Type where
  files : List TreeFile
  nonempty : files ≠ []
  safe : ∀ f ∈ files, safe_tree_path f.1 = true
  mode : ∀ f ∈ files, f.2.1 ∈ BLOB_MODES
  nodup : (files.map Prod.fst).Nodup
  /-- No file is a directory. -/
  no_conflict : ∀ f ∈ files, ∀ g ∈ files, split_path f.1 <+: split_path g.1 → f.1 = g.1
  safe_directories : ∀ d ∈ directories (files.map blob_of), safe_tree_path d = true
  member_count : 1 + (directories (files.map blob_of)).length + files.length ≤ _MAX_ARCHIVE_MEMBERS
  file_bytes : ∀ f ∈ files, f.2.2.length ≤ MAX_SNAPSHOT_FILE_BYTES
  total_bytes : content_bytes files ≤ MAX_SNAPSHOT_TOTAL_BYTES

/-- The paths of the files of a tree. -/
def FileTree.paths (t : FileTree) : List String := t.files.map Prod.fst

/-- The directories of a tree. -/
def FileTree.directories (t : FileTree) : List String :=
  GitHubSnapshot.directories (t.files.map blob_of)

/-- A name that the root directory of an archive may have. -/
structure RootName (root : String) : Prop where
  plain : plain_part root = true
  no_slash : '/' ∉ root.toList
  no_backslash : '\\' ∉ root.toList

/-- An entry of an archive. -/
inductive Entry : Type
  | root
  | directory (path : String)
  | file (f : TreeFile)

/-- The entries of the archive of a tree. -/
def FileTree.entries (t : FileTree) : List Entry :=
  .root :: (t.directories.map .directory ++ t.files.map .file)

/-- The path of a member below the root. -/
def member_path (root path : String) : String := join_path (root :: split_path path)

/-- The name of a directory: tar writers end it in a slash, and readers strip it. -/
def DirectoryName (name path : String) : Prop :=
  ∃ k, name = String.ofList (path.toList ++ List.replicate k '/')

/-- The member that a tar writer makes of an entry. -/
def Describes (root : String) : Entry → TarMember → Prop
  | .root, m => m.is_dir = true ∧ DirectoryName m.name root
  | .directory path, m => m.is_dir = true ∧ DirectoryName m.name (member_path root path)
  | .file (path, mode, content), m =>
    m.is_dir = false ∧ m.is_file = true ∧ m.name = member_path root path ∧
      m.size = content.length ∧ m.extractfile = .ok (some content) ∧
      0 ≤ m.mode ∧ m.mode ≤ 0o777 ∧ (m.mode.toNat &&& 0o111 ≠ 0 ↔ mode = "100755")

/-- An archive of a tree under one root directory, its members in any order. -/
def ArchiveOf (root : String) (t : FileTree) (members : List TarMember) : Prop :=
  ∃ l, l.Perm t.entries ∧ List.Forall₂ (Describes root) l members

/-- A request that pins a tree: the object ID that Git gives to it, its content digest
and the number of its files. -/
structure Pins (request : GitHubArchiveSnapshotRequest) (t : FileTree) : Prop where
  tree_oid : ∃ T, GoodDirectory T ∧ (∀ f, f ∈ files_of T ↔ f ∈ (t.files.map blob_of).map file_of) ∧
    request.tree_oid = git_hash (child_nodes T)
  content_digest : _snapshot_content_digest t.files = .ok request.content_digest
  file_count : request.file_count = t.files.length

/-! ## Names of members -/

theorem rstrip_directory {name path : String} (h : DirectoryName name path)
    (hlast : ∀ c ∈ path.toList.getLast?, c ≠ '/') : rstrip_slashes name = path := by
  obtain ⟨k, rfl⟩ := h
  have hslashes : ∀ n, (path.toList ++ List.replicate n '/').rdropWhile (· == '/') = path.toList := by
    intro n
    induction n with
    | zero =>
      rw [List.replicate_zero, List.append_nil, List.rdropWhile_eq_self_iff]
      intro hne hslash
      exact hlast _ (List.getLast?_eq_some_getLast hne) (by simpa using hslash)
    | succ n ih =>
      rw [List.replicate_succ', ← List.append_assoc, List.rdropWhile_concat_pos _ _ _ (by simp), ih]
  rw [rstrip_slashes, String.toList_ofList, hslashes, String.ofList_toList]

/-- The names from the root to an entry. -/
theorem split_member_path {root path : String} (hroot : RootName root) :
    split_path (member_path root path) = root :: split_path path := by
  refine split_join_path ?_ (by simp)
  intro p hp
  rcases List.mem_cons.mp hp with rfl | hp
  · exact hroot.no_slash
  · exact no_slash_of_mem_split hp

theorem split_root {root : String} (hroot : RootName root) : split_path root = [root] := by
  have hjoin : join_path [root] = root := by
    simp [join_path, String.ofList_toList]
  have hslash : ∀ p ∈ [root], '/' ∉ p.toList := List.forall_mem_singleton.mpr hroot.no_slash
  have hsplit := split_join_path hslash (List.cons_ne_nil _ _)
  rwa [hjoin] at hsplit

/-- A path of plain parts neither begins nor ends with a slash. -/
theorem slash_inside {path : String} (h : (split_path path).all plain_part = true)
    {front rest : List Char} (hpath : path.toList = front ++ '/' :: rest) :
    front ≠ [] ∧ rest ≠ [] := by
  have hsplit : split_path path = (front.splitOn '/' ++ rest.splitOn '/').map String.ofList := by
    rw [split_path, hpath, List.splitOn_append_cons_self]
  have hnonempty : "" ∉ split_path path := by
    intro hmem
    have hplain := List.all_eq_true.mp h _ hmem
    simp [plain_part] at hplain
  rw [hsplit, List.map_append] at hnonempty
  constructor
  · rintro rfl
    exact hnonempty (List.mem_append_left _ (by simp))
  · rintro rfl
    exact hnonempty (List.mem_append_right _ (by simp))

theorem last_ne_slash {path : String} (h : (split_path path).all plain_part = true) :
    ∀ c ∈ path.toList.getLast?, c ≠ '/' := by
  rintro c hc rfl
  obtain ⟨front, hfront⟩ := List.getLast?_eq_some_iff.mp hc
  exact (slash_inside h hfront).2 rfl

theorem head_ne_slash {path : String} (h : (split_path path).all plain_part = true) :
    path.toList.head? ≠ some '/' := by
  intro hhead
  obtain ⟨rest, hrest⟩ := List.head?_eq_some_iff.mp hhead
  have hpath : path.toList = [] ++ '/' :: rest := hrest
  exact (slash_inside h hpath).1 rfl

/-! ## One step -/

/-- The name of an entry in the dict of the reader. -/
def Entry.key (root : String) : Entry → String
  | .root => root
  | .directory path => path
  | .file f => f.1

/-- An entry that the reader's limits allow. -/
def Fits : Entry → Prop
  | .root => True
  | .directory path => safe_tree_path path = true
  | .file f => safe_tree_path f.1 = true ∧ f.2.1 ∈ BLOB_MODES ∧ f.2.2.length ≤ MAX_SNAPSHOT_FILE_BYTES

/-- There is room for an entry. -/
def Gathered.Room (request : GitHubArchiveSnapshotRequest) (g : Gathered) : Entry → Prop
  | .file f => (g.file_records.length : ℤ) < request.file_count ∧
    g.total_bytes + f.2.2.length ≤ MAX_SNAPSHOT_TOTAL_BYTES
  | _ => True

/-- The record of a file. -/
def record_of (f : TreeFile) : FileRecord := (f.1, f.2.1, git_blob_oid f.2.2, f.2.2)

/-- What the loop knows after an entry. -/
def Gathered.add (root : String) (g : Gathered) : Entry → Gathered
  | .root => { g with roots := g.roots.insert root, seen := g.seen ++ [(root, true)] }
  | .directory path => { g with roots := g.roots.insert root, seen := g.seen ++ [(path, true)] }
  | .file f => ⟨g.roots.insert root, g.seen ++ [(f.1, false)], g.file_records ++ [record_of f],
    g.total_bytes + f.2.2.length⟩

theorem safe_length {path : String} (h : safe_tree_path path = true) :
    (utf8_bytes path).length ≤ MAX_SNAPSHOT_PATH_BYTES := by
  simp only [safe_tree_path, Bool.and_eq_true, decide_eq_true_eq] at h
  exact h.2

theorem safe_no_backslash {path : String} (h : safe_tree_path path = true) : '\\' ∉ path.toList := by
  simp only [safe_tree_path, Bool.and_eq_true, Bool.not_eq_true', List.contains_eq_mem,
    decide_eq_false_iff_not] at h
  exact h.1.1.1.1.2

section Step

variable {root : String} {request : GitHubArchiveSnapshotRequest} {g g' : Gathered} {m : TarMember}

/-- A name that passes the checks goes to its part of the loop. -/
theorem read_member_named {name : String} (hname : m.normalized_name = name)
    (hplain : (split_path name).all plain_part = true) (hbackslash : '\\' ∉ name.toList) :
    read_member request g m =
      (let g := { g with roots := g.roots.insert ((split_path name).headD "") }
      if (split_path name).length = 1 then read_root g ((split_path name).headD "") m
      else read_below request g (join_path (split_path name).tail) m) := by
  have hne : name ≠ "" := by
    rintro rfl
    exact absurd hplain (by decide)
  have hname' : m.name ≠ "" := by
    intro hempty
    rw [TarMember.normalized_name, hempty] at hname
    split_ifs at hname
    · exact hne hname.symm
    · exact hne hname.symm
  have hcheck : ¬ (m.name = "" ∨ m.normalized_name = "" ∨ m.normalized_name.toList.head? = some '/' ∨
      '\\' ∈ m.normalized_name.toList ∨ (split_path m.normalized_name).all plain_part = false) := by
    rw [hname, hplain]
    simp [hname', hne, hbackslash, head_ne_slash hplain]
  rw [read_member, raise_if_ok.mpr hcheck, ok_bind]
  subst hname
  rfl

theorem read_root_member (hroot : RootName root) (hname : m.normalized_name = root) :
    read_member request g m = read_root { g with roots := g.roots.insert root } root m := by
  have hplain : (split_path root).all plain_part = true := by
    rw [split_root hroot, List.all_cons, hroot.plain]
    rfl
  rw [read_member_named hname hplain hroot.no_backslash, split_root hroot]
  rfl

theorem read_below_member {path : String} (hroot : RootName root) (hsafe : safe_tree_path path = true)
    (hname : m.normalized_name = member_path root path) :
    read_member request g m = read_below request { g with roots := g.roots.insert root } path m := by
  have hsplit : split_path (member_path root path) = root :: split_path path :=
    split_member_path hroot
  have hplain : (split_path (member_path root path)).all plain_part = true := by
    rw [hsplit, List.all_cons, hroot.plain, (safe_tree_path_parts hsafe).1]
    rfl
  have hbackslash : '\\' ∉ (member_path root path).toList := by
    intro hmem
    rcases mem_join_path hmem with hslash | ⟨part, hpart, hc⟩
    · exact absurd hslash (by decide)
    · rcases List.mem_cons.mp hpart with rfl | hpart
      · exact hroot.no_backslash hc
      · exact safe_no_backslash hsafe (mem_of_mem_part hpart hc)
  have hlong : (root :: split_path path).length ≠ 1 := by
    have hne := split_path_ne_nil path
    simpa using hne
  rw [read_member_named hname hplain hbackslash, hsplit, if_neg hlong, List.tail_cons, join_split_path]
  rfl

/-- **What a step does with the member of an entry**: it needs a new name and room, and
adds the entry. -/
theorem read_entry_ok {e : Entry} (hroot : RootName root) (hfits : Fits e) (hm : Describes root e m) :
    read_member request g m = .ok g' ↔ e.key root ∉ g.names ∧ g.Room request e ∧ g' = g.add root e := by
  cases e with
  | root =>
    obtain ⟨hdir, hname⟩ := hm
    have hplain : (split_path root).all plain_part = true := by
      rw [split_root hroot, List.all_cons, hroot.plain]
      rfl
    have hnormal : m.normalized_name = root := by
      rw [TarMember.normalized_name, hdir, if_pos rfl, rstrip_directory hname (last_ne_slash hplain)]
    rw [read_root_member hroot hnormal, read_root, raise_if_bind]
    simp only [hdir, Bool.true_eq_false, false_or, pure, Except.pure, Except.ok.injEq, Gathered.Room,
      Gathered.add, true_and, Gathered.names, Entry.key, eq_comm (a := g')]
  -- `normalized_name` strips the slash a directory's name ends in, so the name of the
  -- member is the path again and the length bound is the bound on a safe path
  | directory path =>
    obtain ⟨hdir, hname⟩ := hm
    have hparts := (safe_tree_path_parts hfits).1
    have hplain : (split_path (member_path root path)).all plain_part = true := by
      rw [split_member_path hroot, List.all_cons, hroot.plain, hparts]
      rfl
    have hnormal : m.normalized_name = member_path root path := by
      rw [TarMember.normalized_name, hdir, if_pos rfl, rstrip_directory hname (last_ne_slash hplain)]
    have hlength : ¬ (MAX_SNAPSHOT_PATH_BYTES < (utf8_bytes path).length ∨ safe_tree_path path =
      false) := by
      have hle := safe_length hfits
      have hsafe : safe_tree_path path = true := hfits
      simp [hsafe, Nat.not_lt.mpr hle]
    rw [read_below_member hroot hfits hnormal, read_below, raise_if_ok.mpr hlength, ok_bind,
      raise_if_bind]
    simp only [hdir, if_true, pure, Except.pure, Except.ok.injEq, Gathered.Room,
      Gathered.add, true_and, Gathered.names, Entry.key, eq_comm (a := g')]
  | file f =>
    obtain ⟨path, mode, content⟩ := f
    obtain ⟨hdir, hfile, hname, hsize, hextract, hlow, hhigh, hmode⟩ := hm
    obtain ⟨hsafe, hmodes, hbytes⟩ := hfits
    have hnormal : m.normalized_name = member_path root path := by
      rw [TarMember.normalized_name, hdir, hname]
      rfl
    have hlength : ¬ (MAX_SNAPSHOT_PATH_BYTES < (utf8_bytes path).length ∨ safe_tree_path path =
      false) := by
      have hle := safe_length hsafe
      simp [hsafe, Nat.not_lt.mpr hle]
    -- of the mode only the execute bits are read, and a tree has two modes
    have hmode' : (if m.mode.toNat &&& 0o111 ≠ 0 then "100755" else "100644") = mode := by
      by_cases hx : m.mode.toNat &&& 0o111 ≠ 0
      · rw [if_pos hx, hmode.mp hx]
      · rcases List.mem_cons.mp hmodes with hplain | hrest
        · rw [if_neg hx]
          exact hplain.symm
        · exact absurd (hmode.mpr (List.mem_singleton.mp hrest)) hx
    -- the reader takes one byte more than the size, to see a member that is longer
    have htake : content.take (m.size + 1).toNat = content := by
      rw [hsize]
      exact List.take_of_length_le (by omega)
    have hcount : ¬ (m.size < 0 ∨ (MAX_SNAPSHOT_FILE_BYTES : ℤ) < m.size ∨
        request.file_count ≤ g.file_records.length) ↔
          (g.file_records.length : ℤ) < request.file_count := by
      have hbytes : content.length ≤ MAX_SNAPSHOT_FILE_BYTES := hbytes
      omega
    have hpermissions : ¬ (m.mode < 0 ∨ 0o777 < m.mode) := by omega
    have hlength' : ¬ (content.length : ℤ) ≠ m.size := not_not.mpr hsize.symm
    rw [read_below_member hroot hsafe hnormal, read_below, raise_if_ok.mpr hlength, ok_bind,
      raise_if_bind]
    simp only [hdir, Bool.false_eq_true, if_false, read_file, raise_if_bind, hfile, Bool.true_eq_false,
      not_false_eq_true, hextract, ok_bind, or_raise, htake, hmode', hcount, hpermissions,
        hlength', true_and,
      not_lt, pure, Except.pure, Except.ok.injEq, Gathered.names, Entry.key, Gathered.Room,
        Gathered.add,
      record_of, and_assoc, eq_comm (a := g')]

end Step

/-! ## The loop -/

/-- The file of an entry. -/
def Entry.file? : Entry → Option TreeFile
  | .file f => some f
  | _ => none

/-- The files among some entries. -/
def files_in (l : List Entry) : List TreeFile := l.filterMap Entry.file?

section Loop

variable {root : String} {request : GitHubArchiveSnapshotRequest} {g g' : Gathered} {l : List Entry}
  {members : List TarMember}

theorem names_add (e : Entry) : (g.add root e).names = g.names ++ [e.key root] := by
  cases e <;> simp [Gathered.names, Gathered.add, Entry.key]

/-- A run of the loop meets every name once. -/
theorem run_nodup (hroot : RootName root) (hfits : ∀ e ∈ l, Fits e)
    (hm : List.Forall₂ (Describes root) l members) (hg : g.names.Nodup)
    (h : members.foldlM (read_member request) g = .ok g') :
    (g.names ++ l.map (Entry.key root)).Nodup := by
  induction hm generalizing g with
  | nil => simpa using hg
  | @cons e m l members hem hrest ih =>
    rw [List.foldlM_cons] at h
    obtain ⟨g₁, hstep, hrun⟩ := bind_ok.mp h
    obtain ⟨hnew, -, rfl⟩ := (read_entry_ok hroot (hfits e List.mem_cons_self) hem).mp hstep
    have hnames : (g.add root e).names.Nodup := by
      rw [names_add]
      refine List.nodup_append.mpr ⟨hg, by simp, ?_⟩
      rintro a ha b hb rfl
      exact hnew (List.mem_singleton.mp hb ▸ ha)
    have hall := ih (fun e he => hfits e (List.mem_cons_of_mem _ he)) hnames hrun
    rwa [names_add, List.append_assoc] at hall

/-- **The loop adds every entry**, if no name is met twice and there is room. -/
theorem run_ok (hroot : RootName root) (hfits : ∀ e ∈ l, Fits e)
    (hm : List.Forall₂ (Describes root) l members) (hnames : (g.names ++ l.map (Entry.key root)).Nodup)
    (hcount : ((g.file_records.length + (files_in l).length : ℕ) : ℤ) ≤ request.file_count)
    (htotal : g.total_bytes + content_bytes (files_in l) ≤ MAX_SNAPSHOT_TOTAL_BYTES) :
    members.foldlM (read_member request) g = .ok (l.foldl (Gathered.add root) g) := by
  -- on the members, with what is left to read still within the two limits
  induction hm generalizing g with
  | nil => rfl
  | @cons e m l members hem hrest ih =>
    have hnew : e.key root ∉ g.names := by
      intro hmem
      exact (List.nodup_append.mp hnames).2.2 _ hmem _ List.mem_cons_self rfl
    have hroom : g.Room request e ∧
        (((g.add root e).file_records.length + (files_in l).length : ℕ) : ℤ) ≤ request.file_count ∧
        (g.add root e).total_bytes + content_bytes (files_in l) ≤ MAX_SNAPSHOT_TOTAL_BYTES := by
      cases e with
      | root => exact ⟨trivial, hcount, htotal⟩
      | directory path => exact ⟨trivial, hcount, htotal⟩
      | file f =>
        have hfiles : files_in (.file f :: l) = f :: files_in l := rfl
        rw [hfiles, List.length_cons] at hcount
        rw [hfiles, content_bytes, List.map_cons, List.sum_cons] at htotal
        simp only [Gathered.Room, Gathered.add, List.length_append, List.length_singleton,
          content_bytes]
        omega
    have hstep := (read_entry_ok hroot (hfits e List.mem_cons_self) hem).mpr ⟨hnew, hroom.1, rfl⟩
    rw [List.foldlM_cons, hstep, ok_bind, List.foldl_cons]
    refine ih (fun e he => hfits e (List.mem_cons_of_mem _ he)) ?_ hroom.2.1 hroom.2.2
    rwa [names_add, List.append_assoc]

/-- Whether an entry is entered as a directory. -/
def Entry.is_directory : Entry → Bool
  | .file _ => false
  | _ => true

theorem seen_of_run (l : List Entry) (g : Gathered) : (l.foldl (Gathered.add root) g).seen =
    g.seen ++ l.map fun e => (e.key root, e.is_directory) := by
  induction l generalizing g with
  | nil => simp
  | cons e l ih =>
    rw [List.foldl_cons, ih]
    cases e <;> simp [Gathered.add, Entry.key, Entry.is_directory]

theorem records_of_run (l : List Entry) (g : Gathered) : (l.foldl (Gathered.add root) g).file_records =
    g.file_records ++ (files_in l).map record_of := by
  induction l generalizing g with
  | nil => simp [files_in]
  | cons e l ih =>
    rw [List.foldl_cons, ih]
    cases e with
    | root => rfl
    | directory path => rfl
    | file f => simp [Gathered.add, files_in, Entry.file?]

/-- There is one root. -/
theorem roots_of_run (hg : g.roots = [] ∨ g.roots = [root]) (hl : l ≠ []) :
    (l.foldl (Gathered.add root) g).roots = [root] := by
  induction l generalizing g with
  | nil => exact absurd rfl hl
  | cons e l ih =>
    have hadd : (g.add root e).roots = [root] := by
      rcases hg with hg | hg <;> cases e <;> simp [Gathered.add, hg]
    rw [List.foldl_cons]
    by_cases hnil : l = []
    · rw [hnil]
      exact hadd
    · exact ih (.inr hadd) hnil

end Loop

/-! ## What an archive gathers -/

namespace FileTree

variable (t : FileTree)

theorem safe_files : SafeFiles (t.files.map blob_of) where
  safe := List.forall_mem_map.mpr t.safe
  mode := List.forall_mem_map.mpr t.mode
  oid := List.forall_mem_map.mpr fun f _ => is_oid_hexdigest _
  nodup := by
    rw [List.map_map]
    exact t.nodup
  no_conflict := by
    simp only [List.forall_mem_map]
    exact t.no_conflict

theorem fits : ∀ e ∈ t.entries, Fits e := by
  intro e he
  rcases List.mem_cons.mp he with rfl | he
  · exact trivial
  · rcases List.mem_append.mp he with hd | hf
    · obtain ⟨d, hmem, rfl⟩ := List.mem_map.mp hd
      exact t.safe_directories d hmem
    · obtain ⟨f, hmem, rfl⟩ := List.mem_map.mp hf
      exact ⟨t.safe f hmem, t.mode f hmem, t.file_bytes f hmem⟩

theorem files_in_entries : files_in t.entries = t.files := by
  have hfile : Entry.file? ∘ Entry.file = some := rfl
  have hdirectory : ∀ d ∈ t.directories, (Entry.file? ∘ Entry.directory) d = none := fun _ _ => rfl
  rw [files_in, entries, List.filterMap_cons_none rfl, List.filterMap_append, List.filterMap_map,
    List.filterMap_map, hfile, List.filterMap_some, List.filterMap_eq_nil_iff.mpr hdirectory,
      List.nil_append]

/-- A file is no directory. -/
theorem path_not_directory {path : String} (hp : path ∈ t.paths) : path ∉ t.directories := by
  intro hd
  obtain ⟨f, hf, rfl⟩ := List.mem_map.mp hp
  obtain ⟨hne, g, hg, hle, hnot⟩ := t.safe_files.good.mem_directories.mp hd
  obtain ⟨h, hh, rfl⟩ := List.mem_map.mp hg
  have hnames : names f.1 = split_path f.1 := if_neg hne
  rw [hnames] at hle hnot
  exact hnot (congrArg split_path (t.no_conflict f hf h hh hle))

theorem keys_entries (root : String) :
    t.entries.map (Entry.key root) = root :: (t.directories ++ t.paths) := by
  simp [entries, Entry.key, paths, Function.comp_def]

/-- The names of the entries differ, but for the root's. -/
theorem keys_nodup (root : String) :
    (t.entries.map (Entry.key root)).Nodup ↔ root ∉ t.paths ∧ root ∉ t.directories := by
  have hdirectories : t.directories.Nodup := List.nodup_dedup _
  have hall : (t.directories ++ t.paths).Nodup := by
    refine List.nodup_append.mpr ⟨hdirectories, t.nodup, ?_⟩
    rintro d hd path hp rfl
    exact t.path_not_directory hp hd
  rw [keys_entries, List.nodup_cons, List.mem_append, not_or, and_iff_left hall, and_comm]

end FileTree

/-! ## The snapshot of the files -/

theorem snapshot_claim_ok {fields : ClaimFields} {claim : GitHubSnapshotClaim} :
    snapshot_claim fields = .ok claim ↔ claim.toClaimFields = fields := by
  simp only [snapshot_claim, bind_ok, checked_ok, pure, Except.pure, Except.ok.injEq]
  constructor
  · rintro ⟨record, rfl, rfl⟩
    rfl
  · rintro rfl
    exact ⟨⟨_, claim.checked⟩, rfl, rfl⟩

theorem snapshot_contents_ok {fields : ContentsFields} {contents : GitHubSnapshotContents} :
    snapshot_contents fields = .ok contents ↔ contents.toContentsFields = fields := by
  simp only [snapshot_contents, bind_ok, checked_ok, pure, Except.pure, Except.ok.injEq]
  constructor
  · rintro ⟨record, rfl, rfl⟩
    rfl
  · rintro rfl
    exact ⟨⟨_, contents.checked⟩, rfl, rfl⟩

theorem RequestFields.post_init_ok {r : RequestFields} :
    r.post_init = .ok () ↔ is_owner r.owner = true ∧ is_repository r.repository = true ∧
      is_oid r.commit_oid = true ∧ is_oid r.tree_oid = true ∧ is_digest r.content_digest = true ∧
      1 ≤ r.file_count ∧ r.file_count ≤ MAX_SNAPSHOT_FILES := by
  simp only [post_init, guard_ok, not_or, not_lt, Bool.not_eq_false, and_true, and_assoc]

/-- A checked blob of a record. -/
theorem record_blob (t : FileTree) {f : TreeFile} (hf : f ∈ t.files) :
    ∃ blob, blob_claim (record_fields (record_of f)) = .ok blob := by
  have horigin : _ARCHIVE_EVIDENCE_ORIGIN ∈ REMOTE_SNAPSHOT_EVIDENCE_ORIGINS := by decide
  have hchecked : (record_fields (record_of f)).post_init = .ok () :=
    BlobFields.post_init_ok.mpr ⟨t.safe f hf, t.mode f hf, is_oid_hexdigest _, rfl, t.file_bytes f hf,
      is_digest_sha256_bytes _, rfl, rfl, horigin⟩
  exact ⟨⟨_, hchecked⟩, blob_claim_ok.mpr rfl⟩

/-- Sorting records sorts the files. -/
theorem sorted_records_eq (files : List TreeFile) :
    sorted_records (files.map record_of) = (sorted_by_path files).map record_of :=
  (List.map_insertionSort (r := fun a b : TreeFile => a.1 ≤ b.1)
    (s := fun a b : FileRecord => a.1 ≤ b.1)
    record_of files (fun _ _ _ _ => Iff.rfl)).symm

namespace FileTree

variable (t : FileTree)

theorem sorted_perm : (sorted_by_path t.files).Perm t.files := List.perm_insertionSort _ _

theorem sorted_pairwise : (sorted_by_path t.files).Pairwise fun a b => a.1 ≤ b.1 :=
  List.pairwise_insertionSort _ _

theorem sorted_nodup : ((sorted_by_path t.files).map Prod.fst).Nodup :=
  (t.sorted_perm.map Prod.fst).nodup_iff.mpr t.nodup

/-- Archives of a tree in any order give the same files. -/
theorem sorted_eq {files : List TreeFile} (h : files.Perm t.files) :
    sorted_by_path files = sorted_by_path t.files := by
  exact sorted_by_path_perm t.sorted_nodup t.sorted_pairwise (h.trans t.sorted_perm.symm)

/-- The paths are in strict order. -/
theorem sorted_chain : ((sorted_by_path t.files).map Prod.fst).IsChain (· < ·) :=
  isChain_of_sorted (List.pairwise_map.mpr t.sorted_pairwise) t.sorted_nodup

/-- The scan passes a tree of clean files. -/
theorem scan_clean (hclean : ∀ f ∈ t.files, is_clean f.2.2 = true) :
    assert_no_credential_pattern_content ((sorted_by_path t.files).map fun f => (f.1, f.2.2)) =
      .ok () := by
  have hmem : ∀ f, f ∈ sorted_by_path t.files ↔ f ∈ t.files := fun f => t.sorted_perm.mem_iff
  have hrecord : ∀ f ∈ t.files, record_ok f.1 f.2.2 = true := by
    intro f hf
    have hsafe := t.safe f hf
    simp only [safe_tree_path, Bool.and_eq_true, decide_eq_true_eq] at hsafe
    obtain ⟨⟨⟨⟨⟨⟨⟨hne, hstrip⟩, hhead⟩, hbackslash⟩, -⟩, hcontrol⟩, hparts⟩, hlength⟩ := hsafe
    simp only [record_ok, Bool.and_eq_true, decide_eq_true_eq]
    exact ⟨⟨⟨⟨⟨⟨⟨hne, hstrip⟩, hlength⟩, hhead⟩, hbackslash⟩, hparts⟩, hcontrol⟩, t.file_bytes f hf⟩
  refine assert_ok.mpr ⟨?_, ?_, ?_, ?_, ?_⟩
  · have hcount := t.member_count
    simp only [_MAX_ARCHIVE_MEMBERS] at hcount
    rw [List.length_map, t.sorted_perm.length_eq, MAX_SNAPSHOT_FILES]
    omega
  · exact List.forall_mem_map.mpr fun f hf => hrecord f ((hmem f).mp hf)
  · rw [List.map_map]
    exact t.sorted_chain
  · have hbytes := t.total_bytes
    rw [← content_bytes_perm t.sorted_perm] at hbytes
    rw [scanned_bytes, List.map_map]
    exact hbytes
  · exact List.forall_mem_map.mpr fun f hf => hclean f ((hmem f).mp hf)

end FileTree

section Build

variable {t : FileTree} {request : GitHubArchiveSnapshotRequest} {g : Gathered} {files : List TreeFile}

/-- The blobs of a tree in the order of their paths. -/
theorem blobs_of_records (t : FileTree) :
    ∃ blobs, (sorted_records (t.files.map record_of)).mapM
      (fun record => blob_claim (record_fields record)) =
        .ok blobs ∧ blobs.map GitHubBlobClaim.file = sorted_by_path t.files ∧
      blobs.map (fun blob => (blob.path, blob.mode, blob.sha)) = (sorted_by_path t.files).map blob_of ∧
      ∀ blob ∈ blobs, blob.evidence_origin = _ARCHIVE_EVIDENCE_ORIGIN := by
  rw [sorted_records_eq, List.mapM_map]
  obtain ⟨blobs, hblobs⟩ := mapM_exists fun f hf => record_blob t (t.sorted_perm.mem_iff.mp hf)
  have hfields : ∀ f blob, blob_claim (record_fields (record_of f)) = .ok blob →
      blob.toBlobFields = record_fields (record_of f) := fun _ _ => blob_claim_ok.mp
  refine ⟨blobs, hblobs, ?_, ?_, ?_⟩
  · rw [map_eq_of_mapM hblobs (g := id), List.map_id]
    intro f blob hblob
    rw [GitHubBlobClaim.file, hfields f blob hblob]
    rfl
  · refine map_eq_of_mapM hblobs fun f blob hblob => ?_
    rw [hfields f blob hblob]
    rfl
  · intro blob hblob
    have horigins := map_eq_of_mapM hblobs (k := fun blob => blob.evidence_origin)
      (g := fun _ => _ARCHIVE_EVIDENCE_ORIGIN) fun f blob hblob => by rw [hfields f blob hblob]; rfl
    have hmem := List.mem_map_of_mem (f := fun blob : GitHubBlobClaim => blob.evidence_origin) hblob
    rw [horigins] at hmem
    obtain ⟨_, -, heq⟩ := List.mem_map.mp hmem
    exact heq.symm

/-- The object ID of the sorted files is the tree's. -/
theorem tree_oid_sorted (hpins : Pins request t) :
    _git_tree_oid ((sorted_by_path t.files).map blob_of) = .ok request.tree_oid := by
  obtain ⟨T, hT, hfiles, hoid⟩ := hpins.tree_oid
  have hperm := t.sorted_perm.map blob_of
  have hsafe : SafeFiles ((sorted_by_path t.files).map blob_of) :=
    { safe := fun f hf => t.safe_files.safe f (hperm.mem_iff.mp hf)
      mode := fun f hf => t.safe_files.mode f (hperm.mem_iff.mp hf)
      oid := fun f hf => t.safe_files.oid f (hperm.mem_iff.mp hf)
      nodup := (hperm.map Prod.fst).nodup_iff.mpr t.safe_files.nodup
      no_conflict := fun f hf g hg =>
        t.safe_files.no_conflict f (hperm.mem_iff.mp hf) g (hperm.mem_iff.mp hg) }
  rw [hoid]
  exact hsafe.good.git_tree_oid_ok hT fun f => (hfiles f).trans (hperm.map file_of).mem_iff.symm

theorem content_digest_sorted (hpins : Pins request t) :
    _snapshot_content_digest (sorted_by_path t.files) = .ok request.content_digest := by
  rw [← hpins.content_digest, _snapshot_content_digest, _snapshot_content_digest,
    t.sorted_eq t.sorted_perm]

/-- **The snapshot is built** if no file has credential-shaped content. -/
theorem build_snapshot_ok (hpins : Pins request t) (hrecords : g.file_records = files.map record_of)
    (hfiles : files.Perm t.files) :
    (∃ contents, build_snapshot request g = .ok contents ∧ contents.tree_files =
      sorted_by_path t.files ∧
      contents.claim.tree_oid = request.tree_oid) ↔ ∀ f ∈ t.files, is_clean f.2.2 = true := by
  obtain ⟨howner, hrepository, hcommit, htree, hdigest, -, hcount⟩ :=
    RequestFields.post_init_ok.mp request.checked
  obtain ⟨blobs, hblobs, hfile, hblob, horigins⟩ := blobs_of_records t
  have hsorted : sorted_records g.file_records = sorted_records (t.files.map record_of) := by
    rw [hrecords, sorted_records_eq, sorted_records_eq, t.sorted_eq hfiles]
  constructor
  -- a snapshot that exists has been scanned
  · rintro ⟨contents, -, htree_files, -⟩ f hf
    obtain ⟨-, -, -, -, -, -, -, -, hscan⟩ := ContentsFields.post_init_ok.mp contents.checked
    obtain ⟨-, -, -, -, hclean⟩ := assert_ok.mp hscan
    have hmem : f ∈ contents.tree_files := htree_files ▸ t.sorted_perm.mem_iff.mpr hf
    obtain ⟨blob, hblob, rfl⟩ := List.mem_map.mp hmem
    exact hclean (blob.path, blob.content) (List.mem_map.mpr ⟨blob, hblob, rfl⟩)
  · intro hclean
    -- every check of the claim is one that the request has passed
    have hclaim : (⟨request.owner, request.repository, request.commit_oid, request.tree_oid,
        request.content_digest, none, _ARCHIVE_EVIDENCE_ORIGIN⟩ : ClaimFields).post_init = .ok () := by
      simp [ClaimFields.post_init, howner, hrepository, hcommit, htree, hdigest,
        _validate_selected_paths,
        _ARCHIVE_EVIDENCE_ORIGIN, REMOTE_SNAPSHOT_EVIDENCE_ORIGINS]
    let claim : GitHubSnapshotClaim := ⟨_, hclaim⟩
    have hpaths : blobs.map (fun b => b.path) = (sorted_by_path t.files).map Prod.fst := by
      rw [← hfile, List.map_map]
      rfl
    have hscanned : blobs.map (fun b => (b.path, b.content)) =
        (sorted_by_path t.files).map fun f => (f.1, f.2.2) := by
      rw [← hfile, List.map_map]
      rfl
    have hbytes : (blobs.map fun b => b.content.length).sum = content_bytes t.files := by
      rw [← content_bytes_perm t.sorted_perm, ← hfile, content_bytes, List.map_map]
      rfl
    have hlength : blobs.length ≤ MAX_SNAPSHOT_FILES := by
      have hcount := t.member_count
      have hsame : blobs.length = t.files.length := by
        rw [← t.sorted_perm.length_eq, ← hfile, List.length_map]
      simp only [_MAX_ARCHIVE_MEMBERS] at hcount
      rw [hsame, MAX_SNAPSHOT_FILES]
      omega
    -- the order, the limits and the digest are those of the tree, whatever the order of the members
    have hcontents : (⟨claim, blobs, none⟩ : ContentsFields).post_init = .ok () := by
      refine ContentsFields.post_init_ok.mpr
        ⟨(by rintro _ ⟨⟩), horigins, hlength, ?_, ?_, (by rintro _ ⟨⟩), ?_, ?_, ?_⟩
      · rw [ContentsFields.paths, hpaths]
        exact List.pairwise_map.mpr t.sorted_pairwise
      · rw [ContentsFields.paths, hpaths]
        exact t.sorted_nodup
      · rw [hbytes]
        exact t.total_bytes
      · rw [hfile]
        exact content_digest_sorted hpins
      · rw [hscanned]
        exact t.scan_clean hclean
    refine ⟨⟨_, hcontents⟩, ?_, hfile, rfl⟩
    rw [build_snapshot, hsorted, hblobs, ok_bind, hfile, content_digest_sorted hpins, ok_bind,
      raise_if_ok.mpr (not_not.mpr rfl), ok_bind, hblob, tree_oid_sorted hpins, ok_bind,
      raise_if_ok.mpr (not_not.mpr rfl), ok_bind,
        snapshot_claim_ok.mpr (show claim.toClaimFields = _ from rfl),
      ok_bind, snapshot_contents_ok]

end Build

/-! ## The round trip -/

section RoundTrip

variable {root : String} {t : FileTree} {request : GitHubArchiveSnapshotRequest}
  {getmembers : Bytes → Except Exn (List TarMember)} {archive_bytes : Bytes} {members : List TarMember}

/-- What the entries of an archive are read as. -/
def gathered (root : String) (l : List Entry) : Gathered :=
  l.foldl (Gathered.add root) ⟨[], [], [], 0⟩

theorem read_members_ok (hroot : RootName root) (hpins : Pins request t)
    (hread : getmembers archive_bytes = .ok members) {l : List Entry} (hl : l.Perm t.entries)
    (hm : List.Forall₂ (Describes root) l members) (hfree : root ∉ t.paths ∧ root ∉ t.directories) :
    read_members getmembers request archive_bytes = .ok (gathered root l) := by
  have hfits : ∀ e ∈ l, Fits e := fun e he => t.fits e (hl.mem_iff.mp he)
  have hfiles : (files_in l).Perm t.files := by
    rw [← t.files_in_entries]
    exact hl.filterMap _
  have hcount : members.length ≤ _MAX_ARCHIVE_MEMBERS := by
    have hlength := t.member_count
    have hentries : t.entries.length = 1 + t.directories.length + t.files.length := by
      simp [FileTree.entries]
      omega
    rw [← hm.length_eq, hl.length_eq, hentries]
    exact hlength
  have hnonempty : members ≠ [] := by
    rintro rfl
    have hlength := hm.length_eq.symm.trans hl.length_eq
    simp [FileTree.entries] at hlength
  have hkeys : (l.map (Entry.key root)).Nodup :=
    (hl.map _).nodup_iff.mpr ((t.keys_nodup root).mpr hfree)
  rw [read_members, hread, ok_bind,
    raise_if_ok.mpr (not_or.mpr ⟨hnonempty, Nat.not_lt.mpr hcount⟩), ok_bind]
  refine run_ok hroot hfits hm hkeys ?_ ?_
  · rw [hpins.file_count, hfiles.length_eq]
    simp
  · rw [content_bytes_perm hfiles, Nat.zero_add]
    exact t.total_bytes

/-- The directories that the members declare are those above the files. -/
theorem directories_match {l : List Entry} (hl : l.Perm t.entries) (hfree : root ∉ t.directories) :
    (gathered root l).declared_directories.toFinset =
      (gathered root l).required_directories.toFinset := by
  have hne : l ≠ [] := by
    rintro rfl
    exact absurd hl.length_eq (by simp [FileTree.entries])
  -- the root is a directory member too, and no path of the tree is its name (`hfree`)
  have hdeclared : ∀ d, d ∈ (gathered root l).declared_directories ↔ d ∈ t.directories := by
    intro d
    rw [Gathered.declared_directories, gathered, seen_of_run, roots_of_run (.inl rfl) hne]
    simp only [List.nil_append, List.mem_map, List.mem_filter, Bool.and_eq_true, decide_eq_true_eq,
      List.mem_singleton, hl.mem_iff]
    constructor
    · rintro ⟨_, ⟨⟨e, he, rfl⟩, hdir, hroot⟩, rfl⟩
      rcases List.mem_cons.mp he with rfl | he
      · exact absurd rfl hroot
      · rcases List.mem_append.mp he with hd | hf
        · obtain ⟨d, hmem, rfl⟩ := List.mem_map.mp hd
          exact hmem
        · obtain ⟨f, -, rfl⟩ := List.mem_map.mp hf
          exact nomatch hdir
    · intro hd
      refine ⟨(d, true), ⟨⟨.directory d, ?_, rfl⟩, rfl, ?_⟩, rfl⟩
      · exact List.mem_cons_of_mem _ (List.mem_append_left _ (List.mem_map_of_mem hd))
      · rintro rfl
        exact hfree hd
  have hrequired : ∀ d, d ∈ (gathered root l).required_directories ↔ d ∈ t.directories := by
    intro d
    have hfiles : ∀ f, f ∈ files_in l ↔ f ∈ t.files := by
      intro f
      rw [← t.files_in_entries]
      exact (hl.filterMap _).mem_iff
    rw [Gathered.required_directories, gathered, records_of_run, FileTree.directories,
      GitHubSnapshot.directories, List.mem_dedup]
    simp only [List.nil_append, List.mem_flatMap, List.mem_map, exists_exists_and_eq_and, hfiles,
      record_of,
      blob_of]
  ext d
  rw [List.mem_toFinset, List.mem_toFinset, hdeclared, hrequired]

/-- An archive that is read has no entry with the name of the root. -/
theorem free_of_read (hroot : RootName root) (hread : getmembers archive_bytes = .ok members)
    {l : List Entry} (hl : l.Perm t.entries) (hm : List.Forall₂ (Describes root) l members)
    {g : Gathered} (h : read_members getmembers request archive_bytes = .ok g) :
    root ∉ t.paths ∧ root ∉ t.directories := by
  rw [read_members, hread, ok_bind, raise_if_bind] at h
  have hkeys := run_nodup (g := ⟨[], [], [], 0⟩) hroot (fun e he => t.fits e (hl.mem_iff.mp he)) hm
    List.nodup_nil h.2
  exact (t.keys_nodup root).mp ((hl.map _).nodup_iff.mp hkeys)

/-- **The archive of a tree is read back** exactly if no entry of the tree has the
name of the root and no file has credential-shaped content. -/
theorem archive_round_trip (t : FileTree) (hroot : RootName root) (hpins : Pins request t)
    (hbytes : archive_bytes ≠ [] ∧ archive_bytes.length ≤ _MAX_ARCHIVE_BYTES)
    (hread : getmembers archive_bytes = .ok members) (harchive : ArchiveOf root t members) :
    (∃ contents, parse_github_archive_snapshot getmembers request archive_bytes = .ok contents ∧
        contents.tree_files = sorted_by_path t.files ∧ contents.claim.tree_oid = request.tree_oid) ↔
      (root ∉ t.paths ∧ root ∉ t.directories) ∧ ∀ f ∈ t.files, is_clean f.2.2 = true := by
  obtain ⟨l, hl, hm⟩ := harchive
  have hfiles : (files_in l).Perm t.files := by
    rw [← t.files_in_entries]
    exact hl.filterMap _
  have hrecords : (gathered root l).file_records = (files_in l).map record_of := records_of_run l _
  have hbuild := build_snapshot_ok hpins hrecords hfiles
  constructor
  · rintro ⟨contents, hparse, htree⟩
    simp only [parse_github_archive_snapshot, raise_if_bind, bind_ok (x := reraise _ _ _),
      reraise_ok] at hparse
    obtain ⟨-, g, hmembers, -, -, hsnapshot⟩ := hparse
    -- two members of one name are refused, so a path that is the root's name shows here
    have hfree := free_of_read hroot hread hl hm hmembers
    rw [read_members_ok hroot hpins hread hl hm hfree, Except.ok.injEq] at hmembers
    subst hmembers
    exact ⟨hfree, hbuild.mp ⟨contents, hsnapshot, htree⟩⟩
  · rintro ⟨hfree, hclean⟩
    obtain ⟨contents, hsnapshot, htree⟩ := hbuild.mpr hclean
    have hne : l ≠ [] := by
      rintro rfl
      exact absurd hl.length_eq (by simp [FileTree.entries])
    have hroots : (gathered root l).roots = [root] := roots_of_run (.inl rfl) hne
    have hshape : ¬ ((gathered root l).roots.length ≠ 1 ∨
        ((gathered root l).file_records.length : ℤ) ≠ request.file_count) := by
      rw [hroots, hrecords, hpins.file_count, List.length_map, hfiles.length_eq]
      simp
    refine ⟨contents, ?_, htree⟩
    rw [parse_github_archive_snapshot, raise_if_ok.mpr (not_or.mpr ⟨hbytes.1, Nat.not_lt.mpr hbytes.2⟩),
      ok_bind, reraise_ok.mpr (read_members_ok hroot hpins hread hl hm hfree), ok_bind,
      raise_if_ok.mpr hshape, ok_bind, raise_if_ok.mpr
        (not_not.mpr (directories_match hl hfree.2)), ok_bind,
      reraise_ok.mpr hsnapshot]

end RoundTrip

/-! ### A tree with a directory -/

/-- The tree with an empty file `a` and an executable file `run` in a directory `b`. -/
def sample_tree : FileTree where
  files := [("a", "100644", []), ("b/run", "100755", [0x78])]
  nonempty := nofun
  safe := by decide
  mode := by decide
  nodup := by decide
  no_conflict := by decide
  safe_directories := by decide
  member_count := by decide
  file_bytes := by decide
  total_bytes := by decide

/-- The directory `b` of that tree. -/
def sample_subdirectory : Directory := [("run", .blob "100755" (git_blob_oid [0x78]))]

/-- The root directory of that tree. -/
def sample_directory : Directory :=
  [("a", .blob "100644" (git_blob_oid [])), ("b", .tree sample_subdirectory)]

/-- The pins of the tree. -/
def sample_request : GitHubArchiveSnapshotRequest where
  owner := "owner"
  repository := "repository"
  commit_oid := "6e206655af2658cd3af20efc1830cfe9ac52c419"
  tree_oid := git_hash (child_nodes sample_directory)
  content_digest := sha256_bytes (canonical_bytes (entries_json SNAPSHOT_DIGEST_CANONICALIZATION
    ((sorted_by_path sample_tree.files).map TreeFile.entry)))
  file_count := 2
  checked := RequestFields.post_init_ok.mpr ⟨by decide, by decide, by decide, is_oid_hexdigest _,
    is_digest_sha256_bytes _, by decide, by decide⟩

theorem sample_subdirectory_good : GoodDirectory sample_subdirectory := by
  refine ⟨by decide, ?_, fun n m o hmem => ?_, ?_, ?_⟩
  · simp [sample_subdirectory]
  · have heq := Prod.mk.inj (List.mem_singleton.mp hmem)
    obtain ⟨rfl, rfl⟩ := Node.blob.inj heq.2
    exact ⟨by decide, is_oid_hexdigest _⟩
  · simp [sample_subdirectory]
  · simp [sample_subdirectory]

theorem sample_directory_good : GoodDirectory sample_directory := by
  refine ⟨by decide, ?_, fun n m o hmem => ?_, ?_, fun n es hmem => ?_⟩
  · simp [sample_directory]
  · obtain ⟨-, rfl, rfl⟩ : n = "a" ∧ m = "100644" ∧ o = git_blob_oid [] := by
      simpa [sample_directory] using hmem
    exact ⟨by decide, is_oid_hexdigest _⟩
  · simp [sample_directory, sample_subdirectory]
  · obtain ⟨-, rfl⟩ : n = "b" ∧ es = sample_subdirectory := by simpa [sample_directory] using hmem
    exact sample_subdirectory_good

theorem sample_pins : Pins sample_request sample_tree where
  tree_oid := ⟨sample_directory, sample_directory_good, fun _ => Iff.rfl, rfl⟩
  content_digest := entries_digest_ok _ _
  file_count := rfl

/-- The members of the tree's archive under a root. -/
def sample_members (root : String) : List TarMember :=
  [⟨root, true, false, 0, 0o755, .ok none⟩,
    ⟨member_path root "a", false, true, 0, 0o644, .ok (some [])⟩,
    ⟨member_path root "b", true, false, 0, 0o755, .ok none⟩,
    ⟨member_path root "b/run", false, true, 1, 0o755, .ok (some [0x78])⟩]

/-- A name without a slash is a directory's name. -/
theorem directory_name_self (path : String) : DirectoryName path path :=
  ⟨0, by rw [List.replicate_zero, List.append_nil, String.ofList_toList]⟩

theorem sample_archive (root : String) : ArchiveOf root sample_tree (sample_members root) := by
  -- The writer goes through the tree in its own order: the directory comes after `a`.
  refine ⟨[.root, .file ("a", "100644", []), .directory "b", .file ("b/run", "100755", [0x78])],
    .cons _ (.swap _ _ _), .cons ⟨rfl, directory_name_self _⟩ (.cons ?_
      (.cons ⟨rfl, directory_name_self _⟩ (.cons ?_ .nil)))⟩
  · have hmode : (0 : ℤ) ≤ 0o644 ∧ (0o644 : ℤ) ≤ 0o777 := by decide
    have hplain : (0o644 : ℤ).toNat &&& 0o111 ≠ 0 ↔ "100644" = "100755" := by decide
    exact ⟨rfl, rfl, rfl, rfl, rfl, hmode.1, hmode.2, hplain⟩
  · have hmode : (0 : ℤ) ≤ 0o755 ∧ (0o755 : ℤ) ≤ 0o777 := by decide
    have hrun : (0o755 : ℤ).toNat &&& 0o111 ≠ 0 ↔ "100755" = "100755" := by decide
    exact ⟨rfl, rfl, rfl, rfl, rfl, hmode.1, hmode.2, hrun⟩

/-- The archive under the root `r`, a tar of four headers and one block of content. -/
def archive_r : Bytes :=
  [31, 139, 8, 0, 0, 0, 0, 0, 2, 3, 237, 211, 61, 14, 128, 32, 12, 134, 225, 30, 133, 27, 80, 126,
    74, 207, 131, 7, 112, 168, 146, 120, 124, 137, 35, 113, 113, 176, 154, 208, 103, 41, 27, 195,
    155, 79, 60, 188, 14, 59, 38, 186, 110, 55, 222, 155, 119, 137, 88, 192, 17, 40, 104, 219, 94,
    165, 127, 9, 115, 18, 95, 85, 250, 151, 156, 159, 244, 79, 137, 193, 161, 245, 87, 232, 191,
    248, 31, 238, 63, 71, 182, 253, 107, 245, 151, 182, 126, 220, 63, 12, 253, 57, 16, 218, 254, 53,
    28, 96, 140, 49, 102, 70, 39, 166, 207, 20, 52, 0, 14, 0, 0]

/-- The archive under the root `a`. -/
def archive_a : Bytes :=
  [31, 139, 8, 0, 0, 0, 0, 0, 2, 3, 237, 211, 49, 14, 128, 32, 12, 133, 225, 30, 133, 27, 64, 149,
    150, 243, 224, 1, 28, 80, 18, 143, 47, 113, 36, 46, 14, 86, 19, 222, 183, 148, 141, 225, 207,
    203, 158, 94, 23, 154, 36, 114, 221, 166, 191, 55, 111, 101, 21, 114, 66, 6, 234, 182, 231, 210,
    190, 164, 49, 101, 159, 77, 250, 107, 140, 79, 250, 207, 172, 228, 2, 250, 27, 244, 95, 252, 15,
    247, 31, 131, 98, 255, 86, 253, 75, 93, 63, 238, 207, 93, 255, 196, 83, 194, 254, 45, 28, 4, 0,
    0, 35, 58, 1, 118, 155, 7, 83, 0, 14, 0, 0]

/-- What `tarfile` reads from these archives. -/
def sample_getmembers (archive_bytes : Bytes) : Except Exn (List TarMember) :=
  if archive_bytes = archive_r then .ok (sample_members "r")
  else if archive_bytes = archive_a then .ok (sample_members "a")
  else .error ⟨.ValueError, "not a tar archive"⟩

theorem sample_clean : ∀ f ∈ sample_tree.files, is_clean f.2.2 = true := by decide

/-- The archive under `r` is read back. -/
theorem sample_round_trip :
    ∃ contents, parse_github_archive_snapshot sample_getmembers sample_request archive_r =
      .ok contents ∧
        contents.tree_files = sorted_by_path sample_tree.files ∧
        contents.claim.tree_oid = sample_request.tree_oid :=
  (archive_round_trip sample_tree ⟨by decide, by decide, by decide⟩ sample_pins
    ⟨by decide, by decide⟩ (if_pos rfl) (sample_archive "r")).mpr
    ⟨⟨by decide, by decide⟩, sample_clean⟩

/-- The archive under `a` is refused: the file has the name of the root. -/
theorem root_name_refused :
    sample_getmembers archive_a = .ok (sample_members "a") ∧
      ArchiveOf "a" sample_tree (sample_members "a") ∧ Pins sample_request sample_tree ∧
      ¬ ∃ contents, parse_github_archive_snapshot sample_getmembers sample_request archive_a =
        .ok contents := by
  have hread : sample_getmembers archive_a = .ok (sample_members "a") := by
    rw [sample_getmembers, if_neg (by decide), if_pos rfl]
  refine ⟨hread, sample_archive "a", sample_pins, ?_⟩
  rintro ⟨contents, hparse⟩
  simp only [parse_github_archive_snapshot, raise_if_bind, bind_ok (x := reraise _ _ _),
    reraise_ok] at hparse
  obtain ⟨-, g, hmembers, -⟩ := hparse
  obtain ⟨l, hl, hm⟩ := sample_archive "a"
  have hfree := free_of_read ⟨by decide, by decide, by decide⟩ hread hl hm hmembers
  exact hfree.1 List.mem_cons_self

end AppContracts.ArchiveReader
