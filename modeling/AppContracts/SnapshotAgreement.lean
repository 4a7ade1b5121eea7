/-
One snapshot, three digests.

A written snapshot is a directory whose files are the files of the contents, in
whatever order they are visited (`Lays`). Each layer that reads it then accepts
under a condition on paths and sizes, and what it digests is the same list.
-/
import AppContracts.SnapshotWorkspace

set_option autoImplicit false

namespace AppContracts.GitHubSnapshot

open SecretScan

/-! ## Files in order -/

/-- A list with distinct keys has one order. -/
theorem sort_by_key {α : Type} {key : α → String} {l l' : List α} (h : l.Perm l')
    (hkeys : (l'.map key).Nodup) (hsorted : l'.Pairwise fun a b => key a ≤ key b) :
    l.insertionSort (fun a b => key a ≤ key b) = l' := by
  have htrans : IsTrans α fun a b => key a ≤ key b := ⟨fun _ _ _ => String.le_trans⟩
  have htotal : Std.Total fun a b : α => key a ≤ key b := ⟨fun a b => String.le_total (key a) (key b)⟩
  have hperm : (l.insertionSort fun a b => key a ≤ key b).Perm l' :=
    (List.perm_insertionSort _ l).trans h
  refine List.Perm.eq_of_pairwise ?_ (List.pairwise_insertionSort _ l) hsorted hperm
  intro a b ha hb hab hba
  have hkey : key a = key b := String.le_antisymm hab hba
  exact List.inj_on_of_nodup_map hkeys (hperm.mem_iff.mp ha) hb hkey

section Order

variable {files files' : List TreeFile} (hpaths : (files.map Prod.fst).Nodup)
  (hsorted : files.Pairwise fun a b => a.1 ≤ b.1)

include hpaths hsorted

theorem sorted_by_path_perm (h : files'.Perm files) : sorted_by_path files' = files :=
  sort_by_key h hpaths hsorted

/-- Describing files and sorting commute. -/
theorem sorted_entries_perm (h : files'.Perm files) :
    sorted_entries (files'.map TreeFile.entry) = files.map TreeFile.entry := by
  refine sort_by_key (h.map _) ?_ ?_
  · rw [List.map_map]
    exact hpaths
  · exact List.pairwise_map.mpr hsorted

/-- **One digest**, whichever way the files are sorted. -/
theorem content_digest_eq (h : files'.Perm files) :
    verifier_snapshot_tree_digest files' = _snapshot_content_digest files := by
  rw [verifier_snapshot_tree_digest, _snapshot_content_digest, sorted_entries_perm hpaths hsorted h,
    sorted_by_path_perm hpaths hsorted (List.Perm.refl _)]

end Order

/-! ## A written snapshot -/

/-- The file an entry is. -/
def DiskEntry.file? (e : DiskEntry) : Option TreeFile :=
  match e.kind with
  | .regular content => some (e.path, mode_of e.permissions, content)
  | _ => none

/-- An entry that is a file or a directory. -/
def DiskEntry.Plain (e : DiskEntry) : Prop := e.kind = .directory ∨ e.file?.isSome

/-- The disk holds the files, and directories. -/
structure Lays (files : List TreeFile) (disk : Disk) : Prop where
  files : (disk.filterMap DiskEntry.file?).Perm files
  plain : ∀ e ∈ disk, e.Plain

theorem Lays.perm {files : List TreeFile} {disk walk : Disk} (h : Lays files disk)
    (hwalk : walk.Perm disk) : Lays files walk where
  files := (hwalk.filterMap _).trans h.files
  plain e he := h.plain e (hwalk.mem_iff.mp he)

theorem make_directories_lays {directories : List String} {files : List TreeFile} {disk disk' : Disk}
    (h : make_directories directories disk = some disk') (hlays : Lays files disk) :
    Lays files disk' := by
  induction directories generalizing disk with
  | nil =>
    obtain rfl := Option.some.inj h
    exact hlays
  | cons directory rest ih =>
    unfold make_directories at h
    cases hat : disk.at_path directory with
    | none =>
      rw [hat] at h
      refine ih h ⟨?_, ?_⟩
      · have hnone : [(⟨directory, 0o700, .directory⟩ : DiskEntry)].filterMap DiskEntry.file? = [] := rfl
        rw [List.filterMap_append, hnone, List.append_nil]
        exact hlays.files
      · refine List.forall_mem_append.mpr ⟨hlays.plain, ?_⟩
        simp [DiskEntry.Plain]
    | some e =>
      simp only [hat] at h
      split_ifs at h
      exact ih h hlays

/-- Permissions keep the mode. -/
theorem mode_of_written {mode : String} (h : mode ∈ BLOB_MODES) :
    mode_of (permissions_of mode) = mode := by
  rcases List.mem_pair.mp h with rfl | rfl <;> rfl

theorem write_file_lays {f : TreeFile} {files : List TreeFile} {disk disk' : Disk}
    (h : write_file f disk = some disk') (hmode : f.2.1 ∈ BLOB_MODES) (hlays : Lays files disk) :
    Lays (files ++ [f]) disk' := by
  unfold write_file at h
  obtain ⟨made, hmade, h⟩ := Option.bind_eq_some_iff.mp h
  split_ifs at h
  obtain rfl := Option.some.inj h
  have hmade := make_directories_lays hmade hlays
  have hfile : [(⟨f.1, permissions_of f.2.1, .regular f.2.2⟩ : DiskEntry)].filterMap
      DiskEntry.file? = [f] := by
    show [(f.1, mode_of (permissions_of f.2.1), f.2.2)] = [f]
    rw [mode_of_written hmode]
  refine ⟨?_, ?_⟩
  · rw [List.filterMap_append, hfile]
    exact hmade.files.append_right _
  · refine List.forall_mem_append.mpr ⟨hmade.plain, ?_⟩
    simp [DiskEntry.Plain, DiskEntry.file?]

theorem write_files_lays {more files : List TreeFile} {disk disk' : Disk}
    (h : write_files more disk = some disk') (hmode : ∀ f ∈ more, f.2.1 ∈ BLOB_MODES)
    (hlays : Lays files disk) : Lays (files ++ more) disk' := by
  induction more generalizing files disk with
  | nil =>
    obtain rfl := Option.some.inj h
    rwa [List.append_nil]
  | cons f rest ih =>
    rw [List.forall_mem_cons] at hmode
    obtain ⟨written, hwritten, h⟩ := Option.bind_eq_some_iff.mp h
    have hrest := ih h hmode.2 (write_file_lays hwritten hmode.1 hlays)
    rwa [List.append_assoc] at hrest

/-! ## The loops over a walk -/

section Walks

variable {walk : List DiskEntry}

/-- An entry that is a file. -/
theorem file?_regular {e : DiskEntry} {f : TreeFile} (h : e.file? = some f) :
    ∃ permissions, e = ⟨f.1, permissions, .regular f.2.2⟩ ∧ mode_of permissions = f.2.1 := by
  obtain ⟨path, permissions, kind⟩ := e
  unfold DiskEntry.file? at h
  cases kind with
  | regular content =>
    obtain rfl := Option.some.inj h
    exact ⟨permissions, rfl, rfl⟩
  | _ => cases h

/-- A walk over files and directories is one file after the other. -/
theorem plain_cons {e : DiskEntry} {rest : List DiskEntry} (h : ∀ d ∈ e :: rest, d.Plain) :
    (∀ d ∈ rest, d.Plain) ∧ ((∃ path permissions, e = ⟨path, permissions, .directory⟩ ∧
        (e :: rest).filterMap DiskEntry.file? = rest.filterMap DiskEntry.file?) ∨
      ∃ permissions f, e = ⟨f.1, permissions, .regular f.2.2⟩ ∧ mode_of permissions = f.2.1 ∧
        (e :: rest).filterMap DiskEntry.file? = f :: rest.filterMap DiskEntry.file?) := by
  rw [List.forall_mem_cons] at h
  refine ⟨h.2, ?_⟩
  rcases h.1 with hkind | hfile
  · obtain ⟨path, permissions, kind⟩ := e
    obtain rfl : kind = .directory := hkind
    exact .inl ⟨path, permissions, rfl, rfl⟩
  · obtain ⟨f, hf⟩ := Option.isSome_iff_exists.mp hfile
    obtain ⟨permissions, he, hmode⟩ := file?_regular hf
    refine .inr ⟨permissions, f, he, hmode, ?_⟩
    rw [List.filterMap_cons, hf]

theorem actual_files_plain (h : ∀ e ∈ walk, e.Plain) :
    actual_files walk = .ok (walk.filterMap DiskEntry.file?) := by
  induction walk with
  | nil => rfl
  | cons e rest ih =>
    obtain ⟨hrest, ⟨path, permissions, rfl, hfiles⟩ | ⟨permissions, f, rfl, hmode, hfiles⟩⟩ := plain_cons h
    · rw [hfiles]
      exact ih hrest
    · rw [hfiles]
      show (actual_files rest >>= fun files => _) = _
      rw [ih hrest, ok_bind, hmode]
      rfl

/-- A file that `compute_snapshot_tree_digest` takes. -/
def Hashable (f : TreeFile) : Prop :=
  _safe_snapshot_relative_path f.1 = .ok f.1 ∧ (utf8_bytes f.1).length ≤ MAX_SNAPSHOT_PATH_BYTES ∧
    f.2.2.length ≤ MAX_SNAPSHOT_FILE_BYTES

/-- The bytes of paths and contents. -/
def weight (files : List TreeFile) : ℕ :=
  (files.map fun f => (utf8_bytes f.1).length + f.2.2.length).sum

/-- The bytes of contents. -/
def content_bytes (files : List TreeFile) : ℕ := (files.map fun f => f.2.2.length).sum

/-- The entry of a file, with or without its mode. -/
def TreeFile.hashed (include_mode : Bool) (f : TreeFile) : DigestEntry :=
  ⟨f.1, sha256_bytes (octets f.2.2), if include_mode then some f.2.1 else none⟩

theorem safe_snapshot_relative_path_ok {value relative : String}
    (h : _safe_snapshot_relative_path value = .ok relative) : relative = value := by
  unfold _safe_snapshot_relative_path at h
  dsimp only at h
  split_ifs at h
  exact (Except.ok.inj h).symm

/-- A file adds its entry and its bytes, or is refused. -/
theorem hash_file_ok {include_mode : Bool} {permissions : ℕ} {f : TreeFile}
    (hmode : mode_of permissions = f.2.1) {t t' : Totals} :
    hash_entry include_mode ⟨f.1, permissions, .regular f.2.2⟩ t = .ok t' ↔
      Hashable f ∧ t.file_count + 1 ≤ MAX_SNAPSHOT_FILES ∧
        t.total_bytes + ((utf8_bytes f.1).length + f.2.2.length) ≤ MAX_SNAPSHOT_TOTAL_BYTES ∧
        t' = ⟨t.entries ++ [f.hashed include_mode], t.file_count + 1,
          t.total_bytes + ((utf8_bytes f.1).length + f.2.2.length)⟩ := by
  rw [hash_entry, bind_ok]
  constructor
  · rintro ⟨relative, hpath, h⟩
    obtain rfl := safe_snapshot_relative_path_ok hpath
    dsimp only at h hpath
    split_ifs at h with hlimit
    obtain rfl := Except.ok.inj h
    simp only [not_or, not_lt] at hlimit
    refine ⟨⟨hpath, hlimit.2.1, hlimit.2.2.1⟩, hlimit.1, hlimit.2.2.2, ?_⟩
    rw [hashed_entry, hmode]
    rfl
  · rintro ⟨⟨hpath, hbytes, hsize⟩, hcount, htotal, rfl⟩
    refine ⟨f.1, hpath, ?_⟩
    rw [if_neg (by omega), hashed_entry, hmode]
    rfl

/-- **The loop takes a walk** exactly if every file fits and the totals stay within
their limits. -/
theorem hash_entries_ok (h : ∀ e ∈ walk, e.Plain) {include_mode : Bool} {t t' : Totals}
    (hcount : t.file_count ≤ MAX_SNAPSHOT_FILES) (htotal : t.total_bytes ≤ MAX_SNAPSHOT_TOTAL_BYTES) :
    hash_entries include_mode walk t = .ok t' ↔
      (∀ f ∈ walk.filterMap DiskEntry.file?, Hashable f) ∧
      t.file_count + (walk.filterMap DiskEntry.file?).length ≤ MAX_SNAPSHOT_FILES ∧
      t.total_bytes + weight (walk.filterMap DiskEntry.file?) ≤ MAX_SNAPSHOT_TOTAL_BYTES ∧
      t' = ⟨t.entries ++ (walk.filterMap DiskEntry.file?).map (TreeFile.hashed include_mode),
        t.file_count + (walk.filterMap DiskEntry.file?).length,
        t.total_bytes + weight (walk.filterMap DiskEntry.file?)⟩ := by
  -- on the walk; directories are passed over, a file adds its entry and its bytes
  induction walk generalizing t with
  | nil =>
    simp only [hash_entries, List.filterMap_nil, List.not_mem_nil, false_imp_iff, implies_true,
      List.length_nil, Nat.add_zero, weight, List.map_nil, List.sum_nil, List.append_nil, true_and,
      Except.ok.injEq]
    constructor
    · rintro rfl
      exact ⟨hcount, htotal, rfl⟩
    · rintro ⟨-, -, rfl⟩
      rfl
  | cons e rest ih =>
    obtain ⟨hrest, ⟨path, permissions, rfl, hfiles⟩ | ⟨permissions, f, rfl, hmode, hfiles⟩⟩ := plain_cons h
    · rw [hfiles]
      exact ih hrest hcount htotal
    · have hweight : weight (f :: rest.filterMap DiskEntry.file?) =
          (utf8_bytes f.1).length + f.2.2.length + weight (rest.filterMap DiskEntry.file?) := by
        rw [weight, List.map_cons, List.sum_cons]
        rfl
      rw [hfiles, hash_entries, bind_ok, hweight, List.forall_mem_cons, List.length_cons, List.map_cons]
      constructor
      · rintro ⟨t₁, hfile, hloop⟩
        obtain ⟨hfit, hcount₁, htotal₁, rfl⟩ := (hash_file_ok hmode).mp hfile
        obtain ⟨hall, hlength, hbytes, rfl⟩ := (ih hrest hcount₁ htotal₁).mp hloop
        dsimp only at hlength hbytes
        refine ⟨⟨hfit, hall⟩, by omega, by omega, ?_⟩
        simp only [Totals.mk.injEq, List.append_assoc, List.singleton_append, true_and]
        omega
      · rintro ⟨⟨hfit, hall⟩, hlength, hbytes, rfl⟩
        have hcount₁ : t.file_count + 1 ≤ MAX_SNAPSHOT_FILES := by omega
        have htotal₁ : t.total_bytes + ((utf8_bytes f.1).length + f.2.2.length) ≤
            MAX_SNAPSHOT_TOTAL_BYTES := by omega
        refine ⟨_, (hash_file_ok hmode).mpr ⟨hfit, hcount₁, htotal₁, rfl⟩, ?_⟩
        refine (ih hrest hcount₁ htotal₁).mpr ⟨hall, ?_, ?_, ?_⟩
        · dsimp only
          omega
        · dsimp only
          omega
        · simp only [Totals.mk.injEq, List.append_assoc, List.singleton_append, true_and]
          omega

/-- A file that the verifier's reader takes. -/
def Readable (f : TreeFile) : Prop :=
  _is_safe_relative_path f.1 = true ∧ (utf8_bytes f.1).length ≤ MAX_VERIFIER_SNAPSHOT_PATH_BYTES ∧
    f.2.2.length ≤ MAX_VERIFIER_SNAPSHOT_FILE_BYTES

/-- **The verifier's loop takes a walk** exactly if every file fits and the totals
stay within their limits. -/
theorem collect_files_some (h : ∀ e ∈ walk, e.Plain) {collected result : List TreeFile} {total : ℕ}
    (hcount : collected.length ≤ MAX_VERIFIER_SNAPSHOT_FILES)
    (htotal : total ≤ MAX_VERIFIER_SNAPSHOT_TOTAL_BYTES) :
    collect_files walk collected total = some result ↔
      (∀ f ∈ walk.filterMap DiskEntry.file?, Readable f) ∧
      collected.length + (walk.filterMap DiskEntry.file?).length ≤ MAX_VERIFIER_SNAPSHOT_FILES ∧
      total + content_bytes (walk.filterMap DiskEntry.file?) ≤ MAX_VERIFIER_SNAPSHOT_TOTAL_BYTES ∧
      result = collected ++ walk.filterMap DiskEntry.file? := by
  -- on the walk, with the files collected so far
  induction walk generalizing collected total with
  | nil =>
    simp only [collect_files, List.filterMap_nil, List.not_mem_nil, false_imp_iff, implies_true,
      List.length_nil, Nat.add_zero, content_bytes, List.map_nil, List.sum_nil, List.append_nil,
      true_and, Option.some.injEq]
    constructor
    · rintro rfl
      exact ⟨hcount, htotal, rfl⟩
    · rintro ⟨-, -, rfl⟩
      rfl
  | cons e rest ih =>
    obtain ⟨hrest, ⟨path, permissions, rfl, hfiles⟩ | ⟨permissions, f, rfl, hmode, hfiles⟩⟩ := plain_cons h
    · rw [hfiles]
      exact ih hrest hcount htotal
    · have hbytes : content_bytes (f :: rest.filterMap DiskEntry.file?) =
          f.2.2.length + content_bytes (rest.filterMap DiskEntry.file?) := by
        rw [content_bytes, List.map_cons, List.sum_cons]
        rfl
      rw [hfiles, collect_files, hbytes, List.forall_mem_cons, List.length_cons, hmode]
      dsimp only
      by_cases hfit : _is_safe_relative_path f.1 = true ∧
          (utf8_bytes f.1).length ≤ MAX_VERIFIER_SNAPSHOT_PATH_BYTES ∧
          f.2.2.length ≤ MAX_VERIFIER_SNAPSHOT_FILE_BYTES ∧
          collected.length + 1 ≤ MAX_VERIFIER_SNAPSHOT_FILES ∧
          total + f.2.2.length ≤ MAX_VERIFIER_SNAPSHOT_TOTAL_BYTES
      · obtain ⟨hsafe, hpath, hsize, hcount₁, htotal₁⟩ := hfit
        have hlength : (collected ++ [f]).length ≤ MAX_VERIFIER_SNAPSHOT_FILES := by
          rw [List.length_append, List.length_singleton]
          exact hcount₁
        rw [hsafe, if_neg (by simp only [Bool.true_eq_false, false_or]; omega), ih hrest hlength htotal₁,
          List.append_assoc, List.singleton_append, List.length_append, List.length_singleton]
        constructor
        · rintro ⟨hall, hn, hb, rfl⟩
          exact ⟨⟨⟨hsafe, hpath, hsize⟩, hall⟩, by omega, by omega, rfl⟩
        · rintro ⟨⟨-, hall⟩, hn, hb, rfl⟩
          exact ⟨hall, by omega, by omega, rfl⟩
      · constructor
        -- the limits are checked with the file that is about to be added
        · intro hloop
          split_ifs at hloop with hlimit
          simp only [not_or, not_lt, Bool.not_eq_false] at hlimit
          exact absurd ⟨hlimit.1, hlimit.2.1, hlimit.2.2.1, by omega, hlimit.2.2.2.2⟩ hfit
        · rintro ⟨⟨hread, -⟩, hn, hb, -⟩
          exact absurd ⟨hread.1, hread.2.1, hread.2.2, by omega, by omega⟩ hfit

end Walks

/-! ## Paths -/

section Paths

variable {path : String}

/-- The parts of a path with a slash in it. -/
theorem split_at_slash {front back : List Char} (h : path.toList = front ++ '/' :: back) :
    split_path path = split_path (String.ofList front) ++ split_path (String.ofList back) := by
  rw [split_path, split_path, split_path, h, String.toList_ofList, String.toList_ofList,
    List.splitOn_append_cons_self, List.map_append]

/-- What a safe tree path is. -/
theorem safe_tree_path_ok (h : safe_tree_path path = true) :
    path ≠ "" ∧ path = strip path ∧ '\\' ∉ path.toList ∧ (∀ c ∈ path.toList, is_control c = false) ∧
      (∀ p ∈ split_path path, plain_part p = true) ∧
      (utf8_bytes path).length ≤ MAX_SNAPSHOT_PATH_BYTES := by
  simp only [safe_tree_path, Bool.and_eq_true, bne_iff_ne, beq_iff_eq, Bool.not_eq_true',
    List.contains_eq_mem, decide_eq_false_iff_not, List.any_eq_false, Bool.not_eq_true,
    List.all_eq_true, decide_eq_true_eq] at h
  obtain ⟨⟨⟨⟨⟨⟨⟨hne, hstrip⟩, -⟩, hback⟩, -⟩, hcontrol⟩, hparts⟩, hbytes⟩ := h
  exact ⟨hne, hstrip, hback, hcontrol, hparts, hbytes⟩

/-- No part is empty, so no slash starts, ends or follows another. -/
theorem plain_ne_empty (h : ∀ p ∈ split_path path, plain_part p = true) : "" ∉ split_path path := by
  intro hmem
  exact absurd (h _ hmem) (by decide)

theorem plain_ne_dot (h : ∀ p ∈ split_path path, plain_part p = true) : "." ∉ split_path path := by
  intro hmem
  exact absurd (h _ hmem) (by decide)

theorem plain_ne_dotdot (h : ∀ p ∈ split_path path, plain_part p = true) :
    ".." ∉ split_path path := by
  intro hmem
  exact absurd (h _ hmem) (by decide)

theorem not_absolute (h : ∀ p ∈ split_path path, plain_part p = true) :
    "/".toList.isPrefixOf path.toList = false := by
  rw [Bool.eq_false_iff]
  intro hstart
  obtain ⟨rest, hrest⟩ := List.isPrefixOf_iff_prefix.mp hstart
  have hsplit := @split_at_slash path [] rest hrest.symm
  refine plain_ne_empty h ?_
  rw [hsplit]
  exact List.mem_append_left _ (by decide)

/-- A part of the path stands between two slashes. -/
theorem part_between {front back part : List Char} (hslash : '/' ∉ part)
    (h : path.toList = front ++ '/' :: (part ++ '/' :: back)) :
    String.ofList part ∈ split_path path := by
  have hpart : split_path (String.ofList part) = [String.ofList part] := by
    rw [split_path, String.toList_ofList, List.splitOn_eq_singleton hslash]
    rfl
  have hrest : (String.ofList (part ++ '/' :: back)).toList = part ++ '/' :: back :=
    String.toList_ofList
  rw [split_at_slash h, split_at_slash hrest, hpart]
  simp

/-- **The verifier's reader takes every path of a snapshot.** -/
theorem is_safe_relative_path_of_tree (h : safe_tree_path path = true) :
    _is_safe_relative_path path = true := by
  obtain ⟨hne, hstrip, hback, hcontrol, hparts, -⟩ := safe_tree_path_ok h
  -- the textual checks of the verifier are checks of the parts, which a tree path has passed
  have hdouble : ¬ "//".toList <:+: path.toList := by
    rintro ⟨front, back, heq⟩
    have hmem := @part_between path front back [] (by simp) (by rw [← heq]; simp)
    exact plain_ne_empty hparts hmem
  have hdot : ¬ "/./".toList <:+: path.toList := by
    rintro ⟨front, back, heq⟩
    have hmem := @part_between path front back ['.'] (by decide) (by rw [← heq]; simp)
    exact plain_ne_dot hparts hmem
  have hend : "/.".toList.isSuffixOf path.toList = false := by
    rw [Bool.eq_false_iff]
    intro hsuffix
    obtain ⟨front, heq⟩ := List.isSuffixOf_iff_suffix.mp hsuffix
    have hsplit := @split_at_slash path front ['.'] heq.symm
    refine plain_ne_dot hparts ?_
    rw [hsplit]
    exact List.mem_append_right _ (by decide)
  have hdotdot := plain_ne_dotdot hparts
  have hcurrent : path ≠ "." := by
    rintro rfl
    exact plain_ne_dot hparts (by decide)
  have hcontrols : path.toList.any is_control = false := by
    rw [List.any_eq_false]
    intro c hc
    rw [hcontrol c hc]
    decide
  simp only [_is_safe_relative_path, Bool.and_eq_true, bne_iff_ne, beq_iff_eq, Bool.not_eq_true',
    List.contains_eq_mem, decide_eq_false_iff_not, hcontrols, hend, not_absolute hparts]
  exact ⟨⟨⟨⟨⟨⟨⟨⟨⟨hne, hstrip⟩, trivial⟩, hback⟩, hdouble⟩, hdot⟩, trivial⟩, trivial⟩, hdotdot⟩,
    hcurrent⟩

/-- A path that stands for itself on every host: no drive or scheme in front, no
directory of Git. -/
def portable (path : String) : Bool :=
  !((split_path path).head?.any fun part => part.toList.contains ':') &&
    !(split_path path).any is_git_name

theorem as_posix_plain (hparts : ∀ p ∈ split_path path, plain_part p = true) (hne : path ≠ "") :
    as_posix path = path := by
  have hfilter : (split_path path).filter (fun part => part ≠ "" && part ≠ ".") = split_path path := by
    rw [List.filter_eq_self]
    intro p hp
    have hplain := hparts p hp
    simp only [plain_part, Bool.and_eq_true] at hplain
    simp only [Bool.and_eq_true]
    exact hplain.1
  rw [as_posix, not_absolute hparts, hfilter, join_split_path]
  simp [hne]

/-- **The digest of a directory takes a path of a snapshot** exactly if it is
portable. -/
theorem safe_snapshot_relative_path_of_tree (h : safe_tree_path path = true) :
    _safe_snapshot_relative_path path = .ok path ↔ portable path = true := by
  obtain ⟨hne, -, hback, hcontrol, hparts, -⟩ := safe_tree_path_ok h
  have hnul : Char.ofNat 0 ∉ path.toList := by
    intro hmem
    exact absurd (hcontrol _ hmem) (by decide)
  have hplain : (split_path path).any (fun part => !plain_part part) = false := by
    rw [List.any_eq_false]
    intro p hp
    rw [hparts p hp]
    decide
  simp only [_safe_snapshot_relative_path, hne, not_absolute hparts, hback, hnul, hplain,
    as_posix_plain hparts hne, portable, Bool.and_eq_true, Bool.not_eq_true', false_or, or_false,
    Bool.false_eq_true, ne_eq, not_true_eq_false]
  by_cases hcolon : ((split_path path).head?.any fun part => part.toList.contains ':') = true
  · simp
  · by_cases hgit : (split_path path).any is_git_name = true
    · simp [hgit]
    · simp [hgit]

end Paths

/-! ## Contents on disk -/

/-- The snapshots that the digest of a directory takes. -/
abbrev Local (files : List TreeFile) : Prop :=
  (∀ f ∈ files, portable f.1 = true) ∧ weight files ≤ MAX_SNAPSHOT_TOTAL_BYTES

/-- The snapshots that the verifier's reader takes. -/
abbrev Small (files : List TreeFile) : Prop :=
  files.length ≤ MAX_VERIFIER_SNAPSHOT_FILES ∧ content_bytes files ≤ MAX_VERIFIER_SNAPSHOT_TOTAL_BYTES

section Contents

variable {c : GitHubSnapshotContents}

theorem tree_files_paths (c : GitHubSnapshotContents) : c.tree_files.map Prod.fst = c.paths :=
  List.map_map

theorem tree_files_nodup (c : GitHubSnapshotContents) : (c.tree_files.map Prod.fst).Nodup := by
  rw [tree_files_paths]
  obtain ⟨-, -, -, -, hnodup, -⟩ := ContentsFields.post_init_ok.mp c.checked
  exact hnodup

theorem tree_files_sorted (c : GitHubSnapshotContents) :
    c.tree_files.Pairwise fun a b => a.1 ≤ b.1 := by
  obtain ⟨-, -, -, hsorted, -⟩ := ContentsFields.post_init_ok.mp c.checked
  rw [← tree_files_paths] at hsorted
  exact List.pairwise_map.mp hsorted

theorem tree_files_digest (c : GitHubSnapshotContents) :
    _snapshot_content_digest c.tree_files = .ok c.claim.content_digest := by
  obtain ⟨-, -, -, -, -, -, -, hdigest, -⟩ := ContentsFields.post_init_ok.mp c.checked
  exact hdigest

theorem tree_files_length (c : GitHubSnapshotContents) : c.tree_files.length ≤ MAX_SNAPSHOT_FILES := by
  rw [GitHubSnapshotContents.tree_files, List.length_map]
  obtain ⟨-, -, hlength, -⟩ := ContentsFields.post_init_ok.mp c.checked
  exact hlength

/-- Every file of contents passed the checks of its blob. -/
theorem tree_file_ok {f : TreeFile} (hf : f ∈ c.tree_files) :
    safe_tree_path f.1 = true ∧ f.2.1 ∈ BLOB_MODES ∧ f.2.2.length ≤ MAX_SNAPSHOT_FILE_BYTES := by
  obtain ⟨b, -, rfl⟩ := List.mem_map.mp hf
  obtain ⟨hpath, hmode, -, -, hsize, -⟩ := BlobFields.post_init_ok.mp b.checked
  exact ⟨hpath, hmode, hsize⟩

theorem hashable_iff {f : TreeFile} (hf : f ∈ c.tree_files) :
    Hashable f ↔ portable f.1 = true := by
  obtain ⟨hpath, -, hsize⟩ := tree_file_ok hf
  rw [Hashable, safe_snapshot_relative_path_of_tree hpath]
  exact and_iff_left ⟨(safe_tree_path_ok hpath).2.2.2.2.2, hsize⟩

theorem readable_of_tree {f : TreeFile} (hf : f ∈ c.tree_files) : Readable f := by
  obtain ⟨hpath, -, hsize⟩ := tree_file_ok hf
  exact ⟨is_safe_relative_path_of_tree hpath, (safe_tree_path_ok hpath).2.2.2.2.2, hsize⟩

theorem weight_perm {files files' : List TreeFile} (h : files.Perm files') :
    weight files = weight files' := (h.map _).sum_eq

theorem content_bytes_perm {files files' : List TreeFile} (h : files.Perm files') :
    content_bytes files = content_bytes files' := (h.map _).sum_eq

variable {walk : List DiskEntry}

/-- The digest of a directory that holds a snapshot. -/
theorem compute_digest_iff (h : Lays c.tree_files walk) {digest : String} :
    compute_snapshot_tree_digest walk true = .ok digest ↔
      Local c.tree_files ∧ digest = c.claim.content_digest := by
  have hdigest : entries_digest SNAPSHOT_DIGEST_CANONICALIZATION
      (sorted_entries ((walk.filterMap DiskEntry.file?).map (TreeFile.hashed true))) =
        .ok c.claim.content_digest :=
    (content_digest_eq (tree_files_nodup c) (tree_files_sorted c) h.files).trans (tree_files_digest c)
  have hall : (∀ f ∈ walk.filterMap DiskEntry.file?, Hashable f) ↔
      ∀ f ∈ c.tree_files, portable f.1 = true := by
    constructor
    · exact fun hall f hf => (hashable_iff hf).mp (hall f (h.files.mem_iff.mpr hf))
    · intro hall f hf
      have hmem := h.files.mem_iff.mp hf
      exact (hashable_iff hmem).mpr (hall f hmem)
  -- the number of files is bounded already by the contents
  have hcount : (walk.filterMap DiskEntry.file?).length ≤ MAX_SNAPSHOT_FILES := by
    rw [h.files.length_eq]
    exact tree_files_length c
  have hloop := fun t' => @hash_entries_ok walk h.plain true ⟨[], 0, 0⟩ t' (Nat.zero_le _) (Nat.zero_le _)
  simp only [hall, Nat.zero_add, weight_perm h.files, List.nil_append] at hloop
  rw [compute_snapshot_tree_digest, bind_ok]
  constructor
  · rintro ⟨t, ht, h⟩
    obtain ⟨hportable, -, htotal, rfl⟩ := (hloop t).mp ht
    refine ⟨⟨hportable, htotal⟩, ?_⟩
    exact Except.ok.inj (h.symm.trans hdigest)
  · rintro ⟨⟨hportable, htotal⟩, rfl⟩
    exact ⟨_, (hloop _).mpr ⟨hportable, hcount, htotal, rfl⟩, hdigest⟩

/-- The check after writing. -/
theorem verify_materialized_iff (h : Lays c.tree_files walk) {walk' : List DiskEntry}
    (h' : Lays c.tree_files walk') :
    _verify_materialized_tree walk walk' c.tree_files c.claim.content_digest = .ok () ↔
      Local c.tree_files := by
  have hsort := sorted_by_path_perm (tree_files_nodup c) (tree_files_sorted c) h.files
  rw [_verify_materialized_tree, actual_files_plain h.plain, ok_bind, if_neg (not_not.mpr hsort), bind_ok]
  constructor
  · rintro ⟨digest, hcompute, -⟩
    exact ((compute_digest_iff h').mp hcompute).1
  · intro hlocal
    refine ⟨_, (compute_digest_iff h').mpr ⟨hlocal, rfl⟩, ?_⟩
    exact if_neg (not_not.mpr rfl)

/-- The verifier's reader on a directory that holds a snapshot. -/
theorem read_pinned_iff (h : Lays c.tree_files walk) {expected : String} {files : List TreeFile} :
    _read_pinned_snapshot_files walk expected = .ok files ↔
      Small c.tree_files ∧ expected = c.claim.content_digest ∧ files = c.tree_files := by
  have hsort := sorted_by_path_perm (tree_files_nodup c) (tree_files_sorted c) h.files
  have hdigest : verifier_snapshot_tree_digest c.tree_files = .ok c.claim.content_digest :=
    (content_digest_eq (tree_files_nodup c) (tree_files_sorted c) (List.Perm.refl _)).trans
      (tree_files_digest c)
  have hall : ∀ f ∈ walk.filterMap DiskEntry.file?, Readable f :=
    fun f hf => readable_of_tree (h.files.mem_iff.mp hf)
  have hloop := fun r => @collect_files_some walk h.plain [] r 0 (Nat.zero_le _) (Nat.zero_le _)
  simp only [Nat.zero_add, List.length_nil, h.files.length_eq, content_bytes_perm h.files,
    List.nil_append] at hloop
  rw [_read_pinned_snapshot_files]
  -- the pinned reader's limits are tighter than those of the contents
  by_cases hsmall : Small c.tree_files
  · rw [(hloop _).mpr ⟨hall, hsmall.1, hsmall.2, rfl⟩]
    simp only [hsort, hdigest, Except.ok.injEq]
    constructor
    · intro hresult
      split_ifs at hresult with hexpected
      exact ⟨hsmall, hexpected.symm, (Except.ok.inj hresult).symm⟩
    · rintro ⟨-, rfl, rfl⟩
      rw [if_pos rfl]
  · have hnone : collect_files walk [] 0 = none := by
      rw [Option.eq_none_iff_forall_ne_some]
      intro r hr
      obtain ⟨-, hcount, htotal, -⟩ := (hloop r).mp hr
      exact hsmall ⟨hcount, htotal⟩
    rw [hnone]
    simp [hsmall]

/-- Closing directories changes no file. -/
theorem close_directories_lays {files : List TreeFile} {disk : Disk} (h : Lays files disk) :
    Lays files (close_directories disk) := by
  have hfile : ∀ e : DiskEntry, DiskEntry.file?
      (if e.kind = .directory then { e with permissions := 0o555 } else e) = e.file? := by
    rintro ⟨path, permissions, kind⟩
    cases kind <;> rfl
  refine ⟨?_, ?_⟩
  · rw [close_directories, List.filterMap_map, funext (f := DiskEntry.file? ∘ _) hfile]
    exact h.files
  · intro e he
    obtain ⟨d, hd, rfl⟩ := List.mem_map.mp he
    rcases h.plain d hd with hdirectory | hregular
    · rw [if_pos hdirectory]
      exact .inl hdirectory
    · exact .inr (by rw [hfile]; exact hregular)

/-- **One snapshot, one digest.** The contents are written to a directory. Every
layer that reads it, in whatever order, accepts it exactly under the layer's own
condition, and the digest it computes or demands is the one of the claim. -/
theorem snapshot_digests_agree (c : GitHubSnapshotContents) {disk : Disk}
    (hwrite : write_files c.tree_files [] = some disk) {walk : List DiskEntry}
    (hwalk : walk.Perm disk ∨ walk.Perm (close_directories disk)) :
    verifier_snapshot_tree_digest c.tree_files = .ok c.claim.content_digest ∧
    (∀ digest, compute_snapshot_tree_digest walk true = .ok digest ↔
      Local c.tree_files ∧ digest = c.claim.content_digest) ∧
    (∀ order order' : Disk → List DiskEntry, (∀ d, (order d).Perm d) → (∀ d, (order' d).Perm d) →
      (materialize_github_snapshot c order order' = .ok (close_directories disk) ↔
        Local c.tree_files)) ∧
    ∀ expected files, _read_pinned_snapshot_files walk expected = .ok files ↔
      Small c.tree_files ∧ expected = c.claim.content_digest ∧ files = c.tree_files := by
  have hdisk : Lays c.tree_files disk := by
    -- whatever the order of the walk, it lays out the same files
    have hlays := write_files_lays hwrite (fun f hf => (tree_file_ok hf).2.1) ⟨.nil, by simp⟩
    rwa [List.nil_append] at hlays
  have hlays : Lays c.tree_files walk :=
    hwalk.elim hdisk.perm (close_directories_lays hdisk).perm
  refine ⟨?_, fun digest => compute_digest_iff hlays, ?_, fun expected files => read_pinned_iff hlays⟩
  · exact (content_digest_eq (tree_files_nodup c) (tree_files_sorted c) (List.Perm.refl _)).trans
      (tree_files_digest c)
  · intro order order' horder horder'
    have hverify := verify_materialized_iff (hdisk.perm (horder disk)) (hdisk.perm (horder' disk))
    rw [← hverify, materialize_github_snapshot, hwrite]
    dsimp only
    cases _verify_materialized_tree (order disk) (order' disk) c.tree_files c.claim.content_digest with
    | ok u => simp
    | error e => simp

end Contents

/-! ### Two snapshots -/

/-- The blob of a file that is not executable. -/
def plain_blob (path : String) (content : Bytes) (hpath : safe_tree_path path = true)
    (hsize : content.length ≤ MAX_SNAPSHOT_FILE_BYTES) : GitHubBlobClaim where
  path := path
  mode := "100644"
  sha := git_blob_oid content
  size := content.length
  content := content
  content_digest := sha256_bytes (octets content)
  evidence_origin := "github_codeload_archive"
  checked := BlobFields.post_init_ok.mpr ⟨hpath, List.mem_cons_self, is_oid_hexdigest _, rfl,
    hsize, is_digest_sha256_bytes _, rfl, rfl, List.mem_cons_of_mem _ List.mem_cons_self⟩

/-- The content digest of some blobs. -/
def digest_of (files : List GitHubBlobClaim) : String :=
  sha256_bytes (canonical_bytes (entries_json SNAPSHOT_DIGEST_CANONICALIZATION
    ((sorted_by_path (files.map GitHubBlobClaim.file)).map TreeFile.entry)))

/-- A claim about some blobs. -/
def claim_of (files : List GitHubBlobClaim) : GitHubSnapshotClaim where
  owner := "owner"
  repository := "repository"
  commit_oid := "6e206655af2658cd3af20efc1830cfe9ac52c419"
  tree_oid := "45b983be36b73c0788dc9cbcb76cbb80fc7bb057"
  content_digest := digest_of files
  selected_paths := none
  evidence_origin := "github_codeload_archive"
  checked := by
    have hdigest : is_digest (digest_of files) = true := is_digest_sha256_bytes _
    have howner : is_owner "owner" = true := by decide
    have hrepository : is_repository "repository" = true := by decide
    have hcommit : is_oid "6e206655af2658cd3af20efc1830cfe9ac52c419" = true := by decide
    have htree : is_oid "45b983be36b73c0788dc9cbcb76cbb80fc7bb057" = true := by decide
    simp only [ClaimFields.post_init, guard_ok, howner, hrepository, hcommit, htree, hdigest]
    exact ⟨by decide, by decide, by decide, by decide, by decide, rfl⟩

/-- Contents of some blobs. -/
def contents_of (files : List GitHubBlobClaim)
    (horigin : ∀ b ∈ files, b.evidence_origin = "github_codeload_archive")
    (hlength : files.length ≤ MAX_SNAPSHOT_FILES)
    (hpaths : (files.map fun b => b.path).Pairwise (· ≤ ·) ∧ (files.map fun b => b.path).Nodup)
    (htotal : (files.map fun b => b.content.length).sum ≤ MAX_SNAPSHOT_TOTAL_BYTES)
    (hscan : assert_no_credential_pattern_content (files.map fun b => (b.path, b.content)) = .ok ()) :
    GitHubSnapshotContents where
  claim := claim_of files
  files := files
  verified_commit_object := none
  checked := ContentsFields.post_init_ok.mpr ⟨by simp, horigin, hlength, hpaths.1, hpaths.2,
    by simp [claim_of], htotal, entries_digest_ok _ _, hscan⟩

/-- A snapshot of one small file. -/
def small_snapshot : GitHubSnapshotContents :=
  contents_of [plain_blob "a/b" (encode_utf8 "hi\n") (by decide) (by decide)] (by decide) (by decide)
    (by decide) (by decide) (by decide +kernel)

/-- The small snapshot on disk. -/
def small_disk : Disk :=
  [⟨"a", 0o700, .directory⟩, ⟨"a/b", 0o444, .regular (encode_utf8 "hi\n")⟩]

/-- Every layer takes the small snapshot, visited backwards. -/
theorem small_snapshot_agrees :
    compute_snapshot_tree_digest small_disk.reverse true = .ok small_snapshot.claim.content_digest ∧
      _read_pinned_snapshot_files small_disk.reverse small_snapshot.claim.content_digest =
        .ok small_snapshot.tree_files := by
  have hwrite : write_files small_snapshot.tree_files [] = some small_disk := by decide +kernel
  have hlocal : Local small_snapshot.tree_files := by decide +kernel
  have hsmall : Small small_snapshot.tree_files := by decide +kernel
  obtain ⟨-, hcompute, -, hread⟩ :=
    snapshot_digests_agree small_snapshot hwrite (.inl (List.reverse_perm small_disk))
  exact ⟨(hcompute _).mpr ⟨hlocal, rfl⟩, (hread _ _).mpr ⟨hsmall, rfl, rfl⟩⟩

/-- A snapshot of two files with one content. -/
def large_snapshot (content : Bytes) (hsize : content.length ≤ MAX_SNAPSHOT_FILE_BYTES)
    (hclean : is_clean content = true) : GitHubSnapshotContents :=
  contents_of [plain_blob "a" content (by decide) hsize, plain_blob "b" content (by decide) hsize]
    (List.forall_mem_cons.mpr ⟨rfl, List.forall_mem_cons.mpr ⟨rfl, List.forall_mem_nil _⟩⟩)
    (show 2 ≤ MAX_SNAPSHOT_FILES by decide)
    (show ["a", "b"].Pairwise (· ≤ ·) ∧ ["a", "b"].Nodup by decide)
    (by
      show content.length + (content.length + 0) ≤ MAX_SNAPSHOT_TOTAL_BYTES
      have hlimits : MAX_SNAPSHOT_FILE_BYTES + MAX_SNAPSHOT_FILE_BYTES ≤ MAX_SNAPSHOT_TOTAL_BYTES := by
        decide
      omega)
    (by
      have hlimits : MAX_SNAPSHOT_FILE_BYTES + MAX_SNAPSHOT_FILE_BYTES ≤ MAX_SNAPSHOT_TOTAL_BYTES := by
        decide
      have hrecord : ∀ path ∈ ["a", "b"], record_ok path content = true := by
        intro path hpath
        have hpath : record_ok path [] = true := by
          revert path
          decide
        simp only [record_ok, Bool.and_eq_true, decide_eq_true_eq] at hpath ⊢
        exact ⟨hpath.1, hsize⟩
      refine assert_ok.mpr ⟨show 2 ≤ MAX_SNAPSHOT_FILES by decide, ?_,
        show ["a", "b"].IsChain (· < ·) by decide, ?_, ?_⟩
      · exact List.forall_mem_cons.mpr ⟨hrecord "a" (by decide),
          List.forall_mem_singleton.mpr (hrecord "b" (by decide))⟩
      · show content.length + (content.length + 0) ≤ MAX_SNAPSHOT_TOTAL_BYTES
        omega
      · exact List.forall_mem_cons.mpr ⟨hclean, List.forall_mem_singleton.mpr hclean⟩)

/-- The large snapshot on disk. -/
def large_disk (content : Bytes) : Disk :=
  [⟨"a", 0o444, .regular content⟩, ⟨"b", 0o444, .regular content⟩]

theorem write_large (content : Bytes) :
    write_files [("a", "100644", content), ("b", "100644", content)] [] =
      some (large_disk content) := by
  have ha : ancestors "a" = [] := by decide
  have hb : ancestors "b" = [] := by decide
  simp [write_files, write_file, ha, hb, make_directories, Disk.at_path, large_disk, permissions_of]

/-- What each layer does with two files of 262,144 bytes. -/
theorem large_snapshot_layers {content : Bytes} (hlength : content.length = 262144)
    (hsize : content.length ≤ MAX_SNAPSHOT_FILE_BYTES) (hclean : is_clean content = true) :
    compute_snapshot_tree_digest (large_disk content) true =
      .ok (large_snapshot content hsize hclean).claim.content_digest ∧
    materialize_github_snapshot (large_snapshot content hsize hclean) id id =
      .ok (close_directories (large_disk content)) ∧
    ¬ ∃ files, _read_pinned_snapshot_files (large_disk content)
      (large_snapshot content hsize hclean).claim.content_digest = .ok files := by
  have hfiles : (large_snapshot content hsize hclean).tree_files =
      [("a", "100644", content), ("b", "100644", content)] := rfl
  have hwrite := write_large content
  rw [← hfiles] at hwrite
  have hlays : Lays (large_snapshot content hsize hclean).tree_files (large_disk content) := by
    have h := write_files_lays hwrite (fun f hf => (tree_file_ok hf).2.1) ⟨.nil, by simp⟩
    rwa [List.nil_append] at h
  have hlocal : Local (large_snapshot content hsize hclean).tree_files := by
    rw [hfiles]
    refine ⟨?_, ?_⟩
    · have hpaths : ∀ path ∈ ["a", "b"], portable path = true := by decide
      exact List.forall_mem_cons.mpr ⟨hpaths "a" (by decide),
        List.forall_mem_singleton.mpr (hpaths "b" (by decide))⟩
    · show (utf8_bytes "a").length + content.length + ((utf8_bytes "b").length + content.length + 0) ≤
        MAX_SNAPSHOT_TOTAL_BYTES
      rw [hlength]
      decide
  refine ⟨(compute_digest_iff hlays).mpr ⟨hlocal, rfl⟩, ?_, ?_⟩
  · rw [materialize_github_snapshot, hwrite]
    dsimp only [id]
    rw [(verify_materialized_iff hlays hlays).mpr hlocal]
  · rintro ⟨files, hread⟩
    obtain ⟨⟨-, hbytes⟩, -⟩ := (read_pinned_iff hlays).mp hread
    have hsum : content.length + (content.length + 0) ≤ MAX_VERIFIER_SNAPSHOT_TOTAL_BYTES := hbytes
    rw [hlength] at hsum
    exact absurd hsum (by decide)

/-- 262,144 zero bytes. -/
def large_content : Bytes := List.replicate 262144 0

theorem large_content_size : large_content.length ≤ MAX_SNAPSHOT_FILE_BYTES := by
  rw [large_content, List.length_replicate]
  decide

theorem large_content_clean : is_clean large_content = true :=
  is_clean_zeros fun _ => List.eq_of_mem_replicate

/-- Two files of 262,144 zero bytes are written and digested, and the verifier's
reader, which takes 512,000 bytes at most, refuses them. -/
theorem large_snapshot_refused :
    write_files (large_snapshot large_content large_content_size large_content_clean).tree_files [] =
      some (large_disk large_content) ∧
    compute_snapshot_tree_digest (large_disk large_content) true =
      .ok (large_snapshot large_content large_content_size large_content_clean).claim.content_digest ∧
    materialize_github_snapshot
        (large_snapshot large_content large_content_size large_content_clean) id id =
      .ok (close_directories (large_disk large_content)) ∧
    ¬ ∃ files, _read_pinned_snapshot_files (large_disk large_content)
      (large_snapshot large_content large_content_size large_content_clean).claim.content_digest =
        .ok files :=
  ⟨write_large large_content, large_snapshot_layers List.length_replicate _ _⟩

end AppContracts.GitHubSnapshot
