/-
What the listing check accepts, and what it binds.

`_verify_git_tree_entries` visits the directories above the listed paths, the
deepest first, and compares each rebuilt tree with the ID listed for it. A
listing passes exactly when it is consistent in the sense of `Lib.Merkle` and
lists no empty directory (`verify_ok`). Two listings that pass for one root are
the same, unless SHA-1 collides on two of their tree objects.

The parser comes in front: an entry of the response is read field by field, and the claim
it accepts lists the entries of the response one to one (`parse_github_tree_listed`), so that
what is said of listings is said of responses. The loop over the directories is by
induction on the list that is left, deepest first; its invariant is that every directory
that was visited has the tree it should have.
-/
import AppContracts.GitTree
import Mathlib.Data.List.Dedup

set_option autoImplicit false

namespace AppContracts.GitHubSnapshot

open Merkle

/-! ## The directories of a listing -/

theorem names_eq_nil {d : String} : names d = [] ↔ d = "" := by
  unfold names
  split_ifs with h
  · simp [h]
  · simp [h, split_path_ne_nil]

/-- Plain names survive joining. -/
theorem names_join {parts : List String}
    (h : ∀ p ∈ parts, plain_part p = true ∧ '/' ∉ p.toList) : names (join_path parts) = parts := by
  by_cases hnil : parts = []
  · rw [hnil]
    rfl
  · have hsplit := split_join_path (fun p hp => (h p hp).2) hnil
    have hne : join_path parts ≠ "" := by
      intro heq
      rw [heq] at hsplit
      have hmem : "" ∈ parts := hsplit ▸ by decide
      exact absurd (h "" hmem).1 (by decide)
    rw [names, if_neg hne, hsplit]

theorem plain_of_split {path : String} (h : (split_path path).all plain_part = true) :
    ∀ p ∈ split_path path, plain_part p = true ∧ '/' ∉ p.toList := fun p hp =>
  ⟨List.all_eq_true.mp h p hp, no_slash_of_mem_split hp⟩

/-- The directories above a path are its proper prefixes. -/
theorem mem_ancestors {path : String} (h : (split_path path).all plain_part = true) {d : String} :
    d ∈ ancestors path ↔ d ≠ "" ∧ names d <+: split_path path ∧ names d ≠ split_path path := by
  have htake : ∀ k, names (join_path ((split_path path).take k)) = (split_path path).take k :=
    fun k => names_join fun p hp => plain_of_split h p (List.mem_of_mem_take hp)
  unfold ancestors
  rw [List.mem_map]
  constructor
  · rintro ⟨i, hi, rfl⟩
    rw [List.mem_range] at hi
    have hlen : ((split_path path).take (i + 1)).length = i + 1 := by
      rw [List.length_take]
      omega
    rw [ne_eq, ← names_eq_nil, htake]
    refine ⟨?_, List.take_prefix _ _, ?_⟩
    · intro hnil
      rw [hnil] at hlen
      simp at hlen
    · intro heq
      rw [heq] at hlen
      omega
  · rintro ⟨hne, hinitial, hproper⟩
    have hpos : 0 < (names d).length :=
      List.length_pos_of_ne_nil fun hnil => hne (names_eq_nil.mp hnil)
    have hle := hinitial.length_le
    have hlt : (names d).length ≠ (split_path path).length := fun hlen =>
      hproper (hinitial.eq_of_length hlen)
    -- the ancestors are the proper beginnings, and `d` is the one of its own length
    refine ⟨(names d).length - 1, List.mem_range.mpr (by omega), names_inj ?_⟩
    rw [htake, show (names d).length - 1 + 1 = (names d).length by omega]
    exact (List.prefix_iff_eq_take.mp hinitial).symm

theorem mem_required {entries : List GitHubTreeEntry} (h : ∀ e ∈ entries, GoodEntry e) {d : String} :
    d ∈ required_directories entries ↔
      d ≠ "" ∧ ∃ e ∈ entries, names d <+: split_path e.path ∧ names d ≠ split_path e.path := by
  unfold required_directories
  rw [List.mem_dedup, List.mem_flatMap]
  constructor
  · rintro ⟨e, he, hd⟩
    have hd := (mem_ancestors (h e he).parts).mp hd
    exact ⟨hd.1, e, he, hd.2⟩
  · rintro ⟨hne, e, he, hd⟩
    exact ⟨e, he, (mem_ancestors (h e he).parts).mpr ⟨hne, hd⟩⟩

theorem mem_declared {entries : List GitHubTreeEntry} (h : GoodListing entries) {d : String} :
    d ∈ declared_directories entries ↔ ∃ e ∈ entries, e.path = d ∧ e.entry_type = "tree" := by
  unfold declared_directories
  rw [List.mem_filter, List.mem_map]
  constructor
  · rintro ⟨⟨e, he, rfl⟩, htree⟩
    rw [by_path_mem h he, Option.any_some] at htree
    exact ⟨e, he, rfl, of_decide_eq_true htree⟩
  · rintro ⟨e, he, rfl, htree⟩
    refine ⟨⟨e, he, rfl⟩, ?_⟩
    rw [by_path_mem h he, Option.any_some]
    exact decide_eq_true htree

/-- The deepest directories first, the root last. -/
theorem deep_first {required : List String} (hne : ∀ d ∈ required, d ≠ "") :
    ((required.insertionSort fun a b => slashes b ≤ slashes a) ++ [""]).Pairwise
      fun a b => (names b).length ≤ (names a).length := by
  have htotal : Std.Total fun a b : String => slashes b ≤ slashes a :=
    ⟨fun a b => le_total (slashes b) (slashes a)⟩
  have htrans : IsTrans String fun a b => slashes b ≤ slashes a :=
    ⟨fun _ _ _ h₁ h₂ => le_trans h₂ h₁⟩
  rw [List.pairwise_append]
  refine ⟨?_, List.pairwise_singleton _ _, ?_⟩
  · refine (List.pairwise_insertionSort _ required).imp_of_mem ?_
    intro a b ha hb hab
    have ha := hne a ((List.mem_insertionSort _).mp ha)
    have hb := hne b ((List.mem_insertionSort _).mp hb)
    rw [names, names, if_neg ha, if_neg hb, length_split_path, length_split_path]
    omega
  · intro a _ b hb
    rw [List.mem_singleton.mp hb]
    exact Nat.zero_le _

/-! ## The listing check -/

section

variable {entries : List GitHubTreeEntry} {root : String}

theorem items_nodup (h : GoodListing entries) : ((items entries).map Item.path).Nodup := by
  have hpaths : (items entries).map Item.path = entries.map (split_path ∘ GitHubTreeEntry.path) :=
    List.map_map ..
  rw [hpaths, ← List.map_map]
  exact h.nodup.map fun a b => split_path_inj

/-- Every directory above a listed path is listed. -/
def Closed (entries : List GitHubTreeEntry) : Prop :=
  ∀ d ∈ required_directories entries, d ∈ declared_directories entries

/-- No listed directory is empty. -/
def NoEmpty (entries : List GitHubTreeEntry) : Prop :=
  ∀ e ∈ entries, e.entry_type = "tree" → children_of entries e.path ≠ []

theorem closed_iff (h : GoodListing entries) : Closed entries ↔
    ∀ i ∈ items entries, ∀ d, d ≠ [] → d <+: i.path → d ≠ i.path →
      ∃ f ∈ items entries, f.path = d ∧ is_tree_mode f.label = true := by
  unfold Closed items
  simp only [mem_required h.good, mem_declared h, List.mem_map]
  constructor
  · rintro hclosed _ ⟨e, he, rfl⟩ d hne hinitial hproper
    have hjoin : names (join_path d) = d :=
      names_join fun p hp => plain_of_split (h.good e he).parts p (hinitial.subset hp)
    have hnonempty : join_path d ≠ "" := fun heq => hne (hjoin ▸ names_eq_nil.mpr heq)
    obtain ⟨f, hf, hpath, htree⟩ := hclosed (join_path d)
      ⟨hnonempty, e, he, hjoin.symm ▸ hinitial, hjoin.symm ▸ hproper⟩
    refine ⟨item_of f, ⟨f, hf, rfl⟩, ?_, (h.good f hf).is_tree_mode.mpr htree⟩
    rw [← hjoin, ← hpath, (h.good f hf).names_path]
    rfl
  · rintro hclosed d ⟨hne, e, he, hinitial, hproper⟩
    have hnil : names d ≠ [] := fun hnil => hne (names_eq_nil.mp hnil)
    obtain ⟨_, ⟨f, hf, rfl⟩, hpath, htree⟩ :=
      hclosed _ ⟨e, he, rfl⟩ (names d) hnil hinitial hproper
    refine ⟨f, hf, names_inj ?_, (h.good f hf).is_tree_mode.mp htree⟩
    rw [(h.good f hf).names_path]
    exact hpath

/-- Under a directory of a closed listing there is a child. -/
theorem children_ne_nil (h : GoodListing entries) (hclosed : Closed entries) {d : String}
    {e : GitHubTreeEntry} (he : e ∈ entries) (hinitial : names d <+: split_path e.path)
    (hproper : names d ≠ split_path e.path) : children_of entries d ≠ [] := by
  -- The path one name below `d` is the entry's own or a listed directory's.
  obtain ⟨rest, hrest⟩ := hinitial
  cases rest with
  | nil => exact absurd (by rw [← hrest, List.append_nil]) hproper
  | cons n rest =>
    have hbelow : ∃ f ∈ entries, split_path f.path = names d ++ [n] := by
      by_cases hlast : rest = []
      · exact ⟨e, he, by rw [← hrest, hlast]⟩
      · have hnext : (names d ++ [n]) ++ rest = (item_of e).path := by
          rw [List.append_assoc]
          exact hrest
        have hproper : names d ++ [n] ≠ (item_of e).path := by
          rw [← hnext]
          simpa using hlast
        obtain ⟨_, hmem, hpath, -⟩ := (closed_iff h).mp hclosed (item_of e)
          (List.mem_map_of_mem he) (names d ++ [n]) (by simp) ⟨rest, hnext⟩ hproper
        obtain ⟨f, hf, rfl⟩ := List.mem_map.mp hmem
        exact ⟨f, hf, hpath⟩
    obtain ⟨f, hf, hpath⟩ := hbelow
    have hparent : parent_path f.path = d := by
      apply names_inj
      rw [(h.good f hf).names_parent, hpath, List.dropLast_concat]
    have hmem : f ∈ children_of entries d :=
      List.mem_filter.mpr ⟨hf, decide_eq_true hparent⟩
    exact List.ne_nil_of_mem hmem

/-- The first test of the check. -/
theorem directories_match (h : GoodListing entries) :
    ((declared_directories entries).all (required_directories entries).contains &&
      (required_directories entries).all (declared_directories entries).contains) = true ↔
      Closed entries ∧ NoEmpty entries := by
  simp only [Bool.and_eq_true, List.all_eq_true, List.contains_iff_mem]
  refine ⟨fun ⟨hrequired, hclosed⟩ => ⟨hclosed, ?_⟩, fun ⟨hclosed, hne⟩ => ⟨?_, hclosed⟩⟩
  · intro e he htree
    obtain ⟨-, f, hf, hinitial, hproper⟩ := (mem_required h.good).mp
      (hrequired e.path ((mem_declared h).mpr ⟨e, he, rfl, htree⟩))
    exact children_ne_nil h hclosed hf hinitial hproper
  · intro d hd
    obtain ⟨e, he, rfl, htree⟩ := (mem_declared h).mp hd
    obtain ⟨f, hf⟩ := List.exists_mem_of_ne_nil _ (hne e he htree)
    obtain ⟨hmem, hnames⟩ := names_child h.good hf
    refine (mem_required h.good).mpr ⟨(h.good e he).path_ne, f, hmem, ?_, ?_⟩
    · rw [hnames]
      exact List.prefix_append _ _
    · rw [hnames]
      simp

/-- **What the listing check accepts**: the root and every listed directory carry
the hash of their children, every directory above a path is listed, and none is
empty. -/
theorem verify_ok (h : GoodListing entries) :
    _verify_git_tree_entries root entries = .ok () ↔
      Consistent (is_tree_mode · = true) git_hash (items entries) root ∧ NoEmpty entries := by
  unfold _verify_git_tree_entries
  -- the code first compares the declared directories with the required ones, as sets
  by_cases hmatch : Closed entries ∧ NoEmpty entries
  · obtain ⟨hclosed, hempty⟩ := hmatch
    have htest := (directories_match h).mpr ⟨hclosed, hempty⟩
    have hdeclared : ∀ d ∈ declared_directories entries, d ∈ required_directories entries := by
      simp only [Bool.and_eq_true, List.all_eq_true, List.contains_iff_mem] at htest
      exact htest.1
    simp only [htest, if_true]
    have hlisted : ∀ d ∈ (required_directories entries).insertionSort
        (fun a b => slashes b ≤ slashes a) ++ [""],
        d = "" ∨ (∃ e ∈ entries, e.path = d) ∧ children_of entries d ≠ [] := by
      intro d hd
      rw [List.mem_append, List.mem_insertionSort, List.mem_singleton] at hd
      refine hd.symm.imp_right fun hd => ?_
      obtain ⟨e, he, hpath, htree⟩ := (mem_declared h).mp (hclosed d hd)
      exact ⟨⟨e, he, hpath⟩, hpath ▸ hempty e he htree⟩
    have hready : ∀ d ∈ (required_directories entries).insertionSort
        (fun a b => slashes b ≤ slashes a) ++ [""], ∀ e ∈ children_of entries d,
        e.entry_type = "tree" → ([] : List (String × String)).lookup e.path = some e.sha ∨
          e.path ∈ (required_directories entries).insertionSort
            (fun a b => slashes b ≤ slashes a) ++ [""] := by
      intro d _ e he htree
      have hmem := (names_child h.good he).1
      have hrequired := hdeclared e.path ((mem_declared h).mpr ⟨e, hmem, rfl, htree⟩)
      exact .inr (List.mem_append_left _ ((List.mem_insertionSort _).mpr hrequired))
    -- the deepest directories come first, so the ids below one are computed before its own
    rw [verify_directories_ok h (deep_first fun d hd => ((mem_required h.good).mp hd).1) hlisted
      hready]
    constructor
    · intro hclaimed
      refine ⟨⟨items_nodup h, (closed_iff h).mp hclosed, ?_, ?_⟩, hempty⟩
      · exact (hclaimed "" (by simp)).1 rfl
      · intro i hi htree
        obtain ⟨e, he, rfl⟩ := List.mem_map.mp hi
        have htree := (h.good e he).is_tree_mode.mp htree
        have hrequired := hdeclared e.path ((mem_declared h).mpr ⟨e, he, rfl, htree⟩)
        have hid := (hclaimed e.path (List.mem_append_left _
          ((List.mem_insertionSort _).mpr hrequired))).2 e he rfl
        rwa [directory_oid, (h.good e he).names_path] at hid
    · rintro ⟨hconsistent, -⟩ d hd
      refine ⟨fun heq => ?_, fun e he hpath => ?_⟩
      · rw [heq]
        exact hconsistent.root_id
      · have htree : e.entry_type = "tree" := by
          rw [List.mem_append, List.mem_insertionSort, List.mem_singleton] at hd
          rcases hd with hd | hd
          · obtain ⟨f, hf, hfpath, htree⟩ := (mem_declared h).mp (hclosed d hd)
            rwa [List.inj_on_of_nodup_map h.nodup he hf (hpath.trans hfpath.symm)]
          · exact absurd (hpath.trans hd) (h.good e he).path_ne
        rw [directory_oid, ← hpath, (h.good e he).names_path]
        exact hconsistent.dir_id (item_of e) (List.mem_map_of_mem he)
          ((h.good e he).is_tree_mode.mpr htree)
  · have hno := mt (directories_match h).mp hmatch
    simp only [hno, Bool.false_eq_true, if_false]
    refine ⟨fun herr => absurd herr (by simp), fun hlisted => ?_⟩
    exact absurd ⟨(closed_iff h).mpr hlisted.1.closed, hlisted.2⟩ hmatch

end

/-! ## Parsed listings -/

theorem safe_tree_path_parts {value : String} (h : safe_tree_path value = true) :
    (split_path value).all plain_part = true ∧ ∀ c ∈ value.toList, c.toNat ≠ 0 := by
  unfold safe_tree_path at h
  simp only [Bool.and_eq_true, Bool.not_eq_true', List.any_eq_false] at h
  obtain ⟨⟨⟨-, hcontrol⟩, hparts⟩, -⟩ := h
  refine ⟨hparts, fun c hc hzero => hcontrol c hc ?_⟩
  simp [is_control, hzero]

theorem text_field_ok {raw : Json} {key value : String} (h : text_field raw key = .ok value) :
    raw.get? key = some (.str (.text value)) := by
  unfold text_field at h
  split at h
  · rename_i text htext
    rw [htext, Except.ok.inj h]
  · cases h

theorem path_field_ok {raw : Json} {path : String} (h : path_field raw = .ok path) :
    raw.get? "path" = some (.str (.text path)) ∧ safe_tree_path path = true := by
  unfold path_field at h
  split at h
  · rename_i value hvalue
    obtain rfl : value = path := Except.ok.inj h
    obtain ⟨raw_path, hget, hraw⟩ := Option.bind_eq_some_iff.mp hvalue
    unfold _is_safe_tree_path at hraw
    split at hraw
    · split_ifs at hraw with hsafe
      obtain rfl := Option.some.inj hraw
      exact ⟨hget, hsafe⟩
    · cases hraw
  · cases h

/-- An entry the parser accepts is good, and its path is new. -/
theorem parse_tree_entry_good {raw : Json} {seen : List String} {e : GitHubTreeEntry}
    (h : _parse_tree_entry raw seen = .ok e) : GoodEntry e ∧ e.path ∉ seen := by
  unfold _parse_tree_entry at h
  obtain ⟨path, hpath, h⟩ := bind_ok.mp h
  obtain ⟨hparts, hchars⟩ := safe_tree_path_parts (path_field_ok hpath).2
  simp only [normpath_plain hparts] at h
  split_ifs at h with hseen
  obtain ⟨mode, -, h⟩ := bind_ok.mp h
  obtain ⟨entry_type, -, h⟩ := bind_ok.mp h
  split_ifs at h with hkind
  obtain ⟨sha, -, h⟩ := bind_ok.mp h
  split_ifs at h with hoid
  rw [Bool.not_eq_false] at hoid
  have hgood : ∀ size, GoodEntry ⟨path, mode, entry_type, sha, size⟩ := fun size =>
    ⟨hparts, hchars, hoid, hkind⟩
  split at h
  · obtain rfl := Except.ok.inj h
    exact ⟨hgood none, hseen⟩
  · split_ifs at h
    obtain rfl := Except.ok.inj h
    exact ⟨hgood _, hseen⟩
  · simp at h

/-- The parsed entries are a good listing. -/
theorem parse_entries_good {raws : List Json} {seen : List String} {entries : List GitHubTreeEntry}
    (h : parse_entries raws seen = .ok entries) :
    GoodListing entries ∧ ∀ e ∈ entries, e.path ∉ seen := by
  induction raws generalizing seen entries with
  | nil =>
    obtain rfl : [] = entries := by simpa [parse_entries] using h
    exact ⟨⟨by simp, by simp⟩, by simp⟩
  | cons raw rest ih =>
    rw [parse_entries, bind_ok] at h
    obtain ⟨e, he, h⟩ := h
    rw [bind_ok] at h
    obtain ⟨es, hes, h⟩ := h
    obtain rfl : e :: es = entries := Except.ok.inj h
    obtain ⟨hgood, hnew⟩ := parse_tree_entry_good he
    obtain ⟨hlisting, hfresh⟩ := ih hes
    refine ⟨⟨?_, ?_⟩, ?_⟩
    · exact List.forall_mem_cons.mpr ⟨hgood, hlisting.good⟩
    · rw [List.map_cons, List.nodup_cons, List.mem_map]
      refine ⟨?_, hlisting.nodup⟩
      rintro ⟨f, hf, hpath⟩
      exact hfresh f hf (hpath ▸ List.mem_cons_self)
    · refine List.forall_mem_cons.mpr ⟨hnew, fun f hf hmem => ?_⟩
      exact hfresh f hf (List.mem_cons_of_mem _ hmem)

/-- **What the parser accepts** is a good listing that passes the check for the
claimed root. -/
theorem parse_github_tree_ok {claim : GitHubCommitClaim} {response : Json} {tree : GitHubTreeClaim}
    (h : parse_github_tree claim response = .ok tree) :
    GoodListing tree.entries ∧ _verify_git_tree_entries claim.tree_oid tree.entries = .ok () := by
  unfold parse_github_tree at h
  obtain ⟨sha, -, h⟩ := bind_ok.mp h
  split_ifs at h
  obtain ⟨raws, -, h⟩ := bind_ok.mp h
  split at h
  · obtain ⟨entries, hentries, h⟩ := bind_ok.mp h
    obtain ⟨_, hverify, h⟩ := bind_ok.mp h
    obtain rfl := Except.ok.inj h
    exact ⟨(parse_entries_good hentries).1, hverify⟩
  · simp at h

/-! ## The entries of a response -/

/-- The entry is the provider's: its path, mode, kind, object ID and size. -/
structure Reads (raw : Json) (e : GitHubTreeEntry) : Prop where
  path : raw.get? "path" = some (.str (.text e.path))
  mode : raw.get? "mode" = some (.str (.text e.mode))
  entry_type : raw.get? "type" = some (.str (.text e.entry_type))
  sha : raw.get? "sha" = some (.str (.text e.sha))
  size : raw.get? "size" = e.size.map Json.int

/-- The entries are those of the response, one for one and in its order. -/
def Listed (response : Json) (entries : List GitHubTreeEntry) : Prop :=
  ∃ raw_entries, response.get? "tree" = some (.arr raw_entries) ∧ List.Forall₂ Reads raw_entries entries

theorem parse_tree_entry_reads {raw : Json} {seen : List String} {e : GitHubTreeEntry}
    (h : _parse_tree_entry raw seen = .ok e) : Reads raw e := by
  unfold _parse_tree_entry at h
  obtain ⟨path, hpath, h⟩ := bind_ok.mp h
  obtain ⟨hget, hsafe⟩ := path_field_ok hpath
  simp only [normpath_plain (safe_tree_path_parts hsafe).1] at h
  split_ifs at h
  obtain ⟨mode, hmode, h⟩ := bind_ok.mp h
  obtain ⟨entry_type, hentry_type, h⟩ := bind_ok.mp h
  split_ifs at h
  obtain ⟨sha, hsha, h⟩ := bind_ok.mp h
  split_ifs at h
  have hreads : ∀ size, raw.get? "size" = size.map Json.int →
      Reads raw ⟨path, mode, entry_type, sha, size⟩ := fun size hsize =>
    ⟨hget, text_field_ok hmode, text_field_ok hentry_type, text_field_ok hsha, hsize⟩
  split at h
  · rename_i hsize
    obtain rfl := Except.ok.inj h
    exact hreads none hsize
  · rename_i size hsize
    split_ifs at h
    obtain rfl := Except.ok.inj h
    exact hreads (some size) hsize
  · cases h

theorem parse_entries_reads {raws : List Json} {seen : List String} {entries : List GitHubTreeEntry}
    (h : parse_entries raws seen = .ok entries) : List.Forall₂ Reads raws entries := by
  induction raws generalizing seen entries with
  | nil =>
    obtain rfl := Except.ok.inj h
    exact .nil
  | cons raw rest ih =>
    rw [parse_entries, bind_ok] at h
    obtain ⟨e, he, h⟩ := h
    obtain ⟨es, hes, h⟩ := bind_ok.mp h
    obtain rfl := Except.ok.inj h
    exact .cons (parse_tree_entry_reads he) (ih hes)

/-- **The parser adds and leaves out nothing.** -/
theorem parse_github_tree_listed {claim : GitHubCommitClaim} {response : Json} {tree : GitHubTreeClaim}
    (h : parse_github_tree claim response = .ok tree) : Listed response tree.entries := by
  unfold parse_github_tree at h
  obtain ⟨sha, -, h⟩ := bind_ok.mp h
  split_ifs at h
  obtain ⟨raws, hraws, h⟩ := bind_ok.mp h
  have hget : response.get? "tree" = some (.arr raws) := by
    unfold response_entries at hraws
    split at hraws
    · rename_i items hitems
      split_ifs at hraws
      rw [hitems, Except.ok.inj hraws]
    · cases hraws
  split at h
  · obtain ⟨entries, hentries, h⟩ := bind_ok.mp h
    obtain ⟨_, -, h⟩ := bind_ok.mp h
    obtain rfl := Except.ok.inj h
    exact ⟨raws, hget, parse_entries_reads hentries⟩
  · cases h

/-! ## What one root binds -/

/-- The map of a listing: the mode, kind and object ID of each path. -/
def tree_map (entries : List GitHubTreeEntry) (path : String) : Option (String × String × String) :=
  (by_path entries path).map fun entry => (entry.mode, entry.entry_type, entry.sha)

/-- The tree objects of a listing: the root's, and each listed directory's. -/
def tree_objects (entries : List GitHubTreeEntry) : List (List ℕ) :=
  ("" :: declared_directories entries).map fun directory =>
    git_object ((children_of entries directory).map child_of)

theorem mem_tree_map {entries : List GitHubTreeEntry} (h : GoodListing entries) {path : String}
    {v : String × String × String} :
    tree_map entries path = some v ↔
      ∃ e ∈ entries, e.path = path ∧ (e.mode, e.entry_type, e.sha) = v := by
  unfold tree_map
  rw [Option.map_eq_some_iff]
  constructor
  · rintro ⟨e, he, rfl⟩
    have hmem : e ∈ entries := by simpa using List.mem_of_find?_eq_some he
    exact ⟨e, hmem, by simpa using List.find?_some he, rfl⟩
  · rintro ⟨e, he, rfl, rfl⟩
    exact ⟨e, by_path_mem h he, rfl⟩

/-- A serialized mode and the parser's kinds determine the mode and the type. -/
theorem GoodEntry.kind_inj {e f : GitHubTreeEntry} (he : GoodEntry e) (hf : GoodEntry f)
    (h : serialized_mode e = serialized_mode f) : e.mode = f.mode ∧ e.entry_type = f.entry_type := by
  have htree : e.entry_type = "tree" ↔ f.entry_type = "tree" := by
    rw [← he.is_tree_mode, ← hf.is_tree_mode, h]
  unfold serialized_mode at h
  rcases he.kind with ⟨-, het⟩ | ⟨hem, het⟩ <;> rcases hf.kind with ⟨-, hft⟩ | ⟨hfm, hft⟩ <;>
    simp_all

/-- The object of a directory of a consistent listing is one of its objects. -/
theorem mem_tree_objects {entries : List GitHubTreeEntry} (h : GoodListing entries)
    {d : List String} (hd : IsDirectory (is_tree_mode · = true) (items entries) d) :
    git_object (children (items entries) d) ∈ tree_objects entries := by
  unfold tree_objects
  rw [List.mem_map]
  rcases hd with rfl | ⟨i, hi, hpath, htree⟩
  · refine ⟨"", List.mem_cons_self, ?_⟩
    have hroot := children_items h.good ""
    rw [names, if_pos rfl] at hroot
    rw [hroot]
    rfl
  · obtain ⟨e, he, rfl⟩ := List.mem_map.mp hi
    refine ⟨e.path, List.mem_cons_of_mem _ ((mem_declared h).mpr
      ⟨e, he, rfl, (h.good e he).is_tree_mode.mp htree⟩), ?_⟩
    have hchildren := children_items h.good e.path
    rw [(h.good e he).names_path] at hchildren
    rw [← hpath, item_of, hchildren]
    rfl

theorem good_children {entries : List GitHubTreeEntry} (h : GoodListing entries) {d : List String} :
    ∀ c ∈ children (items entries) d, GoodChild c := by
  intro c hc
  obtain ⟨e, he, hitem⟩ := List.mem_map.mp (mem_children.mp hc)
  have hchild : c = child_of e := by
    obtain ⟨name, label, id⟩ := c
    simp only [item_of, Item.mk.injEq] at hitem
    obtain ⟨hpath, rfl, rfl⟩ := hitem
    have hname : base_name e.path = name := by
      rw [base_name, hpath]
      simp
    rw [child_of, hname]
  exact hchild ▸ (h.good e he).child

/-- Items and entries: each listing's map is read off its items. -/
theorem tree_map_of_items {E F : List GitHubTreeEntry} (hE : GoodListing E) (hF : GoodListing F)
    (h : ∀ i, i ∈ items E → i ∈ items F) {path : String} {v : String × String × String}
    (hv : tree_map E path = some v) : tree_map F path = some v := by
  obtain ⟨e, he, hpath, hval⟩ := (mem_tree_map hE).mp hv
  obtain ⟨f, hf, hitem⟩ := List.mem_map.mp (h _ (List.mem_map_of_mem he))
  simp only [item_of, Item.mk.injEq] at hitem
  obtain ⟨hmode, htype⟩ := (hF.good f hf).kind_inj (hE.good e he) hitem.2.1
  refine (mem_tree_map hF).mpr ⟨f, hf, (split_path_inj hitem.1).trans hpath, ?_⟩
  rw [hmode, htype, hitem.2.2, hval]

/-- **A root binds the whole listing**: two responses accepted for one tree ID list
the entries of their trees one for one, and map every path to the same mode, kind
and object ID, unless SHA-1 collides on two of their tree objects. -/
theorem accepted_trees_agree {claim₁ claim₂ : GitHubCommitClaim} {response₁ response₂ : Json}
    {tree₁ tree₂ : GitHubTreeClaim} (h₁ : parse_github_tree claim₁ response₁ = .ok tree₁)
    (h₂ : parse_github_tree claim₂ response₂ = .ok tree₂) (hroot : claim₁.tree_oid = claim₂.tree_oid)
    (hfree : ∀ a ∈ tree_objects tree₁.entries, ∀ b ∈ tree_objects tree₂.entries,
      Sha1.hexdigest a = Sha1.hexdigest b → a = b) :
    Listed response₁ tree₁.entries ∧ Listed response₂ tree₂.entries ∧
      ∀ path, tree_map tree₁.entries path = tree_map tree₂.entries path := by
  refine ⟨parse_github_tree_listed h₁, parse_github_tree_listed h₂, fun path => ?_⟩
  obtain ⟨hgood₁, hverify₁⟩ := parse_github_tree_ok h₁
  obtain ⟨hgood₂, hverify₂⟩ := parse_github_tree_ok h₂
  have hcons₁ := ((verify_ok hgood₁).mp hverify₁).1
  have hcons₂ := ((verify_ok hgood₂).mp (hroot ▸ hverify₂)).1
  have hne : ∀ {entries}, ∀ i ∈ items entries, i.path ≠ [] := by
    intro entries i hi
    obtain ⟨e, -, rfl⟩ := List.mem_map.mp hi
    exact split_path_ne_nil _
  have hitems : ∀ i, i ∈ items tree₁.entries ↔ i ∈ items tree₂.entries := by
    refine hcons₁.binding hcons₂ (fun d hd₁ hd₂ heq => ?_) hne hne
    have hobject := hfree _ (mem_tree_objects hgood₁ hd₁) _ (mem_tree_objects hgood₂ hd₂) heq
    exact git_object_inj (good_children hgood₁) (good_children hgood₂) hobject
  refine Option.ext fun v => ⟨fun hv => ?_, fun hv => ?_⟩
  · exact tree_map_of_items hgood₁ hgood₂ (fun i => (hitems i).mp) hv
  · exact tree_map_of_items hgood₂ hgood₁ (fun i => (hitems i).mpr) hv

/-! ### One listing in two orders -/

/-- A commit of the repository `o/r`. -/
def nested_commit : GitHubCommitClaim where
  owner := "o"
  repository := "r"
  commit_oid := "e69de29bb2d1d6434b8b29ae775ad8c2e48c5391"
  tree_oid := "6e206655af2658cd3af20efc1830cfe9ac52c419"
  valid := by decide

/-- The entries of its tree: `a`, `a-b` and `a.b`, where plain order and the order
of a tree object differ. -/
def nested_entries : List GitHubTreeEntry := [
  ⟨"a", "040000", "tree", "488958086aadb031695daea66ee5dec69cb80f15", none⟩,
  ⟨"a-b", "040000", "tree", "6d07839ec15e733b13706f5ae37e7b2c1f6168ca", none⟩,
  ⟨"a-b/c", "040000", "tree", "1b7e412eceb14e503a6fb5786e6c171b32c1ff35", none⟩,
  ⟨"a-b/c/y", "100644", "blob", "b68025345d5301abad4d9ec9166f455243a0d746", none⟩,
  ⟨"a-b/e", "100644", "blob", "e69de29bb2d1d6434b8b29ae775ad8c2e48c5391", none⟩,
  ⟨"a.b", "100755", "blob", "092bfb9bdf74dd8cfd22e812151281ee9aa6f01a", none⟩,
  ⟨"a/x", "100644", "blob", "45b983be36b73c0788dc9cbcb76cbb80fc7bb057", none⟩]

/-- An entry as the provider writes it. -/
def raw_entry (e : GitHubTreeEntry) : Json :=
  .obj [(.text "path", .str (.text e.path)), (.text "mode", .str (.text e.mode)),
    (.text "type", .str (.text e.entry_type)), (.text "sha", .str (.text e.sha))]

/-- A complete listing as the provider writes it. -/
def raw_tree (entries : List GitHubTreeEntry) : Json :=
  .obj [(.text "sha", .str (.text nested_commit.tree_oid)), (.text "truncated", .bool false),
    (.text "tree", .arr (entries.map raw_entry))]

/-- The parsed listing. -/
def nested_tree (entries : List GitHubTreeEntry) : GitHubTreeClaim :=
  ⟨"o", "r", nested_commit.tree_oid, entries⟩

set_option maxRecDepth 100000 in
/-- Both orders are accepted, and map every path to one mode and object ID. -/
theorem nested_trees_agree :
    parse_github_tree nested_commit (raw_tree nested_entries) = .ok (nested_tree nested_entries) ∧
      parse_github_tree nested_commit (raw_tree nested_entries.reverse) =
        .ok (nested_tree nested_entries.reverse) ∧
      ∀ path, tree_map nested_entries path = tree_map nested_entries.reverse path := by
  have hplain : parse_github_tree nested_commit (raw_tree nested_entries) =
      .ok (nested_tree nested_entries) := by decide +kernel
  have hreverse : parse_github_tree nested_commit (raw_tree nested_entries.reverse) =
      .ok (nested_tree nested_entries.reverse) := by decide +kernel
  exact ⟨hplain, hreverse, (accepted_trees_agree hplain hreverse rfl (by decide +kernel)).2.2⟩

end AppContracts.GitHubSnapshot
