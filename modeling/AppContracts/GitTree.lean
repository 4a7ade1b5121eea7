/-
What a tree listing binds.

A listing the parser accepts is consistent: every directory's object ID is the
hash of its serialized children. The serialization can be read back, so where
SHA-1 does not collide on the serialized trees, one root ID has one listing. The
tree the archive reader builds from files has, for each directory, the same
children, so it computes the only root the listing check accepts.
-/
import AppContracts.GitHubSnapshot
import AppContracts.Lib.Merkle

set_option autoImplicit false

namespace AppContracts.GitHubSnapshot

open Merkle

/-! ## Object IDs as bytes -/

theorem hex_value_digit {c : Char} (h : is_oid_digit c = true) :
    hex_value c = some (if c.isDigit then c.toNat - 48 else c.toNat - 87) := by
  unfold is_oid_digit at h
  unfold hex_value
  by_cases hd : c.isDigit = true
  · simp [hd]
  · have hf : 'a' ≤ c ∧ c ≤ 'f' := by simpa [hd] using h
    simp [hd, hf]

theorem is_oid_digit_bounds {c : Char} (h : is_oid_digit c = true) :
    48 ≤ c.toNat ∧ c.toNat ≤ 57 ∧ c.isDigit = true ∨
      97 ≤ c.toNat ∧ c.toNat ≤ 102 ∧ c.isDigit = false := by
  have hdigit : c.isDigit = true ↔ 48 ≤ c.toNat ∧ c.toNat ≤ 57 := by
    simp [Char.isDigit, UInt32.le_iff_toNat_le]
  have hletter : ('a' ≤ c ∧ c ≤ 'f') ↔ 97 ≤ c.toNat ∧ c.toNat ≤ 102 := by
    simp [Char.le_def, UInt32.le_iff_toNat_le]
  simp only [is_oid_digit, Bool.or_eq_true, Bool.and_eq_true, decide_eq_true_eq, hletter] at h
  by_cases hd : c.isDigit = true
  · exact .inl ⟨(hdigit.mp hd).1, (hdigit.mp hd).2, hd⟩
  · have hbounds := h.resolve_left hd
    exact .inr ⟨hbounds.1, hbounds.2, by simpa using hd⟩

theorem not_space_of_oid_digit {c : Char} (h : is_oid_digit c = true) : is_ascii_space c = false := by
  have hbounds := is_oid_digit_bounds h
  simp [is_ascii_space]
  omega

/-- The byte of two digits. -/
def byte_of (c d : Char) : ℕ :=
  16 * (if c.isDigit then c.toNat - 48 else c.toNat - 87) +
    if d.isDigit then d.toNat - 48 else d.toNat - 87

theorem byte_of_inj {a b c d : Char} (ha : is_oid_digit a = true) (hb : is_oid_digit b = true)
    (hc : is_oid_digit c = true) (hd : is_oid_digit d = true) (h : byte_of a b = byte_of c d) :
    a = c ∧ b = d := by
  have ha' := is_oid_digit_bounds ha
  have hb' := is_oid_digit_bounds hb
  have hc' := is_oid_digit_bounds hc
  have hd' := is_oid_digit_bounds hd
  have hnat : a.toNat = c.toNat ∧ b.toNat = d.toNat := by
    unfold byte_of at h
    rcases ha' with ⟨_, _, e₁⟩ | ⟨_, _, e₁⟩ <;> rcases hb' with ⟨_, _, e₂⟩ | ⟨_, _, e₂⟩ <;>
      rcases hc' with ⟨_, _, e₃⟩ | ⟨_, _, e₃⟩ <;> rcases hd' with ⟨_, _, e₄⟩ | ⟨_, _, e₄⟩ <;>
      simp only [e₁, e₂, e₃, e₄, if_true, if_false, Bool.false_eq_true] at h <;> omega
  exact ⟨Char.toNat_inj.mp hnat.1, Char.toNat_inj.mp hnat.2⟩

/-- The bytes of digits, two by two. -/
def hex_pairs : List Char → List ℕ
  | c :: d :: rest => byte_of c d :: hex_pairs rest
  | _ => []

theorem fromhex_chars_digits : ∀ (cs : List Char), cs.all is_oid_digit = true →
    cs.length % 2 = 0 → fromhex_chars cs = .ok (hex_pairs cs)
  | [], _, _ => rfl
  | [c], _, hlen => by simp at hlen
  | c :: d :: rest, h, hlen => by
    simp only [List.all_cons, Bool.and_eq_true] at h
    have hrest := fromhex_chars_digits rest h.2.2 (by simp at hlen; omega)
    rw [fromhex_chars, not_space_of_oid_digit h.1, hex_value_digit h.1, hex_value_digit h.2.1, hrest]
    rfl

theorem hex_pairs_inj : ∀ (cs ds : List Char), cs.all is_oid_digit = true →
    ds.all is_oid_digit = true → cs.length = ds.length → cs.length % 2 = 0 →
    hex_pairs cs = hex_pairs ds → cs = ds
  | [], [], _, _, _, _, _ => rfl
  | [], _ :: _, _, _, hlen, _, _ => by simp at hlen
  | [_], _, _, _, _, heven, _ => by simp at heven
  | _ :: _ :: _, [], _, _, hlen, _, _ => by simp at hlen
  | _ :: _ :: _, [_], _, _, hlen, _, _ => by simp at hlen
  | a :: b :: cs, c :: d :: ds, hc, hd, hlen, heven, h => by
    simp only [List.all_cons, Bool.and_eq_true] at hc hd
    simp only [hex_pairs, List.cons.injEq] at h
    obtain ⟨rfl, rfl⟩ := byte_of_inj hc.1 hc.2.1 hd.1 hd.2.1 h.1
    rw [hex_pairs_inj cs ds hc.2.2 hd.2.2 (by simpa using hlen) (by simp at heven; omega) h.2]

/-- The bytes of an object ID. -/
def oid_bytes (oid : String) : List ℕ := hex_pairs oid.toList

theorem fromhex_oid {oid : String} (h : is_oid oid = true) : fromhex oid = .ok (oid_bytes oid) := by
  obtain ⟨hlen, hall⟩ := is_oid_iff.mp h
  exact fromhex_chars_digits _ hall (by omega)

theorem hex_pairs_length : ∀ (cs : List Char), (hex_pairs cs).length = cs.length / 2
  | [] => rfl
  | [_] => by simp [hex_pairs]
  | _ :: _ :: rest => by
    rw [hex_pairs, List.length_cons, hex_pairs_length rest, List.length_cons, List.length_cons]
    omega

theorem oid_bytes_length {oid : String} (h : is_oid oid = true) : (oid_bytes oid).length = 20 := by
  rw [oid_bytes, hex_pairs_length, (is_oid_iff.mp h).1]

theorem oid_bytes_inj {a b : String} (ha : is_oid a = true) (hb : is_oid b = true)
    (h : oid_bytes a = oid_bytes b) : a = b := by
  obtain ⟨hla, hda⟩ := is_oid_iff.mp ha
  obtain ⟨hlb, hdb⟩ := is_oid_iff.mp hb
  exact String.toList_inj.mp (hex_pairs_inj _ _ hda hdb (hla.trans hlb.symm) (by omega) h)

/-! ## Serialized directories -/

/-- A child of a directory: its name, its mode as serialized, its object ID. -/
abbrev GitChild : Type := Child String String String

/-- The serialized mode of a directory. -/
def is_tree_mode (mode : String) : Bool := mode = "40000"

/-- A child that a tree object can hold. -/
structure GoodChild (c : GitChild) : Prop where
  mode : c.label ∈ ["40000", "100644", "100755"]
  name : ∀ ch ∈ c.name.toList, ch.toNat ≠ 0 ∧ ch ≠ '/'
  oid : is_oid c.id = true

/-- The key a child is sorted by. -/
def sort_key (c : GitChild) : List ℕ := sort_name (is_tree_mode c.label) c.name

/-- The serialized entry of a child. -/
def entry_bytes (c : GitChild) : List ℕ := object_entry c.label c.name (oid_bytes c.id)

/-- The tree object of some children. -/
def git_object (cs : List GitChild) : List ℕ :=
  tree_object (cs.map fun c => (sort_key c, entry_bytes c))

/-- The object ID of a directory. -/
def git_hash (cs : List GitChild) : String := Sha1.hexdigest (git_object cs)

/-- The children in the order of a tree object. -/
def in_order (cs : List GitChild) : List GitChild :=
  cs.insertionSort fun a b => sort_key a ≤ sort_key b

theorem mem_in_order {cs : List GitChild} {c : GitChild} : c ∈ in_order cs ↔ c ∈ cs :=
  List.mem_insertionSort _

/-- The object is its header and the entries in order. -/
theorem git_object_eq (cs : List GitChild) :
    git_object cs = utf8_bytes "tree " ++
      utf8_bytes (String.ofList (Json.digits ((in_order cs).flatMap entry_bytes).length)) ++
      0x00 :: (in_order cs).flatMap entry_bytes := by
  have hsort := List.map_insertionSort (r := fun a b : GitChild => sort_key a ≤ sort_key b)
    (s := fun a b : ChildBytes => a.1 ≤ b.1) (fun c : GitChild => (sort_key c, entry_bytes c)) cs
    (fun a _ b _ => Iff.rfl)
  rw [git_object, tree_object, ← hsort, List.flatMap_map]
  rfl

/-! ### Order -/

theorem slash_not_mem {c : GitChild} (h : GoodChild c) : 0x2f ∉ utf8_bytes c.name := by
  intro hmem
  obtain ⟨ch, hch, hnat⟩ := ascii_of_mem_utf8 (by decide) hmem
  exact (h.name ch hch).2 (Char.toNat_inj.mp hnat)

theorem nul_not_mem {c : GitChild} (h : GoodChild c) : 0x00 ∉ utf8_bytes c.name := by
  intro hmem
  obtain ⟨ch, hch, hnat⟩ := ascii_of_mem_utf8 (by decide) hmem
  exact (h.name ch hch).1 hnat

/-- Names determine the order. -/
theorem sort_key_inj {a b : GitChild} (ha : GoodChild a) (hb : GoodChild b)
    (h : sort_key a = sort_key b) : a.name = b.name := by
  have hsa := slash_not_mem ha
  have hsb := slash_not_mem hb
  unfold sort_key sort_name at h
  split_ifs at h
  · exact utf8_bytes_inj (List.append_cancel_right h)
  · rw [List.append_nil] at h
    exact absurd (h ▸ by simp) hsb
  · rw [List.append_nil] at h
    exact absurd (h.symm ▸ by simp) hsa
  · simp only [List.append_nil] at h
    exact utf8_bytes_inj h

/-- **The order of the children does not matter.** -/
theorem git_object_perm {cs cs' : List GitChild} (hgood : ∀ c ∈ cs, GoodChild c)
    (hnames : (cs.map Child.name).Nodup) (h : cs.Perm cs') : git_object cs = git_object cs' := by
  have htrans : IsTrans GitChild fun a b => sort_key a ≤ sort_key b :=
    ⟨fun _ _ _ h₁ h₂ => le_trans (α := List ℕ) h₁ h₂⟩
  have htotal : Std.Total fun a b : GitChild => sort_key a ≤ sort_key b :=
    ⟨fun a b => le_total (α := List ℕ) (sort_key a) (sort_key b)⟩
  have hperm : (in_order cs).Perm (in_order cs') :=
    (List.perm_insertionSort _ cs).trans (h.trans (List.perm_insertionSort _ cs').symm)
  have heq : in_order cs = in_order cs' := by
    refine List.Perm.eq_of_pairwise ?_ (List.pairwise_insertionSort _ cs)
      (List.pairwise_insertionSort _ cs') hperm
    intro a b ha hb hab hba
    have ha := mem_in_order.mp ha
    have hb := h.mem_iff.mpr (mem_in_order.mp hb)
    have hkey : sort_key a = sort_key b := le_antisymm (α := List ℕ) hab hba
    exact List.inj_on_of_nodup_map hnames ha hb (sort_key_inj (hgood a ha) (hgood b hb) hkey)
  rw [git_object_eq, git_object_eq, heq]

/-! ### Reading a tree object back -/

/-- A list with a marker is cut at the first one. -/
theorem append_cons_inj {β : Type} {x : β} {a b r r' : List β} (ha : x ∉ a) (hb : x ∉ b)
    (h : a ++ x :: r = b ++ x :: r') : a = b ∧ r = r' := by
  induction a generalizing b with
  | nil =>
    cases b with
    | nil => simpa using h
    | cons y b =>
      simp only [List.nil_append, List.cons_append, List.cons.injEq] at h
      exact absurd (h.1 ▸ List.mem_cons_self) hb
  | cons y a ih =>
    cases b with
    | nil =>
      simp only [List.nil_append, List.cons_append, List.cons.injEq] at h
      exact absurd (h.1 ▸ List.mem_cons_self) ha
    | cons z b =>
      simp only [List.cons_append, List.cons.injEq] at h
      rw [List.mem_cons, not_or] at ha hb
      obtain ⟨rfl, rfl⟩ := ih ha.2 hb.2 h.2
      exact ⟨by rw [h.1], rfl⟩

theorem space_not_mem_mode {c : GitChild} (h : GoodChild c) : 0x20 ∉ utf8_bytes c.label := by
  have hmode := h.mode
  simp only [List.mem_cons, List.not_mem_nil, or_false] at hmode
  rcases hmode with heq | heq | heq <;> rw [heq] <;> decide

/-- An entry at the front of a serialization is read back. -/
theorem entry_bytes_append {a b : GitChild} {rest rest' : List ℕ} (ha : GoodChild a)
    (hb : GoodChild b) (h : entry_bytes a ++ rest = entry_bytes b ++ rest') :
    a = b ∧ rest = rest' := by
  simp only [entry_bytes, object_entry, List.append_assoc, List.cons_append] at h
  obtain ⟨hmode, h⟩ := append_cons_inj (space_not_mem_mode ha) (space_not_mem_mode hb) h
  obtain ⟨hname, h⟩ := append_cons_inj (nul_not_mem ha) (nul_not_mem hb) h
  have hlen : (oid_bytes a.id).length = (oid_bytes b.id).length :=
    (oid_bytes_length ha.oid).trans (oid_bytes_length hb.oid).symm
  obtain ⟨hoid, hrest⟩ := List.append_inj h hlen
  refine ⟨?_, hrest⟩
  have hid := oid_bytes_inj ha.oid hb.oid hoid
  have hmode := utf8_bytes_inj hmode
  have hname := utf8_bytes_inj hname
  cases a
  cases b
  simp_all

theorem entry_bytes_ne_nil (c : GitChild) : entry_bytes c ≠ [] := by
  simp [entry_bytes, object_entry]

/-- The entries are read back one after the other. -/
theorem entries_inj {cs ds : List GitChild} (hc : ∀ c ∈ cs, GoodChild c)
    (hd : ∀ d ∈ ds, GoodChild d) (h : cs.flatMap entry_bytes = ds.flatMap entry_bytes) :
    cs = ds := by
  induction cs generalizing ds with
  | nil =>
    cases ds with
    | nil => rfl
    | cons d ds =>
      rw [List.flatMap_nil, List.flatMap_cons] at h
      exact absurd (List.append_eq_nil_iff.mp h.symm).1 (entry_bytes_ne_nil d)
  | cons c cs ih =>
    cases ds with
    | nil =>
      rw [List.flatMap_nil, List.flatMap_cons] at h
      exact absurd (List.append_eq_nil_iff.mp h).1 (entry_bytes_ne_nil c)
    | cons d ds =>
      rw [List.flatMap_cons, List.flatMap_cons] at h
      rw [List.forall_mem_cons] at hc hd
      obtain ⟨rfl, hrest⟩ := entry_bytes_append hc.1 hd.1 h
      rw [ih hc.2 hd.2 hrest]

/-- **A tree object determines its children.** -/
theorem git_object_inj {cs ds : List GitChild} (hc : ∀ c ∈ cs, GoodChild c)
    (hd : ∀ d ∈ ds, GoodChild d) (h : git_object cs = git_object ds) (c : GitChild) :
    c ∈ cs ↔ c ∈ ds := by
  have hnul : ∀ n, 0x00 ∉ utf8_bytes (String.ofList (Json.digits n)) := by
    intro n hmem
    obtain ⟨ch, hch, hnat⟩ := ascii_of_mem_utf8 (by decide) hmem
    rw [String.toList_ofList] at hch
    have hdigit := Json.digits_isDigit n ch hch
    obtain rfl : ch = Char.ofNat 0 := Char.toNat_inj.mp hnat
    exact absurd hdigit (by decide)
  rw [git_object_eq, git_object_eq, List.append_assoc, List.append_assoc] at h
  obtain ⟨-, h⟩ := append_cons_inj (hnul _) (hnul _) (List.append_cancel_left h)
  have horder := entries_inj (fun c h => hc c (mem_in_order.mp h))
    (fun d h => hd d (mem_in_order.mp h)) h
  rw [← mem_in_order, horder, mem_in_order]

/-! ## Listings -/

/-- An entry as the parser leaves it. -/
structure GoodEntry (e : GitHubTreeEntry) : Prop where
  parts : (split_path e.path).all plain_part = true
  chars : ∀ c ∈ e.path.toList, c.toNat ≠ 0
  oid : is_oid e.sha = true
  kind : e.mode ∈ BLOB_MODES ∧ e.entry_type = "blob" ∨ e.mode = TREE_MODE ∧ e.entry_type = "tree"

/-- A listing as the parser leaves it. -/
structure GoodListing (entries : List GitHubTreeEntry) : Prop where
  good : ∀ e ∈ entries, GoodEntry e
  nodup : (entries.map GitHubTreeEntry.path).Nodup

/-- The mode a tree object gives an entry. -/
def serialized_mode (e : GitHubTreeEntry) : String :=
  if e.entry_type = "tree" then "40000" else e.mode

/-- An entry by the names of its path. -/
def item_of (e : GitHubTreeEntry) : Item String String String :=
  ⟨split_path e.path, serialized_mode e, e.sha⟩

/-- A listing by the names of its paths. -/
def items (entries : List GitHubTreeEntry) : List (Item String String String) := entries.map item_of

/-- The names of a directory; the root is the empty path. -/
def names (directory : String) : List String := if directory = "" then [] else split_path directory

namespace GoodEntry

variable {e : GitHubTreeEntry}

theorem is_tree_mode (h : GoodEntry e) : is_tree_mode (serialized_mode e) = true ↔ e.entry_type = "tree" := by
  unfold serialized_mode
  rcases h.kind with ⟨hmode, htype⟩ | ⟨-, htype⟩
  · have hne : ¬ e.mode = "40000" := by
      rintro heq
      simp [BLOB_MODES, heq] at hmode
    simp [GitHubSnapshot.is_tree_mode, htype, hne]
  · simp [GitHubSnapshot.is_tree_mode, htype]

theorem path_ne (h : GoodEntry e) : e.path ≠ "" := by
  intro heq
  have hparts := h.parts
  rw [heq] at hparts
  exact absurd hparts (by decide)

theorem split_eq (e : GitHubTreeEntry) :
    split_path e.path = (split_path e.path).dropLast ++ [base_name e.path] := by
  have hne := split_path_ne_nil e.path
  rw [base_name, List.getLastD_eq_getLast?, List.getLast?_eq_getLast_of_ne_nil hne,
    Option.getD_some, List.dropLast_append_getLast hne]

/-- The names of the parent are those of the path without the last. -/
theorem names_parent (h : GoodEntry e) : names (parent_path e.path) = (split_path e.path).dropLast := by
  by_cases hnil : (split_path e.path).dropLast = []
  · have hparent : parent_path e.path = "" := by rw [parent_path, hnil]; rfl
    rw [names, if_pos hparent, hnil]
  · have hslash : ∀ p ∈ (split_path e.path).dropLast, '/' ∉ p.toList := fun p hp =>
      no_slash_of_mem_split (List.dropLast_subset _ hp)
    have hsplit : split_path (parent_path e.path) = (split_path e.path).dropLast :=
      split_join_path hslash hnil
    have hne : parent_path e.path ≠ "" := by
      intro heq
      rw [heq] at hsplit
      have hmem : "" ∈ (split_path e.path).dropLast := hsplit ▸ by decide
      have hplain := List.all_eq_true.mp h.parts _ (List.dropLast_subset _ hmem)
      simp [plain_part] at hplain
    rw [names, if_neg hne, hsplit]

theorem names_path (h : GoodEntry e) : names e.path = split_path e.path := if_neg h.path_ne

end GoodEntry

theorem names_inj {a b : String} (h : names a = names b) : a = b := by
  unfold names at h
  split_ifs at h with ha hb hb
  · rw [ha, hb]
  · exact absurd h.symm (split_path_ne_nil b)
  · exact absurd h (split_path_ne_nil a)
  · exact split_path_inj h

/-- The children of a directory, as the listing check and as the tree see them. -/
theorem children_items {entries : List GitHubTreeEntry} (h : ∀ e ∈ entries, GoodEntry e)
    (directory : String) :
    children (items entries) (names directory) =
      (children_of entries directory).map fun e => ⟨base_name e.path, serialized_mode e, e.sha⟩ := by
  induction entries with
  | nil => rfl
  | cons e entries ih =>
    rw [List.forall_mem_cons] at h
    have ih := ih h.2
    have hchild : (item_of e).child? (names directory) =
        if parent_path e.path = directory then some ⟨base_name e.path, serialized_mode e, e.sha⟩
        else none := by
      split_ifs with hp
      · rw [Item.child?_eq_some, item_of, ← hp, h.1.names_parent]
        exact congrArg (fun path => Item.mk path _ _) (GoodEntry.split_eq e)
      -- a path of another parent is no child: `parent_path` is what `names` drops the last of
      · rw [Option.eq_none_iff_forall_ne_some]
        intro c hc
        have hpath := congrArg Item.path (Item.child?_eq_some.mp hc)
        refine hp (names_inj ?_)
        rw [h.1.names_parent]
        exact (congrArg List.dropLast hpath).trans (List.dropLast_concat ..)
    rw [items, List.map_cons, children, List.filterMap_cons, hchild, children_of,
      List.filter_cons]
    by_cases hp : parent_path e.path = directory
    · simp only [hp, if_true, decide_true, List.map_cons]
      exact congrArg _ ih
    · simp only [hp, if_false, decide_false, Bool.false_eq_true]
      exact ih

/-! ## The loop over the directories -/

section Loop

variable {entries : List GitHubTreeEntry} {root : String}

/-- The child an entry is. -/
def child_of (e : GitHubTreeEntry) : GitChild := ⟨base_name e.path, serialized_mode e, e.sha⟩

theorem GoodEntry.child {e : GitHubTreeEntry} (h : GoodEntry e) : GoodChild (child_of e) where
  mode := by
    unfold child_of serialized_mode
    rcases h.kind with ⟨hmode, htype⟩ | ⟨-, htype⟩
    · have hne : ¬ e.entry_type = "tree" := by simp [htype]
      simp only [hne, if_false]
      exact List.mem_cons_of_mem _ hmode
    · simp [htype]
  name := by
    have hmem : base_name e.path ∈ split_path e.path := by
      rw [GoodEntry.split_eq e]
      simp
    intro ch hch
    refine ⟨h.chars ch (mem_of_mem_part hmem hch), ?_⟩
    rintro rfl
    exact no_slash_of_mem_split hmem hch
  oid := h.oid

/-- The object ID of a listed directory. -/
def directory_oid (entries : List GitHubTreeEntry) (directory : String) : String :=
  git_hash (children (items entries) (names directory))

theorem by_path_mem (h : GoodListing entries) {e : GitHubTreeEntry} (he : e ∈ entries) :
    by_path entries e.path = some e := by
  unfold by_path
  cases hfind : entries.reverse.find? fun entry => entry.path = e.path with
  | none => simpa using List.find?_eq_none.mp hfind e (by simpa using he)
  | some f =>
    have hf : f ∈ entries := by simpa using List.mem_of_find?_eq_some hfind
    have hpath : f.path = e.path := by simpa using List.find?_some hfind
    rw [List.inj_on_of_nodup_map h.nodup hf he hpath]

/-- The children of a directory, once the IDs of its subtrees are computed. -/
theorem children_bytes_ready (h : ∀ e ∈ entries, GoodEntry e) {computed : List (String × String)}
    {l : List GitHubTreeEntry} (hl : ∀ e ∈ l, e ∈ entries)
    (hready : ∀ e ∈ l, e.entry_type = "tree" → computed.lookup e.path = some e.sha) :
    children_bytes computed l =
      .ok (l.map fun e => (sort_key (child_of e), entry_bytes (child_of e))) := by
  induction l with
  | nil => rfl
  | cons e l ih =>
    rw [List.forall_mem_cons] at hl hready
    have hgood := h e hl.1
    have hchild : child_bytes computed e = .ok (sort_key (child_of e), entry_bytes (child_of e)) := by
      unfold child_bytes sort_key entry_bytes child_of
      by_cases ht : e.entry_type = "tree"
      · simp only [ht, hready.1 ht, decide_true, if_true, ok_bind, fromhex_oid hgood.oid,
          serialized_mode]
        rfl
      · have hmode : serialized_mode e = e.mode := if_neg ht
        have hblob : is_tree_mode e.mode = false := by
          rw [← hmode, ← Bool.not_eq_true, hgood.is_tree_mode]
          exact ht
        simp only [ht, hmode, hblob, decide_false, Bool.false_eq_true, if_false, ok_bind,
          fromhex_oid hgood.oid]
        rfl
    rw [children_bytes, hchild, ok_bind, ih hl.2 hready.2]
    rfl

theorem tree_oid_children (h : ∀ e ∈ entries, GoodEntry e) (directory : String) :
    tree_oid ((children_of entries directory).map fun e =>
      (sort_key (child_of e), entry_bytes (child_of e))) = directory_oid entries directory := by
  rw [directory_oid, children_items h, git_hash, git_object, List.map_map]
  rfl

/-- The names of a child are those of its directory and its own. -/
theorem names_child (h : ∀ e ∈ entries, GoodEntry e) {directory : String} {e : GitHubTreeEntry}
    (he : e ∈ children_of entries directory) :
    e ∈ entries ∧ split_path e.path = names directory ++ [base_name e.path] := by
  obtain ⟨hmem, hparent⟩ := List.mem_filter.mp he
  refine ⟨hmem, ?_⟩
  rw [← of_decide_eq_true hparent, (h e hmem).names_parent]
  exact GoodEntry.split_eq e

/-- The directory's ID is the one the listing or the request claims. -/
def Claimed (entries : List GitHubTreeEntry) (root directory : String) : Prop :=
  (directory = "" → directory_oid entries directory = root) ∧
    ∀ e ∈ entries, e.path = directory → directory_oid entries directory = e.sha

/-- One round of the loop. -/
theorem verify_directory_ok (h : GoodListing entries) {computed : List (String × String)}
    {directory : String}
    (hlisted : directory = "" ∨ (∃ e ∈ entries, e.path = directory) ∧
      children_of entries directory ≠ [])
    (hready : ∀ e ∈ children_of entries directory, e.entry_type = "tree" →
      computed.lookup e.path = some e.sha) :
    (Claimed entries root directory ∧
        ∃ computed', verify_directory root entries computed directory = .ok computed' ∧
          ∀ e ∈ entries, (computed.lookup e.path = some e.sha ∨ e.path = directory) →
            computed'.lookup e.path = some e.sha) ∨
      ¬ Claimed entries root directory ∧
        ∃ error, verify_directory root entries computed directory = .error error := by
  have hchildren : children_bytes computed (children_of entries directory) = _ :=
    children_bytes_ready h.good (fun e he => List.mem_of_mem_filter he) hready
  have hoid := tree_oid_children h.good directory
  have hempty : ((children_of entries directory).map fun e =>
      (sort_key (child_of e), entry_bytes (child_of e))).isEmpty = true ↔
      children_of entries directory = [] := by
    rw [List.isEmpty_iff, List.map_eq_nil_iff]
  unfold verify_directory
  simp only [hchildren, ok_bind, hempty, hoid]
  rcases hlisted with rfl | ⟨⟨f, hf, rfl⟩, hne⟩
  · have hroot : Claimed entries root "" ↔ directory_oid entries "" = root :=
      ⟨fun hc => hc.1 rfl, fun hc => ⟨fun _ => hc, fun e he hpath =>
        absurd hpath (h.good e he).path_ne⟩⟩
    rw [hroot]
    by_cases hc : directory_oid entries "" = root
    · refine .inl ⟨hc, computed, by simp [hc], fun e he hlookup => ?_⟩
      exact hlookup.resolve_right (h.good e he).path_ne
    · refine .inr ⟨hc, snapshot_error "tree OID mismatch", ?_⟩
      simp only [ne_eq, hc, not_true, and_false, if_false, not_false_eq_true, if_true]
  · have hpath := (h.good f hf).path_ne
    have hclaim : Claimed entries root f.path ↔ directory_oid entries f.path = f.sha := by
      refine ⟨fun hc => hc.2 f hf rfl, fun hc => ⟨fun heq => absurd heq hpath, fun e he heq => ?_⟩⟩
      rw [List.inj_on_of_nodup_map h.nodup he hf heq]
      exact hc
    rw [hclaim]
    simp only [hne, false_and, if_false, ne_eq, hpath, not_false_eq_true, if_true,
      by_path_mem h hf]
    by_cases hc : directory_oid entries f.path = f.sha
    · refine .inl ⟨hc, (f.path, directory_oid entries f.path) :: computed, by simp [hc],
        fun e he hlookup => ?_⟩
      -- paths are unique, so the id just computed shadows none of another path
      by_cases heq : e.path = f.path
      · rw [List.inj_on_of_nodup_map h.nodup he hf heq, List.lookup_cons_self, hc]
      · have hb : (e.path == f.path) = false := by simpa using heq
        rw [List.lookup_cons, hb]
        exact hlookup.resolve_right heq
    · refine .inr ⟨hc, snapshot_error "subtree OID mismatch", ?_⟩
      simp only [hc, not_false_eq_true, if_true]

/-- **The loop accepts exactly when every directory has the ID claimed for it**,
if deeper directories come first. -/
theorem verify_directories_ok (h : GoodListing entries) {ds : List String}
    {computed : List (String × String)}
    (hdeep : ds.Pairwise fun a b => (names b).length ≤ (names a).length)
    (hlisted : ∀ d ∈ ds, d = "" ∨ (∃ e ∈ entries, e.path = d) ∧ children_of entries d ≠ [])
    (hready : ∀ d ∈ ds, ∀ e ∈ children_of entries d, e.entry_type = "tree" →
      computed.lookup e.path = some e.sha ∨ e.path ∈ ds) :
    verify_directories root entries ds computed = .ok () ↔
      ∀ d ∈ ds, Claimed entries root d := by
  induction ds generalizing computed with
  | nil => simp [verify_directories]
  | cons d ds ih =>
    rw [List.pairwise_cons] at hdeep
    rw [List.forall_mem_cons] at hlisted
    -- A child is one name deeper, so it does not come later.
    have hhead : ∀ e ∈ children_of entries d, e.entry_type = "tree" →
        computed.lookup e.path = some e.sha := by
      intro e he ht
      refine (hready d List.mem_cons_self e he ht).resolve_right fun hmem => ?_
      obtain ⟨hentry, hnames⟩ := names_child h.good he
      have hlen : (names e.path).length = (names d).length + 1 := by
        rw [(h.good e hentry).names_path, hnames, List.length_append]
        rfl
      rcases List.mem_cons.mp hmem with heq | hmem
      · rw [heq] at hlen
        omega
      · have := hdeep.1 _ hmem
        omega
    rw [verify_directories, List.forall_mem_cons]
    rcases @verify_directory_ok _ root h _ _ hlisted.1 hhead with
      ⟨hclaimed, computed', hok, hlookup⟩ | ⟨hclaimed, error, herror⟩
    · rw [hok, ok_bind, ih hdeep.2 hlisted.2]
      · exact (and_iff_right hclaimed).symm
      · intro d' hd' e he ht
        have hentry := (names_child h.good he).1
        rcases hready d' (List.mem_cons_of_mem _ hd') e he ht with hl | hmem
        · exact .inl (hlookup e hentry (.inl hl))
        · rcases List.mem_cons.mp hmem with heq | hmem
          · exact .inl (hlookup e hentry (.inr heq))
          · exact .inr hmem
    · rw [herror]
      simp [hclaimed]

end Loop

end AppContracts.GitHubSnapshot
