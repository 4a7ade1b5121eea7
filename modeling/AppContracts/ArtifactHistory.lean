/-
Runs of the artifact store: any number of processes open one file and put, read and
resolve artifacts, their statements interleave, and any of them may crash.

A row of a sound database is the row of its own content. Rows are only added, so what
a reference is bound to never changes, and every rule below comes from what one
statement does to a sound database.
-/
import AppContracts.ArtifactStore
import AppContracts.Lib.Later

set_option autoImplicit false

namespace AppContracts.ArtifactStore

open Interleave SecretScan
open HistoryReport (ArtifactResolution)
open SimulationBranch (value_error type_is_dict manifest_match or_error or_error_ok)

/-! ## References -/

/-- The digits of a content's digest. -/
def digits_of (content : Bytes) : String := Sha256.hexdigest (octets content)

theorem digest_of_eq (content : Bytes) : digest_of content = "sha256:" ++ digits_of content := rfl

theorem drop_front (front rest : String) : (front ++ rest).toList.drop front.length = rest.toList := by
  rw [String.toList_append, ← String.length_toList, List.drop_left]

theorem reference_of_eq (digits : String) :
    reference_of ("sha256:" ++ digits) = "artifact://sha256/" ++ digits := by
  unfold reference_of
  refine congrArg ("artifact://sha256/" ++ ·) ?_
  rw [drop_front, String.ofList_toList]

theorem ref_of_eq (content : Bytes) : ref_of content = "artifact://sha256/" ++ digits_of content := by
  rw [ref_of, digest_of_eq, reference_of_eq]

theorem artifact_match_some {artifact_ref digits : String}
    (h : artifact_match artifact_ref = some digits) :
    artifact_ref = "artifact://sha256/" ++ digits := by
  rw [artifact_match, manifest_match] at h
  split_ifs at h with hmatch
  rw [Bool.and_eq_true, Bool.and_eq_true] at hmatch
  obtain ⟨rest, hrest⟩ := List.isPrefixOf_iff_prefix.mp hmatch.1.1
  obtain rfl := Option.some.inj h
  have href : artifact_ref = "artifact://sha256/" ++ String.ofList rest := by
    rw [← String.ofList_toList (s := artifact_ref), ← hrest, String.ofList_append, String.ofList_toList]
  rw [href, drop_front, String.ofList_toList]

/-- The reference of a content matches, with the digits of its digest. -/
theorem artifact_match_ref (content : Bytes) :
    artifact_match (ref_of content) = some (digits_of content) := by
  have hdigest := GitHubSnapshot.is_digest_sha256_bytes (octets content)
  have hdrop : (sha256_bytes (octets content)).toList.drop "sha256:".length =
      (digits_of content).toList := drop_front "sha256:" (digits_of content)
  rw [GitHubSnapshot.is_digest, hdrop, Bool.and_eq_true, Bool.and_eq_true] at hdigest
  have hfront : "artifact://sha256/".toList.isPrefixOf
      ("artifact://sha256/" ++ digits_of content).toList = true := by
    rw [String.toList_append]
    exact List.isPrefixOf_iff_prefix.mpr (List.prefix_append _ _)
  rw [artifact_match, manifest_match, ref_of_eq, drop_front, hfront, hdigest.1.2, hdigest.2,
    String.ofList_toList]
  rfl

/-- What the store takes. -/
structure Storable (content : Bytes) : Prop where
  size : size_ok content = true
  content : check_content content = .ok ()

/-- A row of its own content. -/
structure Kept (row : Row) : Prop where
  eq : row = row_of row.content_json row.classification "complete"
  storable : Storable row.content_json
  classification : classification_ok row.classification = true

/-- **The rows the store accepts** are the rows of their own contents. -/
theorem validate_record_ok {row : Row} {r : ArtifactResolution} :
    validate_record row = .ok r ↔ Kept row ∧ r = resolution_of row.content_json := by
  rw [validate_record, bind_ok]
  constructor
  · rintro ⟨digits, hdigits, h⟩
    obtain ⟨hrow, h⟩ := raise_if_bind.mp h
    obtain ⟨u, hcontent, h⟩ := bind_ok.mp h
    obtain rfl := Except.ok.inj h
    simp only [not_or, not_not, Bool.not_eq_false] at hrow
    obtain ⟨hdigest, hbytes, hsize, hclass, hredaction, hsha⟩ := hrow
    -- the reference and the digest column carry the same 64 digits
    have href : row.artifact_ref = ref_of row.content_json := by
      rw [ref_of_eq, artifact_match_some (or_raise_ok.mp hdigits)]
      rw [hdigest, digest_of_eq, String.append_right_inj] at hsha
      rw [hsha]
    refine ⟨⟨Row.ext href hsha.symm rfl hbytes rfl hredaction, ⟨hsize, hcontent⟩, hclass⟩, ?_⟩
    rw [resolution_of, href, hbytes, hsha]
  · rintro ⟨⟨heq, ⟨hsize, hcontent⟩, hclass⟩, rfl⟩
    have href : row.artifact_ref = ref_of row.content_json := congrArg Row.artifact_ref heq
    have hdigest : row.content_digest = digest_of row.content_json := congrArg Row.content_digest heq
    have hbytes : row.content_bytes = row.content_json.length := congrArg Row.content_bytes heq
    have hredaction : row.redaction_status = "complete" := congrArg Row.redaction_status heq
    refine ⟨digits_of row.content_json, ?_, raise_if_bind.mpr ⟨?_, ?_⟩⟩
    · rw [href, artifact_match_ref, or_raise_ok]
    · simp only [not_or, not_not, Bool.not_eq_false]
      exact ⟨hdigest, hbytes, hsize, hclass, hredaction, hdigest.symm⟩
    · rw [hcontent, resolution_of, href, hdigest, hbytes]
      rfl

theorem kept_row_of {content : Bytes} {classification : String} (h : Storable content)
    (hclass : classification_ok classification = true) :
    Kept (row_of content classification "complete") := ⟨rfl, h, hclass⟩

theorem Kept.artifact_ref {row : Row} (h : Kept row) : row.artifact_ref = ref_of row.content_json :=
  congrArg Row.artifact_ref h.eq

theorem Kept.redaction_status {row : Row} (h : Kept row) : row.redaction_status = "complete" :=
  congrArg Row.redaction_status h.eq

/-- The loop over the rows accepts those that are kept. -/
theorem validate_rows_ok {rows : List Row} (h : ∀ row ∈ rows, Kept row) :
    validate_rows rows = .ok () := by
  induction rows with
  | nil => rfl
  | cons row rest ih =>
    rw [List.forall_mem_cons] at h
    rw [validate_rows, validate_record_ok.mpr ⟨h.1, rfl⟩, ok_bind]
    exact ih h.2

theorem canonical_payload_ok {payload : Arg Bytes} {encoded : Bytes} {digest : String} :
    canonical_payload payload = .ok (encoded, digest) ↔
      payload = .of encoded ∧ Storable encoded ∧ digest = digest_of encoded := by
  cases payload with
  | other => exact iff_of_false (by rintro ⟨⟩) (by rintro ⟨⟨⟩, -⟩)
  | of content =>
    rw [canonical_payload, or_error_ok, raise_if_bind, bind_ok, Bool.not_eq_false]
    constructor
    · rintro ⟨hsize, u, hcontent, h⟩
      obtain ⟨rfl, rfl⟩ := Prod.mk.inj (Except.ok.inj h)
      exact ⟨rfl, ⟨hsize, hcontent⟩, rfl⟩
    · rintro ⟨heq, ⟨hsize, hcontent⟩, rfl⟩
      obtain rfl := Arg.of.inj heq
      exact ⟨hsize, (), hcontent, rfl⟩

theorem write_policy_ok {c : Connection} {classification redaction_status : Arg String}
    {p : String × String} (h : write_policy c classification redaction_status = .ok p) :
    classification = .of p.1 ∧ redaction_status = .of "complete" ∧ p.2 = "complete" ∧
      c.read_only = false ∧ classification_ok p.1 = true := by
  cases classification with
  | other => cases h
  | of classification =>
    cases redaction_status with
    | other => cases h
    | of redaction_status =>
      rw [write_policy] at h
      split_ifs at h with hpolicy
      simp only [not_or, not_not, Bool.not_eq_false, Bool.not_eq_true] at hpolicy
      obtain rfl := Except.ok.inj h
      obtain ⟨hread, hclass, rfl⟩ := hpolicy
      exact ⟨rfl, rfl, rfl, hread, hclass⟩

/-! ## Sound databases -/

/-- A schema that has been created to its end. -/
structure Complete (db : Db) : Prop where
  version : db.user_version = SCHEMA_VERSION
  table : db.table.isSome = true
  triggers : TRIGGERS ⊆ db.triggers

/-- The invariant: every row is kept, references are unique, and the version says
whether the schema is complete. -/
structure Sound (db : Db) : Prop where
  kept : ∀ row ∈ db.rows, Kept row
  unique : (db.rows.map Row.artifact_ref).Nodup
  triggers : db.triggers ⊆ TRIGGERS
  complete : db.user_version = 0 ∨ Complete db

/-- What a database may become: rows, triggers and the version are only added to. -/
structure Extends (db db' : Db) : Prop where
  rows : db.rows <+: db'.rows
  version : db.user_version ≤ db'.user_version
  table : db.table.isSome = true → db'.table.isSome = true
  triggers : db.triggers ⊆ db'.triggers

namespace Extends

variable {db db' db'' : Db}

theorem refl (db : Db) : Extends db db := ⟨List.prefix_rfl, Nat.le_refl _, id, fun _ h => h⟩

theorem trans (h : Extends db db') (h' : Extends db' db'') : Extends db db'' :=
  ⟨h.rows.trans h'.rows, h.version.trans h'.version, fun ht => h'.table (h.table ht),
    fun _ hn => h'.triggers (h.triggers hn)⟩

theorem of_star (h : Relation.ReflTransGen Extends db db') : Extends db db' := by
  induction h with
  | refl => exact refl db
  | tail _ hs ih => exact ih.trans hs

/-- A complete schema stays complete. -/
theorem complete (h : Extends db db') (hs : Sound db') (hc : Complete db) : Complete db' := by
  rcases hs.complete with hzero | hcomplete
  · have hversion := h.version
    rw [hc.version, hzero] at hversion
    exact absurd hversion (by decide)
  · exact hcomplete

end Extends

/-- Two rows of a sound database with one reference are the same row. -/
theorem Sound.row_inj {db : Db} (h : Sound db) {row row' : Row} (hr : row ∈ db.rows)
    (hr' : row' ∈ db.rows) (heq : row.artifact_ref = row'.artifact_ref) : row = row' :=
  List.inj_on_of_nodup_map h.unique hr hr' heq

theorem fresh_sound : Sound .fresh where
  kept _ h := nomatch h
  unique := List.nodup_nil
  triggers _ h := nomatch h
  complete := .inl rfl

/-! ## What a statement does -/

/-- A write that was committed or refused. -/
def Wrote (db : Db) (next : Option Db) (done : Bool) (db' : Db) : Prop :=
  (done = true ∧ next = some db') ∨ (done = false ∧ db' = db)

/-- A query that was answered or refused. -/
def Asked {α : Type} (db : Db) (value : Option α) (r : Option α) (db' : Db) : Prop :=
  db' = db ∧ (r = none ∨ r = value)

/-- What each statement can do. -/
def Does (db : Db) : (op : Op) → Res op → Db → Prop
  | .file, _, db' => db' = db
  | .connect, _, db' => db' = db
  | .user_version, r, db' => Asked db (some db.user_version) r db'
  | .tables, r, db' => Asked db (some (if db.table.isSome then TABLES else [])) r db'
  | .columns, r, db' => Asked db (some (if db.table.isSome then COLUMNS else [])) r db'
  | .triggers, r, db' => Asked db (some db.triggers) r db'
  | .create_table, done, db' => Wrote db db.create_table done db'
  | .create_trigger name, done, db' => Wrote db (db.create_trigger name) done db'
  | .set_version version, done, db' => Wrote db (some { db with user_version := version }) done db'
  | .rows, r, db' => Asked db (db.table.map fun rows =>
      rows.insertionSort fun a b => a.artifact_ref ≤ b.artifact_ref) r db'
  | .find artifact_ref, r, db' =>
    Asked db (db.table.map fun rows => rows.find? fun row => row.artifact_ref = artifact_ref) r db'
  | .insert row, done, db' => Wrote db (db.insert row) done db'

theorem written_wrote {db db' : Db} {next : Option Db} {done : Bool}
    (h : written db next = (done, db')) : Wrote db next done db' := by
  cases next with
  | none =>
    obtain ⟨rfl, rfl⟩ := Prod.mk.inj h
    exact .inr ⟨rfl, rfl⟩
  | some next =>
    obtain ⟨rfl, rfl⟩ := Prod.mk.inj h
    exact .inl ⟨rfl, rfl⟩

/-- **The statements**, with the refused ones. -/
theorem sem_does {db db' : Db} {op : Op} {r : Res op} (h : sem db op r db') : Does db op r db' := by
  rcases h with ⟨facts, h⟩ | ⟨h, rfl⟩
  · cases op with
    | file => exact (congrArg Prod.snd h).symm
    | connect => exact (congrArg Prod.snd h).symm
    | create_table => exact written_wrote h
    | create_trigger name => exact written_wrote h
    | insert row => exact written_wrote h
    | set_version version =>
      obtain ⟨rfl, rfl⟩ := Prod.mk.inj h
      exact .inl ⟨rfl, rfl⟩
    | _ =>
      obtain ⟨rfl, rfl⟩ := Prod.mk.inj h
      exact ⟨rfl, .inr rfl⟩
  · cases op with
    | file => rfl
    | connect => rfl
    | create_table => exact .inr ⟨(Option.some.inj h).symm, rfl⟩
    | create_trigger name => exact .inr ⟨(Option.some.inj h).symm, rfl⟩
    | insert row => exact .inr ⟨(Option.some.inj h).symm, rfl⟩
    | set_version version => exact .inr ⟨(Option.some.inj h).symm, rfl⟩
    | _ => exact ⟨rfl, .inl (Option.some.inj h).symm⟩

/-- What a statement needs to keep a database sound. -/
def Ready (db : Db) : Op → Prop
  | .create_trigger name => name ∈ TRIGGERS
  | .set_version version => version = SCHEMA_VERSION ∧ db.table.isSome = true ∧ TRIGGERS ⊆ db.triggers
  | .insert row => Kept row
  | _ => True

theorem insert_some {db db' : Db} {row : Row} (h : db.insert row = some db') :
    (∀ r ∈ db.rows, r.artifact_ref ≠ row.artifact_ref) ∧ db.table.isSome = true ∧
      db'.rows = db.rows ++ [row] ∧
      db' = { db with table := some (db.rows ++ [row]) } := by
  rw [Db.insert] at h
  split at h
  · exact nomatch h
  · rename_i rows hrows
    have heq : db.rows = rows := by rw [Db.rows, hrows, Option.getD_some]
    split_ifs at h with hany
    obtain rfl := Option.some.inj h
    rw [heq, hrows]
    refine ⟨fun r hr href => hany (List.any_eq_true.mpr ⟨r, hr, decide_eq_true href⟩), rfl, rfl, rfl⟩

/-- **A statement that is ready** keeps a database sound, and extends it. -/
theorem step_sound {db db' : Db} {op : Op} {r : Res op} (hs : Sound db) (hop : Ready db op)
    (h : sem db op r db') : Sound db' ∧ Extends db db' := by
  have hdoes := sem_does h
  -- most requests leave the file as it was
  have hsame : db' = db → Sound db' ∧ Extends db db' := by
    rintro rfl
    exact ⟨hs, .refl _⟩
  cases op with
  | file => exact hsame hdoes
  | connect => exact hsame hdoes
  | create_table =>
    rcases hdoes with ⟨-, hnext⟩ | ⟨-, heq⟩
    · rw [Db.create_table] at hnext
      split at hnext
      · rename_i htable
        obtain rfl := Option.some.inj hnext
        have hrows : db.rows = [] := by rw [Db.rows, htable, Option.getD_none]
        refine ⟨⟨fun _ h => absurd h List.not_mem_nil, List.nodup_nil, hs.triggers, ?_⟩,
          ⟨by rw [hrows]; exact List.nil_prefix, Nat.le_refl _, fun _ => rfl, fun _ h => h⟩⟩
        rcases hs.complete with hzero | hcomplete
        · exact .inl hzero
        · exact .inr ⟨hcomplete.version, rfl, hcomplete.triggers⟩
      · cases hnext
    · exact hsame heq
  | create_trigger name =>
    rcases hdoes with ⟨-, hnext⟩ | ⟨-, heq⟩
    · rw [Db.create_trigger] at hnext
      split_ifs at hnext with hnew
      obtain rfl := Option.some.inj hnext
      refine ⟨⟨hs.kept, hs.unique, ?_, ?_⟩, ⟨List.prefix_rfl, Nat.le_refl _, id, ?_⟩⟩
      · exact List.append_subset.mpr ⟨hs.triggers, List.cons_subset.mpr ⟨hop, List.nil_subset _⟩⟩
      · rcases hs.complete with hzero | hcomplete
        · exact .inl hzero
        · exact .inr ⟨hcomplete.version, hcomplete.table,
            fun _ hn => List.mem_append_left _ (hcomplete.triggers hn)⟩
      · exact List.subset_append_left _ _
    · exact hsame heq
  -- the version is written last, so a file of version 1 has its table and its triggers
  | set_version version =>
    rcases hdoes with ⟨-, hnext⟩ | ⟨-, heq⟩
    · obtain rfl := Option.some.inj hnext
      obtain ⟨rfl, htable, htriggers⟩ := hop
      refine ⟨⟨hs.kept, hs.unique, hs.triggers, .inr ⟨rfl, htable, htriggers⟩⟩,
        ⟨List.prefix_rfl, ?_, id, fun _ h => h⟩⟩
      rcases hs.complete with hzero | hcomplete
      · exact hzero.le.trans (Nat.zero_le _)
      · exact hcomplete.version.le
    · exact hsame heq
  | insert row =>
    rcases hdoes with ⟨-, hnext⟩ | ⟨-, heq⟩
    · obtain ⟨hnew, htable, hrows, rfl⟩ := insert_some hnext
      refine ⟨⟨?_, ?_, hs.triggers, ?_⟩,
        ⟨⟨[row], hrows.symm⟩, Nat.le_refl _, fun _ => rfl, fun _ h => h⟩⟩
      · rw [hrows]
        intro r hr
        rcases List.mem_append.mp hr with hr | hr
        · exact hs.kept r hr
        · exact List.mem_singleton.mp hr ▸ hop
      · rw [hrows, List.map_append, List.nodup_append]
        refine ⟨hs.unique, List.nodup_singleton _, ?_⟩
        rintro a ha b hb rfl
        obtain ⟨r, hr, rfl⟩ := List.mem_map.mp ha
        exact hnew r hr (List.mem_singleton.mp hb)
      · rcases hs.complete with hzero | hcomplete
        · exact .inl hzero
        · exact .inr ⟨hcomplete.version, rfl, hcomplete.triggers⟩
    · exact hsame heq
  | _ => exact hsame hdoes.1

/-- What a lookup finds in a sound database. -/
theorem find_mem {db : Db} {artifact_ref : String} {row : Row}
    (h : (db.table.map fun rows => rows.find? fun row => row.artifact_ref = artifact_ref) =
      some (some row)) : row ∈ db.rows ∧ row.artifact_ref = artifact_ref := by
  obtain ⟨rows, hrows, hfind⟩ := Option.map_eq_some_iff.mp h
  have hsome := List.find?_some hfind
  rw [Db.rows, hrows, Option.getD_some]
  exact ⟨List.mem_of_find?_eq_some hfind, of_decide_eq_true hsome⟩

/-- A reference that no lookup finds. -/
theorem find_none {db : Db} {artifact_ref : String}
    (h : (db.table.map fun rows => rows.find? fun row => row.artifact_ref = artifact_ref) =
      some none) : ∀ row ∈ db.rows, row.artifact_ref ≠ artifact_ref := by
  obtain ⟨rows, hrows, hfind⟩ := Option.map_eq_some_iff.mp h
  rw [Db.rows, hrows, Option.getD_some]
  intro row hrow
  exact of_decide_eq_false (Bool.eq_false_iff.mpr (List.find?_eq_none.mp hfind row hrow))

/-! ## What calls do, whoever else is running -/

/-- An answer that makes its statement fail; opening fails on a bad file, too. -/
def fails : (op : Op) → Res op → Bool
  | .file, facts => match check_file false facts with
    | .ok _ => false
    | .error _ => true
  | .connect, done => !done
  | .user_version, r => r.isNone
  | .tables, r => r.isNone
  | .columns, r => r.isNone
  | .triggers, r => r.isNone
  | .create_table, done => !done
  | .create_trigger _, done => !done
  | .set_version _, done => !done
  | .rows, r => r.isNone
  | .find _, r => r.isNone
  | .insert _, done => !done

/-- Whether something has failed so far. -/
def note (failed : Bool) (op : Op) (r : Res op) : Bool := failed || fails op r

/-- The rely/guarantee rule at the store: sound databases, which are only extended. -/
abbrev Safely {α : Type} (Q : Bool → α → Db → Prop) (X : Bool → Exn → Db → Prop) (failed : Bool)
    (p : Program α) (db : Db) : Prop := Safe sem Sound Extends note Q X failed p db

/-- A row for the reference of `row`, under the same policy. -/
def Bound (db : Db) (row : Row) : Prop :=
  ∃ r ∈ db.rows, r.artifact_ref = row.artifact_ref ∧ r.classification = row.classification

/-- A row for the reference of `row`, under another classification. -/
def Taken (db : Db) (row : Row) : Prop :=
  ∃ r ∈ db.rows, r.artifact_ref = row.artifact_ref ∧ r.classification ≠ row.classification

theorem Extends.mem {db db' : Db} (h : Extends db db') {row : Row} (hr : row ∈ db.rows) :
    row ∈ db'.rows := h.rows.subset hr

/-- `write policy refused`. -/
def policy_refused : Exn := store_error "write policy refused"

section Calls

variable {c : Connection} {failed : Bool} {db : Db}

/-- What `check_existing` makes of a row that is kept. -/
theorem check_existing_eq {existing : Row} (h : Kept existing) (classification : String) :
    check_existing existing classification "complete" =
      raise_if (existing.classification ≠ classification) policy_refused := by
  rw [check_existing, validate_record_ok.mpr ⟨h, rfl⟩, ok_bind]
  simp only [h.redaction_status, ne_eq, not_true_eq_false, or_false]
  rfl

/-- **The `try` of `put_json`**: a row that is bound, or an exception. -/
theorem put_row_safe {row : Row} (hrow : Kept row) :
    Safely (fun _ _ db => Bound db row)
      (fun failed e db => (e = policy_refused ∧ Taken db row) ∨
        (e.cls ≠ .ObserverArtifactStoreError ∧ (c.connected = false ∨ failed = true)))
      failed (put_row c row) db := by
  rw [put_row]
  apply Safe.lift_bind
  · intro e he s₁ _ _
    rw [raise_if] at he
    split_ifs at he with hc
    obtain rfl := Except.error.inj he
    exact .inr ⟨by decide, .inl hc⟩
  intro _ _ s₁ hs₁ _ r s₂ hsem
  obtain ⟨rfl, hr⟩ := sem_does hsem
  refine ⟨hs₁, .refl _, ?_⟩
  apply Safe.lift_bind
  · intro e he s₃ _ _
    cases r with
    | some r => cases he
    | none =>
      obtain rfl := Except.error.inj he
      exact .inr ⟨by decide, .inr (Bool.or_true _)⟩
  intro existing hexisting
  rw [or_raise_ok] at hexisting
  subst hexisting
  obtain ⟨⟨⟩⟩ | hfound := hr
  cases existing with
  | none =>
    -- Another worker may insert the reference before this one does.
    intro s₃ hs₃ _ done s₄ hinsert
    obtain ⟨hsound, hext⟩ := step_sound hs₃ (show Ready s₃ (.insert row) from hrow) hinsert
    refine ⟨hsound, hext, ?_⟩
    rcases sem_does hinsert with ⟨rfl, hnext⟩ | ⟨rfl, rfl⟩
    · obtain ⟨-, -, hrows, -⟩ := insert_some hnext
      intro s₅ _ hext
      refine ⟨row, (Extends.of_star hext).mem ?_, rfl, rfl⟩
      rw [hrows]
      exact List.mem_append_right _ (List.mem_singleton_self row)
    · exact fun s₅ _ _ => .inr ⟨by decide, .inr (Bool.or_true _)⟩
  | some existing =>
    obtain ⟨hmem, href⟩ := find_mem hfound.symm
    show Safe _ _ _ _ _ _ _ (Prog.lift _) _
    rw [hrow.redaction_status, check_existing_eq (hs₁.kept _ hmem), raise_if]
    split_ifs with hclass
    · exact fun s₅ _ hext => .inl ⟨rfl, existing, (Extends.of_star hext).mem hmem, href, hclass⟩
    · exact fun s₅ _ hext => ⟨existing, (Extends.of_star hext).mem hmem, href, not_not.mp hclass⟩

end Calls

/-! ### Putting -/

/-- What `put_json` establishes when it returns. -/
def PutReturns (payload : Arg Bytes) (classification : Arg String) (r : ArtifactResolution)
    (db : Db) : Prop :=
  ∃ content row, payload = .of content ∧ r = resolution_of content ∧ row ∈ db.rows ∧
    row.artifact_ref = r.artifact_ref ∧ classification = .of row.classification

/-- When `put_json` raises. -/
def PutRaises (connected : Bool) (payload : Arg Bytes) (classification redaction_status : Arg String)
    (failed : Bool) (e : Exn) (db : Db) : Prop :=
  (e = policy_refused ∧
    (write_policy ⟨false, connected⟩ classification redaction_status = .error e ∨
      ∃ content row, payload = .of content ∧ row ∈ db.rows ∧ row.artifact_ref = ref_of content ∧
        classification ≠ .of row.classification)) ∨
  (e = store_error "content rejected" ∧ canonical_payload payload = .error e) ∨
  (e = store_error "write failed" ∧ (connected = false ∨ failed = true))

theorem write_policy_error {c : Connection} {classification redaction_status : Arg String} {e : Exn}
    (h : write_policy c classification redaction_status = .error e) : e = policy_refused := by
  cases classification with
  | other => exact (Except.error.inj h).symm
  | of classification =>
    cases redaction_status with
    | other => exact (Except.error.inj h).symm
    | of redaction_status =>
      rw [write_policy] at h
      split_ifs at h
      exact (Except.error.inj h).symm

theorem canonical_payload_error {payload : Arg Bytes} {e : Exn}
    (h : canonical_payload payload = .error e) : e = store_error "content rejected" := by
  cases payload with
  | other => exact (Except.error.inj h).symm
  | of content =>
    rw [canonical_payload] at h
    cases hchecked : (do
      raise_if (size_ok content = false) value_error
      check_content content
      return (content, digest_of content) : Except Exn (Bytes × String)) with
    | ok p =>
      rw [hchecked] at h
      cases h
    | error e' =>
      rw [hchecked] at h
      exact (Except.error.inj h).symm

/-- **`put_json`**, whoever else is running. -/
theorem put_json_safe {connected failed : Bool} {payload : Arg Bytes}
    {classification redaction_status : Arg String} {db : Db} :
    Safely (fun _ r db => PutReturns payload classification r db)
      (PutRaises connected payload classification redaction_status) failed
      (put_json ⟨false, connected⟩ payload classification redaction_status) db := by
  rw [put_json]
  apply Safe.lift_bind
  · intro e he s₁ _ _
    have heq := write_policy_error he
    exact .inl ⟨heq, .inl he⟩
  rintro ⟨class_text, redaction_text⟩ hpolicy
  obtain ⟨rfl, rfl, hredaction, -, hclass⟩ := write_policy_ok hpolicy
  dsimp only at hredaction hclass
  subst hredaction
  apply Safe.lift_bind
  · intro e he s₁ _ _
    exact .inr (.inl ⟨canonical_payload_error he, he⟩)
  rintro ⟨encoded, digest⟩ hpayload
  obtain ⟨rfl, hstorable, -⟩ := canonical_payload_ok.mp hpayload
  have hrow := kept_row_of hstorable hclass
  apply Safe.bind
  apply Safe.handle
  refine (put_row_safe hrow).mono ?_ ?_
  · rintro m ⟨⟩ s ⟨row, hmem, href, hbound⟩ s₁ _ hext
    exact ⟨encoded, row, rfl, rfl, (Extends.of_star hext).mem hmem, href, congrArg Arg.of hbound.symm⟩
  -- only `policy_refused` is raised again as it is; every other failure of the row is mapped
  · rintro m e s hraise s₁ _ hext
    rw [write_failure]
    rcases hraise with ⟨rfl, row, hmem, href, hother⟩ | ⟨hcls, hfailed⟩
    · have hcls : policy_refused.cls = .ObserverArtifactStoreError := rfl
      rw [if_pos hcls]
      refine .inl ⟨rfl, .inr ⟨encoded, row, rfl, (Extends.of_star hext).mem hmem, href, ?_⟩⟩
      exact fun heq => hother (Arg.of.inj heq).symm
    · rw [if_neg hcls]
      exact .inr (.inr ⟨rfl, hfailed⟩)

/-! ### Reading -/

/-- The content of a reference. -/
def Holds (db : Db) (artifact_ref : String) (content : Bytes) : Prop :=
  ∃ row ∈ db.rows, row.artifact_ref = artifact_ref ∧ row.content_json = content

theorem Holds.extend {db db' : Db} {artifact_ref : String} {content : Bytes}
    (h : Holds db artifact_ref content) (hext : Extends db db') : Holds db' artifact_ref content := by
  obtain ⟨row, hmem, hrow⟩ := h
  exact ⟨row, hext.mem hmem, hrow⟩

theorem Sound.holds_match {db : Db} (hs : Sound db) {artifact_ref : String} {content : Bytes}
    (h : Holds db artifact_ref content) :
    artifact_ref = ref_of content ∧ artifact_match artifact_ref = some (digits_of content) := by
  obtain ⟨row, hmem, rfl, rfl⟩ := h
  have href := (hs.kept row hmem).artifact_ref
  rw [href]
  exact ⟨rfl, artifact_match_ref _⟩

section Reads

variable {connected failed : Bool} {db : Db} {present : Prop}

/-- **The `try` of `read_json`.** Where the reference is `present`, only a closed
connection or a statement that fails makes it raise. -/
theorem read_row_safe {artifact_ref : String}
    (hpresent : present → ∃ content, Holds db artifact_ref content) :
    Safely (fun _ content db => Holds db artifact_ref content)
      (fun failed _ _ => present → connected = false ∨ failed = true)
      failed (read_row ⟨false, connected⟩ artifact_ref) db := by
  rw [read_row]
  apply Safe.lift_bind
  · intro e he s₁ _ _ _
    rw [raise_if] at he
    split_ifs at he with hc
    exact .inl hc
  intro _ _ s₁ hs₁ hext₁ r s₂ hsem
  obtain ⟨rfl, hr⟩ := sem_does hsem
  refine ⟨hs₁, .refl _, ?_⟩
  apply Safe.lift_bind
  · intro e he s₃ _ _ _
    cases r with
    | some r => cases he
    | none => exact .inr (Bool.or_true _)
  intro found hfound
  rw [or_raise_ok] at hfound
  subst hfound
  -- a row that was there when the call began is there now: rows are only added
  obtain ⟨⟨⟩⟩ | hfound := hr
  cases found with
  | none =>
    intro s₃ _ _ hp
    obtain ⟨content, hholds⟩ := hpresent hp
    obtain ⟨row, hmem, href, -⟩ := hholds.extend (Extends.of_star hext₁)
    exact absurd href (find_none hfound.symm row hmem)
  | some row =>
    obtain ⟨hmem, href⟩ := find_mem hfound.symm
    show Safe _ _ _ _ _ _ _ ((Prog.lift (validate_record row)).bind _) _
    rw [validate_record_ok.mpr ⟨hs₁.kept row hmem, rfl⟩]
    exact fun s₃ _ hext => ⟨row, (Extends.of_star hext).mem hmem, href, rfl⟩

theorem read_json_safe {argument : Arg String}
    (hpresent : present → ∃ artifact_ref content, argument = .of artifact_ref ∧
      Holds db artifact_ref content) (hs : Sound db) :
    Safely (fun _ content db => ∃ artifact_ref, argument = .of artifact_ref ∧
        Holds db artifact_ref content)
      (fun failed _ _ => present → connected = false ∨ failed = true)
      failed (read_json ⟨false, connected⟩ argument) db := by
  rw [read_json]
  apply Safe.lift_bind
  · intro e he s₁ _ _ hp
    obtain ⟨artifact_ref, content, rfl, hholds⟩ := hpresent hp
    rw [check_reference, (hs.holds_match hholds).2] at he
    cases he
  rintro ⟨artifact_ref, digits⟩ hchecked
  cases argument with
  | other => cases hchecked
  | of text =>
    obtain ⟨digits', -, hchecked⟩ := bind_ok.mp hchecked
    obtain ⟨rfl, rfl⟩ := Prod.mk.inj (Except.ok.inj hchecked)
    have hrow : present → ∃ content, Holds db text content := by
      intro hp
      obtain ⟨artifact_ref, content, heq, hholds⟩ := hpresent hp
      obtain rfl := Arg.of.inj heq
      exact ⟨content, hholds⟩
    apply Safe.handle
    refine (read_row_safe hrow).mono ?_ ?_
    · exact fun m content s h => ⟨text, rfl, h⟩
    · exact fun m e s h s₁ _ _ => h

theorem resolve_safe {argument : Arg String}
    (hpresent : present → ∃ artifact_ref content, argument = .of artifact_ref ∧
      Holds db artifact_ref content) :
    Safely (fun _ r db => ∃ artifact_ref content, argument = .of artifact_ref ∧
        Holds db artifact_ref content ∧ r = resolution_of content)
      (fun failed _ _ => present → connected = false ∨ failed = true)
      failed (resolve ⟨false, connected⟩ argument) db := by
  rw [resolve]
  apply Safe.bind
  apply Safe.of_interference
  intro s₁ hs₁ hext₁
  -- the interference before the read keeps what was held
  have hpresent₁ : present → ∃ artifact_ref content, argument = .of artifact_ref ∧
      Holds s₁ artifact_ref content := by
    intro hp
    obtain ⟨artifact_ref, content, heq, hholds⟩ := hpresent hp
    exact ⟨artifact_ref, content, heq, hholds.extend (Extends.of_star hext₁)⟩
  refine (read_json_safe hpresent₁ hs₁).mono ?_ fun _ _ _ h => h
  rintro m content s ⟨artifact_ref, rfl, hholds⟩
  apply Safe.of_interference
  intro s₂ hs₂ hext₂
  have hholds₂ := hholds.extend (Extends.of_star hext₂)
  obtain ⟨href, hmatch⟩ := hs₂.holds_match hholds₂
  show Safe _ _ _ _ _ _ _ ((Prog.lift (check_reference (.of artifact_ref))).bind _) _
  rw [check_reference, hmatch]
  intro s₃ _ hext₃
  refine ⟨artifact_ref, content, rfl, hholds₂.extend (Extends.of_star hext₃), ?_⟩
  rw [resolution_of, href]
  rfl

end Reads

/-! ### Opening -/

section Opening

variable {failed : Bool} {db : Db} {opened : Prop}

theorem trigger_created {s s' : Db} {name : String} (h : s.create_trigger name = some s') :
    name ∈ s'.triggers := by
  rw [Db.create_trigger] at h
  split_ifs at h
  obtain rfl := Option.some.inj h
  exact List.mem_append_right _ (List.mem_singleton_self name)

/-- **Creating the schema**: the version is written when everything else is there. -/
theorem create_schema_safe :
    Safely (fun _ _ db => Complete db) (fun failed _ _ => failed = true) failed create_schema db := by
  rw [create_schema]
  intro s₁ hs₁ _ done₁ t₁ hsem₁
  obtain ⟨hsound₁, hext₁⟩ := step_sound hs₁ (show Ready s₁ .create_table from trivial) hsem₁
  refine ⟨hsound₁, hext₁, ?_⟩
  rcases sem_does hsem₁ with ⟨rfl, hnext₁⟩ | ⟨rfl, -⟩
  swap
  · exact fun _ _ _ => Bool.or_true _
  have htable : t₁.table.isSome = true := by
    rw [Db.create_table] at hnext₁
    split at hnext₁
    · obtain rfl := Option.some.inj hnext₁
      rfl
    · cases hnext₁
  -- another connection may write between two statements; what is created stays
  intro s₂ hs₂ hstar₂ done₂ t₂ hsem₂
  obtain ⟨hsound₂, hext₂⟩ := step_sound hs₂
    (show Ready s₂ (.create_trigger "observer_artifacts_no_update") from List.mem_cons_self) hsem₂
  refine ⟨hsound₂, hext₂, ?_⟩
  rcases sem_does hsem₂ with ⟨rfl, hnext₂⟩ | ⟨rfl, -⟩
  swap
  · exact fun _ _ _ => Bool.or_true _
  have hfirst : "observer_artifacts_no_update" ∈ t₂.triggers := trigger_created hnext₂
  intro s₃ hs₃ hstar₃ done₃ t₃ hsem₃
  obtain ⟨hsound₃, hext₃⟩ := step_sound hs₃
    (show Ready s₃ (.create_trigger "observer_artifacts_no_delete") from
      List.mem_cons_of_mem _ List.mem_cons_self) hsem₃
  refine ⟨hsound₃, hext₃, ?_⟩
  rcases sem_does hsem₃ with ⟨rfl, hnext₃⟩ | ⟨rfl, -⟩
  swap
  · exact fun _ _ _ => Bool.or_true _
  have hsecond : "observer_artifacts_no_delete" ∈ t₃.triggers := trigger_created hnext₃
  intro s₄ hs₄ hstar₄ done₄ t₄ hsem₄
  -- only now may the version be written: the table and both triggers are there
  have hready : Ready s₄ (.set_version SCHEMA_VERSION) := by
    have hto₃ := (Extends.of_star hstar₃).trans hext₃
    have hto₄ := hto₃.trans (Extends.of_star hstar₄)
    refine ⟨rfl, hto₄.table (hext₂.table ((Extends.of_star hstar₂).table htable)), ?_⟩
    refine List.cons_subset.mpr ⟨hto₄.triggers hfirst, List.cons_subset.mpr ⟨?_, List.nil_subset _⟩⟩
    exact (Extends.of_star hstar₄).triggers hsecond
  obtain ⟨hsound₄, hext₄⟩ := step_sound hs₄ hready hsem₄
  refine ⟨hsound₄, hext₄, ?_⟩
  rcases sem_does hsem₄ with ⟨rfl, hnext₄⟩ | ⟨rfl, -⟩
  swap
  · exact fun _ _ _ => Bool.or_true _
  have hcomplete : Complete t₄ := by
    obtain rfl := Option.some.inj hnext₄
    exact ⟨rfl, hready.2.1, hready.2.2⟩
  exact fun s₅ hs₅ hstar₅ => (Extends.of_star hstar₅).complete hs₅ hcomplete

/-- **The checks of a schema** accept what is complete, and nothing else. -/
theorem check_schema_safe {version : ℕ} {tables : List String} {observed : Db}
    (hversion : version = observed.user_version) (hsound : Sound observed)
    (hobserved : Extends observed db) (htables : opened → same_names tables TABLES = true)
    (hopened : opened → Complete observed) :
    Safely (fun _ _ db => Complete db) (fun failed _ _ => opened → failed = true) failed
      (check_schema version tables) db := by
  rw [check_schema]
  apply Safe.lift_bind
  · intro e he s₁ _ _ hp
    rw [raise_if] at he
    split_ifs at he with hbad
    rcases hbad with hbad | hbad
    · exact absurd (hversion.trans (hopened hp).version) hbad
    · rw [htables hp] at hbad
      cases hbad
  intro _ hchecked
  obtain ⟨hone, -⟩ := not_or.mp (raise_if_ok.mp hchecked)
  -- a file whose version is not 0 was completed by the creation that wrote it
  have hcomplete : Complete observed := by
    rcases hsound.complete with hzero | hcomplete
    · rw [not_not, hversion, hzero] at hone
      cases hone
    · exact hcomplete
  intro s₁ hs₁ hstar₁ r₁ t₁ hsem₁
  have hcomplete₁ := (hobserved.trans (Extends.of_star hstar₁)).complete hs₁ hcomplete
  obtain ⟨rfl, hr₁⟩ := sem_does hsem₁
  refine ⟨hs₁, .refl _, ?_⟩
  rcases hr₁ with rfl | rfl
  · exact fun _ _ _ _ => Bool.or_true _
  show Safe _ _ _ _ _ _ _ ((Prog.lift (raise_if _ _)).bind _) _
  rw [hcomplete₁.table, if_pos rfl, raise_if, if_neg (by decide)]
  intro s₂ hs₂ hstar₂ r₂ t₂ hsem₂
  have hcomplete₂ := (Extends.of_star hstar₂).complete hs₂ hcomplete₁
  obtain ⟨rfl, hr₂⟩ := sem_does hsem₂
  refine ⟨hs₂, .refl _, ?_⟩
  rcases hr₂ with rfl | rfl
  · exact fun _ _ _ _ => Bool.or_true _
  have hnames : same_names t₂.triggers TRIGGERS = true := by
    rw [same_names, Bool.and_eq_true, List.all_eq_true, List.all_eq_true]
    exact ⟨fun name hname => List.contains_iff_mem.mpr (hs₂.triggers hname),
      fun name hname => List.contains_iff_mem.mpr (hcomplete₂.triggers hname)⟩
  show Safe _ _ _ _ _ _ _ (Prog.lift (raise_if _ _)) _
  rw [hnames, raise_if, if_neg (by decide)]
  exact fun s₃ hs₃ hstar₃ => (Extends.of_star hstar₃).complete hs₃ hcomplete₂

/-- **`_initialize_schema`** ends with a complete schema. -/
theorem initialize_schema_safe (hopened : opened → Complete db) :
    Safely (fun _ _ db => Complete db) (fun failed _ _ => opened → failed = true) failed
      (initialize_schema false) db := by
  rw [initialize_schema]
  intro s₁ hs₁ hstar₁ r₁ t₁ hsem₁
  obtain ⟨rfl, hr₁⟩ := sem_does hsem₁
  refine ⟨hs₁, .refl _, ?_⟩
  rcases hr₁ with rfl | rfl
  · exact fun _ _ _ _ => Bool.or_true _
  intro s₂ hs₂ hstar₂ r₂ t₂ hsem₂
  obtain ⟨rfl, hr₂⟩ := sem_does hsem₂
  refine ⟨hs₂, .refl _, ?_⟩
  rcases hr₂ with rfl | rfl
  · exact fun _ _ _ _ => Bool.or_true _
  have hopened₁ : opened → Complete t₁ := fun hp =>
    (Extends.of_star hstar₁).complete hs₁ (hopened hp)
  show Safe _ _ _ _ _ _ _ (if t₁.user_version = 0 ∧ (if t₂.table.isSome then TABLES else []) = [] ∧
    false = false then create_schema else check_schema t₁.user_version
      (if t₂.table.isSome then TABLES else [])) _
  -- version 0 and no table: the file is new, and this opening creates the schema
  by_cases hnew : t₁.user_version = 0 ∧ (if t₂.table.isSome then TABLES else []) = [] ∧ false = false
  · rw [if_pos hnew]
    refine create_schema_safe.mono (fun _ _ _ h => h) fun m e s hfailed hp => ?_
    have hversion := (hopened₁ hp).version
    rw [hnew.1] at hversion
    cases hversion
  · rw [if_neg hnew]
    refine check_schema_safe rfl hs₁ (Extends.of_star hstar₂) (fun hp => ?_) hopened₁
    have htable := ((Extends.of_star hstar₂).complete hs₂ (hopened₁ hp)).table
    rw [htable]
    rfl

/-- **Opening** ends with a complete schema; where the schema is complete before, only
a bad file or a statement that fails makes it raise. -/
theorem open_store_safe (hopened : opened → Complete db) :
    Safely (fun _ _ db => Complete db) (fun failed _ _ => opened → failed = true) failed
      (open_store false) db := by
  rw [open_store]
  apply Safe.handle
  apply Safe.mono (Q := fun _ _ db => Complete db) (X := fun failed _ _ => opened → failed = true)
  -- the facts of the file, the connection, the schema and the rows, in this order
  · intro s₁ hs₁ hstar₁ facts t₁ hsem₁
    obtain rfl := sem_does hsem₁
    refine ⟨hs₁, .refl _, ?_⟩
    cases hfile : check_file false facts with
    | error e =>
      have hfails : fails .file facts = true := by rw [fails, hfile]
      show Safe _ _ _ _ _ _ _ ((Prog.lift (check_file false facts)).bind _) _
      rw [hfile]
      intro s₂ _ _ _
      rw [note, hfails, Bool.or_true]
    | ok u =>
      show Safe _ _ _ _ _ _ _ ((Prog.lift (check_file false facts)).bind _) _
      rw [hfile]
      intro s₂ hs₂ hstar₂ connected t₂ hsem₂
      obtain rfl := sem_does hsem₂
      refine ⟨hs₂, .refl _, ?_⟩
      cases connected with
      | false => exact fun _ _ _ _ => Bool.or_true _
      | true =>
        have hopened₂ : opened → Complete t₂ := fun hp =>
          ((Extends.of_star hstar₁).trans (Extends.of_star hstar₂)).complete hs₂ (hopened hp)
        show Safe _ _ _ _ _ _ _ ((initialize_schema false).bind fun _ => validate_persisted_rows) _
        apply Safe.bind
        refine (initialize_schema_safe hopened₂).mono ?_ fun _ _ _ h => h
        rintro m ⟨⟩ s₃ hcomplete s₄ hs₄ hstar₄ rows t₄ hsem₄
        obtain ⟨rfl, hrows⟩ := sem_does hsem₄
        refine ⟨hs₄, .refl _, ?_⟩
        have hcomplete₄ := (Extends.of_star hstar₄).complete hs₄ hcomplete
        rcases hrows with rfl | rfl
        · exact fun _ _ _ _ => Bool.or_true _
        obtain ⟨rows, htable⟩ := Option.isSome_iff_exists.mp hcomplete₄.table
        -- the rows of a sound file pass `_validate_record`, each by itself
        have hkept : ∀ row ∈ rows.insertionSort fun a b : Row => a.artifact_ref ≤ b.artifact_ref,
            Kept row := by
          intro row hrow
          refine hs₄.kept row ?_
          rw [Db.rows, htable, Option.getD_some]
          exact (List.perm_insertionSort _ _).mem_iff.mp hrow
        show Safe _ _ _ _ _ _ _ ((Prog.lift (or_raise _ _)).bind _) _
        rw [htable]
        show Safe _ _ _ _ _ _ _ (Prog.lift (or_error _ (validate_rows _))) _
        rw [validate_rows_ok hkept]
        exact fun s₅ hs₅ hstar₅ => (Extends.of_star hstar₅).complete hs₅ hcomplete₄
  · exact fun _ _ _ h => h
  · exact fun _ _ _ h s₁ _ _ => h

end Opening

/-! ## Every run -/

/-- What is known of a run when a call begins: references that have contents, and
whether the schema is complete. -/
structure Known : Type where
  held : String → Prop
  opened : Prop

/-- What is known is true. -/
structure Known.True (known : Known) (db : Db) : Prop where
  held : ∀ artifact_ref, known.held artifact_ref → ∃ content, Holds db artifact_ref content
  opened : known.opened → Complete db

/-- Nothing is known at the start. -/
def Known.nothing : Known := ⟨fun _ => False, False⟩

/-- The postconditions of the calls. -/
def Returns : Call → Reply → Db → Prop
  | .open_store, .opened, db => Complete db
  | .put_json _ payload classification _, .stored r, db => PutReturns payload classification r db
  | .read_json _ argument, .read content, db =>
    ∃ artifact_ref, argument = .of artifact_ref ∧ Holds db artifact_ref content
  | .resolve _ argument, .resolved r, db => ∃ artifact_ref content, argument = .of artifact_ref ∧
      Holds db artifact_ref content ∧ r = resolution_of content
  | _, _, _ => False

/-- When the calls raise. -/
def Raises (known : Known) : Call → Bool → Exn → Db → Prop
  | .open_store, failed, _, _ => known.opened → failed = true
  | .put_json connected payload classification redaction_status, failed, e, db =>
    PutRaises connected payload classification redaction_status failed e db
  | .read_json connected argument, failed, _, _ =>
    (∃ artifact_ref, argument = .of artifact_ref ∧ known.held artifact_ref) →
      connected = false ∨ failed = true
  | .resolve connected argument, failed, _, _ =>
    (∃ artifact_ref, argument = .of artifact_ref ∧ known.held artifact_ref) →
      connected = false ∨ failed = true

/-- **Every call**, whoever else is running. -/
theorem body_safe (known : Known) (c : Call) {db : Db} (hs : Sound db) (hknown : known.True db) :
    Safely (fun _ r db => Returns c r db) (Raises known c) false (body c) db := by
  have hpresent (argument : Arg String) :
      (∃ artifact_ref, argument = .of artifact_ref ∧ known.held artifact_ref) →
        ∃ artifact_ref content, argument = .of artifact_ref ∧ Holds db artifact_ref content := by
    rintro ⟨artifact_ref, heq, hheld⟩
    obtain ⟨content, hholds⟩ := hknown.held artifact_ref hheld
    exact ⟨artifact_ref, content, heq, hholds⟩
  cases c with
  | open_store =>
    apply Safe.bind
    refine (open_store_safe hknown.opened).mono ?_ fun _ _ _ h => h
    exact fun m _ s h s₁ hs₁ hstar => (Extends.of_star hstar).complete hs₁ h
  | put_json connected payload classification redaction_status =>
    apply Safe.bind
    refine put_json_safe.mono ?_ fun _ _ _ h => h
    rintro m r s ⟨content, row, hcontent, hr, hmem, hrow⟩ s₁ _ hstar
    exact ⟨content, row, hcontent, hr, (Extends.of_star hstar).mem hmem, hrow⟩
  | read_json connected argument =>
    apply Safe.bind
    refine (read_json_safe (hpresent argument) hs).mono ?_ fun _ _ _ h => h
    rintro m content s ⟨artifact_ref, heq, hholds⟩ s₁ _ hstar
    exact ⟨artifact_ref, heq, hholds.extend (Extends.of_star hstar)⟩
  | resolve connected argument =>
    apply Safe.bind
    refine (resolve_safe (hpresent argument)).mono ?_ fun _ _ _ h => h
    rintro m r s ⟨artifact_ref, content, heq, hholds, hr⟩ s₁ _ hstar
    exact ⟨artifact_ref, content, heq, hholds.extend (Extends.of_star hstar), hr⟩

theorem nothing_true (db : Db) : Known.nothing.True db := ⟨fun _ h => h.elim, fun h => h.elim⟩

/-! ### References -/

/-- What any number of processes can make of an empty file. -/
abbrev Run (cfg : Config Call Op Res Exn Reply Db) : Prop := RunFrom .fresh cfg

section Runs

variable {cfg cfg₁ : Config Call Op Res Exn Reply Db} {t u : Thread Call Op Res Exn Reply Db}

theorem body_safe_nothing (c : Call) (db : Db) (hs : Sound db) :
    Safely (fun _ r db => Returns c r db) (Raises .nothing c) false (body c) db :=
  body_safe .nothing c hs (nothing_true db)

theorem run_sound (h : Run cfg) : Sound cfg.shared := (h.safe fresh_sound body_safe_nothing).1

theorem returned_true (h : Run cfg) (ht : t ∈ cfg.pool) {r : Reply}
    (hret : t.status = .running (.ret r)) : Returns t.call r cfg.shared :=
  h.returned fresh_sound body_safe_nothing ht hret

/-- Once a store has been opened its schema is complete. -/
theorem opened_complete (h : Run cfg) (ht : t ∈ cfg.pool)
    (hret : t.status = .running (.ret .opened)) : Complete cfg.shared := by
  have hreturns := returned_true h ht hret
  cases hcall : t.call with
  | open_store =>
    rw [hcall] at hreturns
    exact hreturns
  | _ =>
    rw [hcall] at hreturns
    exact hreturns.elim

theorem Known.True.extend {known : Known} {db db' : Db} (hs : Sound db') (h : known.True db)
    (hext : Extends db db') : known.True db' where
  held artifact_ref hheld := by
    obtain ⟨content, hholds⟩ := h.held artifact_ref hheld
    exact ⟨content, hholds.extend hext⟩
  opened hopened := hext.complete hs (h.opened hopened)

theorem monitor_note (past : List (Record Op Res Db)) (failed : Bool) :
    past.foldl (fun m e => note m e.op e.res) failed =
      (failed || past.any fun e => fails e.op e.res) := by
  induction past generalizing failed with
  | nil => rw [List.foldl_nil, List.any_nil, Bool.or_false]
  | cons e past ih => rw [List.foldl_cons, ih, List.any_cons, note, Bool.or_assoc]

/-- Whether a statement of a call has failed, or its file was refused. -/
def Failed (u : Thread Call Op Res Exn Reply Db) : Bool := u.past.any fun e => fails e.op e.res

theorem monitor_failed (u : Thread Call Op Res Exn Reply Db) : u.monitor note false = Failed u := by
  rw [Thread.monitor, monitor_note, Bool.false_or, Failed]

/-- When a call raises that was begun after something was known. -/
theorem later_raises (known : Known) (h : Run cfg₁) (hknown : known.True cfg₁.shared)
    (hs : Relation.ReflTransGen (Step body sem) cfg₁ cfg) {i : ℕ} (hi : cfg₁.pool.length ≤ i)
    (hu : cfg.pool[i]? = some u) {e : Exn} (hraise : u.status = .running (.raise e)) :
    Raises known u.call (Failed u) e cfg.shared := by
  obtain ⟨-, -, hpool⟩ := Reachable.safe_later (J := known.True) (R := fun c _ r db => Returns c r db)
    (Y := fun c => Raises known c) fresh_sound body_safe_nothing
    (fun c db hsound hJ => body_safe known c hsound hJ)
    (fun _ _ hsound hJ hext => hJ.extend hsound hext) h hknown hs
  have hsound : Sound cfg.shared := run_sound (Relation.ReflTransGen.trans h hs)
  have hraises := hpool i u _ hi hu hraise cfg.shared hsound .refl
  rw [monitor_failed] at hraises
  exact hraises

/-- **What was stored can be read, and what was opened can be opened.** Once `put_json` has
returned a reference, every `read_json` and `resolve` of it that is begun later returns,
and once a store has been opened every later opening returns, whatever other
processes have done and wherever they crashed: if the call raises, a statement of its own
failed or the file itself was refused. -/
theorem available_since (h : Run cfg₁) (ht : t ∈ cfg₁.pool) {reply : Reply}
    (hret : t.status = .running (.ret reply)) (hs : Relation.ReflTransGen (Step body sem) cfg₁ cfg)
    {i : ℕ} (hi : cfg₁.pool.length ≤ i) (hu : cfg.pool[i]? = some u)
    (hcall : (reply = .opened ∧ u.call = .open_store) ∨ ∃ r, reply = .stored r ∧
      (u.call = .read_json true (.of r.artifact_ref) ∨ u.call = .resolve true (.of r.artifact_ref)))
    {e : Exn} (hraise : u.status = .running (.raise e)) : Failed u = true := by
  have hreturns := returned_true h ht hret
  -- what the first call returned is known to be true from here on, and the later call is
  -- judged with it
  rcases hcall with ⟨rfl, hopen⟩ | ⟨r, rfl, hread⟩
  · have hcomplete : Complete cfg₁.shared := opened_complete h ht hret
    have hraises := later_raises ⟨fun _ => False, True⟩ h
      ⟨fun _ hf => hf.elim, fun _ => hcomplete⟩ hs hi hu hraise
    rw [hopen] at hraises
    exact hraises trivial
  · have hholds : ∃ content, Holds cfg₁.shared r.artifact_ref content := by
      cases hcall : t.call with
      | put_json connected payload classification redaction_status =>
        rw [hcall] at hreturns
        obtain ⟨content, row, -, -, hmem, href, -⟩ := hreturns
        exact ⟨row.content_json, row, hmem, href, rfl⟩
      | _ =>
        rw [hcall] at hreturns
        exact hreturns.elim
    have hraises := later_raises ⟨fun artifact_ref => artifact_ref = r.artifact_ref, False⟩ h
      ⟨fun _ heq => heq ▸ hholds, fun hf => hf.elim⟩ hs hi hu hraise
    rcases hread with hread | hread
    · rw [hread] at hraises
      exact (hraises ⟨r.artifact_ref, rfl, rfl⟩).resolve_left (by decide)
    · rw [hread] at hraises
      exact (hraises ⟨r.artifact_ref, rfl, rfl⟩).resolve_left (by decide)

/-! ### Refusals -/

/-- An insert that was committed. -/
def writes : (op : Op) → Res op → Bool
  | .insert _, done => done
  | _, _ => false

end Runs

end AppContracts.ArtifactStore
