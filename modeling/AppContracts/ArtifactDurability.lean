/-
What the artifact store promises: what was put stays and is read back, what is refused
changes nothing, and what was opened can be opened again.

The promises are about a run that goes on: `cfg₁` is where a call has returned, `cfg`
any configuration the run reaches from there, with other processes in between and
crashes anywhere. Each is a consequence of the rules of the history: `row_binds`
says what a reference is, and `later_raises` and `later_before` carry a fact of `cfg₁` into
the calls that begin later, so that no proof here looks at how calls interleave.

A store can be lost in two ways. A creation of the schema that is cut short is never
repaired, because its four statements commit one by one; and a file that has grown
beyond `MAX_DATABASE_BYTES` is refused when it is opened, while nothing stops the puts
that make it grow.
-/
import AppContracts.ArtifactHistory
import Mathlib.Tactic.Ring

set_option autoImplicit false

namespace AppContracts.ArtifactStore

open Interleave SecretScan
open HistoryReport (ArtifactResolution)
open SimulationBranch (value_error)

/-! ## Interrupted creations

The version is written last. Until then a second opening finds a table and no version,
takes the schema for another one and refuses it, and no method of an open store
writes the version: the induction is over the later run, from its first state.
-/

/-- A creation of the schema that was cut short: the table is there, the version is not. -/
structure Interrupted (db : Db) : Prop where
  version : db.user_version = 0
  table : db.table.isSome = true

/-- A statement of `put_json`, `read_json` and `resolve`. -/
def IsRowOp : Op → Prop
  | .find _ => True
  | .insert _ => True
  | _ => False

theorem Interrupted.step {db db' : Db} {op : Op} {r : Res op} (hop : IsRowOp op) (h : Interrupted db)
    (hsem : sem db op r db') : Interrupted db' ∧ True := by
  refine ⟨?_, trivial⟩
  cases op with
  | find artifact_ref =>
    rw [(sem_does hsem).1]
    exact h
  | insert row =>
    rcases sem_does hsem with ⟨-, hnext⟩ | ⟨-, rfl⟩
    · obtain ⟨-, -, -, rfl⟩ := insert_some hnext
      exact ⟨h.version, rfl⟩
    · exact h
  | _ => exact hop.elim

section Alone

variable {db : Db} {facts : FileFacts}

/-- A file that can be opened for reading, and the connection to it. -/
def reader : Connection := ⟨true, true⟩

theorem same_triggers (hs : Sound db) (hc : Complete db) : same_names db.triggers TRIGGERS = true := by
  rw [same_names, Bool.and_eq_true, List.all_eq_true, List.all_eq_true]
  exact ⟨fun name hname => List.contains_iff_mem.mpr (hs.triggers hname),
    fun name hname => List.contains_iff_mem.mpr (hc.triggers hname)⟩

/-- A check that passes in front of a program that runs alone. -/
theorem exec_passed {α β : Type} {x : Except Exn α} {a : α} (hx : x = .ok a) (f : α → Program β)
    (s : Db) :
    ((Prog.lift x).bind f).exec (answer facts) s = (f a).exec (answer facts) s := by
  rw [hx]
  rfl

/-- A statement that changes nothing in front of a program that runs alone. -/
theorem exec_query {β : Type} {op : Op} {r : Res op} {s : Db} (h : answer facts op s = (r, s))
    (f : Res op → Program β) :
    ((Prog.perform op).bind f).exec (answer facts) s = (f r).exec (answer facts) s := by
  rw [Prog.perform_bind, Prog.exec, h]

/-- A sound and complete database is opened for reading, and stays as it is. -/
theorem open_read_only (hs : Sound db) (hc : Complete db) (hfacts : check_file true facts = .ok ()) :
    (open_store true).exec (answer facts) db = (.ok (), db) := by
  obtain ⟨rows, htable⟩ := Option.isSome_iff_exists.mp hc.table
  have hkept : ∀ row ∈ rows.insertionSort fun a b : Row => a.artifact_ref ≤ b.artifact_ref,
      Kept row := by
    intro row hrow
    refine hs.kept row ?_
    rw [Db.rows, htable, Option.getD_some]
    exact (List.perm_insertionSort _ _).mem_iff.mp hrow
  have hpassed {α : Type} {value : α} {e : Exn} : or_raise e (some value) = .ok value := rfl
  -- the version is 1 and the names are the table's and the triggers', so no schema check fails
  have hschema : (check_schema SCHEMA_VERSION TABLES).exec (answer facts) db = (.ok (), db) := by
    have hfirst : raise_if (SCHEMA_VERSION ≠ SCHEMA_VERSION ∨ same_names TABLES TABLES = false)
      value_error = .ok () := by decide
    have hcolumns : raise_if (same_names COLUMNS COLUMNS = false) value_error = .ok () := by decide
    have htriggers : raise_if (same_names db.triggers TRIGGERS = false) value_error = .ok () :=
      raise_if_ok.mpr (by rw [same_triggers hs hc]; decide)
    have hanswer : answer facts .columns db = (some COLUMNS, db) := by
      rw [answer, hc.table, if_pos rfl]
    have hanswer' : answer facts .triggers db = (some db.triggers, db) := rfl
    rw [check_schema, Prog.bind_eq, exec_passed hfirst, Prog.bind_eq, exec_query hanswer,
      Prog.bind_eq, exec_passed hpassed, Prog.bind_eq, exec_passed hcolumns, Prog.bind_eq,
      exec_query hanswer', Prog.bind_eq, exec_passed hpassed, htriggers]
    rfl
  have hinit : (initialize_schema true).exec (answer facts) db = (.ok (), db) := by
    have hversion : answer facts .user_version db = (some SCHEMA_VERSION, db) := by
      rw [answer, hc.version]
    have htables : answer facts .tables db = (some TABLES, db) := by rw [answer, hc.table, if_pos rfl]
    rw [initialize_schema, Prog.bind_eq, exec_query hversion, Prog.bind_eq, exec_passed hpassed,
      Prog.bind_eq, exec_query htables, Prog.bind_eq, exec_passed hpassed, if_neg (by simp)]
    exact hschema
  -- every row is read back through the checks that let it in
  have hrows : validate_persisted_rows.exec (answer facts) db = (.ok (), db) := by
    have hanswer : answer facts .rows db =
        (some (rows.insertionSort fun a b : Row => a.artifact_ref ≤ b.artifact_ref), db) := by
      rw [answer, htable, Option.map_some]
    rw [validate_persisted_rows, Prog.bind_eq, exec_query hanswer, Prog.bind_eq, exec_passed hpassed,
      validate_rows_ok hkept]
    rfl
  have hfile : answer facts .file db = (facts, db) := rfl
  have hconnect : answer facts .connect db = (true, db) := rfl
  have hconnected : committed true = .ok () := rfl
  rw [open_store, Prog.tryCatch_eq, Prog.exec_handle, Prog.bind_eq, exec_query hfile, Prog.bind_eq,
    exec_passed hfacts, Prog.bind_eq, exec_query hconnect, Prog.bind_eq, exec_passed hconnected,
    Prog.bind_eq, Prog.exec_bind, hinit]
  dsimp only
  rw [hrows]

/-- The row of a reference is found. -/
theorem find_held (hs : Sound db) {row : Row} (hmem : row ∈ db.rows) :
    answer facts (.find row.artifact_ref) db = (some (some row), db) := by
  refine Prod.ext ?_ rfl
  show (db.table.map fun rows => rows.find? fun r => r.artifact_ref = row.artifact_ref) =
    some (some row)
  cases htable : db.table with
  | none =>
    rw [Db.rows, htable] at hmem
    exact absurd hmem List.not_mem_nil
  | some rows =>
    cases hfind : rows.find? fun r => r.artifact_ref = row.artifact_ref with
    | none =>
      have hnone := @find_none db row.artifact_ref (by rw [htable, Option.map_some, hfind])
      exact absurd rfl (hnone row hmem)
    | some row' =>
      obtain ⟨hmem', href'⟩ := @find_mem db row.artifact_ref row'
        (by rw [htable, Option.map_some, hfind])
      rw [Option.map_some, hfind, hs.row_inj hmem' hmem href']

/-- What a sound database holds is read, and stays there. -/
theorem read_alone (hs : Sound db) {c : Connection} (hc : c.connected = true) {row : Row}
    (hmem : row ∈ db.rows) :
    (read_json c (.of row.artifact_ref)).exec (answer facts) db = (.ok row.content_json, db) := by
  obtain ⟨-, hmatch⟩ := hs.holds_match ⟨row, hmem, rfl, rfl⟩
  have hconnected : raise_if (c.connected = false) assertion_error = .ok () :=
    raise_if_ok.mpr (by rw [hc]; decide)
  have hrow : (read_row c row.artifact_ref).exec (answer facts) db = (.ok row.content_json, db) := by
    rw [read_row, Prog.bind_eq, exec_passed hconnected, Prog.bind_eq, exec_query (find_held hs hmem),
      Prog.bind_eq, exec_passed (or_raise_ok.mpr rfl), Prog.bind_eq, exec_passed (or_raise_ok.mpr rfl),
      Prog.bind_eq, exec_passed (validate_record_ok.mpr ⟨hs.kept row hmem, rfl⟩)]
    rfl
  have hchecked : check_reference (.of row.artifact_ref) =
      .ok (row.artifact_ref, digits_of row.content_json) := by
    rw [check_reference, hmatch]
    rfl
  refine (exec_passed hchecked _ db).trans ?_
  show ((read_row c row.artifact_ref).handle _).exec _ _ = _
  rw [Prog.exec_handle, hrow]

end Alone

/-! ## What the store keeps -/

section Kept

variable {cfg cfg₁ : Config Call Op Res Exn Reply Db}

/-- A store that was opened in `cfg₁` can be opened again: a later opening that raises has
had a statement that failed or a file that is refused, and connections that only read
are opened alone and find every row. -/
structure Reopens (cfg₁ cfg : Config Call Op Res Exn Reply Db) : Prop where
  opening : ∀ i u, cfg₁.pool.length ≤ i → cfg.pool[i]? = some u → u.call = .open_store →
    ∀ e, u.status = .running (.raise e) → Failed u = true
  read_only : ∀ facts, check_file true facts = .ok () →
    (open_store true).exec (answer facts) cfg.shared = (.ok (), cfg.shared)
  reader : ∀ facts, ∀ row ∈ cfg.shared.rows,
    (read_json reader (.of row.artifact_ref)).exec (answer facts) cfg.shared =
      (.ok row.content_json, cfg.shared)

/-- A run only adds to the database. -/
theorem run_extends (h : Run cfg₁) (hs : Relation.ReflTransGen (Step body sem) cfg₁ cfg) :
    Extends cfg₁.shared cfg.shared :=
  Extends.of_star (Reachable.guarantees fresh_sound body_safe_nothing h hs)

theorem reopens (h : Run cfg₁) (hs : Relation.ReflTransGen (Step body sem) cfg₁ cfg)
    {t : Thread Call Op Res Exn Reply Db} (ht : t ∈ cfg₁.pool)
    (hret : t.status = .running (.ret .opened)) : Reopens cfg₁ cfg := by
  have hrun : Run cfg := Relation.ReflTransGen.trans h hs
  have hsound := run_sound hrun
  have hcomplete : Complete cfg.shared := (run_extends h hs).complete hsound (opened_complete h ht hret)
  refine ⟨fun i u hi hu hopen e hraise => ?_, fun facts hfacts => ?_, fun facts row hrow => ?_⟩
  · exact available_since h ht hret hs hi hu (.inl ⟨rfl, hopen⟩) hraise
  · exact open_read_only hsound hcomplete hfacts
  · exact read_alone hsound rfl hrow

end Kept

/-! ## A store of one payload -/

section Sample

/-- Its canonical bytes. -/
def zeros (k : ℕ) : Bytes :=
  [0x7b, 0x22, 0x30, 0x22, 0x3a, 0x22] ++ (List.replicate k 0x30 ++ [0x22, 0x7d])

end Sample

end AppContracts.ArtifactStore
