/-
The search for a canary: `_contains_canary_bounded` and `find_canary_surfaces` of
`secret_scan.py`.

The values searched are objects with an identity, so containers may be shared and
may contain themselves. The scan keeps a stack and does not record what it has
seen: it walks the unfolding of the value, within bounds on its nodes, its depth and
its bytes.

Termination is not structural, for a container may contain itself: what decreases is the
number of nodes that the bounds still allow. Soundness and the bounds come from one
invariant of the loop (`Covers`): what has not been walked of the unfolding is below what
is still pending.
-/
import AppContracts.Digests
import AppContracts.Lib.ExceptLoop
import AppContracts.Lib.Json
import AppContracts.Lib.Loop
import AppContracts.Lib.Unfolding
import AppContracts.Python
import Mathlib.Data.List.Infix

set_option autoImplicit false

namespace AppContracts.CanaryScan

/-- `MAX_CANARY_SURFACES`. -/
def MAX_CANARY_SURFACES : ℕ := 64

/-- `MAX_CANARY_SURFACE_BYTES`. -/
def MAX_CANARY_SURFACE_BYTES : ℕ := 1000000

/-- `MAX_CANARY_SURFACE_NODES`. -/
def MAX_CANARY_SURFACE_NODES : ℕ := 100000

/-- `MAX_CANARY_NESTING_DEPTH`. -/
def MAX_CANARY_NESTING_DEPTH : ℕ := 64

/-! ## Objects -/

/-- `id(o)`. -/
abbrev Ref : Type := ℕ

/-- An object; containers hold references. -/
inductive Obj : Type
  | str (s : PyStr)
  | bytes (content : Bytes)
  | none
  | bool (b : Bool)
  | int (n : ℤ)
  /-- A float, by its `repr` if it is finite. -/
  | float (repr : Option String)
  | dict (items : List (Ref × Ref))
  | list (items : List Ref)
  | tuple (items : List Ref)
  /-- An object of any other type, subclasses of these included. -/
  | other

/-- The objects of a process. -/
abbrev Heap : Type := Ref → Obj

/-- What an object holds: of a dict, its keys and values. -/
def Obj.children : Obj → List Ref
  | .dict items => items.flatMap fun p => [p.1, p.2]
  | .list items => items
  | .tuple items => items
  | _ => []

/-- `type(o) is str`. -/
def Obj.is_str : Obj → Bool
  | .str _ => true
  | _ => false

/-- `json.dumps(o, allow_nan=False, separators=(",", ":"))` of a scalar. -/
def Obj.dumps : Obj → Except Exn (List Char)
  | .none => .ok "null".toList
  | .bool true => .ok "true".toList
  | .bool false => .ok "false".toList
  | .int n =>
    if Json.max_str_digits < (Json.digits n.natAbs).length then
      .error ⟨.ValueError, "Exceeds the limit (4300 digits) for integer string conversion"⟩
    else .ok (Json.print_int n)
  | .float (some repr) => .ok repr.toList
  | .float .none => .error ⟨.ValueError, "Out of range float values are not JSON compliant"⟩
  | _ => .error ⟨.TypeError, "Object is not JSON serializable"⟩

/-! ## The scan -/

/-- An object on the stack; an exiting one is left for good when it is popped. -/
structure Entry : Type where
  current : Ref
  depth : ℕ
  exiting : Bool

/-- The variables of the loop. The top of the stack comes first. -/
structure Scan : Type where
  stack : List Entry
  active_containers : List Ref
  visited_nodes : ℕ
  scanned_bytes : ℕ

/-- `ValueError("surface cannot be scanned within bounds")`. -/
def unscannable : Exn := ⟨.ValueError, "surface cannot be scanned within bounds"⟩

/-- `s.encode("utf-8", errors="strict")`. -/
def encode_strict : PyStr → Except Exn Bytes
  | .text s => .ok (encode_utf8 s)
  | .surrogates _ _ => .error ⟨.UnicodeEncodeError, "surrogates not allowed"⟩

section Canary

variable (heap : Heap) (canary : String) (canary_bytes : Bytes)

/-- The branch for scalars: the bytes scanned so far, and whether the canary is found. -/
def scan_scalar (scanned_bytes : ℕ) (current : Obj) : Except Exn (ℕ × Bool) := do
  let encoded ← current.dumps
  raise_if (MAX_CANARY_SURFACE_BYTES < scanned_bytes + encoded.length) unscannable
  return (scanned_bytes + encoded.length, decide (canary.toList <:+: encoded))

/-- The branches for strings, bytes and scalars. -/
def scan_leaf (scanned_bytes : ℕ) : Obj → Except Exn (ℕ × Bool)
  | .str current => do
    raise_if (MAX_CANARY_SURFACE_BYTES < scanned_bytes + current.codes.length) unscannable
    let encoded ← encode_strict current
    raise_if (MAX_CANARY_SURFACE_BYTES < scanned_bytes + encoded.length) unscannable
    return (scanned_bytes + encoded.length, decide ((PyStr.text canary).codes <:+: current.codes))
  | .bytes current => do
    raise_if (MAX_CANARY_SURFACE_BYTES < scanned_bytes + current.length) unscannable
    return (scanned_bytes + current.length, decide (canary_bytes <:+: current))
  | current => scan_scalar canary scanned_bytes current

/-- The branch for containers; `keyed` if no key is of another type than `str`. -/
def enter (entry : Entry) (child_count : ℕ) (keyed : Bool) (s : Scan) : Except Exn (Bool ⊕ Scan) := do
  raise_if (MAX_CANARY_SURFACE_NODES < s.visited_nodes + child_count) unscannable
  raise_if (entry.current ∈ s.active_containers) unscannable
  raise_if (keyed = false) unscannable
  let children := (heap entry.current).children.map fun child => ⟨child, entry.depth + 1, false⟩
  return .inr
    { s with
      active_containers := entry.current :: s.active_containers
      stack := children ++ { entry with exiting := true } :: s.stack }

/-- The visit of an object that is not a container. -/
def visit_leaf (current : Obj) (s : Scan) : Except Exn (Bool ⊕ Scan) := do
  let (scanned_bytes, found) ← scan_leaf canary canary_bytes s.scanned_bytes current
  return if found then .inl true else .inr { s with scanned_bytes := scanned_bytes }

/-- A visit of an object that has been popped. -/
def visit (entry : Entry) (s : Scan) : Except Exn (Bool ⊕ Scan) := do
  raise_if (MAX_CANARY_SURFACE_NODES < s.visited_nodes ∨ MAX_CANARY_NESTING_DEPTH < entry.depth)
    unscannable
  match heap entry.current with
  | .dict items => enter heap entry (items.length * 2) (items.all fun p => (heap p.1).is_str) s
  | .list items => enter heap entry items.length true s
  | .tuple items => enter heap entry items.length true s
  | .other => .error unscannable
  | current => visit_leaf canary canary_bytes current s

/-- The body of the loop. -/
def body (s : Scan) : Except Exn (Bool ⊕ Scan) :=
  match s.stack with
  | [] => .ok (.inl false)
  | entry :: stack =>
    if entry.exiting then
      if entry.current ∈ s.active_containers then
        .ok (.inr
          { s with
            stack := stack
            active_containers := s.active_containers.filter (· ≠ entry.current) })
      else .error ⟨.KeyError, toString entry.current⟩
    else
      visit heap canary canary_bytes entry
        { s with stack := stack, visited_nodes := s.visited_nodes + 1 }

/-! ## What a turn does -/

/-- The size of an object that is not a container, in bytes. -/
def Obj.size : Obj → ℕ
  | .str (.text s) => (encode_utf8 s).length
  | .bytes content => content.length
  | o =>
    match o.dumps with
    | .ok encoded => encoded.length
    | .error _ => 0

/-- The canary is in a string, in bytes, or in the text of a scalar. -/
def Obj.Holds : Obj → Prop
  | .str s => (PyStr.text canary).codes <:+: s.codes
  | .bytes content => encode_utf8 canary <:+: content
  | o => ∃ encoded, o.dumps = .ok encoded ∧ canary.toList <:+: encoded

/-- The objects on the stack that are still to be visited, with their depths. -/
def Scan.pending (s : Scan) : List (Ref × ℕ) :=
  s.stack.filterMap fun e => if e.exiting then none else some (e.current, e.depth)

/-- The containers on the stack that have been entered. -/
def Scan.entered (s : Scan) : ℕ := s.stack.countP Entry.exiting

/-- The references of an object. -/
abbrev refs (r : Ref) : List Ref := (heap r).children

/-- What a turn that goes on has done: it has left a container, or visited an object. -/
inductive Turn (s s' : Scan) : Prop
  | left (pending : s'.pending = s.pending) (entered : s'.entered + 1 = s.entered)
    (visited : s'.visited_nodes = s.visited_nodes) (scanned : s'.scanned_bytes = s.scanned_bytes)
  | visited (r : Ref) (depth : ℕ) (rest : List (Ref × ℕ)) (popped : s.pending = (r, depth) :: rest)
    (pushed : s'.pending = successors (refs heap) r depth ++ rest)
    (entered : s'.entered ≤ s.entered + 1) (visited : s'.visited_nodes = s.visited_nodes + 1)
    (nodes : s'.visited_nodes ≤ MAX_CANARY_SURFACE_NODES) (depth_le : depth ≤ MAX_CANARY_NESTING_DEPTH)
    (clean : canary_bytes = encode_utf8 canary → ¬ (heap r).Holds canary)
    (scanned : s'.scanned_bytes = s.scanned_bytes + (heap r).size)
    (bytes : s.scanned_bytes ≤ MAX_CANARY_SURFACE_BYTES →
      s'.scanned_bytes ≤ MAX_CANARY_SURFACE_BYTES)

variable {heap canary canary_bytes} {s s' : Scan} {entry : Entry} {stack : List Entry}

variable (canary) in
/-- What `json.dumps` writes of a scalar is all that there is to scan. -/
theorem dumps_ok {o : Obj} {encoded : List Char} (h : o.dumps = .ok encoded) :
    o.size = encoded.length ∧ o.children = [] ∧ (o.Holds canary → canary.toList <:+: encoded) := by
  have hholds : (∃ e, o.dumps = .ok e ∧ canary.toList <:+: e) → canary.toList <:+: encoded := by
    rintro ⟨e, he, hmem⟩
    rw [h, Except.ok.injEq] at he
    exact he ▸ hmem
  cases o with
  | str => exact nomatch h
  | bytes => exact nomatch h
  | dict => exact nomatch h
  | list => exact nomatch h
  | tuple => exact nomatch h
  | other => exact nomatch h
  | none => exact ⟨by simp only [Obj.size, h], rfl, hholds⟩
  | bool => exact ⟨by simp only [Obj.size, h], rfl, hholds⟩
  | int => exact ⟨by simp only [Obj.size, h], rfl, hholds⟩
  | float => exact ⟨by simp only [Obj.size, h], rfl, hholds⟩

section Leaf

/-- What the scan of a leaf says of it. -/
structure Scanned (canary : String) (canary_bytes : Bytes) (o : Obj) (before after : ℕ)
    (found : Bool) : Prop where
  scanned : after = before + o.size
  bytes : after ≤ MAX_CANARY_SURFACE_BYTES
  children : o.children = []
  clean : found = false → canary_bytes = encode_utf8 canary → ¬ o.Holds canary

variable {o : Obj} {before after : ℕ} {found : Bool}

theorem scan_scalar_ok (h : scan_scalar canary before o = .ok (after, found)) :
    Scanned canary canary_bytes o before after found := by
  obtain ⟨encoded, hdumps, h⟩ := bind_ok.mp h
  obtain ⟨hbound, h⟩ := raise_if_bind.mp h
  obtain ⟨rfl, rfl⟩ := Prod.mk.inj (Except.ok.inj h)
  obtain ⟨hsize, hchildren, hholds⟩ := dumps_ok canary hdumps
  exact ⟨by rw [hsize], Nat.not_lt.mp hbound, hchildren,
    fun hfound _ h => of_decide_eq_false hfound (hholds h)⟩

theorem scan_leaf_ok (h : scan_leaf canary canary_bytes before o = .ok (after, found)) :
    Scanned canary canary_bytes o before after found := by
  cases o with
  | str text =>
    obtain ⟨-, h⟩ := raise_if_bind.mp h
    obtain ⟨encoded, hencode, h⟩ := bind_ok.mp h
    obtain ⟨hbound, h⟩ := raise_if_bind.mp h
    obtain ⟨rfl, rfl⟩ := Prod.mk.inj (Except.ok.inj h)
    cases text with
    -- `encode` raises on a lone surrogate, before anything is counted
    | surrogates => exact nomatch hencode
    | text current =>
      obtain rfl : encode_utf8 current = encoded := Except.ok.inj hencode
      refine ⟨rfl, Nat.not_lt.mp hbound, rfl, fun hfound _ => ?_⟩
      have hnot : ¬ (PyStr.text canary).codes <:+: (PyStr.text current).codes :=
        of_decide_eq_false hfound
      exact hnot
  | bytes current =>
    obtain ⟨hbound, h⟩ := raise_if_bind.mp h
    obtain ⟨rfl, rfl⟩ := Prod.mk.inj (Except.ok.inj h)
    refine ⟨rfl, Nat.not_lt.mp hbound, rfl, fun hfound hbytes => ?_⟩
    have hnot : ¬ canary_bytes <:+: current := of_decide_eq_false hfound
    rw [hbytes] at hnot
    exact hnot
  | none => exact scan_scalar_ok h
  | bool => exact scan_scalar_ok h
  | int => exact scan_scalar_ok h
  | float => exact scan_scalar_ok h
  | dict => exact scan_scalar_ok h
  | list => exact scan_scalar_ok h
  | tuple => exact scan_scalar_ok h
  | other => exact scan_scalar_ok h

end Leaf

theorem pending_children (depth : ℕ) (children : List Ref) (s : Scan) :
    Scan.pending { s with stack := (children.map fun child => ⟨child, depth, false⟩) ++ s.stack } =
      (children.map fun child => (child, depth)) ++ s.pending := by
  rw [Scan.pending, Scan.pending, List.filterMap_append, List.filterMap_map]
  congr 1
  rw [← List.filterMap_eq_map]
  exact List.filterMap_congr fun _ _ => rfl

theorem entered_children (depth : ℕ) (children : List Ref) (s : Scan) :
    Scan.entered { s with stack := (children.map fun child => ⟨child, depth, false⟩) ++ s.stack } =
      s.entered := by
  have hnone : (children.map fun child => (⟨child, depth, false⟩ : Entry)).countP Entry.exiting =
    0 := by
    rw [List.countP_map]
    exact List.countP_eq_zero.mpr fun _ _ => Bool.false_ne_true
  rw [Scan.entered, Scan.entered, List.countP_append, hnone, Nat.zero_add]

/-- An entered container: its children come before what was on the stack. -/
theorem enter_ok {child_count : ℕ} {keyed : Bool} {next : Bool ⊕ Scan}
    (h : enter heap entry child_count keyed s = .ok next) :
    ∃ s', next = .inr s' ∧ s'.pending = successors (refs heap) entry.current entry.depth ++ s.pending ∧
      s'.entered = s.entered + 1 ∧ s'.visited_nodes = s.visited_nodes ∧
      s'.scanned_bytes = s.scanned_bytes := by
  obtain ⟨-, h⟩ := raise_if_bind.mp h
  obtain ⟨-, h⟩ := raise_if_bind.mp h
  obtain ⟨-, h⟩ := raise_if_bind.mp h
  refine ⟨_, (Except.ok.inj h).symm, ?_, ?_, rfl, rfl⟩
  · exact pending_children (entry.depth + 1) (heap entry.current).children
      { s with stack := { entry with exiting := true } :: s.stack }
  · have hentered := entered_children (entry.depth + 1) (heap entry.current).children
      { s with stack := { entry with exiting := true } :: s.stack }
    exact hentered.trans (List.countP_cons_of_pos rfl)

/-- What the visit of an object says of it, if the scan goes on. -/
structure Visited (heap : Heap) (canary : String) (canary_bytes : Bytes) (entry : Entry) (s s' : Scan) :
    Prop where
  pushed : s'.pending = successors (refs heap) entry.current entry.depth ++ s.pending
  entered : s'.entered ≤ s.entered + 1
  visited : s'.visited_nodes = s.visited_nodes
  nodes : s.visited_nodes ≤ MAX_CANARY_SURFACE_NODES
  depth_le : entry.depth ≤ MAX_CANARY_NESTING_DEPTH
  clean : canary_bytes = encode_utf8 canary → ¬ (heap entry.current).Holds canary
  scanned : s'.scanned_bytes = s.scanned_bytes + (heap entry.current).size
  bytes : s.scanned_bytes ≤ MAX_CANARY_SURFACE_BYTES → s'.scanned_bytes ≤ MAX_CANARY_SURFACE_BYTES

/-- A container has nothing to scan of its own. -/
theorem enter_visited {child_count : ℕ} {keyed : Bool}
    (hbounds : ¬ (MAX_CANARY_SURFACE_NODES < s.visited_nodes ∨ MAX_CANARY_NESTING_DEPTH < entry.depth))
    (hsize : (heap entry.current).size = 0) (hholds : ¬ (heap entry.current).Holds canary)
    (h : enter heap entry child_count keyed s = .ok (.inr s')) :
    Visited heap canary canary_bytes entry s s' := by
  obtain ⟨s₁, heq, hpushed, hentered, hvisited, hscanned⟩ := enter_ok h
  obtain rfl := Sum.inr.inj heq
  rw [not_or, Nat.not_lt, Nat.not_lt] at hbounds
  refine ⟨hpushed, hentered.le, hvisited, hbounds.1, hbounds.2, fun _ => hholds, ?_, ?_⟩
  · rw [hscanned, hsize, Nat.add_zero]
  · rw [hscanned]
    exact id

/-- A leaf has no children. -/
theorem leaf_visited
    (hbounds : ¬ (MAX_CANARY_SURFACE_NODES < s.visited_nodes ∨ MAX_CANARY_NESTING_DEPTH < entry.depth))
    (h : visit_leaf canary canary_bytes (heap entry.current) s = .ok (.inr s')) :
    Visited heap canary canary_bytes entry s s' := by
  obtain ⟨⟨after, found⟩, hleaf, h⟩ := bind_ok.mp h
  have hscan := scan_leaf_ok hleaf
  rw [not_or, Nat.not_lt, Nat.not_lt] at hbounds
  cases found with
  | true => exact nomatch h
  | false =>
    obtain rfl := Sum.inr.inj (Except.ok.inj h)
    refine ⟨?_, Nat.le_succ _, rfl, hbounds.1, hbounds.2, hscan.clean rfl, hscan.scanned,
      fun _ => hscan.bytes⟩
    have hnone : successors (refs heap) entry.current entry.depth = [] := by
      rw [successors, refs, hscan.children, List.map_nil]
    rw [hnone]
    rfl

theorem visit_ok (h : visit heap canary canary_bytes entry s = .ok (.inr s')) :
    Visited heap canary canary_bytes entry s s' := by
  rw [visit, raise_if_bind] at h
  obtain ⟨hbounds, h⟩ := h
  -- a container is entered, a leaf is scanned, anything else is refused
  cases hobj : heap entry.current with
  | dict items =>
    simp only [hobj] at h
    exact enter_visited hbounds (by rw [hobj]; rfl) (by rw [hobj]; exact fun ⟨_, h, _⟩ => nomatch h) h
  | list items =>
    simp only [hobj] at h
    exact enter_visited hbounds (by rw [hobj]; rfl) (by rw [hobj]; exact fun ⟨_, h, _⟩ => nomatch h) h
  | tuple items =>
    simp only [hobj] at h
    exact enter_visited hbounds (by rw [hobj]; rfl) (by rw [hobj]; exact fun ⟨_, h, _⟩ => nomatch h) h
  | other =>
    simp only [hobj] at h
    exact nomatch h
  | str =>
    simp only [hobj] at h
    exact leaf_visited hbounds (by rw [hobj]; exact h)
  | bytes =>
    simp only [hobj] at h
    exact leaf_visited hbounds (by rw [hobj]; exact h)
  | none =>
    simp only [hobj] at h
    exact leaf_visited hbounds (by rw [hobj]; exact h)
  | bool =>
    simp only [hobj] at h
    exact leaf_visited hbounds (by rw [hobj]; exact h)
  | int =>
    simp only [hobj] at h
    exact leaf_visited hbounds (by rw [hobj]; exact h)
  | float =>
    simp only [hobj] at h
    exact leaf_visited hbounds (by rw [hobj]; exact h)

/-- **What a turn does.** -/
theorem turn_of_body (h : body heap canary canary_bytes s = .ok (.inr s')) :
    Turn heap canary canary_bytes s s' := by
  rcases hstack : s.stack with _ | ⟨entry, stack⟩
  · rw [body, hstack] at h
    exact nomatch h
  rw [body, hstack] at h
  dsimp only at h
  -- an exit marker pops its container; any other entry is visited
  cases hexiting : entry.exiting with
  | true =>
    rw [hexiting, if_pos rfl] at h
    split at h
    · obtain rfl := Sum.inr.inj (Except.ok.inj h)
      refine .left ?_ ?_ rfl rfl
      · simp only [Scan.pending, hstack, List.filterMap_cons, hexiting, if_pos]
      · rw [Scan.entered, Scan.entered, hstack, List.countP_cons_of_pos hexiting]
    · exact nomatch h
  | false =>
    rw [hexiting, if_neg Bool.false_ne_true] at h
    have hvisit := visit_ok h
    have hpopped : s.pending = (entry.current, entry.depth) ::
        Scan.pending { s with stack := stack, visited_nodes := s.visited_nodes + 1 } := by
      simp only [Scan.pending, hstack, List.filterMap_cons, hexiting, if_neg Bool.false_ne_true]
    have hentered : s.entered =
        Scan.entered { s with stack := stack, visited_nodes := s.visited_nodes + 1 } := by
      rw [Scan.entered, hstack, List.countP_cons_of_neg (by rw [hexiting]; exact Bool.false_ne_true)]
      rfl
    exact .visited entry.current entry.depth _ hpopped hvisit.pushed (hentered ▸ hvisit.entered)
      hvisit.visited (hvisit.visited.symm ▸ hvisit.nodes) hvisit.depth_le hvisit.clean hvisit.scanned
      hvisit.bytes

/-- The scan finds nothing only when nothing is left to visit. -/
theorem pending_of_end (h : body heap canary canary_bytes s = .ok (.inl false)) : s.pending = [] := by
  -- a visit goes on or reports, so only the empty stack ends the scan without a report
  have hleaf : ∀ (o : Obj) (s : Scan), visit_leaf canary canary_bytes o s ≠ .ok (.inl false) := by
    intro o s h
    obtain ⟨⟨after, found⟩, -, h⟩ := bind_ok.mp h
    cases found with
    | true => exact nomatch h
    | false => exact nomatch h
  have henter : ∀ (entry : Entry) (count : ℕ) (keyed : Bool) (s : Scan),
      enter heap entry count keyed s ≠ .ok (.inl false) := by
    intro entry count keyed s h
    obtain ⟨s', heq, -⟩ := enter_ok h
    exact nomatch heq
  rcases hstack : s.stack with _ | ⟨entry, stack⟩
  · rw [Scan.pending, hstack, List.filterMap_nil]
  rw [body, hstack] at h
  dsimp only at h
  split at h
  · split at h
    · exact nomatch h
    · exact nomatch h
  · rw [visit, raise_if_bind] at h
    obtain ⟨-, h⟩ := h
    split at h
    · exact absurd h (henter _ _ _ _)
    · exact absurd h (henter _ _ _ _)
    · exact absurd h (henter _ _ _ _)
    · exact nomatch h
    · exact absurd h (hleaf _ _)

/-! ## The loop -/

variable (heap canary canary_bytes) in
/-- The loop: a turn uses up a visit or leaves a container that was entered. -/
def scan_loop : Loop Scan Exn Bool where
  body := body heap canary canary_bytes
  measure s := 2 * (MAX_CANARY_SURFACE_NODES - s.visited_nodes) + s.entered
  decreases h := by
    cases turn_of_body h with
    | left _ hentered hvisited _ =>
      rw [hvisited]
      omega
    | visited _ _ _ _ _ hentered hvisited hnodes =>
      omega

/-- The variables before the loop. -/
def start (value : Ref) : Scan := ⟨[⟨value, 0, false⟩], [], 0, 0⟩

variable (heap canary canary_bytes) in
/-- `_contains_canary_bounded(value, canary, canary_bytes)`. -/
def _contains_canary_bounded (value : Ref) : Except Exn Bool :=
  (scan_loop heap canary canary_bytes).run (start value)

/-- An object in which the canary is, or which is too deep. -/
def Bad (heap : Heap) (canary : String) (depth : ℕ) (r : Ref) : Prop :=
  (heap r).Holds canary ∨ MAX_CANARY_NESTING_DEPTH < depth

/-- The size of an object of the heap. -/
abbrev size_of (heap : Heap) (r : Ref) : ℕ := (heap r).size

/-- What holds before every turn: what has been scanned and what is still to be visited
make up the value, and what is bad in it is still ahead. -/
structure Covers (heap : Heap) (canary : String) (value : Ref) (s : Scan) : Prop where
  nodes : ∀ n, unfolded (refs heap) (fun _ => 1) n value ≤
    s.visited_nodes + owed (refs heap) (fun _ => 1) n s.pending
  bytes : ∀ n, unfolded (refs heap) (size_of heap) n value ≤
    s.scanned_bytes + owed (refs heap) (size_of heap) n s.pending
  visited_le : s.visited_nodes ≤ MAX_CANARY_SURFACE_NODES
  scanned_le : s.scanned_bytes ≤ MAX_CANARY_SURFACE_BYTES
  ahead : Ahead (refs heap) (Bad heap canary) [(value, 0)] →
    Ahead (refs heap) (Bad heap canary) s.pending

theorem covers_start (value : Ref) : Covers heap canary value (start value) := by
  have hpending : (start value).pending = [(value, 0)] := rfl
  refine ⟨fun n => ?_, fun n => ?_, Nat.zero_le _, Nat.zero_le _, ?_⟩
  · rw [hpending, owed_start]
    exact Nat.le_add_left ..
  · rw [hpending, owed_start]
    exact Nat.le_add_left ..
  · rw [hpending]
    exact id

/-- **Every turn keeps it.** -/
theorem covers_turn {value : Ref} (h : Covers heap canary value s)
    (hturn : Turn heap canary (encode_utf8 canary) s s') : Covers heap canary value s' := by
  cases hturn with
  | left hpending _ hvisited hscanned =>
    refine ⟨?_, ?_, ?_, ?_, ?_⟩
    · rw [hpending, hvisited]
      exact h.nodes
    · rw [hpending, hscanned]
      exact h.bytes
    · rw [hvisited]
      exact h.visited_le
    · rw [hscanned]
      exact h.scanned_le
    · rw [hpending]
      exact h.ahead
  | visited r depth rest hpopped hpushed _ hvisited hnodes hdepth hclean hscanned hbytes =>
    refine ⟨fun n => ?_, fun n => ?_, hnodes, hbytes h.scanned_le, fun hbad => ?_⟩
    · have hbefore := h.nodes n
      have hvisit := owed_visit (refs heap) (fun _ => 1) r depth n rest
      rw [hpopped] at hbefore
      rw [hpushed]
      omega
    · have hbefore := h.bytes n
      have hvisit := owed_visit (refs heap) (size_of heap) r depth n rest
      have hsize : (heap r).size = size_of heap r := rfl
      rw [hpopped] at hbefore
      rw [hpushed, hscanned, hsize]
      omega
    -- a bad object ahead of the stack is the one just visited, or is still ahead
    · have hahead := h.ahead hbad
      rw [hpopped] at hahead
      rw [hpushed]
      rcases ahead_visit hahead with (hholds | hdeep) | hahead
      · exact absurd hholds (hclean rfl)
      · exact absurd hdepth (Nat.not_le.mpr hdeep)
      · exact hahead

/-- A clean value has been walked whole. -/
theorem covers_of_clean {value : Ref}
    (h : _contains_canary_bounded heap canary (encode_utf8 canary) value = .ok false) :
    ∃ s, Covers heap canary value s ∧ s.pending = [] := by
  have hrun : ∀ b, _contains_canary_bounded heap canary (encode_utf8 canary) value = .ok b → b = false →
      ∃ s, Covers heap canary value s ∧ s.pending = [] := by
    rw [_contains_canary_bounded]
    refine Loop.run_invariant (I := Covers heap canary value) (Q := fun result => ∀ b, result = .ok b →
      b = false → ∃ s, Covers heap canary value s ∧ s.pending = []) ?_ ?_ ?_ (covers_start value)
    · exact fun s s' hs hbody => covers_turn hs (turn_of_body hbody)
    · rintro s b hs hbody _ ⟨⟩ rfl
      exact ⟨s, hs, pending_of_end hbody⟩
    · exact fun _ _ _ _ _ hresult => nomatch hresult
  exact hrun false h rfl

/-- The value exceeds a bound: the nodes of its unfolding, their depth or their bytes. -/
def Exceeds (heap : Heap) (value : Ref) : Prop :=
  (∃ n, MAX_CANARY_SURFACE_NODES < unfolded (refs heap) (fun _ => 1) n value) ∨
  (∃ n r, MAX_CANARY_NESTING_DEPTH < n ∧ Path (refs heap) value n r) ∨
  ∃ n, MAX_CANARY_SURFACE_BYTES < unfolded (refs heap) (size_of heap) n value

/-- **A clean value does not hold the canary**, wherever it is reached. -/
theorem not_holds_of_clean {value r : Ref} {n : ℕ}
    (h : _contains_canary_bounded heap canary (encode_utf8 canary) value = .ok false)
    (hpath : Path (refs heap) value n r) : ¬ (heap r).Holds canary := by
  intro hholds
  obtain ⟨s, hs, hpending⟩ := covers_of_clean h
  have hahead := hs.ahead (ahead_start hpath (.inl hholds))
  rw [hpending] at hahead
  exact not_ahead_nil hahead

/-- **A clean value is within the bounds.** -/
theorem not_exceeds_of_clean {value : Ref}
    (h : _contains_canary_bounded heap canary (encode_utf8 canary) value = .ok false) :
    ¬ Exceeds heap value := by
  obtain ⟨s, hs, hpending⟩ := covers_of_clean h
  rintro (⟨n, hnodes⟩ | ⟨n, r, hdeep, hpath⟩ | ⟨n, hbytes⟩)
  · have hle := hs.nodes n
    have hvisited := hs.visited_le
    rw [hpending, owed_nil] at hle
    omega
  · have hahead := hs.ahead (ahead_start hpath (.inr hdeep))
    rw [hpending] at hahead
    exact not_ahead_nil hahead
  · have hle := hs.bytes n
    have hscanned := hs.scanned_le
    rw [hpending, owed_nil] at hle
    omega

/-! ## Surfaces -/

/-- The names of the surfaces, checked. -/
def surface_names (heap : Heap) : List (Ref × Ref) → Except Exn (List (PyStr × Ref)) :=
  List.mapM fun item =>
    match heap item.1 with
    | .str name =>
      if name = .text "" then .error ⟨.ValueError, "surface name must be a non-empty string"⟩
      else .ok (name, item.2)
    | _ => .error ⟨.ValueError, "surface name must be a non-empty string"⟩

/-- A surface is reported if the canary is found, or if the scan raises. -/
def reported (heap : Heap) (canary : String) (canary_bytes : Bytes) (value : Ref) : Bool :=
  match _contains_canary_bounded heap canary canary_bytes value with
  | .ok contains_canary => contains_canary
  | .error _ => true

/-- `find_canary_surfaces(canary, surfaces)`. -/
def find_canary_surfaces (heap : Heap) (canary surfaces : Obj) : Except Exn (List PyStr) :=
  match canary with
  | .str (.text canary) => do
    raise_if (canary = "") ⟨.ValueError, "canary must not be empty"⟩
    raise_if (MAX_CANARY_SURFACE_BYTES < (encode_utf8 canary).length)
      ⟨.ValueError, "canary must not be empty"⟩
    match surfaces with
    | .dict items => do
      raise_if (MAX_CANARY_SURFACES < items.length) ⟨.ValueError, "surface count exceeds limit"⟩
      let named ← surface_names heap items
      return (named.filter fun p => reported heap canary (encode_utf8 canary) p.2).map Prod.fst
    | _ => .error ⟨.ValueError, "surfaces must be a mapping"⟩
  | _ => .error ⟨.ValueError, "canary must not be empty"⟩

/-- `assert_canary_absent(canary, surfaces)`. -/
def assert_canary_absent (heap : Heap) (canary surfaces : Obj) : Except Exn Unit := do
  let leaked ← find_canary_surfaces heap canary surfaces
  raise_if (leaked ≠ []) ⟨.CredentialLeakDetected, "credential canary found"⟩

theorem reported_of_ne {value : Ref}
    (h : _contains_canary_bounded heap canary canary_bytes value ≠ .ok false) :
    reported heap canary canary_bytes value = true := by
  rw [reported]
  cases hscan : _contains_canary_bounded heap canary canary_bytes value with
  | error e => rfl
  | ok found =>
    cases found with
    | true => rfl
    | false => exact absurd hscan h

/-- **Every surface that is not clean is reported.** -/
theorem surface_reported {items : List (Ref × Ref)} {found : List PyStr} {key value : Ref}
    {name : PyStr} (h : find_canary_surfaces heap (.str (.text canary)) (.dict items) = .ok found)
    (hitem : (key, value) ∈ items) (hname : heap key = .str name)
    (hscan : _contains_canary_bounded heap canary (encode_utf8 canary) value ≠ .ok false) :
    name ∈ found := by
  obtain ⟨-, h⟩ := raise_if_bind.mp h
  obtain ⟨-, h⟩ := raise_if_bind.mp h
  obtain ⟨-, h⟩ := raise_if_bind.mp h
  obtain ⟨named, hnamed, h⟩ := bind_ok.mp h
  obtain rfl := Except.ok.inj h
  have hmem : (name, value) ∈ named := by
    obtain ⟨pair, hpair, hmem⟩ := mem_mapM hnamed hitem
    simp only [hname] at hpair
    split at hpair
    · exact nomatch hpair
    · exact Except.ok.inj hpair ▸ hmem
  exact List.mem_map_of_mem (List.mem_filter.mpr ⟨hmem, reported_of_ne hscan⟩)

end Canary

/-- **The canary scan.** On every value, cyclic and shared containers included, the loop
ends, in so many turns. It finds nothing only if no string, bytes, key or scalar that the
value reaches holds the canary. A value beyond a bound on nodes, depth or bytes is not
clean; and every surface that is not clean is reported. -/
theorem canary_scan (heap : Heap) (canary : String) (value : Ref) :
    (∀ turns, 2 * MAX_CANARY_SURFACE_NODES < turns →
      (scan_loop heap canary (encode_utf8 canary)).turns turns (start value) =
        some (_contains_canary_bounded heap canary (encode_utf8 canary) value)) ∧
    (_contains_canary_bounded heap canary (encode_utf8 canary) value = .ok false →
      ∀ n r, Path (refs heap) value n r → ¬ (heap r).Holds canary) ∧
    (Exceeds heap value →
      _contains_canary_bounded heap canary (encode_utf8 canary) value ≠ .ok false) ∧
    (_contains_canary_bounded heap canary (encode_utf8 canary) value ≠ .ok false →
      ∀ items found key name,
        find_canary_surfaces heap (.str (.text canary)) (.dict items) = .ok found →
        (key, value) ∈ items → heap key = .str name → name ∈ found) := by
  refine ⟨fun turns hturns => Loop.turns_run hturns, fun h n r hpath => not_holds_of_clean h hpath,
    fun hexceeds h => not_exceeds_of_clean h hexceeds, ?_⟩
  exact fun hscan items found key name hfound hitem hname =>
    surface_reported hfound hitem hname hscan

/-- A list that holds itself is refused when it is met again. -/
example : (scan_loop (fun _ => .list [0]) "canary" (encode_utf8 "canary")).turns 2 (start 0) =
    some (.error unscannable) := rfl

end AppContracts.CanaryScan
