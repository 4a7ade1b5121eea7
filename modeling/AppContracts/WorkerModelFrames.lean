/-
Frames of the worker's model channel: `_write_stream_frame` and
`_read_stream_frame` of `worker_model_ipc.py`.

A frame is the length of its payload in four bytes, and the payload. Both loops
meet the system once a turn: the clock, `select`, and a transfer that may move
fewer bytes than it is asked for, or none. The turns to come are a list from
outside, so a statement about all lists is one about every schedule. The bytes
that the pipe will ever give stand in the stream of the reader: as long as the
writer has not written them, its turns would block.
-/
import AppContracts.Digests
import AppContracts.Lib.Scheduled

set_option autoImplicit false

namespace AppContracts.WorkerModelIPC

/-- `WorkerModelIPCError("worker model IPC: " + message)`. -/
def ipc_error (message : String) : Exn := ⟨.WorkerModelIPCError, "worker model IPC: " ++ message⟩

/-- `_remaining`, or `select` after the deadline. -/
def timed_out : Exn := ipc_error "request timed out"

/-- The pipe is closed or broken. -/
def transport_failed : Exn := ipc_error "transport failed"

/-- `_FRAME_PREFIX_BYTES`. -/
def _FRAME_PREFIX_BYTES : ℕ := 4

/-- `_MAX_REQUEST_FRAME_BYTES`. -/
def _MAX_REQUEST_FRAME_BYTES : ℕ := 128000

/-- `_MAX_RESPONSE_FRAME_BYTES`. -/
def _MAX_RESPONSE_FRAME_BYTES : ℕ := 65536

/-! ## Sizes -/

/-- `struct.pack(">I", size)`, for a size of four bytes. -/
def pack_size (size : ℕ) : Bytes :=
  [UInt8.ofNat (size / 2 ^ 24), UInt8.ofNat (size / 2 ^ 16), UInt8.ofNat (size / 2 ^ 8),
    UInt8.ofNat size]

/-- `struct.unpack(">I", header)`. -/
def unpack_size (header : Bytes) : ℕ := header.foldl (fun size byte => 256 * size + byte.toNat) 0

@[simp] theorem length_pack_size (size : ℕ) : (pack_size size).length = 4 := rfl

theorem unpack_pack_size {size : ℕ} (h : size < 2 ^ 32) : unpack_size (pack_size size) = size := by
  simp only [unpack_size, pack_size, List.foldl_cons, List.foldl_nil, UInt8.toNat_ofNat']
  omega

theorem unpack_size_lt {header : Bytes} (h : header.length = 4) : unpack_size header < 2 ^ 32 := by
  match header, h with
  | [a, b, c, d], _ =>
    have ha := a.toNat_lt
    have hb := b.toNat_lt
    have hc := c.toNat_lt
    have hd := d.toNat_lt
    simp only [unpack_size, List.foldl_cons, List.foldl_nil]
    omega

theorem pack_unpack_size {header : Bytes} (h : header.length = 4) :
    pack_size (unpack_size header) = header := by
  match header, h with
  | [a, b, c, d], _ =>
    have ha := a.toNat_lt
    have hb := b.toNat_lt
    have hc := c.toNat_lt
    have hd := d.toNat_lt
    simp only [pack_size, unpack_size, List.foldl_cons, List.foldl_nil, List.cons.injEq, and_true]
    refine ⟨?_, ?_, ?_, ?_⟩
    all_goals
      apply UInt8.toNat.inj
      rw [UInt8.toNat_ofNat']
      omega

/-! ## Reading -/

/-- What a turn of the reading loop meets. -/
inductive ReadTurn : Type
  /-- The deadline has passed. -/
  | expired
  /-- `select` finds nothing to read before the deadline. -/
  | not_ready
  /-- `select` or `os.read` raises. -/
  | failed
  /-- `os.read` raises `BlockingIOError`. -/
  | would_block
  /-- `os.read` gives up to `n + 1` bytes, and none at the end of the stream. -/
  | reads (n : ℕ)

/-- The read end of a pipe: the bytes it will give, and the turns to come. -/
structure ReadEnd : Type where
  stream : Bytes
  turns : List ReadTurn

/-- The loop of `_read_stream_exact`. -/
def read_turns : List ReadTurn → ℕ → Bytes → Bytes → Outcome Exn Bytes × ReadEnd
  | turns, 0, chunks, stream => (.returned chunks, ⟨stream, turns⟩)
  | [], _ + 1, _, stream => (.waiting, ⟨stream, []⟩)
  | .expired :: turns, _ + 1, _, stream => (.raised timed_out, ⟨stream, turns⟩)
  | .not_ready :: turns, _ + 1, _, stream => (.raised timed_out, ⟨stream, turns⟩)
  | .failed :: turns, _ + 1, _, stream => (.raised transport_failed, ⟨stream, turns⟩)
  | .would_block :: turns, remaining + 1, chunks,
    stream => read_turns turns (remaining + 1) chunks stream
  | .reads n :: turns, remaining + 1, chunks, stream =>
    let chunk := stream.take (min (remaining + 1) (n + 1))
    if chunk = [] then (.raised transport_failed, ⟨stream, turns⟩)
    else read_turns turns (remaining + 1 - chunk.length) (chunks ++ chunk) (stream.drop chunk.length)

/-- `_read_stream_exact(descriptor, size, deadline)`. -/
def _read_stream_exact (size : ℕ) : Scheduled ReadEnd Exn Bytes := fun r =>
  read_turns r.turns size [] r.stream

/-- `_read_stream_frame(descriptor, maximum=maximum, deadline=deadline)`. -/
def _read_stream_frame (maximum : ℕ) : Scheduled ReadEnd Exn Bytes := do
  let header ← _read_stream_exact _FRAME_PREFIX_BYTES
  let size := unpack_size header
  if size = 0 ∨ maximum < size then Scheduled.raise (ipc_error "message exceeds limit")
  else _read_stream_exact size

/-- What a turn does to the reading loop. -/
def ReadTurn.kind : ReadTurn → TurnKind
  | .would_block => .blocks
  | .reads _ => .transfers
  | _ => .fails

/-- A chunk of what is asked for, and the rest of it. -/
theorem take_chunk (stream : Bytes) (given : ℕ) {asked : ℕ} (h : given ≤ asked) :
    (stream.take given).length ≤ asked ∧ (stream.take given).length ≤ stream.length ∧
      stream.take asked = stream.take given ++
        (stream.drop (stream.take given).length).take (asked - (stream.take given).length) ∧
      stream.drop asked =
        (stream.drop (stream.take given).length).drop (asked - (stream.take given).length) := by
  have hlength : (stream.take given).length = min given stream.length := List.length_take
  have hsum : (stream.take given).length + (asked - (stream.take given).length) = asked := by omega
  have hchunk : stream.take (stream.take given).length = stream.take given := by
    rw [hlength]
    exact List.take_eq_take_min.symm
  have htake := List.take_add (l := stream) (i := (stream.take given).length)
    (j := asked - (stream.take given).length)
  rw [hsum, hchunk] at htake
  refine ⟨by omega, by omega, htake, ?_⟩
  rw [List.drop_drop, hsum]

section ReadLoop

variable {turns : List ReadTurn} {remaining : ℕ} {chunks stream : Bytes}

/-- **What a loop that returns has read**: the bytes at the head of the stream, as many
as were asked for. -/
theorem read_turns_returned {d : Bytes} {r : ReadEnd}
    (h : read_turns turns remaining chunks stream = (.returned d, r)) :
    d = chunks ++ stream.take remaining ∧ remaining ≤ stream.length ∧ r.stream =
      stream.drop remaining := by
  fun_induction read_turns turns remaining chunks stream with
  | case1 turns chunks stream =>
    cases h
    simp
  | case2 => cases h
  | case3 => cases h
  | case4 => cases h
  | case5 => cases h
  | case6 turns remaining chunks stream ih => exact ih h
  | case7 n turns remaining chunks stream chunk hnil => cases h
  | case8 n turns remaining chunks stream chunk hnil ih =>
    obtain ⟨hd, hle, hrest⟩ := ih h
    obtain ⟨hasked, hgiven, htake, hdrop⟩ :=
      take_chunk stream (min (remaining + 1) (n + 1)) (Nat.min_le_left ..)
    rw [List.length_drop] at hle
    refine ⟨?_, ?_, ?_⟩
    · rw [hd, htake, List.append_assoc]
    · have hpos : 0 < chunk.length := List.length_pos_iff.mpr hnil
      have hchunk : chunk.length ≤ stream.length := hgiven
      omega
    · rw [hrest, hdrop]

/-- The loop raises nothing but its own error. -/
theorem read_turns_raised {e : Exn} {r : ReadEnd}
    (h : read_turns turns remaining chunks stream = (.raised e, r)) : e.cls = .WorkerModelIPCError := by
  fun_induction read_turns turns remaining chunks stream with
  | case1 turns chunks stream => cases h
  | case2 => cases h
  | case3 => cases h; rfl
  | case4 => cases h; rfl
  | case5 => cases h; rfl
  | case6 turns remaining chunks stream ih => exact ih h
  | case7 n turns remaining chunks stream chunk hnil => cases h; rfl
  | case8 n turns remaining chunks stream chunk hnil ih => exact ih h

variable (chunks) in
/-- **A ready loop returns**, if the stream has the bytes. -/
theorem read_turns_ready {spare : ℕ} (hturns : Ready ReadTurn.kind (remaining + spare) turns)
    (hlength : remaining ≤ stream.length) :
    ∃ rest, read_turns turns remaining chunks stream =
        (.returned (chunks ++ stream.take remaining), ⟨stream.drop remaining, rest⟩) ∧
      Ready ReadTurn.kind spare rest := by
  fun_induction read_turns turns remaining chunks stream with
  | case1 turns chunks stream => exact ⟨turns, by simp, hturns.mono (by omega)⟩
  | case2 remaining => exact absurd (hturns.mono (by omega)) (Ready.not_nil (n := remaining + spare))
  | case3 => exact absurd rfl hturns.not_fails
  | case4 => exact absurd rfl hturns.not_fails
  | case5 => exact absurd rfl hturns.not_fails
  | case6 turns remaining chunks stream ih => exact ih (hturns.after_block rfl) hlength
  | case7 n turns remaining chunks stream chunk hnil =>
    rcases List.take_eq_nil_iff.mp hnil with hzero | rfl
    · omega
    · exact absurd hlength (by simp)
  | case8 n turns remaining chunks stream chunk hnil ih =>
    have hpos : 0 < chunk.length := List.length_pos_iff.mpr hnil
    obtain ⟨hasked, -, htake, hdrop⟩ :=
      take_chunk stream (min (remaining + 1) (n + 1)) (Nat.min_le_left ..)
    have hready : Ready ReadTurn.kind (remaining + 1 - chunk.length + spare) turns :=
      (hturns.mono (by omega)).after_transfer
    obtain ⟨rest, hrun, hrest⟩ := ih hready (by rw [List.length_drop]; omega)
    refine ⟨rest, ?_, hrest⟩
    rw [hrun, htake, hdrop, List.append_assoc]

variable (chunks) in
/-- At the end of the stream a ready loop raises. -/
theorem read_turns_short (hturns : Ready ReadTurn.kind (stream.length + 1) turns)
    (hlength : stream.length < remaining) :
    ∃ rest, read_turns turns remaining chunks stream = (.raised transport_failed, ⟨[], rest⟩) := by
  fun_induction read_turns turns remaining chunks stream with
  | case1 turns chunks stream => omega
  | case2 remaining chunks stream => exact absurd hturns Ready.not_nil
  | case3 => exact absurd rfl hturns.not_fails
  | case4 => exact absurd rfl hturns.not_fails
  | case5 => exact absurd rfl hturns.not_fails
  | case6 turns remaining chunks stream ih => exact ih (hturns.after_block rfl) hlength
  | case7 n turns remaining chunks stream chunk hnil =>
    rcases List.take_eq_nil_iff.mp hnil with hzero | rfl
    · omega
    · exact ⟨turns, rfl⟩
  | case8 n turns remaining chunks stream chunk hnil ih =>
    have hpos : 0 < chunk.length := List.length_pos_iff.mpr hnil
    obtain ⟨-, hgiven, -, -⟩ :=
      take_chunk stream (min (remaining + 1) (n + 1)) (Nat.min_le_left ..)
    have hchunk : chunk.length ≤ stream.length := hgiven
    have hready : Ready ReadTurn.kind ((stream.drop chunk.length).length + 1) turns :=
      hturns.after_transfer.mono (by rw [List.length_drop]; omega)
    exact ih hready (by rw [List.length_drop]; omega)

end ReadLoop

/-! ## Writing -/

/-- What a turn of the writing loop meets. -/
inductive WriteTurn : Type
  /-- The deadline has passed. -/
  | expired
  /-- `select` finds no room before the deadline. -/
  | not_ready
  /-- `select` or `os.write` raises. -/
  | failed
  /-- `os.write` raises `BlockingIOError`. -/
  | would_block
  /-- `os.write` takes up to `n` bytes. -/
  | writes (n : ℕ)

/-- The write end of a pipe: the bytes it has taken, and the turns to come. -/
structure WriteEnd : Type where
  written : Bytes
  turns : List WriteTurn

/-- The loop of `_write_stream_all`. -/
def write_turns (payload : Bytes) : List WriteTurn → ℕ → Bytes → Outcome Exn Unit × WriteEnd
  | [], offset, written =>
    if payload.length ≤ offset then (.returned (), ⟨written, []⟩) else (.waiting, ⟨written, []⟩)
  | turn :: turns, offset, written =>
    if payload.length ≤ offset then (.returned (), ⟨written, turn :: turns⟩)
    else match turn with
      | .expired => (.raised timed_out, ⟨written, turns⟩)
      | .not_ready => (.raised timed_out, ⟨written, turns⟩)
      | .failed => (.raised transport_failed, ⟨written, turns⟩)
      | .would_block => write_turns payload turns offset written
      | .writes n =>
        let chunk := (payload.drop offset).take n
        if chunk = [] then (.raised transport_failed, ⟨written, turns⟩)
        else write_turns payload turns (offset + chunk.length) (written ++ chunk)

/-- `_write_stream_all(descriptor, payload, deadline)`. -/
def _write_stream_all (payload : Bytes) : Scheduled WriteEnd Exn Unit := fun w =>
  write_turns payload w.turns 0 w.written

/-- The bytes of a frame. -/
def frame (payload : Bytes) : Bytes := pack_size payload.length ++ payload

/-- `_write_stream_frame(descriptor, payload, maximum=maximum, deadline=deadline)`;
`struct.pack` raises for a size that takes more than four bytes. -/
def _write_stream_frame (payload : Bytes) (maximum : ℕ) : Scheduled WriteEnd Exn Unit :=
  if payload = [] ∨ maximum < payload.length then Scheduled.raise (ipc_error "message exceeds limit")
  else if 2 ^ 32 ≤ payload.length then Scheduled.raise ⟨.Exception, "argument out of range"⟩
  else _write_stream_all (frame payload)

/-- What a turn does to the writing loop: a write of nothing fails it. -/
def WriteTurn.kind : WriteTurn → TurnKind
  | .would_block => .blocks
  | .writes n => if n = 0 then .fails else .transfers
  | _ => .fails

section WriteLoop

variable {payload written : Bytes} {turns : List WriteTurn} {offset : ℕ}

/-- A written chunk and what is left. -/
theorem drop_chunk (payload : Bytes) (offset n : ℕ) :
    payload.drop offset = (payload.drop offset).take n ++
      payload.drop (offset + ((payload.drop offset).take n).length) := by
  rw [← List.drop_drop]
  exact (List.prefix_iff_eq_append.mp (List.take_prefix n _)).symm

variable (payload turns offset written) in
/-- **What a loop has written**, however it ends: bytes at the head of what was left, and
all of it if it returns. -/
theorem write_turns_written :
    ∃ sent, (write_turns payload turns offset written).2.written = written ++ sent ∧
      sent <+: payload.drop offset ∧
      ((write_turns payload turns offset written).1 = .returned () → sent = payload.drop offset) := by
  have hnone : ∀ written : Bytes, written = written ++ [] :=
    fun written => (List.append_nil written).symm
  -- on the turns; what is written is a prefix of what was left to write, whatever stops the loop
  fun_induction write_turns payload turns offset written with
  | case1 offset written hdone =>
    exact ⟨[], hnone _, List.nil_prefix, fun _ => (List.drop_eq_nil_of_le hdone).symm⟩
  | case2 => exact ⟨[], hnone _, List.nil_prefix, nofun⟩
  | case3 turn turns offset written hdone =>
    exact ⟨[], hnone _, List.nil_prefix, fun _ => (List.drop_eq_nil_of_le hdone).symm⟩
  | case4 => exact ⟨[], hnone _, List.nil_prefix, nofun⟩
  | case5 => exact ⟨[], hnone _, List.nil_prefix, nofun⟩
  | case6 => exact ⟨[], hnone _, List.nil_prefix, nofun⟩
  | case7 turns offset written hnot ih => exact ih
  | case8 => exact ⟨[], hnone _, List.nil_prefix, nofun⟩
  | case9 turns offset written hnot n chunk hnil ih =>
    obtain ⟨sent, hwritten, hhead, hall⟩ := ih
    have hsplit : payload.drop offset = chunk ++ payload.drop (offset + chunk.length) :=
      drop_chunk payload offset n
    refine ⟨chunk ++ sent, ?_, ?_, fun hreturned => ?_⟩
    · rw [hwritten, List.append_assoc]
    · rw [hsplit]
      exact (List.prefix_append_right_inj _).mpr hhead
    · rw [hsplit, hall hreturned]

/-- The loop raises nothing but its own error. -/
theorem write_turns_raised {e : Exn} {w : WriteEnd}
    (h : write_turns payload turns offset written = (.raised e, w)) : e.cls = .WorkerModelIPCError := by
  fun_induction write_turns payload turns offset written with
  | case1 => cases h
  | case2 => cases h
  | case3 => cases h
  | case4 => cases h; rfl
  | case5 => cases h; rfl
  | case6 => cases h; rfl
  | case7 offset written turns hnot ih => exact ih h
  | case8 => cases h; rfl
  | case9 offset written turns hnot n chunk hnil ih => exact ih h

/-- **A ready loop returns.** -/
theorem write_turns_ready (hturns : Ready WriteTurn.kind (payload.length - offset) turns) :
    ∃ rest, write_turns payload turns offset written =
      (.returned (), ⟨written ++ payload.drop offset, rest⟩) := by
  fun_induction write_turns payload turns offset written with
  | case1 offset written hdone => exact ⟨[], by rw [List.drop_eq_nil_of_le hdone, List.append_nil]⟩
  | case2 offset written hnot =>
    exact absurd (hturns.mono (by omega)) (Ready.not_nil (n := payload.length - offset - 1))
  | case3 turn turns offset written hdone =>
    exact ⟨turn :: turns, by rw [List.drop_eq_nil_of_le hdone, List.append_nil]⟩
  | case4 => exact absurd rfl hturns.not_fails
  | case5 => exact absurd rfl hturns.not_fails
  | case6 => exact absurd rfl hturns.not_fails
  | case7 turns offset written hnot ih => exact ih (hturns.after_block rfl)
  | case8 turns offset written hnot n chunk hnil =>
    -- the turn takes nothing only if it may take nothing
    rcases List.take_eq_nil_iff.mp hnil with rfl | hrest
    · exact absurd rfl hturns.not_fails
    · exact absurd (List.drop_eq_nil_iff.mp hrest) hnot
  | case9 turns offset written hnot n chunk hnil ih =>
    have hpos : 0 < chunk.length := List.length_pos_iff.mpr hnil
    have hready : Ready WriteTurn.kind (payload.length - (offset + chunk.length)) turns :=
      (hturns.mono (by omega)).after_transfer
    obtain ⟨rest, hrun⟩ := ih hready
    refine ⟨rest, ?_⟩
    rw [hrun, List.append_assoc]
    congr 3
    exact (drop_chunk payload offset n).symm

end WriteLoop

/-! ## Frames -/

/-- A payload that a frame may carry. -/
structure Within (maximum : ℕ) (payload : Bytes) : Prop where
  nonempty : payload ≠ []
  length_le : payload.length ≤ maximum
  length_lt : payload.length < 2 ^ 32

section Frames

variable {maximum : ℕ} {payload stream later : Bytes}

/-- A frame ends where its payload does. -/
theorem frame_append_inj {payload' later' : Bytes} (h : payload.length < 2 ^ 32)
    (h' : payload'.length < 2 ^ 32) (heq : frame payload ++ later = frame payload' ++ later') :
    payload = payload' ∧ later = later' := by
  rw [frame, frame, List.append_assoc, List.append_assoc] at heq
  obtain ⟨hsize, hrest⟩ := List.append_inj heq rfl
  have hlength := congrArg unpack_size hsize
  rw [unpack_pack_size h, unpack_pack_size h'] at hlength
  exact List.append_inj hrest hlength

/-- The writer of a frame writes it, if it returns. -/
theorem write_frame_returned {turns : List WriteTurn} {w : WriteEnd}
    (h : _write_stream_frame payload maximum ⟨[], turns⟩ = (.returned (), w)) :
    Within maximum payload ∧ w.written = frame payload := by
  rw [_write_stream_frame] at h
  split at h
  · exact nomatch h
  · rename_i hlimit
    rw [not_or, Nat.not_lt] at hlimit
    split at h
    · exact nomatch h
    · rename_i hsize
      obtain ⟨sent, hwritten, -, hall⟩ := write_turns_written (frame payload) [] turns 0
      rw [_write_stream_all] at h
      rw [h, List.nil_append] at hwritten
      refine ⟨⟨hlimit.1, hlimit.2, Nat.not_le.mp hsize⟩, hwritten.trans (hall ?_)⟩
      rw [h]

theorem write_frame_ready {turns : List WriteTurn} (hpayload : Within maximum payload)
    (hturns : Ready WriteTurn.kind (frame payload).length turns) :
    ∃ rest, _write_stream_frame payload maximum ⟨[], turns⟩ =
      (.returned (), ⟨frame payload, rest⟩) := by
  have hlimit : ¬ (payload = [] ∨ maximum < payload.length) :=
    not_or.mpr ⟨hpayload.nonempty, Nat.not_lt.mpr hpayload.length_le⟩
  rw [_write_stream_frame, if_neg hlimit, if_neg (Nat.not_le.mpr hpayload.length_lt)]
  exact write_turns_ready hturns

/-- A header and as many bytes as it says are a frame. -/
theorem frame_of_stream (hheader : _FRAME_PREFIX_BYTES ≤ stream.length) {size : ℕ}
    (hsize : unpack_size (stream.take _FRAME_PREFIX_BYTES) = size)
    (hlimit : ¬ (size = 0 ∨ maximum < size))
    (hbody : size ≤ (stream.drop _FRAME_PREFIX_BYTES).length) :
    Within maximum ((stream.drop _FRAME_PREFIX_BYTES).take size) ∧
      stream = frame ((stream.drop _FRAME_PREFIX_BYTES).take size) ++
        (stream.drop _FRAME_PREFIX_BYTES).drop size := by
  have hfour : (stream.take _FRAME_PREFIX_BYTES).length = 4 := List.length_take_of_le hheader
  have hd := List.length_take_of_le hbody
  rw [not_or, Nat.not_lt] at hlimit
  refine ⟨⟨?_, ?_, ?_⟩, ?_⟩
  · rintro hnil
    rw [hnil] at hd
    exact hlimit.1 hd.symm
  · rw [hd]
    exact hlimit.2
  · rw [hd, ← hsize]
    exact unpack_size_lt hfour
  · rw [frame, hd, ← hsize, pack_unpack_size hfour, List.append_assoc, List.take_append_drop,
      List.take_append_drop]

/-- **What the reader of a frame returns** is the payload of a frame at the head of the
stream, and nothing after the frame is read. -/
theorem read_frame_returned {turns : List ReadTurn} {d : Bytes} {r : ReadEnd}
    (h : _read_stream_frame maximum ⟨stream, turns⟩ = (.returned d, r)) :
    Within maximum d ∧ stream = frame d ++ r.stream := by
  obtain ⟨header, r₁, hheader, hbody⟩ := Scheduled.bind_eq_returned.mp h
  obtain ⟨rfl, hlength, hstream⟩ := read_turns_returned hheader
  rw [List.nil_append] at hbody
  dsimp only at hbody
  split at hbody
  · exact nomatch hbody
  · rename_i hlimit
    obtain ⟨rfl, hle, hrest⟩ := read_turns_returned hbody
    rw [hstream] at hle
    rw [List.nil_append, hrest, hstream]
    exact frame_of_stream hlength rfl hlimit hle

/-- **A ready reader returns** the payload of a frame. -/
theorem read_frame_ready {turns : List ReadTurn} (hpayload : Within maximum payload)
    (hturns : Ready ReadTurn.kind (frame payload).length turns) :
    ∃ rest, _read_stream_frame maximum ⟨frame payload ++ later, turns⟩ =
      (.returned payload, ⟨later, rest⟩) := by
  have hsplit : frame payload ++ later = pack_size payload.length ++ (payload ++ later) :=
    List.append_assoc ..
  have hlength : (frame payload).length = _FRAME_PREFIX_BYTES + payload.length := by
    rw [frame, List.length_append]
    rfl
  rw [hlength] at hturns
  have hfour : _FRAME_PREFIX_BYTES ≤ (frame payload ++ later).length := by
    rw [List.length_append, hlength]
    omega
  have hall : payload.length ≤ (payload ++ later).length := by
    rw [List.length_append]
    omega
  -- the four bytes of the size first, then the payload, out of the turns that are left
  obtain ⟨rest, hheader, hrest⟩ := read_turns_ready [] hturns hfour
  have htake : (frame payload ++ later).take _FRAME_PREFIX_BYTES = pack_size payload.length := by
    rw [hsplit]
    exact List.take_left' (length_pack_size _)
  have hdrop : (frame payload ++ later).drop _FRAME_PREFIX_BYTES = payload ++ later := by
    rw [hsplit]
    exact List.drop_left' (length_pack_size _)
  rw [htake, hdrop, List.nil_append] at hheader
  have hrest' : Ready ReadTurn.kind (payload.length + 0) rest := hrest
  obtain ⟨rest', hbody, -⟩ := read_turns_ready [] hrest' hall
  rw [List.take_left, List.drop_left, List.nil_append] at hbody
  have hsize : ¬ (payload.length = 0 ∨ maximum < payload.length) :=
    not_or.mpr ⟨fun hzero => hpayload.nonempty (List.length_eq_zero_iff.mp hzero),
      Nat.not_lt.mpr hpayload.length_le⟩
  refine ⟨rest', ?_⟩
  rw [_read_stream_frame, Scheduled.bind_returned hheader, unpack_pack_size hpayload.length_lt,
    if_neg hsize]
  exact hbody

/-- **A stream that begins with no frame is refused.** -/
theorem read_frame_refused {turns : List ReadTurn}
    (hstream : ∀ d rest, Within maximum d → stream ≠ frame d ++ rest)
    (hturns : Ready ReadTurn.kind (stream.length + 1) turns) :
    ∃ e r, _read_stream_frame maximum ⟨stream, turns⟩ = (.raised e, r) := by
  -- the stream ends in the prefix, or its size is out of range, or it ends in the payload;
  -- otherwise it starts with a frame
  by_cases hshort : stream.length < _FRAME_PREFIX_BYTES
  · obtain ⟨rest, hheader⟩ := read_turns_short [] hturns hshort
    exact ⟨_, _, Scheduled.bind_raised hheader⟩
  · rw [Nat.not_lt] at hshort
    have hcount : _FRAME_PREFIX_BYTES + (stream.length - _FRAME_PREFIX_BYTES + 1) =
      stream.length + 1 := by
      omega
    rw [← hcount] at hturns
    obtain ⟨rest, hheader, hrest⟩ := read_turns_ready [] hturns hshort
    rw [_read_stream_frame, Scheduled.bind_returned hheader, List.nil_append]
    by_cases hlimit : unpack_size (stream.take _FRAME_PREFIX_BYTES) = 0 ∨
        maximum < unpack_size (stream.take _FRAME_PREFIX_BYTES)
    · rw [if_pos hlimit]
      exact ⟨_, _, rfl⟩
    · rw [if_neg hlimit]
      by_cases hbody : unpack_size (stream.take _FRAME_PREFIX_BYTES) ≤
        (stream.drop _FRAME_PREFIX_BYTES).length
      · obtain ⟨hwithin, hframe⟩ := frame_of_stream hshort rfl hlimit hbody
        exact absurd hframe (hstream _ _ hwithin)
      · rw [← List.length_drop] at hrest
        obtain ⟨rest', hend⟩ := read_turns_short [] hrest (Nat.not_le.mp hbody)
        exact ⟨_, _, hend⟩

/-- The reader raises nothing but its own error. -/
theorem read_frame_raised {turns : List ReadTurn} {e : Exn} {r : ReadEnd}
    (h : _read_stream_frame maximum ⟨stream, turns⟩ = (.raised e, r)) :
    e.cls = .WorkerModelIPCError := by
  rcases Scheduled.bind_eq_raised.mp h with hheader | ⟨header, r₁, -, hbody⟩
  · exact read_turns_raised hheader
  · split at hbody
    · cases hbody
      rfl
    · exact read_turns_raised hbody

/-- Whatever the turns, the writer has written the head of the frame. -/
theorem write_frame_head (turns : List WriteTurn) :
    (_write_stream_frame payload maximum ⟨[], turns⟩).2.written <+: frame payload := by
  rw [_write_stream_frame]
  split
  · exact List.nil_prefix
  · split
    · exact List.nil_prefix
    · obtain ⟨sent, hwritten, hhead, -⟩ := write_turns_written (frame payload) [] turns 0
      rw [_write_stream_all, hwritten]
      exact hhead

/-- The reader refuses a stream: under no schedule does it return data, what it raises is
its own error, and it does raise it if no turn fails and the turns suffice. -/
def Refused (maximum : ℕ) (stream : Bytes) : Prop :=
  ∀ turns, (∀ d r, _read_stream_frame maximum ⟨stream, turns⟩ ≠ (.returned d, r)) ∧
    (∀ e r, _read_stream_frame maximum ⟨stream, turns⟩ = (.raised e, r) → e.cls =
      .WorkerModelIPCError) ∧
    (Ready ReadTurn.kind (stream.length + 1) turns →
      ∃ e r, _read_stream_frame maximum ⟨stream, turns⟩ = (.raised e, r))

/-- **A stream is refused** if it begins with no frame. -/
theorem refused_of_no_frame (h : ∀ d rest, Within maximum d → stream ≠ frame d ++ rest) :
    Refused maximum stream := by
  refine fun turns => ⟨fun d r hread => ?_, fun e r => read_frame_raised, read_frame_refused h⟩
  obtain ⟨hwithin, hstream⟩ := read_frame_returned hread
  exact h d r.stream hwithin hstream

/-- A frame that is cut short is refused. -/
theorem truncated_refused (hlength : payload.length < 2 ^ 32) (hhead : stream <+: frame payload)
    (hne : stream ≠ frame payload) : Refused maximum stream := by
  refine refused_of_no_frame fun d rest hd hstream => hne ?_
  obtain ⟨missing, hmissing⟩ := hhead
  have heq : frame d ++ (rest ++ missing) = frame payload ++ [] := by
    rw [← List.append_assoc, ← hstream, hmissing, List.append_nil]
  have hnil := (frame_append_inj hd.length_lt hlength heq).2
  rw [List.append_eq_nil_iff] at hnil
  rwa [hnil.2, List.append_nil] at hmissing

/-- A frame whose size is beyond the limit, or nothing, is refused. -/
theorem oversized_refused {size : ℕ} (hsize : size = 0 ∨ maximum < size) (hlt : size < 2 ^ 32) :
    Refused maximum (pack_size size ++ later) := by
  refine refused_of_no_frame fun d rest hd hstream => ?_
  rw [frame, List.append_assoc] at hstream
  have hlength := congrArg unpack_size (List.append_inj hstream rfl).1
  rw [unpack_pack_size hlt, unpack_pack_size hd.length_lt] at hlength
  rcases hsize with hzero | hlarge
  · exact hd.nonempty (List.length_eq_zero_iff.mp (hlength ▸ hzero))
  · exact Nat.not_lt.mpr hd.length_le (hlength ▸ hlarge)

end Frames

end AppContracts.WorkerModelIPC
