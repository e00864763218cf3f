import Ammc.ClientSerial
import Ammc.ShortTransfers

namespace Ammc.Client

open ByteMemory ShortTransfers

/-!
# The loops of `serial_rx` and `serial_tx`

Both functions call `read` and `write` until their `unsigned` counter has
reached a `size_t`.  The results of the calls come in turn: `none` for an error,
else the bytes that have arrived or the number of bytes that the device takes,
of which a call moves what it was asked for and an `ssize_t` can count.
-/

/-- The values of the `unsigned` counters. -/
def unsignedModulus : Nat := 4294967296

/-- The largest `ssize_t`. -/
def ssizeMax : Nat := 9223372036854775807

/-- The most that one call moves. -/
def callMost (request : Nat) : Nat :=
  min request ssizeMax

/-- A `size_t` returned as an `ssize_t`. -/
def ssize (size : Nat) : Int :=
  if size ≤ ssizeMax then size else size - 18446744073709551616

/-- What a loop over `size` bytes returns. -/
def transferred (size : Nat) : LoopEnd → Int
  | .complete => ssize size
  | .failed => -1

/-- `read(dev_fd, dest + bytes_read, size - bytes_read)` -/
def readCall (offset : Nat) : Call Memory (List UInt8) where
  moved request chunk := min (callMost request) chunk.length
  store dest bytesRead request chunk :=
    dest.store (offset + bytesRead) (chunk.take (callMost request))

/-- The same reads, with the bytes of the object that they have set. -/
def areaCall : Call (List UInt8) (List UInt8) where
  moved request chunk := min (callMost request) chunk.length
  store area bytesRead request chunk :=
    area.take bytesRead ++ chunk.take (callMost request) ++
      area.drop (bytesRead + (chunk.take (callMost request)).length)

/-- `write(dev_fd, buf + written, size - written)`, with the bytes written. -/
def writeCall (buf : Memory) : Call (List UInt8) Nat where
  moved request count := min (callMost request) count
  store line written request count :=
    line ++ buf.bytes written (min (callMost request) count)

/--
`serial_rx` through its calls, into the object that `dest` points to, from
`offset` on; `none` while it waits for the next result.
-/
def serialRxCalls
    (fd : Int)
    (tty : Bool)
    (dest : Option Memory)
    (offset size : Nat)
    (results : List (Option (List UInt8))) :
    Option (Int × Option Memory × List (Option (List UInt8))) :=
  match dest with
  | none => some (0, none, results)
  | some dest =>
      if fd > 2 ∧ tty then
        match transfer (readCall offset) unsignedModulus size 0 dest
            results with
        | none => none
        | some (ending, dest, rest) =>
            some (transferred size ending, some dest, rest)
      else
        some (0, some dest, results)

/-- `serial_tx` through its calls, with the bytes that went out. -/
def serialTxCalls
    (fd : Int)
    (tty : Bool)
    (buf : Memory)
    (size : Nat)
    (results : List (Option Nat)) :
    Option (Int × List UInt8 × List (Option Nat)) :=
  if fd > 2 ∧ tty then
    match transfer (writeCall buf) unsignedModulus size 0 [] results with
    | none => none
    | some (ending, line, rest) =>
        some (transferred size ending, line, rest)
  else
    some (-1, [], results)

/-- The bytes of some reads, one read behind the other. -/
def joined (results : List (Option (List UInt8))) : List UInt8 :=
  results.flatMap fun result => result.getD []

@[simp] theorem joined_append
    (first second : List (Option (List UInt8))) :
    joined (first ++ second) = joined first ++ joined second :=
  List.flatMap_append

@[simp] theorem joined_singleton (result : Option (List UInt8)) :
    joined [result] = result.getD [] :=
  List.flatMap_singleton _ _

/--
`serial_rx` comes to its end with -1, or with `size` once the first `size` bytes
that the reads brought are in place and nothing else is changed.
-/
def ReceivesAll
    (fd : Int)
    (dest : Memory)
    (offset size : Nat)
    (results : Nat → Option (List UInt8)) : Prop :=
  ∃ count code after rest,
    serialRxCalls fd true (some dest) offset size
        (firsts results count) =
      some (code, some after, rest) ∧
    (code = -1 ∨
      code = size ∧
        size ≤ (joined (firsts results count)).length ∧
        after =
          dest.store offset ((joined (firsts results count)).take size))

/--
`serial_tx` comes to its end with -1, or with `size` once the bytes of the
buffer went out.
-/
def SendsAll
    (fd : Int)
    (buf : Memory)
    (size : Nat)
    (results : Nat → Option Nat) : Prop :=
  ∃ count code line rest,
    serialTxCalls fd true buf size (firsts results count) =
      some (code, line, rest) ∧
    (code = -1 ∨ code = size ∧ line = buf.bytes 0 size)

/-- A request that the counter can hold is within what a call can move. -/
theorem callMost_of_narrow
    {size request : Nat}
    (narrow : size < unsignedModulus)
    (inside : request ≤ size) :
    callMost request = request := by
  rw [unsignedModulus] at narrow
  rw [callMost, ssizeMax]
  omega

theorem ssize_of_narrow
    {size : Nat}
    (narrow : size < unsignedModulus) :
    ssize size = size := by
  rw [unsignedModulus] at narrow
  have inside : size ≤ ssizeMax := by
    rw [ssizeMax]
    omega
  rw [ssize, if_pos inside]

theorem readCall_movesOffer
    (offset : Nat)
    {size : Nat}
    (narrow : size < unsignedModulus) :
    MovesOffer (readCall offset) size List.length := by
  intro request chunk inside
  change min (callMost request) chunk.length = _
  rw [callMost_of_narrow narrow inside]

theorem writeCall_movesOffer
    (buf : Memory)
    {size : Nat}
    (narrow : size < unsignedModulus) :
    MovesOffer (writeCall buf) size id := by
  intro request count inside
  change min (callMost request) count = _
  rw [callMost_of_narrow narrow inside, id]

theorem areaCall_movesOffer
    {size : Nat}
    (narrow : size < unsignedModulus) :
    MovesOffer areaCall size List.length :=
  readCall_movesOffer 0 narrow

/-- What the reads have set in an object, and how far they have come. -/
structure SetArea
    (dest : Memory)
    (offset bytesRead : Nat)
    (after : Memory)
    (area : List UInt8) : Prop where
  inside : bytesRead ≤ area.length
  stored : after = dest.store offset area

/-- One more read sets its bytes at the place that the counter names. -/
theorem setArea_step
    {dest after : Memory}
    {offset bytesRead request : Nat}
    {area : List UInt8}
    (chunk : List UInt8)
    (set : SetArea dest offset bytesRead after area) :
    SetArea dest offset
      ((bytesRead + (readCall offset).moved request chunk) %
        unsignedModulus)
      ((readCall offset).store after bytesRead request chunk)
      (areaCall.store area bytesRead request chunk) := by
  obtain ⟨inside, stored⟩ := set
  constructor
  · change
      (bytesRead + min (callMost request) chunk.length) %
          unsignedModulus ≤
        (area.take bytesRead ++ chunk.take (callMost request) ++ _).length
    rw [List.length_append, List.length_append,
      List.length_take_of_le inside, List.length_take]
    exact Nat.le_trans (Nat.mod_le _ _) (Nat.le_add_right _ _)
  · rw [stored]
    exact Memory.store_overlay dest offset inside _

/-- The loop over an object sets in it what the loop over an area gathers. -/
theorem transfer_areaCall_of_readCall
    {dest after : Memory}
    {offset size : Nat}
    {results rest : List (Option (List UInt8))}
    {ending : LoopEnd}
    (ended :
      transfer (readCall offset) unsignedModulus size 0 dest results =
        some (ending, after, rest)) :
    ∃ area,
      transfer areaCall unsignedModulus size 0 [] results =
          some (ending, area, rest) ∧
        after = dest.store offset area := by
  have start : SetArea dest offset 0 dest [] :=
    ⟨Nat.zero_le _, (Memory.store_nil dest offset).symm⟩
  obtain ⟨_, area, gathered, set⟩ :=
    transfer_simulation (SetArea dest offset) (fun _ _ => rfl)
      (fun _ _ _ chunk set => setArea_step chunk set) start ended
  exact ⟨area, gathered, set.stored⟩

/-- What the loop over an area gathers is set in an object. -/
theorem transfer_readCall_of_areaCall
    (dest : Memory)
    (offset : Nat)
    {size : Nat}
    {area : List UInt8}
    {results rest : List (Option (List UInt8))}
    {ending : LoopEnd}
    (ended :
      transfer areaCall unsignedModulus size 0 [] results =
        some (ending, area, rest)) :
    transfer (readCall offset) unsignedModulus size 0 dest results =
      some (ending, dest.store offset area, rest) := by
  have start : SetArea dest offset 0 dest [] :=
    ⟨Nat.zero_le _, (Memory.store_nil dest offset).symm⟩
  obtain ⟨_, after, received, set⟩ :=
    transfer_simulation
      (fun done area after => SetArea dest offset done after area)
      (fun _ _ => rfl)
      (fun _ _ _ chunk set => setArea_step chunk set) start ended
  rw [received, set.stored]

/-- The bytes set once the reads in `used` are done. -/
structure ReadSoFar
    (size : Nat)
    (used : List (Option (List UInt8)))
    (bytesRead : Nat)
    (area : List UInt8) : Prop where
  counted : bytesRead = min size (joined used).length
  gathered : area = (joined used).take size

/-- One more read puts its bytes behind the earlier ones. -/
theorem readSoFar_step
    {size bytesRead : Nat}
    {used : List (Option (List UInt8))}
    {area : List UInt8}
    (narrow : size < unsignedModulus)
    (below : bytesRead < size)
    (chunk : List UInt8)
    (soFar : ReadSoFar size used bytesRead area) :
    ReadSoFar size (used ++ [some chunk])
      ((bytesRead + areaCall.moved (size - bytesRead) chunk) %
        unsignedModulus)
      (areaCall.store area bytesRead (size - bytesRead) chunk) := by
  obtain ⟨counted, gathered⟩ := soFar
  have all : bytesRead = (joined used).length := by
    omega
  have whole : (joined used).take size = joined used :=
    List.take_of_length_le (by omega)
  constructor
  · rw [counter_eq narrow (areaCall_movesOffer narrow) below,
      joined_append, joined_singleton, List.length_append, all]
    rfl
  · change area.take bytesRead ++
        chunk.take (callMost (size - bytesRead)) ++ area.drop _ = _
    rw [callMost_of_narrow narrow (Nat.sub_le _ _), gathered, whole, all,
      List.take_length, List.drop_eq_nil_of_le (Nat.le_add_right _ _),
      List.append_nil, joined_append, joined_singleton, List.take_append,
      whole]
    rfl

/-- What `serial_tx` has sent once the writes in `used` are done. -/
structure SentSoFar
    (buf : Memory)
    (size : Nat)
    (used : List (Option Nat))
    (written : Nat)
    (line : List UInt8) : Prop where
  counted : written = min size (total id used)
  sent : line = buf.bytes 0 written

/-- One more write sends what follows in the buffer. -/
theorem sentSoFar_step
    {buf : Memory}
    {size written : Nat}
    {used : List (Option Nat)}
    {line : List UInt8}
    (narrow : size < unsignedModulus)
    (below : written < size)
    (count : Nat)
    (soFar : SentSoFar buf size used written line) :
    SentSoFar buf size (used ++ [some count])
      ((written + (writeCall buf).moved (size - written) count) %
        unsignedModulus)
      ((writeCall buf).store line written (size - written) count) := by
  obtain ⟨counted, sent⟩ := soFar
  rw [counter_eq narrow (writeCall_movesOffer buf narrow) below, id]
  have all : written = total id used := by
    omega
  constructor
  · rw [total_append, ← all]
    rfl
  · change line ++ buf.bytes written
        (min (callMost (size - written)) count) = _
    have reached :
        min size (written + count) =
          written + min (size - written) count := by
      omega
    rw [callMost_of_narrow narrow (Nat.sub_le _ _), sent, reached,
      Memory.bytes_add, Nat.zero_add]

/-- Only a counter that can hold the size lets a loop complete. -/
theorem narrow_of_complete
    {σ ρ : Type}
    {call : Call σ ρ}
    {size : Nat}
    {state after : σ}
    {results rest : List (Option ρ)}
    (ended :
      transfer call unsignedModulus size 0 state results =
        some (.complete, after, rest)) :
    size < unsignedModulus := by
  have positive : 0 < unsignedModulus := by
    decide
  have inside :
      ∀ (_ : List (Option ρ)) (done : Nat) (_ : σ) (result : ρ),
        done < size →
        done < unsignedModulus →
        (done + call.moved (size - done) result) % unsignedModulus <
          unsignedModulus :=
    fun _ _ _ _ _ _ => Nat.mod_lt _ positive
  obtain ⟨_, reached, _, kept, complete⟩ :=
    @transfer_invariant σ ρ call unsignedModulus size 0 state
      (fun _ done _ => done < unsignedModulus) inside results rest
      .complete after positive ended
  exact Nat.lt_of_le_of_lt (complete.mp rfl) kept

/-- What the reads have set, at the end of a loop whose counter is wide enough. -/
theorem readSoFar_of_ended
    {size : Nat}
    {area : List UInt8}
    {results rest : List (Option (List UInt8))}
    {ending : LoopEnd}
    (narrow : size < unsignedModulus)
    (ended :
      transfer areaCall unsignedModulus size 0 [] results =
        some (ending, area, rest)) :
    ∃ moved reached,
      results = moved ++ ending.used ++ rest ∧
        ReadSoFar size moved reached area ∧
        (ending = .complete ↔ size ≤ reached) := by
  have start : ReadSoFar size [] 0 [] :=
    ⟨(Nat.min_zero size).symm, List.take_nil.symm⟩
  exact
    transfer_invariant
      (fun _ _ _ result below soFar =>
        readSoFar_step narrow below result soFar)
      start ended

/-- Completed reads have brought the first bytes of the line. -/
theorem areaCall_complete
    {size : Nat}
    {area : List UInt8}
    {results rest : List (Option (List UInt8))}
    (ended :
      transfer areaCall unsignedModulus size 0 [] results =
        some (.complete, area, rest)) :
    size ≤ (joined results).length ∧
      area = (joined results).take size := by
  obtain ⟨moved, reached, split, soFar, complete⟩ :=
    readSoFar_of_ended (narrow_of_complete ended) ended
  have counted := soFar.counted
  have enough : size ≤ (joined moved).length := by
    have all := complete.mp rfl
    omega
  have whole : results = moved ++ rest := by
    rw [split, LoopEnd.used, List.append_nil]
  rw [whole, joined_append, List.take_append_of_le_length enough,
    List.length_append]
  exact ⟨Nat.le_add_right_of_le enough, soFar.gathered⟩

/-- Failed reads have brought fewer bytes than asked for. -/
theorem areaCall_failed
    {size : Nat}
    {area : List UInt8}
    {results rest : List (Option (List UInt8))}
    (narrow : size < unsignedModulus)
    (ended :
      transfer areaCall unsignedModulus size 0 [] results =
        some (.failed, area, rest)) :
    area.length < size := by
  obtain ⟨moved, reached, _, soFar, complete⟩ :=
    readSoFar_of_ended narrow ended
  have counted := soFar.counted
  have short : ¬ size ≤ reached :=
    fun enough => LoopEnd.noConfusion (complete.mpr enough)
  rw [soFar.gathered, List.length_take]
  omega

/-- A completed `serial_rx` has put the first bytes in their places. -/
theorem readCall_complete
    {dest after : Memory}
    {offset size : Nat}
    {results rest : List (Option (List UInt8))}
    (ended :
      transfer (readCall offset) unsignedModulus size 0 dest results =
        some (.complete, after, rest)) :
    size ≤ (joined results).length ∧
      after = dest.store offset ((joined results).take size) := by
  obtain ⟨area, gathered, stored⟩ :=
    transfer_areaCall_of_readCall ended
  obtain ⟨enough, first⟩ := areaCall_complete gathered
  rw [stored, first]
  exact ⟨enough, rfl⟩

/-- A completed `serial_tx` has sent the buffer. -/
theorem writeCall_complete
    {buf : Memory}
    {size : Nat}
    {line : List UInt8}
    {results rest : List (Option Nat)}
    (ended :
      transfer (writeCall buf) unsignedModulus size 0 [] results =
        some (.complete, line, rest)) :
    line = buf.bytes 0 size := by
  have narrow : size < unsignedModulus :=
    narrow_of_complete ended
  have start : SentSoFar buf size [] 0 [] :=
    ⟨(Nat.min_zero size).symm, rfl⟩
  obtain ⟨moved, reached, split, soFar, complete⟩ :=
    transfer_invariant
      (fun _ _ _ result below soFar =>
        sentSoFar_step narrow below result soFar)
      start ended
  have counted := soFar.counted
  have all : reached = size := by
    have enough := complete.mp rfl
    omega
  rw [soFar.sent, all]

section Valid

variable {fd : Int}

/-- On a valid descriptor `serial_rx` is its loop. -/
theorem serialRxCalls_valid
    (above : 2 < fd)
    (dest : Memory)
    (offset size : Nat)
    (results : List (Option (List UInt8))) :
    serialRxCalls fd true (some dest) offset size results =
      (transfer (readCall offset) unsignedModulus size 0 dest
        results).map fun ended =>
          (transferred size ended.1, some ended.2.1, ended.2.2) := by
  rw [serialRxCalls, if_pos ⟨above, rfl⟩]
  cases transfer (readCall offset) unsignedModulus size 0 dest results <;>
    rfl

/-- On a valid descriptor `serial_tx` is its loop. -/
theorem serialTxCalls_valid
    (above : 2 < fd)
    (buf : Memory)
    (size : Nat)
    (results : List (Option Nat)) :
    serialTxCalls fd true buf size results =
      (transfer (writeCall buf) unsignedModulus size 0 []
        results).map fun ended =>
          (transferred size ended.1, ended.2.1, ended.2.2) := by
  rw [serialTxCalls, if_pos ⟨above, rfl⟩]
  cases transfer (writeCall buf) unsignedModulus size 0 [] results <;>
    rfl

/-- `serial_rx` does what it is meant to do where its reads suffice. -/
theorem receivesAll_iff
    (above : 2 < fd)
    (dest : Memory)
    (offset size : Nat)
    (results : Nat → Option (List UInt8)) :
    ReceivesAll fd dest offset size results ↔
      Suffices unsignedModulus size List.length results := by
  refine
    Iff.trans ?_
      (transfer_ends_iff (of_decide_eq_true rfl)
        (readCall_movesOffer offset) dest results)
  constructor
  · rintro ⟨count, code, after, rest, returned, _⟩
    refine ⟨count, ?_⟩
    rw [serialRxCalls_valid above] at returned
    rw [← Option.isSome_map, returned, Option.isSome_some]
  · rintro ⟨count, ended⟩
    obtain ⟨⟨ending, after, rest⟩, ended⟩ := Option.isSome_iff_exists.mp ended
    refine ⟨count, transferred size ending, after, rest, ?_, ?_⟩
    · rw [serialRxCalls_valid above, ended, Option.map_some]
    · cases ending with
      | failed => exact Or.inl rfl
      | complete =>
          exact
            Or.inr
              ⟨ssize_of_narrow (narrow_of_complete ended),
                readCall_complete ended⟩

/-- `serial_tx` does what it is meant to do where its writes suffice. -/
theorem sendsAll_iff
    (above : 2 < fd)
    (buf : Memory)
    (size : Nat)
    (results : Nat → Option Nat) :
    SendsAll fd buf size results ↔
      Suffices unsignedModulus size id results := by
  refine
    Iff.trans ?_
      (transfer_ends_iff (of_decide_eq_true rfl)
        (writeCall_movesOffer buf) [] results)
  constructor
  · rintro ⟨count, code, line, rest, returned, _⟩
    refine ⟨count, ?_⟩
    rw [serialTxCalls_valid above] at returned
    rw [← Option.isSome_map, returned, Option.isSome_some]
  · rintro ⟨count, ended⟩
    obtain ⟨⟨ending, line, rest⟩, ended⟩ := Option.isSome_iff_exists.mp ended
    refine ⟨count, transferred size ending, line, rest, ?_, ?_⟩
    · rw [serialTxCalls_valid above, ended, Option.map_some]
    · cases ending with
      | failed => exact Or.inl rfl
      | complete =>
          exact
            Or.inr
              ⟨ssize_of_narrow (narrow_of_complete ended),
                writeCall_complete ended⟩

/--
Both functions end, and end as they are meant to, exactly where their calls
fail some time or bring enough to a counter that can hold the size.
-/
theorem serialTransfers_end_iff
    (above : 2 < fd)
    (size : Nat) :
    (∀ dest offset results,
      ReceivesAll fd dest offset size results ↔
        Suffices unsignedModulus size List.length results) ∧
    (∀ buf results,
      SendsAll fd buf size results ↔
        Suffices unsignedModulus size id results) :=
  ⟨fun dest offset => receivesAll_iff above dest offset size,
    fun buf => sendsAll_iff above buf size⟩

end Valid

/-- Four bytes are read one by one and written in two calls. -/
theorem fourBytes_transferred :
    ReceivesAll 3 (fun _ => 0) 0 4 (fun _ => some [7]) ∧
      SendsAll 3 (fun _ => 0) 4 (fun _ => some 3) := by
  have transfers := @serialTransfers_end_iff 3 (by decide) 4
  constructor
  · exact
      (transfers.1 _ 0 _).mpr (Or.inr ⟨by decide, 4, by decide⟩)
  · exact
      (transfers.2 _ _).mpr (Or.inr ⟨by decide, 2, by decide⟩)

/-- Two bytes arrive, then the device hangs up. -/
def hungUp : Nat → Option (List UInt8)
  | 0 => some [1, 2]
  | _ + 1 => some []

theorem total_hungUp (count : Nat) :
    total List.length (firsts hungUp (count + 1)) = 2 := by
  induction count with
  | zero => rfl
  | succ count inductionHypothesis =>
      rw [firsts_succ, total_append, inductionHypothesis]
      rfl

/-- `serial_rx` waits for ever for the other two of four bytes. -/
theorem hungUp_not_received :
    (∀ index, hungUp (index + 1) = some []) ∧
      ¬ ReceivesAll 3 (fun _ => 0) 0 4 hungUp := by
  refine ⟨fun _ => rfl, ?_⟩
  rw [receivesAll_iff (by decide)]
  rintro (⟨index, failed⟩ | ⟨_, count, enough⟩)
  · cases index <;> cases failed
  · cases count with
    | zero => exact absurd enough (by decide)
    | succ count =>
        rw [total_hungUp] at enough
        exact absurd enough (by decide)

end Ammc.Client
