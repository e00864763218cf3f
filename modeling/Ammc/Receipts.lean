import Ammc.MasterReading

namespace Ammc.Master

open ByteMemory Serial Packet

/-!
# Packets that the master accepts

Any bytes may arrive: packets, copies of packets, and noise.  The ids of the
packets that the handler accepts follow each other, so that a copy of a packet is
not accepted again until a refusal or a handshake has set the id back, or the ids
have gone round.
-/

/-- The results of the handler's checks. -/
def verdicts (log : List (Entry signature)) : List ComError :=
  log.filterMap fun entry =>
    match entry.event with
    | .receiving => none
    | .received error => some error

/-- Where the handler began to read, and what it made of what it read there. -/
def receipts (log : List (Entry signature)) : List (Nat × ComError) :=
  ((receivings log).map Prod.fst).zip (verdicts log)

/-- The receipts of some attempts. -/
def receiptsOf : UInt8 → Nat → List Attempt → List (Nat × ComError)
  | _, _, [] => []
  | globalId, read, attempt :: later =>
      (read, attempt.verdict globalId) ::
        receiptsOf (attempt.nextId globalId) (read + attempt.bytes.length)
          later

section Logs

variable {ε : Type}
variable (bus : Bus ε)

theorem receivings_carriedOut
    (state : Handler × Port signature ε)
    (attempts : List Attempt) :
    (receivings (carriedOut bus state attempts).2.log).map Prod.fst =
      (receivings state.2.log).map Prod.fst ++
        (receiptsOf state.1.globalId state.2.read attempts).map
          Prod.fst := by
  induction attempts generalizing state with
  | nil => exact (List.append_nil _).symm
  | cons attempt later inductionHypothesis =>
      have added :
          receivings (attempt.after bus state).2.log =
            receivings state.2.log ++
              [(state.2.read, state.2.written)] := by
        simp [receivings, Attempt.after, List.filterMap_append]
      rw [carriedOut, List.foldl_cons]
      refine (inductionHypothesis (attempt.after bus state)).trans ?_
      rw [added, List.map_append, List.append_assoc]
      rfl

theorem verdicts_carriedOut
    (state : Handler × Port signature ε)
    (attempts : List Attempt) :
    verdicts (carriedOut bus state attempts).2.log =
      verdicts state.2.log ++
        (receiptsOf state.1.globalId state.2.read attempts).map
          Prod.snd := by
  induction attempts generalizing state with
  | nil => exact (List.append_nil _).symm
  | cons attempt later inductionHypothesis =>
      have added :
          verdicts (attempt.after bus state).2.log =
            verdicts state.2.log ++
              [attempt.verdict state.1.globalId] := by
        simp [verdicts, Attempt.after, List.filterMap_append]
      rw [carriedOut, List.foldl_cons]
      refine (inductionHypothesis (attempt.after bus state)).trans ?_
      rw [added, List.append_assoc]
      rfl

/-- A list is what its columns are, whatever follows in the first one. -/
theorem zip_columns
    {α β : Type*}
    (rows : List (α × β))
    (more : List α) :
    (rows.map Prod.fst ++ more).zip (rows.map Prod.snd) = rows := by
  induction rows with
  | nil => exact List.zip_nil_right
  | cons row rows inductionHypothesis =>
      rw [List.map_cons, List.map_cons, List.cons_append,
        List.zip_cons_cons, inductionHypothesis]

theorem Begun.receivings
    {before after : Port signature ε}
    (begun : Begun before after) :
    receivings after.log =
      receivings before.log ++ [(before.read, before.written)] := by
  rw [begun.log]
  simp [Master.receivings, List.filterMap_append]

theorem Begun.verdicts
    {before after : Port signature ε}
    (begun : Begun before after) :
    verdicts after.log = verdicts before.log := by
  rw [begun.log]
  simp [Master.verdicts, List.filterMap_append]

/-- A run inside the packet object has the receipts of its attempts. -/
theorem Reads.receipts_eq
    {globalId : UInt8}
    {bytes left : List UInt8}
    {attempts : List Attempt}
    {ending : Ending}
    (reads : Reads globalId bytes attempts left ending)
    (rx : Memory)
    (env : ε)
    (spare : Nat)
    (inside :
      (handleBytes bus globalId rx env bytes spare).2.RequestsInside
        packetSize) :
    receipts (handleBytes bus globalId rx env bytes spare).2.log =
      receiptsOf globalId 0 attempts := by
  have ended := reads.ended bus rx env spare
  have started :=
    receivings_carriedOut bus
      (⟨globalId, .receiving, rx⟩, Port.start bytes env) attempts
  have judged :=
    verdicts_carriedOut bus
      (⟨globalId, .receiving, rx⟩, Port.start bytes env) attempts
  generalize
    carriedOut bus (⟨globalId, .receiving, rx⟩, Port.start bytes env)
      attempts = last at ended started judged
  generalize handleBytes bus globalId rx env bytes spare = run at *
  rw [receipts]
  cases ended with
  | overrun overruns => exact absurd inside overruns.outside
  | drained =>
      rw [started, judged]
      have whole := zip_columns (receiptsOf globalId 0 attempts) []
      rw [List.append_nil] at whole
      exact whole
  | waiting waits =>
      rw [waits.toBegun.receivings, waits.toBegun.verdicts,
        List.map_append, started, judged]
      exact zip_columns (receiptsOf globalId 0 attempts) _

end Logs

/-! ## The ids of accepted packets -/

/-- After some more accepted packets the id is so much further. -/
theorem toNat_iterate_increment
    (globalId : UInt8)
    (count : Nat) :
    (packetGlobalIdIncrement^[count + 1] globalId).toNat =
      (globalId.toNat + (count + 1)) % 255 := by
  induction count with
  | zero =>
      have small : (globalId.toNat + 1) % 255 < 256 :=
        Nat.lt_of_lt_of_le (Nat.mod_lt _ (by decide)) (by decide)
      rw [Function.iterate_one, packetGlobalIdIncrement,
        UInt8.toNat_ofNat_of_lt' small]
  | succ count inductionHypothesis =>
      have small :
          (globalId.toNat + (count + 1) + 1) % 255 < 256 :=
        Nat.lt_of_lt_of_le (Nat.mod_lt _ (by decide)) (by decide)
      rw [Function.iterate_succ_apply', packetGlobalIdIncrement,
        inductionHypothesis, Nat.mod_add_mod,
        UInt8.toNat_ofNat_of_lt' small, Nat.add_assoc]

/-- An id comes again after all others only. -/
theorem round_of_iterate_increment
    {globalId : UInt8}
    {count : Nat}
    (again : packetGlobalIdIncrement^[count + 1] globalId = globalId) :
    254 ≤ count := by
  have same := toNat_iterate_increment globalId count
  rw [again] at same
  omega

/-- A packet that is accepted, and is no handshake, has the expected id. -/
theorem Attempt.id_of_accepted
    {globalId : UInt8}
    {attempt : Attempt}
    (made : attempt.Made globalId)
    (accepted : attempt.verdict globalId = .success)
    (ordinary : attempt.bytes[1]? ≠ some ComType.hnd.code) :
    attempt.bytes[0]? = some globalId ∧
      attempt.nextId globalId = packetGlobalIdIncrement globalId := by
  cases attempt with
  | refused id type selector size =>
      rw [Attempt.verdict] at accepted
      split at accepted
      · cases accepted
      · cases accepted
  | taken packet =>
      have notHandshake : packet.type ≠ ComType.hnd.code :=
        fun same => ordinary (congrArg some same)
      have success : packet.verdict = .success := accepted
      refine ⟨?_, ?_⟩
      · have sameId : packet.id = globalId :=
          made.resolve_right fun handshake => notHandshake handshake.1
        exact congrArg some sameId
      · rw [Attempt.nextId, Datagram.nextId, if_pos success,
          Datagram.ackId, if_neg notHandshake]

/-- The beginning of an attempt in the stream. -/
theorem getElem?_of_drop
    {stream bytes tail : List UInt8}
    {read : Nat}
    (here : stream.drop read = bytes ++ tail)
    {index : Nat}
    (inside : index < bytes.length) :
    stream[read + index]? = bytes[index]? := by
  rw [← List.getElem?_drop, here, List.getElem?_append_left inside]

/-- What stands behind an attempt in the stream. -/
theorem drop_of_drop
    {stream bytes tail : List UInt8}
    {read : Nat}
    (here : stream.drop read = bytes ++ tail) :
    stream.drop (read + bytes.length) = tail := by
  rw [← List.drop_drop, here, List.drop_left]

/-- The receipts behind some others are those of the later attempts. -/
theorem Reads.behind
    {globalId : UInt8}
    {bytes left stream : List UInt8}
    {attempts : List Attempt}
    {ending : Ending}
    (reads : Reads globalId bytes attempts left ending)
    {read : Nat}
    (here : stream.drop read = bytes)
    {before rest : List (Nat × ComError)}
    (split : receiptsOf globalId read attempts = before ++ rest) :
    ∃ laterId later laterBytes laterRead,
      Reads laterId laterBytes later left ending ∧
        stream.drop laterRead = laterBytes ∧
        receiptsOf laterId laterRead later = rest := by
  induction before generalizing globalId bytes attempts read with
  | nil => exact ⟨globalId, attempts, bytes, read, reads, here, split⟩
  | cons receipt before inductionHypothesis =>
      cases reads with
      | stop stop => cases split
      | attempt made others =>
          exact
            inductionHypothesis others (drop_of_drop here)
              (List.cons.inj split).2

/-- A receipt of an ordinary packet, one that is accepted and no handshake. -/
def Ordinary
    (stream : List UInt8)
    (receipt : Nat × ComError) : Prop :=
  receipt.2 = .success ∧
    stream[receipt.1 + 1]? ≠ some ComType.hnd.code

/-- The first of some attempts is ordinary if its receipt is. -/
theorem first_of_ordinary
    {globalId : UInt8}
    {attempt : Attempt}
    {stream tail : List UInt8}
    {read : Nat}
    (made : attempt.Made globalId)
    (here : stream.drop read = attempt.bytes ++ tail)
    (ordinary : Ordinary stream (read, attempt.verdict globalId)) :
    stream[read]? = some globalId ∧
      attempt.nextId globalId = packetGlobalIdIncrement globalId := by
  obtain ⟨accepted, notHandshake⟩ := ordinary
  have long := attempt.four_le_length
  have type :=
    getElem?_of_drop here (Nat.lt_of_lt_of_le (by decide : 1 < 4) long)
  have id :=
    getElem?_of_drop here (Nat.lt_of_lt_of_le (by decide : 0 < 4) long)
  rw [type] at notHandshake
  obtain ⟨sameId, next⟩ :=
    Attempt.id_of_accepted made accepted notHandshake
  exact ⟨id.trans sameId, next⟩

/-- Behind ordinary packets, an ordinary packet has the id that follows. -/
theorem Reads.id_after_ordinary
    {globalId : UInt8}
    {bytes left stream : List UInt8}
    {attempts : List Attempt}
    {ending : Ending}
    (reads : Reads globalId bytes attempts left ending)
    {read : Nat}
    (here : stream.drop read = bytes)
    {between after : List (Nat × ComError)}
    {last : Nat × ComError}
    (split :
      receiptsOf globalId read attempts = between ++ last :: after)
    (ordinary : ∀ receipt ∈ between, Ordinary stream receipt)
    (lastOrdinary : Ordinary stream last) :
    stream[last.1]? =
      some (packetGlobalIdIncrement^[between.length] globalId) := by
  induction between generalizing globalId bytes attempts read with
  | nil =>
      cases reads with
      | stop stop => cases split
      | attempt made others =>
          have same := (List.cons.inj split).1
          subst same
          exact (first_of_ordinary made here lastOrdinary).1
  | cons receipt between inductionHypothesis =>
      cases reads with
      | stop stop => cases split
      | attempt made others =>
          have same := (List.cons.inj split).1
          subst same
          obtain ⟨firstOrdinary, laterOrdinary⟩ :=
            List.forall_mem_cons.mp ordinary
          have next := (first_of_ordinary made here firstOrdinary).2
          have reached :=
            inductionHypothesis others (drop_of_drop here)
              (List.cons.inj split).2 laterOrdinary
          rw [next] at reached
          exact reached

section Copies

variable {ε : Type}
variable (bus : Bus ε)

/--
Among any bytes, no packet is accepted once more before a refusal or a handshake,
or 254 other packets, have come between: not even an ordinary packet with the
same id.
-/
theorem never_repeated
    {globalId : UInt8}
    {rx : Memory}
    {env : ε}
    {bytes : List UInt8}
    {spare : Nat}
    (inside :
      (handleBytes bus globalId rx env bytes spare).2.RequestsInside
        packetSize)
    {before between after : List (Nat × ComError)}
    {first second : Nat × ComError}
    (split :
      receipts (handleBytes bus globalId rx env bytes spare).2.log =
        before ++ first :: (between ++ second :: after))
    (firstOrdinary : Ordinary bytes first)
    (secondOrdinary : Ordinary bytes second)
    (sameId : bytes[first.1]? = bytes[second.1]?) :
    (∃ receipt ∈ between, ¬ Ordinary bytes receipt) ∨
      254 ≤ between.length := by
  by_cases ordinary : ∀ receipt ∈ between, Ordinary bytes receipt
  · obtain ⟨attempts, left, ending, reads⟩ := exists_reads globalId bytes
    rw [reads.receipts_eq bus rx env spare inside] at split
    obtain ⟨id, later, laterBytes, read, others, here, rest⟩ :=
      @Reads.behind globalId bytes left bytes attempts ending reads 0 rfl
        before _ split
    cases others with
    | stop stop => cases rest
    | attempt made others =>
        have same := (List.cons.inj rest).1
        subst same
        obtain ⟨firstId, next⟩ :=
          first_of_ordinary made here firstOrdinary
        have secondId :=
          others.id_after_ordinary (drop_of_drop here)
            (List.cons.inj rest).2 ordinary secondOrdinary
        rw [next] at secondId
        have again := firstId.symm.trans (sameId.trans secondId)
        exact
          Or.inr (round_of_iterate_increment (Option.some.inj again).symm)
  · push Not at ordinary
    exact Or.inl ordinary

end Copies

/-- A command, noise, and the same command again. -/
def copiedStream : List UInt8 :=
  packetImage 0 ComType.apply.code 0 [] ++ [9, 9, 9, 9] ++
    packetImage 0 ComType.apply.code 0 []

theorem copiedStream_run :
    (handleBytes idleBus 0 (fun _ => 0) () copiedStream 0).2.requests =
        [(0, 4), (4, 1), (0, 4), (0, 4), (4, 1)] ∧
      receipts
          (handleBytes idleBus 0 (fun _ => 0) () copiedStream 0).2.log =
        [(0, .success), (5, .idMismatch), (9, .success)] := by
  decide +kernel

/-- Noise has come between the two. -/
theorem copiedStream_repeated :
    (∃ receipt ∈ [((5 : Nat), ComError.idMismatch)],
        ¬ Ordinary copiedStream receipt) ∨
      254 ≤ [((5 : Nat), ComError.idMismatch)].length := by
  obtain ⟨requests, split⟩ := copiedStream_run
  have inside :
      (handleBytes idleBus 0 (fun _ => 0) () copiedStream
          0).2.RequestsInside packetSize := by
    rw [Port.RequestsInside, requests]
    decide
  exact
    @never_repeated Unit idleBus 0 (fun _ => 0) () copiedStream 0 inside []
      [(5, .idMismatch)] [] (0, .success) (9, .success) split
      ⟨rfl, by decide⟩ ⟨rfl, by decide⟩ rfl

end Ammc.Master
